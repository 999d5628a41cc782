import CodeIndex.Json
import Mathlib.Data.List.Forall2
import Mathlib.Data.Nat.Digits.Defs
import Mathlib.Tactic.SplitIfs
/-!
# Texts of JSON values

What a text has to look like to write a value, as the grammar of JSON has it: blanks may stand
around a value, a name or a mark, a character of a string may be written in several ways, and
members and elements stand in the order of the value. The indented form is such a text of its value.
-/
namespace CodeIndex.Json

def White (text : List Char) : Prop :=
  ∀ c ∈ text, c = ' ' ∨ c = '\t' ∨ c = '\n' ∨ c = '\r'

/-- The decimal digits of a number, with no zero in front that could be left out. -/
structure Numeral (n : Nat) (digits : List Char) : Prop where
  some : digits ≠ []
  each : ∀ c ∈ digits, c.isDigit
  value : Nat.ofDigitChars 10 digits 0 = n
  leading : digits.head? = .some '0' → digits = ['0']

/-- The characters that have a letter of their own behind a backslash. -/
def shortForms : List (Char × Char) :=
  [('"', '"'), ('\\', '\\'), ('/', '/'), ('\x08', 'b'), ('\x0c', 'f'), ('\n', 'n'), ('\r', 'r'),
    ('\t', 't')]

/-- One character between the quotes of a string. -/
inductive Quotes : Char → List Char → Prop
  | plain {c : Char} : c ≠ '"' → c ≠ '\\' → 0x20 ≤ c.toNat → Quotes c [c]
  | short {c letter : Char} : (c, letter) ∈ shortForms → Quotes c ['\\', letter]
  | code {c : Char} {digits : List Nat} : digits.length = 4 → (∀ d ∈ digits, d < 16) →
      Nat.ofDigits 16 digits.reverse = c.toNat →
      Quotes c ('\\' :: 'u' :: digits.map Nat.digitChar)

def WritesString (s : String) (text : List Char) : Prop :=
  ∃ parts, List.Forall₂ Quotes s.toList parts ∧ text = '"' :: parts.flatten ++ ['"']

mutual

inductive Writes : Json → List Char → Prop
  | null : Writes .null "null".toList
  | true : Writes (.bool .true) "true".toList
  | false : Writes (.bool .false) "false".toList
  | number {n : Nat} {digits : List Char} : Numeral n digits → Writes (.number n) digits
  | negative {n : Nat} {digits : List Char} : n ≠ 0 → Numeral n digits →
      Writes (.number (-n)) ('-' :: digits)
  | string {s : String} {text : List Char} : WritesString s text → Writes (.string s) text
  | array {elements : List Json} {parts : List (List Char)} {blank : List Char} :
      List.Forall₂ Writes elements parts → White blank →
      Writes (.array elements) ('[' :: [','].intercalate parts ++ blank ++ [']'])
  | object {members : List (String × Json)} {parts : List (List Char)} {blank : List Char} :
      List.Forall₂ WritesMember members parts → White blank →
      Writes (.object members) ('\x7b' :: [','].intercalate parts ++ blank ++ ['\x7d'])
  | blank {value : Json} {before text after : List Char} :
      White before → Writes value text → White after → Writes value (before ++ text ++ after)

/-- A name, a colon and a value. -/
inductive WritesMember : String × Json → List Char → Prop
  | mk {key : String} {value : Json} {before name after text : List Char} :
      White before → WritesString key name → White after → Writes value text →
      WritesMember (key, value) (before ++ name ++ after ++ ':' :: text)

end

section Leaves

theorem white_newLine (depth : Nat) : White (newLine depth).toList := by
  intro c among
  simp only [newLine, String.toList_append, String.toList_ofList, List.mem_append,
    List.mem_replicate] at among
  rcases among with here | ⟨-, rfl⟩
  · exact .inr (.inr (.inl (List.mem_singleton.mp here)))
  · exact .inl rfl

theorem white_nil : White [] := nofun

/-- A numeral begins with a zero for zero only. -/
theorem head?_toDigits (n : Nat) (leading : (Nat.toDigits 10 n).head? = some '0') : n = 0 := by
  induction n using Nat.strongRecOn with
  | ind n ih =>
    rcases Nat.lt_or_ge n 10 with small | large
    · have least : ∀ n < 10, some (Nat.digitChar n) = some '0' → n = 0 := by decide
      rw [Nat.toDigits_of_lt_base small] at leading
      exact least n small leading
    · rw [Nat.toDigits_of_base_le (by decide) large, List.head?_append,
        List.head?_eq_some_head Nat.toDigits_ne_nil] at leading
      have none := ih (n / 10) (by omega)
        (by rw [List.head?_eq_some_head Nat.toDigits_ne_nil]; exact leading)
      omega

theorem numeral_toString (n : Nat) : Numeral n (toString n).toList := by
  rw [Nat.toString_eq_ofList_toDigits, String.toList_ofList]
  refine ⟨Nat.toDigits_ne_nil, fun c => Nat.isDigit_of_mem_toDigits (by decide) (by decide),
    Nat.ofDigitChars_ten_toDigits, fun leading => ?_⟩
  rw [head?_toDigits n leading, Nat.toDigits_zero]

theorem writes_number (n : Int) : Writes (.number n) (toString n).toList := by
  rw [Int.toString_eq_repr, Int.repr_eq_if]
  split_ifs with sign
  · obtain ⟨n, rfl⟩ := Int.eq_ofNat_of_zero_le sign
    exact .number (numeral_toString n)
  · obtain ⟨n, rfl⟩ : ∃ k : Nat, n = -k := ⟨(-n).toNat, by omega⟩
    have signed : ("-" ++ (- -(n : Int)).toNat.repr).toList = '-' :: (toString n).toList := by
      rw [Int.neg_neg, Int.toNat_natCast, String.toList_append]
      rfl
    rw [signed]
    exact .negative (by omega) (numeral_toString n)

/-- A control character without a letter is written by its code. -/
theorem quotes_code {c : Char} (control : c.toNat < 0x20) :
    Quotes c ("\\u00" ++ String.ofList [hexDigitAt c.toNat 1, hexDigitAt c.toNat 0]).toList := by
  have digits : ("\\u00" ++ String.ofList [hexDigitAt c.toNat 1, hexDigitAt c.toNat 0]).toList =
      '\\' :: 'u' :: [0, 0, (c.toNat >>> 4) % 16, c.toNat % 16].map Nat.digitChar := by
    simp [hexDigitAt]
  rw [digits]
  refine .code rfl ?_ ?_
  · simp only [List.forall_mem_cons, List.not_mem_nil, false_imp_iff, implies_true, and_true]
    omega
  · simp only [List.reverse_cons, List.reverse_nil, List.nil_append, List.cons_append,
      Nat.ofDigits_cons, Nat.ofDigits_nil, Nat.shiftRight_eq_div_pow]
    omega

theorem quotes_escapeChar (c : Char) : Quotes c (escapeChar c).toList := by
  unfold escapeChar
  split_ifs with quote backslash lineFeed carriageReturn tab backspace formFeed control
  · exact quote ▸ .short (by decide)
  · exact backslash ▸ .short (by decide)
  · exact lineFeed ▸ .short (by decide)
  · exact carriageReturn ▸ .short (by decide)
  · exact tab ▸ .short (by decide)
  · exact backspace ▸ .short (by decide)
  · exact formFeed ▸ .short (by decide)
  · exact quotes_code control
  · rw [Char.toString, String.toList_singleton]
    exact .plain quote backslash (Nat.le_of_not_lt control)

theorem writesString_renderString (s : String) : WritesString s (renderString s).toList := by
  refine ⟨s.toList.map fun c => (escapeChar c).toList, ?_, ?_⟩
  · exact List.forall₂_map_right_iff.mpr (List.forall₂_same.mpr fun c _ => quotes_escapeChar c)
  · rw [renderString, String.toList_append, String.toList_append, String.toList_join,
      List.flatMap_map]
    rfl

end Leaves

section Trees

/-- An indent behind every comma is one in front of every part but the first. -/
theorem append_intercalate (indent part : List Char) (rest : List (List Char)) :
    indent ++ (',' :: indent).intercalate (part :: rest) =
      [','].intercalate ((part :: rest).map (indent ++ ·)) := by
  induction rest generalizing part with
  | nil => simp
  | cons next rest ih =>
    rw [List.intercalate_cons_cons, List.map_cons, List.map_cons, List.intercalate_cons_cons,
      ← List.map_cons, ← ih]
    simp only [List.append_assoc, List.cons_append, List.nil_append]

/-- Parts between brackets: commas between them, blanks before each and behind the last. -/
theorem toList_renderLines (opening closing : String) (depth : Nat) (parts : List String) :
    ∃ blank, White blank ∧ (renderLines opening closing depth parts).toList =
      opening.toList ++ [','].intercalate (parts.map fun part =>
        (newLine (depth + 1)).toList ++ part.toList) ++ blank ++ closing.toList := by
  cases parts with
  | nil => exact ⟨[], white_nil, by simp [renderLines]⟩
  | cons part rest =>
    have spread := append_intercalate (newLine (depth + 1)).toList part.toList
      (rest.map String.toList)
    rw [← List.map_cons, List.map_map, Function.comp_def] at spread
    refine ⟨(newLine depth).toList, white_newLine depth, ?_⟩
    rw [← spread]
    simp [renderLines, String.toList_intercalate]

theorem Writes.after {value : Json} {text : List Char} (written : Writes value text) (depth : Nat) :
    Writes value ((newLine depth).toList ++ text) := by
  have padded := Writes.blank (white_newLine depth) written white_nil
  rwa [List.append_nil] at padded

mutual

/-- The indented form writes the value. -/
theorem writes_render (depth : Nat) : (value : Json) → Writes value (render depth value).toList
  | .null => .null
  | .bool .true => .true
  | .bool .false => .false
  | .number n => writes_number n
  | .string text => .string (writesString_renderString text)
  | .array elements => by
    obtain ⟨blank, white, lines⟩ := toList_renderLines "[" "]" depth
      (renderElements (depth + 1) elements)
    rw [render, lines]
    exact .array (writes_renderElements (depth + 1) elements) white
  | .object members => by
    obtain ⟨blank, white, lines⟩ := toList_renderLines "\x7b" "\x7d" depth
      (renderMembers (depth + 1) members)
    rw [render, lines]
    exact .object (writes_renderMembers (depth + 1) members) white

theorem writes_renderElements (depth : Nat) : (elements : List Json) →
    List.Forall₂ Writes elements ((renderElements depth elements).map fun part =>
      (newLine depth).toList ++ part.toList)
  | [] => .nil
  | e :: rest => .cons ((writes_render depth e).after depth) (writes_renderElements depth rest)

theorem writes_renderMembers (depth : Nat) : (members : List (String × Json)) →
    List.Forall₂ WritesMember members ((renderMembers depth members).map fun part =>
      (newLine depth).toList ++ part.toList)
  | [] => .nil
  | (key, value) :: rest => by
    refine .cons ?_ (writes_renderMembers depth rest)
    have space : White [' '] := by simp [White]
    have written := WritesMember.mk (white_newLine depth) (writesString_renderString key) white_nil
      (.blank space (writes_render depth value) white_nil)
    simpa using written

end

theorem writes_pretty (value : Json) : Writes value value.pretty.toList := writes_render 0 value

end Trees

end CodeIndex.Json
