import CodeIndex.Proofs.OutputNames
import CodeIndex.Proofs.WellFormedText
import Mathlib.Data.Nat.Digits.Lemmas
/-!
# What derived names tell

A name that is derived from a path tells the last segment of the path and the hash of all of it. The
hash is a number in base 36, written by turns that each give the lowest digit left. No digit is a
dash, so the last dash of a name parts the two, and names are equal just when both are. A number has
one numeral without leading zeros, so a name says neither more nor less.
-/
namespace CodeIndex.DerivedName

open Utf8

section Hash

/-- The FNV-1a hash of 64 bits, in natural numbers. -/
def fnv1a (octets : Bytes) : Nat :=
  octets.foldl (fun h b => (h ^^^ b.toNat) * 1099511628211 % 2 ^ 64) 14695981039346656037

/-- Multiplication of words wraps around where the remainder is taken. -/
theorem toNat_hash (octets : Bytes) : (hash octets).toNat = fnv1a octets := by
  have start : hashStart.toNat = 14695981039346656037 := by decide
  have factor : hashPrime.toNat = 1099511628211 := by decide
  rw [hash, fnv1a, ← start]
  generalize hashStart = h
  induction octets generalizing h with
  | nil => rfl
  | cons b rest ih =>
    rw [List.foldl_cons, List.foldl_cons, ih, UInt64.toNat_mul, UInt64.toNat_xor,
      UInt8.toNat_toUInt64, factor]

example : fnv1a [0x61] = 0xAF63DC4C8601EC8C := by decide

end Hash

section Segments

/-- What stands behind the last slash, or all of a path without one. -/
structure BehindLastSlash (path segment : Bytes) : Prop where
  noSlash : 0x2F ∉ segment
  ends : path = segment ∨ ∃ front, path = front ++ 0x2F :: segment

theorem behindLastSlash_lastSegment (path : Bytes) : BehindLastSlash path (lastSegment path) where
  noSlash among := by
    have other := List.mem_takeWhile_imp (List.mem_reverse.mp among)
    simp at other
  ends := by
    have whole := List.takeWhile_append_dropWhile (p := (· != 0x2F)) (l := path.reverse)
    have parts : path = (path.reverse.dropWhile (· != 0x2F)).reverse ++ lastSegment path := by
      rw [lastSegment, ← List.reverse_append, whole, List.reverse_reverse]
    cases behind : path.reverse.dropWhile (· != 0x2F) with
    | nil =>
      rw [behind] at parts
      exact .inl parts
    | cons b front =>
      have slash := List.head_dropWhile_not (· != 0x2F) (l := path.reverse) (by simp [behind])
      simp only [behind, List.head_cons, bne_eq_false_iff_eq] at slash
      rw [behind, slash, List.reverse_cons, List.append_assoc] at parts
      exact .inr ⟨front.reverse, parts⟩

theorem eq_lastSegment_iff {path segment : Bytes} :
    segment = lastSegment path ↔ BehindLastSlash path segment := by
  constructor
  · rintro rfl
    exact behindLastSlash_lastSegment path
  · rintro ⟨noSlash, rfl | ⟨front, rfl⟩⟩
    · exact (@lastSegment_append [] _ noSlash).symm
    · rw [List.append_cons, lastSegment_append noSlash, lastSegment_slash, List.nil_append]

end Segments

section Numerals

def alphabet : Bytes := encode "0123456789ABCDEFGHIJKLMNOPQRSTUVWXYZ"

def digitValue (b : UInt8) : Option Nat := alphabet.idxOf? b

theorem digitValue_digit : ∀ n < 36, digitValue (digit n) = some n := by decide

theorem alphabet_eq : alphabet = (List.range 36).map digit := by decide

theorem eq_digit_of_value {b : UInt8} {n : Nat} (value : digitValue b = some n) :
    n < 36 ∧ b = digit n := by
  obtain ⟨within, same, -⟩ := List.idxOf?_eq_some_iff.mp value
  have length : alphabet.length = 36 := by decide
  refine ⟨length ▸ within, ?_⟩
  rw [← same]
  simp [alphabet_eq]

/-- Octets that write a number in base 36, the highest digit first. -/
structure Numeral (n : Nat) (octets : Bytes) : Prop where
  notEmpty : octets ≠ []
  /-- Only the number zero begins with a zero. -/
  noLeadingZero : octets.head? = some 0x30 → octets = [0x30]
  value : ∃ values : List Nat, octets.map digitValue = values.map some ∧
    Nat.ofDigits 36 values.reverse = n

/-- The digits of a number are those the library gives; zero has one as well. -/
theorem digitsUp_eq {n : Nat} (pos : 0 < n) : digitsUp n = (Nat.digits 36 n).map digit := by
  induction n using digitsUp.induct with
  | case1 n small =>
    rw [digitsUp, if_pos small, Nat.digits_of_lt 36 n (by omega) small]
    rfl
  | case2 n large ih =>
    rw [digitsUp, if_neg large, ih (by omega), Nat.digits_def' (by decide) pos, List.map_cons]

theorem digits_zero : digits 0 = [0x30] := by
  rw [digits, digitsUp, if_pos (by decide)]
  rfl

theorem digits_eq {n : Nat} (pos : 0 < n) : digits n = (Nat.digits 36 n).reverse.map digit := by
  rw [digits, digitsUp_eq pos, List.map_reverse]

/-- Octets have the values they have been made digits of. -/
theorem map_digitValue {values : List Nat} (small : ∀ v ∈ values, v < 36) :
    (values.map digit).map digitValue = values.map some := by
  rw [List.map_map]
  exact List.map_congr_left fun v among => digitValue_digit v (small v among)

/-- Octets with values are the digits of these. -/
theorem eq_map_digit {octets : Bytes} {values : List Nat}
    (valued : octets.map digitValue = values.map some) :
    octets = values.map digit ∧ ∀ v ∈ values, v < 36 := by
  induction octets generalizing values with
  | nil =>
    obtain rfl : values = [] := by simpa using valued.symm
    simp
  | cons b rest ih =>
    cases values with
    | nil => simp at valued
    | cons v values =>
      rw [List.map_cons, List.map_cons, List.cons.injEq] at valued
      obtain ⟨small, rfl⟩ := eq_digit_of_value valued.1
      obtain ⟨rfl, others⟩ := ih valued.2
      exact ⟨rfl, List.forall_mem_cons.mpr ⟨small, others⟩⟩

theorem eq_zero_of_digit : ∀ n < 36, digit n = 0x30 → n = 0 := by decide

theorem numeral_digits (n : Nat) : Numeral n (digits n) := by
  rcases Nat.eq_zero_or_pos n with rfl | pos
  · rw [digits_zero]
    exact ⟨by simp, fun _ => rfl, [0], by decide, rfl⟩
  · have nonzero : Nat.digits 36 n ≠ [] := Nat.digits_ne_nil_iff_ne_zero.mpr pos.ne'
    have small : ∀ v ∈ Nat.digits 36 n, v < 36 := fun v => Nat.digits_lt_base (by decide)
    rw [digits_eq pos]
    refine ⟨by simpa using nonzero, fun zero => ?_, (Nat.digits 36 n).reverse, ?_, ?_⟩
    · -- the highest digit of a number that is not zero is not zero
      rw [List.head?_map, List.head?_reverse, List.getLast?_eq_some_getLast nonzero,
        Option.map_some, Option.some.injEq] at zero
      exact absurd (eq_zero_of_digit _ (small _ (List.getLast_mem nonzero)) zero)
        (Nat.getLast_digit_ne_zero 36 pos.ne')
    · exact map_digitValue fun v among => small v (List.mem_reverse.mp among)
    · rw [List.reverse_reverse, Nat.ofDigits_digits]

/-- A number has one numeral. -/
theorem Numeral.eq_digits {n : Nat} {octets : Bytes} (h : Numeral n octets) :
    octets = digits n := by
  obtain ⟨values, valued, rfl⟩ := h.value
  obtain ⟨rfl, small⟩ := eq_map_digit valued
  by_cases zero : (values.map digit).head? = some 0x30
  · rw [h.noLeadingZero zero] at valued ⊢
    have single : values = [0] := by
      have counted : digitValue 0x30 = some 0 := by decide
      rw [List.map_singleton, counted] at valued
      exact List.map_injective_iff.mpr (Option.some_injective Nat) valued.symm
    rw [single]
    exact digits_zero.symm
  · have proper : ∀ some : values.reverse ≠ [], values.reverse.getLast some ≠ 0 := by
      intro some last
      apply zero
      rw [List.head?_map, ← List.getLast?_reverse, List.getLast?_eq_some_getLast some, last]
      rfl
    have back := Nat.digits_ofDigits 36 (by decide) values.reverse
      (fun v among => small v (List.mem_reverse.mp among)) proper
    have pos : 0 < Nat.ofDigits 36 values.reverse := by
      apply Nat.pos_of_ne_zero
      intro none
      rw [none, Nat.digits_zero] at back
      exact h.notEmpty (by simpa using back.symm)
    rw [digits_eq pos, back, List.reverse_reverse]

/-- Different numbers have different digits. -/
theorem digits_inj {n m : Nat} : digits n = digits m ↔ n = m := by
  constructor
  · intro same
    obtain ⟨values, valued, counted⟩ := (numeral_digits n).value
    obtain ⟨values', valued', counted'⟩ := (numeral_digits m).value
    rw [same, valued'] at valued
    rw [← counted, ← counted', List.map_injective_iff.mpr (Option.some_injective Nat) valued]
  · rintro rfl
    rfl

/-- A number of 64 bits has at most thirteen digits. -/
theorem length_digits_le {n : Nat} (word : n < 2 ^ 64) : (digits n).length ≤ 13 := by
  rcases Nat.eq_zero_or_pos n with rfl | pos
  · rw [digits_zero]
    decide
  · rw [digits_eq pos, List.length_map, List.length_reverse, Nat.digits_length_le_iff (by decide)]
    exact word.trans (by decide)

end Numerals

section Turns

/-- The turns that write a word: each gives the lowest digit and goes on with the quotient, until
this is zero. -/
inductive Turns : UInt64 → Bytes → Prop where
  | last {word : UInt64} : word / 36 = 0 → Turns word [digit (word % 36).toNat]
  | goesOn {word : UInt64} {up : Bytes} :
    word / 36 ≠ 0 → Turns (word / 36) up → Turns word (digit (word % 36).toNat :: up)

theorem toNat_lowest (word : UInt64) : (word % 36).toNat = word.toNat % 36 :=
  UInt64.toNat_mod word 36

theorem toNat_quotient (word : UInt64) : (word / 36).toNat = word.toNat / 36 :=
  UInt64.toNat_div word 36

theorem quotient_eq_zero_iff {word : UInt64} : word / 36 = 0 ↔ word.toNat < 36 := by
  rw [← UInt64.toNat_inj, toNat_quotient]
  exact Nat.div_eq_zero_iff_lt (by decide)

/-- One turn of writing a word. -/
theorem digitsUp_turn (word : UInt64) : digitsUp word.toNat = digit (word % 36).toNat ::
    if word / 36 = 0 then [] else digitsUp (word / 36).toNat := by
  rw [digitsUp, toNat_lowest, toNat_quotient]
  split
  · rename_i small
    rw [if_pos (quotient_eq_zero_iff.mpr small), Nat.mod_eq_of_lt small]
  · rename_i large
    rw [if_neg (mt quotient_eq_zero_iff.mp large)]

/-- The turns come to an end. -/
theorem turns_digitsUp (word : UInt64) : Turns word (digitsUp word.toNat) := by
  generalize value : word.toNat = n
  induction n using Nat.strong_induction_on generalizing word with
  | _ n ih =>
    rw [← value, digitsUp_turn]
    split
    · rename_i ends
      exact .last ends
    · rename_i more
      have less : (word / 36).toNat < n := by
        have large := mt quotient_eq_zero_iff.mpr more
        have quotient := toNat_quotient word
        omega
      exact .goesOn more (ih _ less (word / 36) rfl)

/-- What they give, turned around, are the digits of the word. -/
theorem turns_iff {word : UInt64} {up : Bytes} :
    Turns word up ↔ up.reverse = digits word.toNat := by
  rw [digits, List.reverse_inj]
  constructor
  · intro turns
    induction turns with
    | last ends => rw [digitsUp_turn, if_pos ends]
    | goesOn more _ ih => rw [digitsUp_turn, if_neg more, ih]
  · rintro rfl
    exact turns_digitsUp word

end Turns

section Names

/-- A name that tells what stands behind the last slash of a path, and the hash of the path. -/
structure Tells (path name segment numeral : Bytes) : Prop where
  spelled : name = segment ++ 0x2D :: numeral
  segment : BehindLastSlash path segment
  hashed : Numeral (fnv1a path) numeral
  short : numeral.length ≤ 13

theorem eq_ofPath_iff {path name : Bytes} :
    name = ofPath path ↔ ∃ segment numeral, Tells path name segment numeral := by
  rw [ofPath, toNat_hash]
  constructor
  · rintro rfl
    have word : fnv1a path < 2 ^ 64 := toNat_hash path ▸ UInt64.toNat_lt (hash path)
    exact ⟨lastSegment path, digits (fnv1a path), rfl, behindLastSlash_lastSegment path,
      numeral_digits _, length_digits_le word⟩
  · rintro ⟨segment, numeral, tells⟩
    rw [tells.spelled, eq_lastSegment_iff.mpr tells.segment, tells.hashed.eq_digits]

theorem ofPath_of_turns {path up : Bytes} (turns : Turns (hash path) up) :
    ofPath path = lastSegment path ++ 0x2D :: up.reverse := by
  rw [ofPath, turns_iff.mp turns]

theorem dash_notMem_digits (n : Nat) : 0x2D ∉ digits n := by
  intro dash
  obtain ⟨values, valued, -⟩ := (numeral_digits n).value
  have counted : digitValue 0x2D ∈ values.map some := valued ▸ List.mem_map_of_mem dash
  have none : digitValue 0x2D = none := by decide
  rw [none] at counted
  simp at counted

/-- The last dash of a name parts what it tells. -/
theorem dash_parts {a b x y : Bytes} (hx : 0x2D ∉ x) (hy : 0x2D ∉ y)
    (same : a ++ 0x2D :: x = b ++ 0x2D :: y) : a = b ∧ x = y := by
  have none {between : Bytes} {z w : Bytes} (hz : 0x2D ∉ z)
      (same : 0x2D :: z = between ++ 0x2D :: w) : between = [] := by
    cases between with
    | nil => rfl
    | cons c between =>
      obtain ⟨-, rfl⟩ := List.cons.inj same
      exact absurd (List.mem_append_right between List.mem_cons_self) hz
  rcases List.append_eq_append_iff.mp same with ⟨between, rfl, behind⟩ | ⟨between, rfl, behind⟩
  · obtain rfl := none hx behind
    simpa using behind
  · obtain rfl := none hy behind
    simpa [eq_comm] using behind

/-- Names are equal when they tell the same. -/
theorem ofPath_eq_iff {p q : Bytes} :
    ofPath p = ofPath q ↔ lastSegment p = lastSegment q ∧ fnv1a p = fnv1a q := by
  rw [ofPath, ofPath, toNat_hash, toNat_hash]
  constructor
  · intro same
    obtain ⟨segment, numeral⟩ := dash_parts (dash_notMem_digits _) (dash_notMem_digits _) same
    exact ⟨segment, digits_inj.mp numeral⟩
  · rintro ⟨segment, hashed⟩
    rw [segment, hashed]

theorem wellFormed_ofPath {path : Bytes} (formed : WellFormed path) : WellFormed (ofPath path) := by
  obtain ⟨text, rfl⟩ := wellFormed_iff.mp formed
  exact wellFormed_iff.mpr (isText_ofPath text)

/-- A derived name tells the last segment of the path and its hash, and nothing else. Writing the
hash comes to an end, and what is derived from text is text. -/
theorem derived_names_tell :
    (∀ path name, name = ofPath path ↔ ∃ segment numeral, Tells path name segment numeral) ∧
    (∀ path, ∃ up, Turns (hash path) up) ∧
    (∀ path up, Turns (hash path) up → ofPath path = lastSegment path ++ 0x2D :: up.reverse) ∧
    (∀ path segment, segment = lastSegment path ↔ BehindLastSlash path segment) ∧
    (∀ p q, ofPath p = ofPath q ↔ lastSegment p = lastSegment q ∧ fnv1a p = fnv1a q) ∧
    ∀ path, WellFormed path → WellFormed (ofPath path) :=
  ⟨fun _ _ => eq_ofPath_iff, fun path => ⟨_, turns_digitsUp (hash path)⟩,
    fun _ _ => ofPath_of_turns, fun _ _ => eq_lastSegment_iff, fun _ _ => ofPath_eq_iff,
    fun _ => wellFormed_ofPath⟩

example : ofPath (encode "/out/a-b.o") = encode "a-b.o-3C7FVNLRHE0IQ" := by cbv

end Names

end CodeIndex.DerivedName
