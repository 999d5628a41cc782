import CodeIndex.Proofs.FlagSets
import CodeIndex.Report.OfRecords
/-!
# Flags read back

What is written of a set of flags can be cut at its separators, and the pieces can be looked up as
names, in the spelling they are written in. No name has the beginning of a separator in it, so the
pieces are the names that were written, and the bits they name are the named bits of the set. Bits
without a name are lost, and nothing else: sets are written alike when they share their named bits.
-/
namespace CodeIndex

namespace Text

/-- The pieces of a text between separators that begin with `first` and go on with `more`. -/
def piecesAt (first : Char) (more : List Char) (text : List Char) : List (List Char) :=
  match text with
  | [] => [[]]
  | c :: rest =>
    if (first :: more).isPrefixOf (c :: rest) then
      [] :: piecesAt first more (rest.drop more.length)
    else (piecesAt first more rest).modifyHead (c :: ·)
termination_by text.length
decreasing_by
  · simp only [List.length_cons, List.length_drop]
    omega
  · exact Nat.lt_succ_self _

variable {first : Char} {more : List Char}

/-- No separator begins at another character. -/
theorem piecesAt_cons {c : Char} (other : c ≠ first) (rest : List Char) :
    piecesAt first more (c :: rest) = (piecesAt first more rest).modifyHead (c :: ·) := by
  rw [piecesAt, if_neg]
  rw [List.isPrefixOf_cons_cons, Bool.and_eq_true, beq_iff_eq]
  exact fun both => other both.1.symm

theorem piecesAt_separator (rest : List Char) :
    piecesAt first more (first :: more ++ rest) = [] :: piecesAt first more rest := by
  rw [List.cons_append, piecesAt, if_pos, List.drop_left]
  exact List.isPrefixOf_iff_prefix.mpr (List.prefix_append _ _)

theorem piecesAt_append {piece : List Char} (free : first ∉ piece) (rest : List Char) :
    piecesAt first more (piece ++ rest) = (piecesAt first more rest).modifyHead (piece ++ ·) := by
  induction piece with
  | nil => exact (congrFun List.modifyHead_id _).symm
  | cons c piece ih =>
    rw [List.mem_cons, not_or] at free
    rw [List.cons_append, piecesAt_cons (Ne.symm free.1), ih free.2, List.modifyHead_modifyHead]
    rfl

/-- Pieces that are joined by separators are the pieces in between. -/
theorem piecesAt_intercalate {pieces : List (List Char)} (some : pieces ≠ [])
    (free : ∀ piece ∈ pieces, first ∉ piece) :
    piecesAt first more ((first :: more).intercalate pieces) = pieces := by
  induction pieces with
  | nil => exact absurd rfl some
  | cons piece pieces ih =>
    obtain ⟨here, others⟩ := List.forall_mem_cons.mp free
    cases pieces with
    | nil =>
      have alone : piecesAt first more (piece ++ []) = _ := piecesAt_append here []
      rw [piecesAt, List.append_nil] at alone
      simpa [List.intercalate] using alone
    | cons next pieces =>
      rw [List.intercalate_cons_cons, List.append_assoc, piecesAt_append here, piecesAt_separator,
        ih (List.cons_ne_nil _ _) others, List.modifyHead_cons, List.append_nil]

end Text

namespace FlagTable

variable {table : FlagTable}

def known (table : FlagTable) : Flags table :=
  table.named.foldr (fun entry all => (Flags.single entry.2).union all) ⟨0⟩

example : roleTable.known.bits = 0xFFFFF ∧ propertyTable.known.bits = 0x101FF := by decide

/-- A spelling that can be cut at separators that begin with a character: the names differ, none is
empty, and none has the character in it. -/
structure Legible (table : FlagTable) (spell : String → String) (first : Char) : Prop where
  apart : table.Apart spell
  notEmpty : ∀ entry ∈ table.named, spell entry.1 ≠ ""
  free : ∀ entry ∈ table.named, first ∉ (spell entry.1).toList

theorem has_known (words : ∀ entry ∈ table.named, entry.2 < 64) (bit : Nat) :
    table.known.has bit ↔ ∃ name, (name, bit) ∈ table.named := by
  unfold known
  generalize table.named = entries at words
  induction entries with
  | nil => simp
  | cons entry rest ih =>
    obtain ⟨here, others⟩ := List.forall_mem_cons.mp words
    rw [List.foldr_cons, Flags.has_union, Flags.has_single here, Bool.or_eq_true, ih others,
      decide_eq_true_eq]
    simp only [List.mem_cons, exists_or]
    refine or_congr_left ⟨?_, ?_⟩
    · rintro rfl
      exact ⟨entry.1, rfl⟩
    · rintro ⟨name, rfl⟩
      rfl

end FlagTable

namespace Flags

variable {table : FlagTable} {spell : String → String} {a b : Flags table}

def named (a : Flags table) : Flags table := ⟨a.bits &&& table.known.bits⟩

/-- The flags that texts name in some spelling. What is no name adds none. -/
def ofTexts (spell : String → String) (texts : List String) : Flags table :=
  texts.foldr (fun text all => match table.bit? spell text with
    | some bit => (single bit).union all
    | none => all) ⟨0⟩

def ofJoined (spell : String → String) (first : Char) (more text : List Char) : Flags table :=
  ofTexts spell ((Text.piecesAt first more text).map String.ofList)

/-- The flags that are named between the parentheses behind the title. -/
def ofDescription (text : String) : Flags table :=
  ofJoined id ' ' ['|', ' '] (text.toList.drop (table.title.length + 1)).dropLast

theorem has_ofTexts (words : ∀ entry ∈ table.named, entry.2 < 64) (apart : table.Apart spell)
    (texts : List String) (bit : Nat) :
    (ofTexts spell texts : Flags table).has bit ↔
      ∃ text ∈ texts, table.bit? spell text = some bit := by
  induction texts with
  | nil => simp [ofTexts]
  | cons text rest ih =>
    rw [ofTexts, List.foldr_cons, ← ofTexts]
    simp only [List.mem_cons, exists_eq_or_imp]
    split
    · rename_i found bit' named
      obtain ⟨name, among, -⟩ := (FlagTable.bit?_eq_some_iff apart).mp named
      rw [has_union, has_single (words _ among), Bool.or_eq_true, ih, named, decide_eq_true_eq,
        Option.some.injEq]
    · rename_i unknown
      rw [ih, unknown]
      simp

/-- Names in a spelling are read as the named flags of the set. -/
theorem ofTexts_names (orderly : table.Orderly) (apart : table.Apart spell) (a : Flags table) :
    ofTexts spell (a.names.map spell) = a.named := by
  have spelled {name : String} {bit : Nat} (among : (name, bit) ∈ table.named) :
      table.bit? spell (spell name) = some bit :=
    (FlagTable.bit?_eq_some_iff apart).mpr ⟨name, among, rfl⟩
  have lists := lists_names orderly (a := a)
  refine eq_of_has fun bit => Bool.eq_iff_iff.mpr ?_
  rw [has_ofTexts orderly.words apart, named, has_and, Bool.and_eq_true,
    FlagTable.has_known orderly.words]
  constructor
  · rintro ⟨text, among, found⟩
    obtain ⟨name, listed, rfl⟩ := List.mem_map.mp among
    obtain ⟨bit', known, set⟩ := (lists.exact name).mp listed
    have here := orderly.bit?_iff.mp known
    obtain rfl : bit' = bit := Option.some.inj ((spelled here).symm.trans found)
    exact ⟨set, name, here⟩
  · rintro ⟨set, name, here⟩
    have listed := (lists.exact name).mpr ⟨bit, orderly.bit?_iff.mpr here, set⟩
    exact ⟨spell name, List.mem_map_of_mem listed, spelled here⟩

/-- A set without names is written as an empty text, which is no name. -/
theorem ofJoined_nil {first : Char} {more : List Char} (legible : table.Legible spell first) :
    (ofJoined spell first more [] : Flags table) = ⟨0⟩ := by
  have unknown : table.bit? spell "" = none := by
    rw [Option.eq_none_iff_forall_ne_some]
    intro bit found
    obtain ⟨name, among, empty⟩ := (FlagTable.bit?_eq_some_iff legible.apart).mp found
    exact legible.notEmpty _ among empty
  rw [ofJoined, Text.piecesAt, List.map_singleton, String.ofList_nil, ofTexts, List.foldr_cons,
    unknown]
  rfl

/-- What is joined of names is read as the named flags. -/
theorem ofJoined_names (orderly : table.Orderly) {first : Char} (more : List Char)
    (legible : table.Legible spell first) (a : Flags table) :
    ofJoined spell first more
      ((first :: more).intercalate ((a.names.map spell).map String.toList)) = a.named := by
  have read := ofTexts_names orderly legible.apart a
  -- no names leave one empty piece, where any others leave just themselves
  by_cases none : a.names = []
  · rw [none] at read ⊢
    rw [← read]
    exact ofJoined_nil legible
  · rw [ofJoined, Text.piecesAt_intercalate, List.map_map]
    · simpa [Function.comp_def] using read
    · simpa using none
    · intro piece among
      rw [List.map_map] at among
      obtain ⟨name, listed, rfl⟩ := List.mem_map.mp among
      obtain ⟨bit, here⟩ := exists_bit listed
      exact legible.free _ here

/-- Bits without a name make no difference to the names. -/
theorem names_named (orderly : table.Orderly) (a : Flags table) : a.named.names = a.names := by
  rw [names_eq orderly, names_eq orderly]
  refine congrArg _ (List.filter_congr fun entry among => ?_)
  have known := (FlagTable.has_known orderly.words entry.2).mpr ⟨entry.1, among⟩
  rw [named, has_and, known, Bool.and_true]

/-- A writing that names decide and that is read as the named flags tells these apart. -/
theorem written_alike_iff (orderly : table.Orderly) {write : Flags table → String}
    {read : String → Flags table} (byNames : ∀ a b, a.names = b.names → write a = write b)
    (back : ∀ a, read (write a) = a.named) : write a = write b ↔ a.named = b.named := by
  constructor
  · intro same
    rw [← back, ← back, same]
  · intro same
    apply byNames
    rw [← names_named orderly, same, names_named orderly]

theorem describe_of_names (a b : Flags table) (same : a.names = b.names) :
    a.describe = b.describe := by
  rw [describe, describe, same]

/-- A description is read as the named flags. -/
theorem ofDescription_describe (orderly : table.Orderly) (legible : table.Legible id ' ')
    (a : Flags table) : ofDescription a.describe = a.named := by
  have separator : " | ".toList = ' ' :: ['|', ' '] := by decide
  have opening : (table.title ++ "(").toList.length = table.title.length + 1 := by
    rw [String.length_toList, String.length_append]
    rfl
  have within : (a.describe.toList.drop (table.title.length + 1)).dropLast =
      (" | ".intercalate a.names).toList := by
    rw [describe, ← opening]
    generalize table.title ++ "(" = front
    rw [String.toList_append, String.toList_append, List.append_assoc, List.drop_left]
    exact List.dropLast_concat
  have read := ofJoined_names orderly ['|', ' '] legible a
  rw [List.map_id_fun, id_eq] at read
  rw [ofDescription, within, String.toList_intercalate, separator, read]

end Flags

def lowerCase (name : String) : String := String.ofList (name.toList.map Char.toLower)

/-- The roles that a list in lower case names, separated by commas. -/
def SymbolRoles.ofList (text : String) : SymbolRoles := Flags.ofJoined lowerCase ',' [] text.toList

theorem roleTable_legible : roleTable.Legible id ' ' := ⟨by decide, by decide, by decide⟩

theorem propertyTable_legible : propertyTable.Legible id ' ' := ⟨by decide, by decide, by decide⟩

theorem roleTable_legible_lowerCase : roleTable.Legible lowerCase ',' :=
  ⟨by decide, by decide, by decide⟩

theorem ofList_roleList (roles : SymbolRoles) :
    SymbolRoles.ofList (Report.roleList roles) = roles.named := by
  have read := Flags.ofJoined_names roleTable_orderly [] roleTable_legible_lowerCase roles
  rw [SymbolRoles.ofList, Report.roleList, String.toList_intercalate]
  exact read

theorem roleList_of_names (a b : SymbolRoles) (same : a.names = b.names) :
    Report.roleList a = Report.roleList b := by
  rw [Report.roleList, Report.roleList, same]

/-- A table whose sets are told by their bits and written by their names, so that what is written
can be read back. -/
structure FlagTable.Faithful (table : FlagTable) : Prop where
  contains (a b : Flags table) : (a.contains b ↔ ∀ bit, b.has bit → a.has bit) ∧
    (a.contains b ↔ a.union b = a)
  intersects (a b : Flags table) : a.intersects b ↔ ∃ bit, a.has bit ∧ b.has bit
  names (a : Flags table) (names : List String) : names = a.names ↔ a.Lists names
  union (a b : Flags table) : (a.union b).names = table.merged a.names b.names
  readBack (a : Flags table) : Flags.ofDescription a.describe = a.named
  alike (a b : Flags table) : a.describe = b.describe ↔ a.named = b.named

theorem FlagTable.Orderly.faithful {table : FlagTable} (orderly : table.Orderly)
    (legible : table.Legible id ' ') : table.Faithful where
  contains _ _ := ⟨Flags.contains_iff, Flags.contains_iff_union⟩
  intersects _ _ := Flags.intersects_iff
  names _ _ := Flags.names_eq_iff orderly
  union _ _ := Flags.names_union orderly
  readBack := Flags.ofDescription_describe orderly legible
  alike _ _ := Flags.written_alike_iff orderly Flags.describe_of_names
    (Flags.ofDescription_describe orderly legible)

/-- Roles and properties are sets of bits, and their named bits are all that is written of them. -/
theorem flags_and_names :
    roleTable.Faithful ∧ propertyTable.Faithful ∧
    (∀ roles : SymbolRoles, SymbolRoles.ofList (Report.roleList roles) = roles.named) ∧
    ∀ a b : SymbolRoles, Report.roleList a = Report.roleList b ↔ a.named = b.named :=
  ⟨roleTable_orderly.faithful roleTable_legible,
    propertyTable_orderly.faithful propertyTable_legible, ofList_roleList,
    fun _ _ => Flags.written_alike_iff roleTable_orderly roleList_of_names ofList_roleList⟩

end CodeIndex
