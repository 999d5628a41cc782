import CodeIndex.Flags
import Mathlib.Data.List.Dedup
import Mathlib.Data.List.Sort
/-!
# Flags as sets of bits

A set of flags is told by its bits, and what is asked of it is asked of its bits. The names of a set
are those of its named bits, the lowest first. Each name stands for one bit and no bit has two
names, so the names of a union are those of both sets, merged.
-/
namespace CodeIndex

namespace Flags

variable {table : FlagTable} {a b : Flags table}

def has (a : Flags table) (bit : Nat) : Bool := a.bits.toNat.testBit bit

/-- Sets with the same bits are the same. -/
theorem eq_of_has (same : ∀ bit, a.has bit = b.has bit) : a = b := by
  obtain ⟨a⟩ := a
  obtain ⟨b⟩ := b
  exact congrArg Flags.mk (UInt64.toNat_inj.mp (Nat.eq_of_testBit_eq same))

@[simp] theorem has_union (bit : Nat) : (a.union b).has bit = (a.has bit || b.has bit) := by
  rw [has, union, UInt64.toNat_or, Nat.testBit_or, has, has]

@[simp] theorem has_empty (bit : Nat) : (⟨0⟩ : Flags table).has bit = false :=
  Nat.zero_testBit bit

/-- The bits that are in both of two sets. -/
theorem has_and (bit : Nat) : (⟨a.bits &&& b.bits⟩ : Flags table).has bit =
    (a.has bit && b.has bit) := by
  rw [has, UInt64.toNat_and, Nat.testBit_and, has, has]

theorem has_single {bit : Nat} (word : bit < 64) (other : Nat) :
    (single bit : Flags table).has other = decide (bit = other) := by
  have shift : (UInt64.ofNat bit).toNat % 64 = bit := by
    rw [UInt64.toNat_ofNat', Nat.mod_mod_of_dvd _ (by decide), Nat.mod_eq_of_lt word]
  have power : (single bit : Flags table).bits.toNat = 2 ^ bit := by
    rw [single, UInt64.toNat_shiftLeft, shift, UInt64.toNat_one, Nat.one_shiftLeft]
    exact Nat.mod_eq_of_lt (Nat.pow_lt_pow_right (by decide) word)
  rw [has, power, Nat.testBit_two_pow]

/-- A set contains another when it has all of its bits. -/
theorem contains_iff : a.contains b ↔ ∀ bit, b.has bit → a.has bit := by
  have bitwise : a.contains b ↔ (⟨a.bits &&& b.bits⟩ : Flags table) = b := by
    rw [contains, beq_iff_eq]
    exact ⟨congrArg Flags.mk, congrArg Flags.bits⟩
  rw [bitwise]
  constructor
  · intro same bit among
    rw [← same, has_and, Bool.and_eq_true] at among
    exact among.1
  · intro all
    refine eq_of_has fun bit => ?_
    rw [has_and]
    exact Bool.and_eq_right_iff_imp.mpr (all bit)

/-- A set contains what it has to have added to it to no effect. -/
theorem contains_iff_union : a.contains b ↔ a.union b = a := by
  rw [contains_iff]
  constructor
  · intro all
    refine eq_of_has fun bit => ?_
    rw [has_union]
    exact Bool.or_eq_left_iff_imp.mpr (all bit)
  · intro same bit among
    rw [← same, has_union, among, Bool.or_true]

/-- Sets intersect when they share a bit. -/
theorem intersects_iff : a.intersects b ↔ ∃ bit, a.has bit ∧ b.has bit := by
  have bitwise : a.intersects b ↔ (⟨a.bits &&& b.bits⟩ : Flags table) ≠ ⟨0⟩ := by
    rw [intersects, bne_iff_ne]
    exact not_congr ⟨congrArg Flags.mk, congrArg Flags.bits⟩
  rw [bitwise]
  constructor
  · intro some
    by_contra none
    refine some (eq_of_has fun bit => ?_)
    rw [has_and, has_empty, Bool.eq_false_iff, ne_eq, Bool.and_eq_true]
    exact not_exists.mp none bit
  · rintro ⟨bit, both⟩ empty
    have shared := congrArg (·.has bit) empty
    rw [← Bool.and_eq_true, ← has_and] at both
    simp only [both, has_empty] at shared
    nomatch shared

theorem contains_single {bit : Nat} (word : bit < 64) : a.contains (single bit) = a.has bit := by
  rw [Bool.eq_iff_iff, contains_iff]
  simp only [has_single word, decide_eq_true_eq]
  exact ⟨fun all => all bit rfl, fun among other same => same ▸ among⟩

end Flags

namespace FlagTable

/-- The bit a text names, in some spelling of the names. -/
def bit? (table : FlagTable) (spell : String → String) (text : String) : Option Nat :=
  (table.named.find? fun entry => spell entry.1 == text).map Prod.snd

/-- A spelling in which no two names are the same. -/
def Apart (table : FlagTable) (spell : String → String) : Prop :=
  table.named.Pairwise fun entry other => spell entry.1 ≠ spell other.1

instance (table : FlagTable) (spell : String → String) : Decidable (table.Apart spell) :=
  inferInstanceAs (Decidable (List.Pairwise _ _))

/-- A table of bits in their order, each with a name that no other has. -/
structure Orderly (table : FlagTable) : Prop where
  words : ∀ entry ∈ table.named, entry.2 < 64
  ascending : table.named.Pairwise fun entry other => entry.2 < other.2
  apart : table.Apart id

variable {table : FlagTable}

theorem bit?_eq_some_iff {spell : String → String} (apart : table.Apart spell) {text : String}
    {bit : Nat} : table.bit? spell text = some bit ↔
      ∃ name, (name, bit) ∈ table.named ∧ spell name = text := by
  unfold Apart at apart
  unfold bit?
  generalize table.named = entries at apart
  induction entries with
  | nil => simp
  | cons entry rest ih =>
    obtain ⟨others, apart⟩ := List.pairwise_cons.mp apart
    rw [List.find?_cons]
    by_cases same : spell entry.1 = text
    · rw [beq_iff_eq.mpr same]
      constructor
      · intro found
        obtain rfl : entry.2 = bit := by simpa using found
        exact ⟨entry.1, List.mem_cons_self, same⟩
      · rintro ⟨name, among, spelled⟩
        rcases List.mem_cons.mp among with rfl | among
        · rfl
        · exact absurd (same.trans spelled.symm) (others _ among)
    · rw [beq_eq_false_iff_ne.mpr same, ih apart]
      refine exists_congr fun name => and_congr_left fun spelled => ?_
      rw [List.mem_cons, or_iff_right]
      rintro rfl
      exact same spelled

/-- The place of a name in the order; what is no name comes behind all names. -/
def place (table : FlagTable) (name : String) : Nat := (table.bit? id name).getD 64

/-- Two lists of names made one, in the order of their bits and each name once. -/
def merged (table : FlagTable) (names others : List String) : List String :=
  (names.merge others fun name other => table.place name ≤ table.place other).dedup

namespace Orderly

variable (orderly : table.Orderly)
include orderly

theorem bit?_iff {name : String} {bit : Nat} :
    table.bit? id name = some bit ↔ (name, bit) ∈ table.named := by
  rw [bit?_eq_some_iff orderly.apart]
  simp

theorem place_eq {name : String} {bit : Nat} (among : (name, bit) ∈ table.named) :
    table.place name = bit := by
  rw [place, orderly.bit?_iff.mpr among, Option.getD_some]

/-- Names at one place are one name. -/
theorem eq_of_place {name other : String} {bit bit' : Nat} (among : (name, bit) ∈ table.named)
    (among' : (other, bit') ∈ table.named) (same : table.place name = table.place other) :
    name = other := by
  rw [orderly.place_eq among, orderly.place_eq among'] at same
  subst same
  have nodup : (table.named.map Prod.snd).Nodup :=
    List.pairwise_map.mpr (orderly.ascending.imp Nat.ne_of_lt)
  exact congrArg Prod.fst (List.inj_on_of_nodup_map nodup among among' rfl)

end Orderly

end FlagTable

theorem roleTable_orderly : roleTable.Orderly := ⟨by decide, by decide, by decide⟩

theorem propertyTable_orderly : propertyTable.Orderly := ⟨by decide, by decide, by decide⟩

namespace Flags

variable {table : FlagTable} {a b : Flags table} {shown : List String}

/-- The names of the named bits of a set, the lowest bit first and each name once. -/
structure Lists (a : Flags table) (names : List String) : Prop where
  exact (name : String) : name ∈ names ↔ ∃ bit, table.bit? id name = some bit ∧ a.has bit
  ascending : names.Pairwise fun name other => table.place name < table.place other

/-- There is one such list. -/
theorem Lists.unique {others : List String} (lists : a.Lists shown) (lists' : a.Lists others) :
    shown = others := by
  have antisymm : Std.Antisymm fun name other => table.place name < table.place other :=
    ⟨fun _ _ less more => absurd less (Nat.lt_asymm more)⟩
  have irrefl : Std.Irrefl fun name other => table.place name < table.place other :=
    ⟨fun _ => Nat.lt_irrefl _⟩
  refine lists.ascending.eq_of_mem_iff lists'.ascending fun name => ?_
  rw [lists.exact, lists'.exact]

theorem exists_bit {name : String} (among : name ∈ a.names) :
    ∃ bit, (name, bit) ∈ table.named := by
  obtain ⟨entry, kept, rfl⟩ := List.mem_map.mp among
  exact ⟨entry.2, (List.mem_filter.mp kept).1⟩

variable (orderly : table.Orderly)
include orderly

theorem names_eq : a.names = (table.named.filter fun entry => a.has entry.2).map Prod.fst := by
  rw [names]
  refine congrArg _ (List.filter_congr fun entry among => ?_)
  rw [contains_single (orderly.words entry among)]

theorem lists_names : a.Lists a.names where
  exact name := by
    simp only [names_eq orderly, List.mem_map, List.mem_filter, Prod.exists, exists_and_right,
      exists_eq_right, orderly.bit?_iff]
  ascending := by
    rw [names_eq orderly, List.pairwise_map]
    refine (orderly.ascending.filter _).imp_of_mem fun among among' less => ?_
    rwa [orderly.place_eq (List.mem_filter.mp among).1,
      orderly.place_eq (List.mem_filter.mp among').1]

theorem names_eq_iff : shown = a.names ↔ a.Lists shown := by
  constructor
  · rintro rfl
    exact lists_names orderly
  · intro lists
    exact lists.unique (lists_names orderly)

/-- What is in order and stands there once is in strict order. -/
theorem ascending_of_nodup (named : ∀ name ∈ shown, ∃ bit, (name, bit) ∈ table.named)
    (ordered : shown.Pairwise fun name other => table.place name ≤ table.place other)
    (once : shown.Nodup) :
    shown.Pairwise fun name other => table.place name < table.place other := by
  refine (ordered.and once).imp_of_mem fun {name other} among among' both => ?_
  obtain ⟨bit, here⟩ := named name among
  obtain ⟨bit', there⟩ := named other among'
  exact Nat.lt_of_le_of_ne both.1 fun same => both.2 (orderly.eq_of_place here there same)

/-- The names of a union are those of both sets in one list. -/
theorem names_union : (a.union b).names = table.merged a.names b.names := by
  have lists := lists_names orderly (a := a)
  have lists' := lists_names orderly (a := b)
  have exact (name : String) : name ∈ table.merged a.names b.names ↔
      ∃ bit, table.bit? id name = some bit ∧ (a.union b).has bit := by
    simp only [FlagTable.merged, List.mem_dedup, List.mem_merge, lists.exact, lists'.exact,
      has_union, Bool.or_eq_true, and_or_left, exists_or]
  symm
  rw [names_eq_iff orderly]
  -- merging keeps the order, and a name of both sets is left once
  refine ⟨exact, ascending_of_nodup orderly (fun name among => ?_) ?_ (List.nodup_dedup _)⟩
  · obtain ⟨bit, found, -⟩ := (exact name).mp among
    exact ⟨bit, orderly.bit?_iff.mp found⟩
  · have ordered : (a.names.merge b.names fun name other =>
        table.place name ≤ table.place other).Pairwise _ :=
      List.pairwise_merge (fun _ _ _ => by simpa using Nat.le_trans)
        (fun _ _ => by simpa using Nat.le_total _ _) a.names b.names
        (lists.ascending.imp fun less => by simpa using Nat.le_of_lt less)
        (lists'.ascending.imp fun less => by simpa using Nat.le_of_lt less)
    exact (ordered.imp fun le => by simpa using le).sublist (List.dedup_sublist _)

end Flags

end CodeIndex
