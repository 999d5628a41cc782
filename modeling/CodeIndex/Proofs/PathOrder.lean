import CodeIndex.Proofs.PathOctets
import Mathlib.Data.List.Induction
import Mathlib.Data.List.Sort
/-!
# The order of paths

Paths are ordered by their components, and components by kind and then octet by octet. This is a
total order in which exactly the spellings of one path are equal. Putting paths into an ordered list
keeps it ordered, and of several spellings of a path the list has the one that was put in first.
-/
namespace CodeIndex

/-- Things that are compared by what is seen of them are ordered as that is. -/
theorem transCmp_seen {α β : Type} (seen : α → β) (cmp : β → β → Ordering) [Std.TransCmp cmp] :
    Std.TransCmp fun a b => cmp (seen a) (seen b) where
  eq_swap := Std.OrientedCmp.eq_swap
  isLE_trans := Std.TransCmp.isLE_trans

/-- Octet order is the order of lists of octets. -/
theorem Bytes.compare_eq_compareLex (a b : Bytes) :
    Bytes.compare a b = List.compareLex Ord.compare a b := by
  induction a generalizing b with
  | nil => cases b <;> rfl
  | cons x a ih =>
    cases b with
    | nil => rfl
    | cons y b => rw [compare_cons, ih, List.compareLex_cons_cons]

instance : Std.TransCmp Bytes.compare := by
  rw [funext₂ Bytes.compare_eq_compareLex]
  infer_instance

namespace Component

/-- Kind and octets tell a component. -/
theorem eq_of_seen {a b : Component} (kind : a.rank = b.rank) (name : a.octets = b.octets) :
    a = b :=
  match a, b, kind with
  | .root, .root, _ => rfl
  | .here, .here, _ => rfl
  | .up, .up, _ => rfl
  | .named _, .named _, _ => congrArg named (Utf8.encode_inj.mp name)

theorem compare_eq_iff {a b : Component} : a.compare b = .eq ↔ a = b := by
  constructor
  · intro same
    rw [compare, Ordering.then_eq_eq, Std.LawfulEqCmp.compare_eq_iff_eq,
      Bytes.compare_eq_iff] at same
    exact eq_of_seen same.1 same.2
  · rintro rfl
    simp [compare]

instance : Std.TransCmp compare :=
  have _kinds := transCmp_seen rank Ord.compare
  have _names := transCmp_seen octets Bytes.compare
  inferInstanceAs (Std.TransCmp (compareLex _ _))

instance : Std.LawfulEqCmp compare where
  compare_self := compare_eq_iff.mpr rfl
  eq_of_compare := compare_eq_iff.mp

end Component

namespace Path

theorem compareComponents_eq_compareLex (a b : List Component) :
    compareComponents a b = List.compareLex Component.compare a b := by
  induction a generalizing b with
  | nil => cases b <;> rfl
  | cons x a ih =>
    cases b with
    | nil => rfl
    | cons y b => rw [compareComponents, ih, List.compareLex_cons_cons]

instance : Std.TransCmp compareComponents := by
  rw [funext₂ compareComponents_eq_compareLex]
  infer_instance

instance : Std.LawfulEqCmp compareComponents := by
  rw [funext₂ compareComponents_eq_compareLex]
  infer_instance

instance : Std.TransCmp compare := transCmp_seen components compareComponents

/-- Two paths are equal in the order when they have the same components. -/
theorem compare_eq_iff {p q : Path} : p.compare q = .eq ↔ p.components = q.components :=
  @Std.LawfulEqCmp.compare_eq_iff_eq _ compareComponents _ _ _

theorem same_iff {p q : Path} : p.same q = true ↔ p.components = q.components :=
  beq_iff_eq

theorem same_comm (p q : Path) : p.same q = q.same p := by
  rw [Bool.eq_iff_iff, same_iff, same_iff, eq_comm]

/-- Spellings of one path are the same as the same paths. -/
theorem same_congr {q r : Path} (h : r.same q) (p : Path) : p.same r = p.same q := by
  rw [same, same, same_iff.mp h]

theorem not_same_of_lt {p q : Path} (h : p.compare q = .lt) : p.same q = false := by
  rw [Bool.eq_false_iff, Ne, same_iff, ← compare_eq_iff, h]
  decide

/-- In path order, each path once. -/
def Increasing (paths : List Path) : Prop := paths.Pairwise fun p q => p.compare q = .lt

/-- What comes before the first of an ordered list comes before all of it. -/
theorem Increasing.lt_of_lt_head {p r : Path} {rest : List Path} (h : Increasing (r :: rest))
    (place : p.compare r = .lt) : ∀ s ∈ r :: rest, p.compare s = .lt := by
  intro s among
  rcases List.mem_cons.mp among with rfl | later
  · exact place
  · exact Std.TransCmp.lt_trans place ((List.pairwise_cons.mp h).1 s later)

/-- What an ordered list has once a path is put in: what it had, and the path if it had no spelling
of it. -/
theorem mem_insertOrdered {paths : List Path} (h : Increasing paths) {p q : Path} :
    q ∈ p.insertOrdered paths ↔ q ∈ paths ∨ q = p ∧ ∀ r ∈ paths, r.same p = false := by
  induction paths with
  | nil => simp [insertOrdered]
  | cons r rest ih =>
    rw [insertOrdered]
    cases place : p.compare r with
    | lt =>
      have apart : ∀ s ∈ r :: rest, s.same p = false := fun s among => by
        rw [same_comm, not_same_of_lt (h.lt_of_lt_head place s among)]
      rw [List.mem_cons, or_comm]
      exact or_congr_right (iff_self_and.mpr fun _ => apart)
    | eq =>
      have there : r.same p := same_iff.mpr (compare_eq_iff.mp place).symm
      simp [there]
    | gt =>
      have apart : r.same p = false := not_same_of_lt (Std.OrientedCmp.lt_of_gt place)
      rw [List.mem_cons, ih h.of_cons, List.forall_mem_cons, List.mem_cons, or_assoc]
      simp only [apart, true_and]

theorem increasing_insertOrdered {paths : List Path} (h : Increasing paths) (p : Path) :
    Increasing (p.insertOrdered paths) := by
  induction paths with
  | nil => exact List.pairwise_singleton _ _
  | cons r rest ih =>
    rw [insertOrdered]
    cases place : p.compare r with
    | lt => exact List.pairwise_cons.mpr ⟨h.lt_of_lt_head place, h⟩
    | eq => exact h
    | gt =>
      refine List.pairwise_cons.mpr ⟨fun s among => ?_, ih h.of_cons⟩
      rcases (mem_insertOrdered h.of_cons).mp among with later | ⟨rfl, -⟩
      · exact (List.pairwise_cons.mp h).1 s later
      · exact Std.OrientedCmp.lt_of_gt place

theorem Increasing.components {paths : List Path} (h : Increasing paths) :
    (paths.map components).Pairwise fun a b => compareComponents a b = .lt :=
  List.pairwise_map.mpr h

instance : Std.Irrefl fun a b => compareComponents a b = .lt :=
  ⟨fun _ before => absurd before (Std.OrientedCmp.not_lt_of_lt before)⟩

instance : Std.Antisymm fun a b => compareComponents a b = .lt :=
  ⟨fun _ _ before after => absurd after (Std.OrientedCmp.not_lt_of_lt before)⟩

/-- Ordered lists with the same paths have them in the same places. -/
theorem Increasing.components_eq {paths paths' : List Path} (h : Increasing paths)
    (h' : Increasing paths')
    (same : ∀ cs, cs ∈ paths.map Path.components ↔ cs ∈ paths'.map Path.components) :
    paths.map Path.components = paths'.map Path.components :=
  h.components.eq_of_mem_iff h'.components same

def inOrder (paths : List Path) : List Path :=
  paths.foldl (fun ordered p => p.insertOrdered ordered) []

theorem inOrder_concat (paths : List Path) (p : Path) :
    inOrder (paths ++ [p]) = p.insertOrdered (inOrder paths) := by
  rw [inOrder, List.foldl_append]
  rfl

theorem increasing_inOrder (paths : List Path) : Increasing (inOrder paths) := by
  induction paths using List.reverseRecOn with
  | nil => exact List.Pairwise.nil
  | append_singleton paths p ih =>
    rw [inOrder_concat]
    exact increasing_insertOrdered ih p

/-- In order stand those paths that are the first of their spellings. -/
theorem mem_inOrder {paths : List Path} {q : Path} :
    q ∈ inOrder paths ↔ paths.find? (·.same q) = some q := by
  induction paths using List.reverseRecOn generalizing q with
  | nil => simp [inOrder]
  | append_singleton paths p ih =>
    rw [inOrder_concat, mem_insertOrdered (increasing_inOrder paths), ih, List.find?_append]
    cases found : paths.find? (·.same q) with
    | some r =>
      have spelled : r.same q := by simpa using List.find?_some found
      have there : r ∈ inOrder paths := by
        rw [ih]
        simpa [same_congr spelled] using found
      rw [Option.some_or, or_iff_left_iff_imp]
      rintro ⟨rfl, apart⟩
      simp [apart r there] at spelled
    | none =>
      have apart : ∀ r ∈ inOrder paths, r.same q = false := by
        intro r among
        have first := List.mem_of_find?_eq_some (ih.mp among)
        simpa using List.find?_eq_none.mp found r first
      rw [Option.none_or, List.find?_singleton]
      constructor
      · rintro (other | ⟨rfl, -⟩)
        · nomatch other
        · rw [if_pos (same_iff.mpr rfl)]
      · intro last
        split at last
        · cases last
          exact .inr ⟨rfl, apart⟩
        · nomatch last

/-- Putting paths in order loses none of them. -/
theorem mem_components_inOrder {paths : List Path} {steps : List Component} :
    steps ∈ (inOrder paths).map components ↔ steps ∈ paths.map components := by
  rw [List.mem_map, List.mem_map]
  constructor
  · rintro ⟨p, among, leads⟩
    exact ⟨p, List.mem_of_find?_eq_some (mem_inOrder.mp among), leads⟩
  · rintro ⟨p, among, leads⟩
    obtain ⟨q, first⟩ := Option.isSome_iff_exists.mp
      (List.find?_isSome.mpr ⟨p, among, same_iff.mpr rfl⟩ : (paths.find? (·.same p)).isSome)
    have spelled : q.same p := by simpa using List.find?_some first
    refine ⟨q, mem_inOrder.mpr ?_, (same_iff.mp spelled).trans leads⟩
    simpa only [same_congr spelled] using first

end Path

end CodeIndex
