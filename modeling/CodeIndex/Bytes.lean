/-!
# Raw names

Names come out of an index as octets that need not be text. They are compared octet by octet.
-/
namespace CodeIndex

abbrev Bytes := List UInt8

def hasNul (text : String) : Bool := text.toList.contains '\x00'

namespace Bytes

/-- The part of a raw name after its last `/` or `\`. -/
def fileName (bytes : Bytes) : Bytes :=
  (bytes.reverse.takeWhile fun b => b != 0x2F && b != 0x5C).reverse

def beforeNul (bytes : Bytes) : Bytes := bytes.takeWhile (· != 0)

/-- Octet order: the first octet that differs decides, and a proper beginning comes first. -/
def compare : Bytes → Bytes → Ordering
  | [], [] => .eq
  | [], _ :: _ => .lt
  | _ :: _, [] => .gt
  | a :: as, b :: bs => (Ord.compare a b).then (compare as bs)

def le (a b : Bytes) : Bool := (compare a b).isLE

@[simp] theorem compare_nil : compare [] [] = .eq := rfl

@[simp] theorem compare_nil_cons (b : UInt8) (bs : Bytes) : compare [] (b :: bs) = .lt := rfl

@[simp] theorem compare_cons_nil (a : UInt8) (as : Bytes) : compare (a :: as) [] = .gt := rfl

@[simp] theorem compare_cons (a b : UInt8) (as bs : Bytes) :
    compare (a :: as) (b :: bs) = (Ord.compare a b).then (compare as bs) := rfl

@[simp] theorem compare_self (a : Bytes) : compare a a = .eq := by
  induction a with
  | nil => rfl
  | cons x a ih => simp [ih]

theorem compare_eq_iff {a b : Bytes} : compare a b = .eq ↔ a = b := by
  induction a generalizing b with
  | nil => cases b <;> simp
  | cons x a ih =>
    cases b with
    | nil => simp
    | cons y b => simp [Ordering.then_eq_eq, ih, Std.LawfulEqCmp.compare_eq_iff_eq]

theorem compare_swap (a b : Bytes) : (compare a b).swap = compare b a := by
  induction a generalizing b with
  | nil => cases b <;> rfl
  | cons x a ih =>
    cases b with
    | nil => rfl
    | cons y b =>
      simp only [compare_cons, Ordering.swap_then, ih]
      rw [← Std.OrientedCmp.eq_swap]

/-- Of two names one comes no later than the other. -/
theorem le_total (a b : Bytes) : le a b || le b a := by
  rw [le, le, ← compare_swap a b]
  cases compare a b <;> rfl

theorem le_trans {a b c : Bytes} (hab : le a b) (hbc : le b c) : le a c := by
  induction a generalizing b c with
  | nil => cases c <;> rfl
  | cons x a ih =>
    cases b with
    | nil => simp [le, Ordering.isLE] at hab
    | cons y b =>
      cases c with
      | nil => simp [le, Ordering.isLE] at hbc
      | cons z c =>
        simp only [le, compare_cons, Ordering.isLE_then_iff_or] at hab hbc ih ⊢
        rcases hab with hxy | ⟨hxy, hab⟩ <;> rcases hbc with hyz | ⟨hyz, hbc⟩
        · exact .inl (Std.TransCmp.lt_trans hxy hyz)
        · rw [Std.LawfulEqCmp.compare_eq_iff_eq.mp hyz] at hxy
          exact .inl hxy
        · rw [Std.LawfulEqCmp.compare_eq_iff_eq.mp hxy]
          exact .inl hyz
        · rw [Std.LawfulEqCmp.compare_eq_iff_eq.mp hxy]
          exact .inr ⟨hyz, ih hab hbc⟩

end Bytes

end CodeIndex
