/-!
# Decimal digits

Numbers written with the digits `0` to `9`, leading zeros allowed.
-/
namespace CodeIndex.Text

/-- The number that digits write, counted on from `n`. -/
def decimalFrom (n : Nat) (digits : List Char) : Nat :=
  digits.foldl (fun n c => 10 * n + (c.toNat - '0'.toNat)) n

/-- The number a text writes, if it is one or more digits and nothing else. -/
def decimal? (digits : List Char) : Option Nat :=
  if digits.isEmpty || !digits.all Char.isDigit then none else some (decimalFrom 0 digits)

def word? (digits : List Char) : Option UInt32 :=
  match decimal? digits with
  | some n => if n < UInt32.size then some (UInt32.ofNat n) else none
  | none => none

@[simp] theorem decimalFrom_nil (n : Nat) : decimalFrom n [] = n := rfl

@[simp] theorem decimalFrom_cons (n : Nat) (c : Char) (digits : List Char) :
    decimalFrom n (c :: digits) = decimalFrom (10 * n + (c.toNat - '0'.toNat)) digits := by
  simp only [decimalFrom, List.foldl_cons]

@[simp] theorem decimal?_nil : decimal? [] = none := rfl

theorem decimal?_eq_some_iff {digits : List Char} {n : Nat} :
    decimal? digits = some n ↔
      digits ≠ [] ∧ digits.all Char.isDigit = true ∧ decimalFrom 0 digits = n := by
  cases digits with
  | nil => simp
  | cons c rest =>
    by_cases h : (c :: rest).all Char.isDigit = true <;> simp [decimal?, h]

theorem word?_eq_some_iff {digits : List Char} {w : UInt32} :
    word? digits = some w ↔ decimal? digits = some w.toNat := by
  unfold word?
  cases h : decimal? digits with
  | none => simp
  | some n =>
    by_cases hn : n < UInt32.size
    · simp only [hn, if_true, Option.some.injEq]
      constructor
      · rintro rfl
        exact (UInt32.toNat_ofNat_of_lt' hn).symm
      · rintro rfl
        simp
    · simp only [hn, if_false, Option.some.injEq]
      constructor
      · intro h; cases h
      · rintro rfl
        exact absurd w.toNat_lt hn

end CodeIndex.Text
