import CodeIndex.Proofs.ClockTimes
/-!
# The order of times

Times compare by their seconds and then by their nanoseconds. For times that have both parts on one
side of the epoch, and less than a second of nanoseconds, this is the order in which a clock shows
them, before the epoch as behind it: there the nanoseconds are negative like the seconds, so half a
second before the epoch and half a second behind it, which have the same seconds, are told apart by
them. What is read off a clock is always such a time.
-/
namespace CodeIndex

namespace Timestamp

/-- A time with less than a second of nanoseconds, which are not on the other side of the epoch than
its seconds. -/
structure Normalized (t : Timestamp) : Prop where
  short : t.nanoseconds.toInt.natAbs < nanosPerSecond
  late : 0 < t.seconds.toInt → 0 ≤ t.nanoseconds.toInt
  early : t.seconds.toInt < 0 → t.nanoseconds.toInt ≤ 0

variable {a b : Timestamp}

/-- A time that takes nanoseconds apart is normalized. -/
theorem Splits.normalized {nanos : Int} (splits : a.Splits nanos) : a.Normalized := by
  have whole := splits.total
  have short := splits.short
  have seconds := onSide_iff.mp splits.seconds
  have nanoseconds := onSide_iff.mp splits.nanoseconds
  refine ⟨short, ?_, ?_⟩ <;> omega

/-- Of two normalized times the one with fewer seconds is the earlier one, whatever nanoseconds they
have. -/
theorem total_lt (ha : a.Normalized) (hb : b.Normalized)
    (fewer : a.seconds.toInt < b.seconds.toInt) : a.total < b.total := by
  obtain ⟨short, late, early⟩ := ha
  obtain ⟨short', late', early'⟩ := hb
  simp only [total, nanosPerSecond_eq] at *
  omega

/-- Normalized times compare like all the nanoseconds they count. -/
theorem compare_total (ha : a.Normalized) (hb : b.Normalized) :
    a.compare b = Ord.compare a.total b.total :=
  compare_parts (total_lt ha hb) (total_lt hb ha)

/-- What clocks show compares like the instants. -/
theorem exists_clockTimes (a b : Timestamp) : ∃ shown shown', a.clockTime? = some shown ∧
    b.clockTime? = some shown' ∧ shown.compare shown' = a.toInstant.compare b.toInstant := by
  obtain ⟨shown, set, instant⟩ := a.clockTime?_eq
  obtain ⟨shown', set', instant'⟩ := b.clockTime?_eq
  exact ⟨shown, shown', set, set', by rw [ClockTime.compare_eq, instant, instant']⟩

/-- How two times compare, and how the instants of them do. -/
structure KeepsOrder (a b : Timestamp) : Prop where
  /-- Comparing instants is comparing what clocks show. -/
  clocks : ∃ shown shown', a.clockTime? = some shown ∧ b.clockTime? = some shown' ∧
    shown.compare shown' = a.toInstant.compare b.toInstant
  monotone : 1000000000 * a.seconds.toInt + a.nanoseconds.toInt ≤
    1000000000 * b.seconds.toInt + b.nanoseconds.toInt → (a.toInstant.compare b.toInstant).isLE
  /-- Normalized times that are near enough compare like their instants. -/
  normalized : a.Normalized → b.Normalized → a.total.natAbs ≤ 2 ^ 64 - 1 →
    b.total.natAbs ≤ 2 ^ 64 - 1 → a.compare b = a.toInstant.compare b.toInstant
  /-- Times that are read off a clock always do. -/
  back : (ofInstant a.toInstant).compare (ofInstant b.toInstant) = a.toInstant.compare b.toInstant

/-- Times are in the order of their instants, on either side of the epoch. -/
theorem times_keep_order (a b : Timestamp) : KeepsOrder a b where
  clocks := exists_clockTimes a b
  monotone no_later := by
    rw [Instant.compare, Int.isLE_compare]
    simp only [toInstant, total, nanosPerSecond_eq]
    omega
  normalized ha hb near near' := by
    have far : farthest = 2 ^ 64 - 1 := by decide
    rw [← far] at near near'
    rw [compare_total ha hb, Instant.compare, toInstant_of_near near, toInstant_of_near near']
  back := by
    have splits := (eq_ofInstant_iff a.toInstant_near).mp rfl
    have splits' := (eq_ofInstant_iff b.toInstant_near).mp rfl
    rw [compare_total splits.normalized splits'.normalized, splits.total, splits'.total,
      Instant.compare]

end Timestamp

end CodeIndex
