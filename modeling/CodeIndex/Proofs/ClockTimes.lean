import CodeIndex.Time
import Mathlib.Algebra.Group.Int.Defs
import Mathlib.Algebra.Group.Nat.Defs
/-!
# Times on a clock

A clock keeps an instant in machine words: the last whole second, and the nanoseconds since then. A
time is counted out in words of 128 bits and set on a clock, and read back off it, by arithmetic
whose every step asks whether the word that takes its result has room. None of these questions is
ever answered with no, and what the clock keeps is the instant of the time. Read back, a time has
both its parts on the side of the epoch on which the instant lies, and less than a second of
nanoseconds; a time that is so from the first, and no farther from the epoch than an instant can
be, comes back as it was.
-/
namespace CodeIndex

/-- The word of 64 bits with sign that holds a number, if it has room. -/
def signed? (n : Int) : Option Int64 :=
  if -2 ^ 63 ≤ n ∧ n < 2 ^ 63 then some (.ofInt n) else none

def unsigned? (n : Int) : Option UInt64 :=
  if 0 ≤ n ∧ n < 2 ^ 64 then some (.ofNat n.toNat) else none

/-- A number, if a word of 128 bits with sign has room for it. -/
def wide? (n : Int) : Option Int := if -2 ^ 127 ≤ n ∧ n < 2 ^ 127 then some n else none

structure TimeSpan where
  seconds : UInt64
  nanoseconds : Nat
  short : nanoseconds < nanosPerSecond
  deriving DecidableEq, Repr

/-- What a clock shows: the last whole second, and the nanoseconds since then. -/
structure ClockTime where
  seconds : Int64
  nanoseconds : Nat
  short : nanoseconds < nanosPerSecond
  deriving DecidableEq, Repr

namespace TimeSpan

def ofNanos (n : UInt64) : TimeSpan :=
  ⟨n / 1000000000, n.toNat % nanosPerSecond, Nat.mod_lt _ (by decide)⟩

def nanos (d : TimeSpan) : Nat := d.seconds.toNat * nanosPerSecond + d.nanoseconds

end TimeSpan

namespace ClockTime

def epoch : ClockTime := ⟨0, 0, by decide⟩

/-- The instant at which a clock shows this. -/
def instant (c : ClockTime) : Instant := ⟨c.seconds.toInt * nanosPerSecond + c.nanoseconds⟩

/-- What the clock shows a length of time later. -/
def later? (c : ClockTime) (d : TimeSpan) : Option ClockTime := do
  let seconds ← signed? (c.seconds.toInt + d.seconds.toNat)
  if h : c.nanoseconds + d.nanoseconds < nanosPerSecond then
    some ⟨seconds, _, h⟩
  else
    let seconds ← signed? (seconds.toInt + 1)
    some ⟨seconds, c.nanoseconds + d.nanoseconds - nanosPerSecond,
      by have := c.short; have := d.short; omega⟩

def earlier? (c : ClockTime) (d : TimeSpan) : Option ClockTime := do
  let seconds ← signed? (c.seconds.toInt - d.seconds.toNat)
  if h : d.nanoseconds ≤ c.nanoseconds then
    some ⟨seconds, c.nanoseconds - d.nanoseconds, Nat.sub_lt_of_lt c.short⟩
  else
    let seconds ← signed? (seconds.toInt - 1)
    some ⟨seconds, c.nanoseconds + nanosPerSecond - d.nanoseconds,
      by have := c.short; omega⟩

/-- Seconds decide, then nanoseconds. -/
def compare (a b : ClockTime) : Ordering :=
  (Ord.compare a.seconds.toInt b.seconds.toInt).then
    (Ord.compare (a.nanoseconds : Int) b.nanoseconds)

/-- The time from `b` to `a`, which is no earlier. -/
def from? (a b : ClockTime) : Option TimeSpan := do
  let seconds ← signed? (a.seconds.toInt - b.seconds.toInt)
  if h : b.nanoseconds ≤ a.nanoseconds then
    some ⟨← unsigned? seconds.toInt, a.nanoseconds - b.nanoseconds, Nat.sub_lt_of_lt a.short⟩
  else
    let seconds ← signed? (seconds.toInt - 1)
    some ⟨← unsigned? seconds.toInt, a.nanoseconds + nanosPerSecond - b.nanoseconds,
      by have := a.short; omega⟩

/-- The time that has passed since `b`, or the time that is still to pass until then. -/
def since? (a b : ClockTime) : Option (Except TimeSpan TimeSpan) :=
  if (a.compare b).isGE then (a.from? b).map .ok else (b.from? a).map .error

end ClockTime

namespace Timestamp

/-- The nanoseconds of a time, counted in a wide word. -/
def counted? (t : Timestamp) : Option Int := do
  let whole ← wide? (t.seconds.toInt * nanosPerSecond)
  wide? (whole + t.nanoseconds.toInt)

/-- What a clock shows at a time, or as near to it as nanoseconds are counted from the epoch. -/
def clockTime? (t : Timestamp) : Option ClockTime := do
  let nanos ← t.counted?
  if 0 ≤ nanos then
    ClockTime.epoch.later? (.ofNanos (← unsigned? (min nanos farthest)))
  else
    let nanos ← wide? (-nanos)
    ClockTime.epoch.earlier? (.ofNanos (← unsigned? (min nanos farthest)))

def ofClockTime? (c : ClockTime) : Option Timestamp := do
  match ← c.since? .epoch with
  | .ok d => return ⟨← signed? d.seconds.toNat, ← signed? d.nanoseconds⟩
  | .error d =>
    let seconds ← signed? d.seconds.toNat
    let nanoseconds ← signed? d.nanoseconds
    return ⟨← signed? (-seconds.toInt), ← signed? (-nanoseconds.toInt)⟩

end Timestamp

section Words

/-- A step that has a result goes on with it. -/
theorem bind_of_some {α β : Type} {step : Option α} {a : α} (result : step = some a)
    (next : α → Option β) : (step >>= next) = next a := by
  rw [result]
  rfl

theorem signed?_eq {n : Int} (low : -2 ^ 63 ≤ n) (high : n < 2 ^ 63) :
    ∃ word, signed? n = some word ∧ word.toInt = n :=
  ⟨.ofInt n, if_pos ⟨low, high⟩, Int64.toInt_ofInt_of_le low high⟩

theorem unsigned?_eq {n : Int} (low : 0 ≤ n) (high : n < 2 ^ 64) :
    ∃ word, unsigned? n = some word ∧ (word.toNat : Int) = n := by
  refine ⟨.ofNat n.toNat, if_pos ⟨low, high⟩, ?_⟩
  rw [UInt64.toNat_ofNat', Nat.mod_eq_of_lt (by omega)]
  omega

theorem wide?_eq {n : Int} (low : -2 ^ 127 ≤ n) (high : n < 2 ^ 127) : wide? n = some n :=
  if_pos ⟨low, high⟩

theorem nanosPerSecond_eq : nanosPerSecond = 1000000000 := rfl

theorem farthest_eq : (farthest : Int) = 2 ^ 64 - 1 := by decide

end Words

namespace TimeSpan

theorem nanos_ofNanos (n : UInt64) : (ofNanos n).nanos = n.toNat := by
  have seconds : (n / 1000000000).toNat = n.toNat / 1000000000 := UInt64.toNat_div n 1000000000
  simp only [nanos, ofNanos, seconds, nanosPerSecond_eq]
  exact Nat.div_add_mod' n.toNat 1000000000

/-- A length of time is its whole seconds and what is left of a second. -/
theorem parts (d : TimeSpan) : d.seconds.toNat = d.nanos / nanosPerSecond ∧
    d.nanoseconds = d.nanos % nanosPerSecond := by
  have short := d.short
  simp only [nanos, nanosPerSecond_eq] at *
  omega

end TimeSpan

/-- Where seconds that differ decide, comparing them first compares all nanoseconds. -/
theorem compare_parts {s s' n n' : Int}
    (less : s < s' → s * nanosPerSecond + n < s' * nanosPerSecond + n')
    (more : s' < s → s' * nanosPerSecond + n' < s * nanosPerSecond + n) :
    (compare s s').then (compare n n') =
      compare (s * nanosPerSecond + n) (s' * nanosPerSecond + n') := by
  rcases Int.lt_trichotomy s s' with early | rfl | late
  · rw [Int.compare_eq_lt.mpr early, Int.compare_eq_lt.mpr (less early)]
    rfl
  · have same : compare s s = .eq := Int.compare_eq_eq.mpr rfl
    rw [same, Ordering.eq_then]
    rcases Int.lt_trichotomy n n' with fewer | rfl | further
    · rw [Int.compare_eq_lt.mpr fewer, Int.compare_eq_lt.mpr (Int.add_lt_add_left fewer _)]
    · rw [Int.compare_eq_eq.mpr rfl, Int.compare_eq_eq.mpr rfl]
    · rw [Int.compare_eq_gt.mpr further, Int.compare_eq_gt.mpr (Int.add_lt_add_left further _)]
  · rw [Int.compare_eq_gt.mpr late, Int.compare_eq_gt.mpr (more late)]
    rfl

namespace ClockTime

variable {a b c : ClockTime} {d : TimeSpan}

theorem instant_epoch : epoch.instant.nanos = 0 := by decide

theorem later?_eq (room : c.seconds.toInt + d.seconds.toNat + 1 < 2 ^ 63) :
    ∃ c', c.later? d = some c' ∧ c'.instant.nanos = c.instant.nanos + d.nanos := by
  have low := c.seconds.le_toInt
  obtain ⟨seconds, sum, seconds_eq⟩ :=
    signed?_eq (n := c.seconds.toInt + d.seconds.toNat) (by omega) (by omega)
  rw [later?, bind_of_some sum]
  by_cases carried : c.nanoseconds + d.nanoseconds < nanosPerSecond
  · rw [dif_pos carried]
    refine ⟨_, rfl, ?_⟩
    simp only [instant, TimeSpan.nanos, seconds_eq, nanosPerSecond_eq]
    omega
  · obtain ⟨next, sum', next_eq⟩ := signed?_eq (n := seconds.toInt + 1) (by omega) (by omega)
    rw [dif_neg carried, bind_of_some sum']
    refine ⟨_, rfl, ?_⟩
    rw [nanosPerSecond_eq] at carried
    simp only [instant, TimeSpan.nanos, next_eq, seconds_eq, nanosPerSecond_eq]
    omega

theorem earlier?_eq (room : -2 ^ 63 < c.seconds.toInt - d.seconds.toNat) :
    ∃ c', c.earlier? d = some c' ∧ c'.instant.nanos = c.instant.nanos - d.nanos := by
  have high := c.seconds.toInt_lt
  obtain ⟨seconds, difference, seconds_eq⟩ :=
    signed?_eq (n := c.seconds.toInt - d.seconds.toNat) (by omega) (by omega)
  rw [earlier?, bind_of_some difference]
  by_cases enough : d.nanoseconds ≤ c.nanoseconds
  · rw [dif_pos enough]
    refine ⟨_, rfl, ?_⟩
    simp only [instant, TimeSpan.nanos, seconds_eq, nanosPerSecond_eq]
    omega
  · obtain ⟨next, difference', next_eq⟩ :=
      signed?_eq (n := seconds.toInt - 1) (by omega) (by omega)
    rw [dif_neg enough, bind_of_some difference']
    refine ⟨_, rfl, ?_⟩
    have short := d.short
    rw [nanosPerSecond_eq] at short
    simp only [instant, TimeSpan.nanos, next_eq, seconds_eq, nanosPerSecond_eq]
    omega

/-- Clocks that show different seconds differ by more than the nanoseconds they show. -/
theorem instant_lt (early : a.seconds.toInt < b.seconds.toInt) :
    a.instant.nanos < b.instant.nanos := by
  have short := a.short
  simp only [instant, nanosPerSecond_eq] at *
  omega

/-- What clocks show is in the order of the instants. -/
theorem compare_eq : a.compare b = a.instant.compare b.instant :=
  compare_parts instant_lt instant_lt

theorem from?_eq (behind : b.instant.nanos ≤ a.instant.nanos)
    (room : a.seconds.toInt - b.seconds.toInt < 2 ^ 63) :
    ∃ d, a.from? b = some d ∧ (d.nanos : Int) = a.instant.nanos - b.instant.nanos := by
  have no_later : b.seconds.toInt ≤ a.seconds.toInt :=
    Int.not_lt.mp fun later => absurd (instant_lt later) (Int.not_lt.mpr behind)
  obtain ⟨seconds, difference, seconds_eq⟩ :=
    signed?_eq (n := a.seconds.toInt - b.seconds.toInt) (by omega) (by omega)
  rw [from?, bind_of_some difference]
  have short := b.short
  simp only [instant, nanosPerSecond_eq] at behind short
  by_cases enough : b.nanoseconds ≤ a.nanoseconds
  · obtain ⟨length, kept, length_eq⟩ := unsigned?_eq (n := seconds.toInt) (by omega) (by omega)
    rw [dif_pos enough, bind_of_some kept]
    refine ⟨_, rfl, ?_⟩
    simp only [instant, TimeSpan.nanos, nanosPerSecond_eq]
    omega
  · obtain ⟨next, difference', next_eq⟩ :=
      signed?_eq (n := seconds.toInt - 1) (by omega) (by omega)
    obtain ⟨length, kept, length_eq⟩ := unsigned?_eq (n := next.toInt) (by omega) (by omega)
    rw [dif_neg enough, bind_of_some difference', bind_of_some kept]
    refine ⟨_, rfl, ?_⟩
    simp only [instant, TimeSpan.nanos, nanosPerSecond_eq]
    omega

/-- One of two clocks shows a later instant, and the time between them is known. -/
theorem since?_eq (room : a.seconds.toInt - b.seconds.toInt < 2 ^ 63)
    (room' : b.seconds.toInt - a.seconds.toInt < 2 ^ 63) :
    if b.instant.nanos ≤ a.instant.nanos then
      ∃ d, a.since? b = some (.ok d) ∧ (d.nanos : Int) = a.instant.nanos - b.instant.nanos
    else ∃ d, a.since? b = some (.error d) ∧
      (d.nanos : Int) = b.instant.nanos - a.instant.nanos := by
  have order : (a.compare b).isGE = decide (b.instant.nanos ≤ a.instant.nanos) := by
    rw [compare_eq, Instant.compare, Bool.eq_iff_iff, decide_eq_true_eq]
    exact Int.isGE_compare
  rw [since?, order]
  split
  · rename_i behind
    obtain ⟨d, between, length⟩ := from?_eq behind room
    exact ⟨d, by simp [behind, between], length⟩
  · rename_i ahead
    obtain ⟨d, between, length⟩ := from?_eq (Int.le_of_not_le ahead) room'
    exact ⟨d, by simp [ahead, between], length⟩

theorem seconds_ofNanos (n : UInt64) : (TimeSpan.ofNanos n).seconds.toNat ≤ 18446744073 := by
  have size := n.toNat_lt
  rw [(TimeSpan.ofNanos n).parts.1, TimeSpan.nanos_ofNanos, nanosPerSecond_eq]
  omega

/-- A clock can be set to any number of nanoseconds of 64 bits behind the epoch. -/
theorem later?_epoch (n : UInt64) :
    ∃ c, epoch.later? (.ofNanos n) = some c ∧ c.instant = ⟨n.toNat⟩ := by
  have near := seconds_ofNanos n
  have start : epoch.seconds.toInt = 0 := rfl
  obtain ⟨c, shown, instant⟩ := later?_eq (c := epoch) (d := .ofNanos n) (by omega)
  refine ⟨c, shown, ?_⟩
  rw [instant_epoch, TimeSpan.nanos_ofNanos, Int.zero_add] at instant
  rw [← instant]

/-- And to any before it. -/
theorem earlier?_epoch (n : UInt64) :
    ∃ c, epoch.earlier? (.ofNanos n) = some c ∧ c.instant = ⟨-n.toNat⟩ := by
  have near := seconds_ofNanos n
  have start : epoch.seconds.toInt = 0 := rfl
  obtain ⟨c, shown, instant⟩ := earlier?_eq (c := epoch) (d := .ofNanos n) (by omega)
  refine ⟨c, shown, ?_⟩
  rw [instant_epoch, TimeSpan.nanos_ofNanos, Int.zero_sub] at instant
  rw [← instant]

end ClockTime

namespace Timestamp

variable (t : Timestamp)

/-- The nanoseconds of a time are far fewer than a wide word has room for. -/
theorem total_bounds : -2 ^ 94 < t.total ∧ t.total < 2 ^ 94 := by
  have low := t.seconds.le_toInt
  have high := t.seconds.toInt_lt
  have low' := t.nanoseconds.le_toInt
  have high' := t.nanoseconds.toInt_lt
  rw [total, nanosPerSecond_eq]
  omega

theorem counted?_eq : t.counted? = some t.total := by
  have low := t.seconds.le_toInt
  have high := t.seconds.toInt_lt
  have bounds := t.total_bounds
  rw [counted?, wide?_eq (by rw [nanosPerSecond_eq]; omega) (by rw [nanosPerSecond_eq]; omega)]
  exact wide?_eq (by rw [total] at bounds; omega) (by rw [total] at bounds; omega)

/-- Setting a clock to a time never runs out of room, and the clock shows the instant of it. -/
theorem clockTime?_eq : ∃ c, t.clockTime? = some c ∧ c.instant = t.toInstant := by
  have bounds := t.total_bounds
  have far := farthest_eq
  rw [clockTime?, bind_of_some t.counted?_eq]
  split
  · obtain ⟨n, kept, n_eq⟩ := unsigned?_eq (n := min t.total farthest) (by omega) (by omega)
    obtain ⟨c, shown, instant⟩ := ClockTime.later?_epoch n
    refine ⟨c, by rw [bind_of_some kept, shown], ?_⟩
    rw [instant, toInstant, Instant.mk.injEq, n_eq]
    omega
  · obtain ⟨n, kept, n_eq⟩ := unsigned?_eq (n := min (-t.total) farthest) (by omega) (by omega)
    obtain ⟨c, shown, instant⟩ := ClockTime.earlier?_epoch n
    have turned : wide? (-t.total) = some (-t.total) := wide?_eq (by omega) (by omega)
    refine ⟨c, by rw [bind_of_some turned, bind_of_some kept, shown], ?_⟩
    rw [instant, toInstant, Instant.mk.injEq, n_eq]
    omega

end Timestamp

section Sides

/-- Whether a part of a time lies where the whole does, seen from the epoch, if not at the epoch. -/
def OnSide (part nanos : Int) : Prop := part = 0 ∨ part.sign = nanos.sign

theorem onSide_iff {part nanos : Int} :
    OnSide part nanos ↔ (0 ≤ nanos → 0 ≤ part) ∧ (nanos ≤ 0 → part ≤ 0) := by
  unfold OnSide
  rcases Int.lt_trichotomy nanos 0 with early | rfl | late
  · rw [Int.sign_eq_neg_one_of_neg early, Int.sign_eq_neg_one_iff_neg]
    omega
  · rw [Int.sign_zero, Int.sign_eq_zero_iff_zero]
    omega
  · rw [Int.sign_eq_one_of_pos late, Int.sign_eq_one_iff_pos]
    omega

/-- Whole seconds and the nanoseconds left, counted from the epoch either way. -/
theorem parts_of_nanos (nanos : Int) :
    nanos.tdiv nanosPerSecond * nanosPerSecond + nanos.tmod nanosPerSecond = nanos ∧
      (nanos.tmod nanosPerSecond).natAbs < nanosPerSecond ∧
      OnSide (nanos.tdiv nanosPerSecond) nanos ∧ OnSide (nanos.tmod nanosPerSecond) nanos := by
  have whole := Int.tdiv_mul_add_tmod nanos nanosPerSecond
  rw [onSide_iff, onSide_iff]
  rcases Int.le_total 0 nanos with late | early
  · rw [Int.tdiv_eq_ediv_of_nonneg late, Int.tmod_eq_emod_of_nonneg late] at *
    simp only [nanosPerSecond_eq] at *
    omega
  · have back := Int.neg_nonneg_of_nonpos early
    have quotient := Int.neg_tdiv nanos nanosPerSecond
    have remainder := Int.neg_tmod nanos nanosPerSecond
    rw [Int.tdiv_eq_ediv_of_nonneg back] at quotient
    rw [Int.tmod_eq_emod_of_nonneg back] at remainder
    simp only [nanosPerSecond_eq] at *
    omega

/-- There is no other way to take nanoseconds apart. -/
theorem parts_unique {nanos seconds rest : Int} (whole : seconds * nanosPerSecond + rest = nanos)
    (short : rest.natAbs < nanosPerSecond) (seconds_side : OnSide seconds nanos)
    (rest_side : OnSide rest nanos) :
    seconds = nanos.tdiv nanosPerSecond ∧ rest = nanos.tmod nanosPerSecond := by
  obtain ⟨whole', short', seconds_side', rest_side'⟩ := parts_of_nanos nanos
  rw [onSide_iff] at *
  simp only [nanosPerSecond_eq] at *
  omega

end Sides

namespace Timestamp

/-- A time is so many nanoseconds, taken apart into whole seconds and fewer nanoseconds than a
second has, neither of them on the other side of the epoch. -/
structure Splits (t : Timestamp) (nanos : Int) : Prop where
  total : t.total = nanos
  short : t.nanoseconds.toInt.natAbs < nanosPerSecond
  seconds : OnSide t.seconds.toInt nanos
  nanoseconds : OnSide t.nanoseconds.toInt nanos

theorem splits_of_parts {seconds nanoseconds : Int64} {nanos : Int}
    (whole : seconds.toInt * nanosPerSecond + nanoseconds.toInt = nanos)
    (short : nanoseconds.toInt.natAbs < nanosPerSecond)
    (late : 0 ≤ nanos → 0 ≤ seconds.toInt ∧ 0 ≤ nanoseconds.toInt)
    (early : nanos ≤ 0 → seconds.toInt ≤ 0 ∧ nanoseconds.toInt ≤ 0) :
    Splits ⟨seconds, nanoseconds⟩ nanos where
  total := whole
  short := short
  seconds := onSide_iff.mpr ⟨fun h => (late h).1, fun h => (early h).1⟩
  nanoseconds := onSide_iff.mpr ⟨fun h => (late h).2, fun h => (early h).2⟩

variable {t : Timestamp} {i : Instant}

theorem toInt_ofInstant (near : i.nanos.natAbs ≤ farthest) :
    (ofInstant i).seconds.toInt = i.nanos.tdiv nanosPerSecond ∧
      (ofInstant i).nanoseconds.toInt = i.nanos.tmod nanosPerSecond := by
  obtain ⟨whole, short, seconds, rest⟩ := parts_of_nanos i.nanos
  have far := farthest_eq
  rw [onSide_iff] at seconds rest
  simp only [nanosPerSecond_eq] at whole short
  refine ⟨Int64.toInt_ofInt_of_le ?_ ?_, Int64.toInt_ofInt_of_le ?_ ?_⟩ <;>
    simp only [nanosPerSecond_eq] <;> omega

/-- An instant has one time that takes it apart, and that is the time of the instant. -/
theorem eq_ofInstant_iff (near : i.nanos.natAbs ≤ farthest) :
    t = ofInstant i ↔ t.Splits i.nanos := by
  obtain ⟨seconds, nanoseconds⟩ := toInt_ofInstant near
  constructor
  · rintro rfl
    obtain ⟨whole, short, side, side'⟩ := parts_of_nanos i.nanos
    rw [← seconds, ← nanoseconds] at whole
    rw [← nanoseconds] at short side'
    rw [← seconds] at side
    exact ⟨whole, short, side, side'⟩
  · intro splits
    obtain ⟨same, same'⟩ :=
      parts_unique splits.total splits.short splits.seconds splits.nanoseconds
    rw [← seconds, Int64.toInt_inj] at same
    rw [← nanoseconds, Int64.toInt_inj] at same'
    calc t = ⟨t.seconds, t.nanoseconds⟩ := rfl
      _ = ofInstant i := by rw [same, same']

theorem toInstant_near (t : Timestamp) : t.toInstant.nanos.natAbs ≤ farthest := by
  simp only [toInstant]
  omega

theorem toInstant_of_near (near : t.total.natAbs ≤ farthest) : t.toInstant.nanos = t.total := by
  simp only [toInstant]
  omega

/-- The words that a length of time is read into. -/
theorem words_of_span {d : TimeSpan} (near : d.nanos ≤ farthest) :
    ∃ seconds nanoseconds : Int64, signed? d.seconds.toNat = some seconds ∧
      signed? d.nanoseconds = some nanoseconds ∧
      seconds.toInt * nanosPerSecond + nanoseconds.toInt = d.nanos ∧
      0 ≤ seconds.toInt ∧ 0 ≤ nanoseconds.toInt ∧ nanoseconds.toInt < nanosPerSecond := by
  have far := farthest_eq
  have short := d.short
  simp only [TimeSpan.nanos, nanosPerSecond_eq] at *
  obtain ⟨seconds, kept, seconds_eq⟩ := signed?_eq (n := d.seconds.toNat) (by omega) (by omega)
  obtain ⟨nanoseconds, kept', nanoseconds_eq⟩ :=
    signed?_eq (n := d.nanoseconds) (by omega) (by omega)
  exact ⟨seconds, nanoseconds, kept, kept', by omega, by omega, by omega, by omega⟩

/-- Reading a time off a clock never runs out of room. -/
theorem ofClockTime?_eq {c : ClockTime} (near : c.instant.nanos.natAbs ≤ farthest) :
    ofClockTime? c = some (ofInstant c.instant) := by
  have start : ClockTime.epoch.seconds.toInt = 0 := rfl
  have small : c.seconds.toInt.natAbs < 2 ^ 62 := by
    have far := farthest_eq
    have short := c.short
    simp only [ClockTime.instant, nanosPerSecond_eq] at *
    omega
  have between := ClockTime.since?_eq (a := c) (b := .epoch) (by omega) (by omega)
  rw [ClockTime.instant_epoch] at between
  split at between
  · obtain ⟨d, passed, length⟩ := between
    obtain ⟨seconds, nanoseconds, kept, kept', whole, positive, positive', short⟩ :=
      words_of_span (d := d) (by omega)
    have read : ofClockTime? c = some ⟨seconds, nanoseconds⟩ := by
      rw [ofClockTime?, bind_of_some passed]
      dsimp only
      rw [bind_of_some kept, bind_of_some kept']
      rfl
    rw [read, Option.some.injEq, eq_ofInstant_iff near]
    simp only [nanosPerSecond_eq] at whole short
    exact splits_of_parts (by simp only [nanosPerSecond_eq]; omega)
      (by simp only [nanosPerSecond_eq]; omega) (by omega) (by omega)
  · obtain ⟨d, left, length⟩ := between
    obtain ⟨seconds, nanoseconds, kept, kept', whole, positive, positive', short⟩ :=
      words_of_span (d := d) (by omega)
    obtain ⟨seconds', negated, seconds_eq⟩ :=
      signed?_eq (n := -seconds.toInt) (by have := seconds.toInt_lt; omega) (by omega)
    obtain ⟨nanoseconds', negated', nanoseconds_eq⟩ :=
      signed?_eq (n := -nanoseconds.toInt) (by have := nanoseconds.toInt_lt; omega) (by omega)
    have read : ofClockTime? c = some ⟨seconds', nanoseconds'⟩ := by
      rw [ofClockTime?, bind_of_some left]
      dsimp only
      rw [bind_of_some kept, bind_of_some kept', bind_of_some negated, bind_of_some negated']
      rfl
    rw [read, Option.some.injEq, eq_ofInstant_iff near]
    simp only [nanosPerSecond_eq] at whole short
    exact splits_of_parts (by simp only [nanosPerSecond_eq]; omega)
      (by simp only [nanosPerSecond_eq]; omega) (by omega) (by omega)

/-- What becomes of a time that is set on a clock and read back off it. -/
structure ComesBack (t : Timestamp) : Prop where
  /-- No step of the arithmetic lacks room, there or back. -/
  clock : ∃ c, t.clockTime? = some c ∧ c.instant = t.toInstant ∧
    ofClockTime? c = some (ofInstant t.toInstant)
  /-- The instant is the time, or the farthest one on its side. -/
  instant : t.toInstant.nanos = max (-(2 ^ 64 - 1)) (min (2 ^ 64 - 1)
    (1000000000 * t.seconds.toInt + t.nanoseconds.toInt))
  /-- What is read back is the time that takes the instant apart. -/
  back (t' : Timestamp) : t' = ofInstant t.toInstant ↔ t'.Splits t.toInstant.nanos
  /-- The times that come back as they were. -/
  same_iff : ofInstant t.toInstant = t ↔ t.Splits t.total ∧ t.total.natAbs ≤ 2 ^ 64 - 1
  /-- Another way there leads to where the first one did. -/
  again : (ofInstant t.toInstant).toInstant = t.toInstant

/-- Times of any seconds and nanoseconds are set on a clock and come back without overflow. -/
theorem times_come_back (t : Timestamp) : ComesBack t where
  clock := by
    obtain ⟨c, shown, instant⟩ := t.clockTime?_eq
    refine ⟨c, shown, instant, ?_⟩
    rw [← instant]
    exact ofClockTime?_eq (instant ▸ t.toInstant_near)
  instant := by
    have far := farthest_eq
    simp only [toInstant, total, nanosPerSecond_eq, far]
    omega
  back t' := eq_ofInstant_iff t.toInstant_near
  same_iff := by
    rw [eq_comm, eq_ofInstant_iff t.toInstant_near]
    have far : farthest = 2 ^ 64 - 1 := by decide
    rw [← far]
    constructor
    · intro splits
      have whole := splits.total
      refine ⟨whole ▸ splits, ?_⟩
      rw [whole]
      exact t.toInstant_near
    · rintro ⟨splits, near⟩
      rwa [toInstant_of_near near]
  again := by
    have splits := (eq_ofInstant_iff t.toInstant_near).mp rfl
    have near := t.toInstant_near
    rw [← splits.total] at near
    have same := toInstant_of_near near
    rw [splits.total] at same
    cases h : (ofInstant t.toInstant).toInstant
    rw [h] at same
    exact congrArg Instant.mk same

end Timestamp

end CodeIndex
