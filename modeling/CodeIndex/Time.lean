import CodeIndex.Json
/-!
# Points in time

An index reports times as seconds and nanoseconds in two signed words, in any mixture of signs. An
instant is a whole number of nanoseconds from the epoch, never further from it than 64 bits count.
-/
namespace CodeIndex

structure Timestamp where
  seconds : Int64 := 0
  nanoseconds : Int64 := 0
  deriving DecidableEq, Repr, Inhabited

/-- Nanoseconds from the epoch, negative before it. -/
structure Instant where
  nanos : Int
  deriving DecidableEq, Repr, Inhabited

def nanosPerSecond : Nat := 1000000000

/-- The furthest distance from the epoch. -/
def farthest : Nat := UInt64.size - 1

namespace Instant

def compare (a b : Instant) : Ordering := Ord.compare a.nanos b.nanos

def isAfter (a b : Instant) : Bool := decide (b.nanos < a.nanos)

/-- The digits of `n`, filled up with zeros to nine. -/
def nineDigits (n : Nat) : String :=
  let digits := Nat.toDigits 10 n
  String.ofList (List.replicate (9 - digits.length) '0' ++ digits)

/-- Seconds with nine decimals, with a minus sign before the epoch. -/
def text (t : Instant) : String :=
  let n := t.nanos.natAbs
  (if t.nanos < 0 then "-" else "") ++ toString (n / nanosPerSecond) ++ "."
    ++ nineDigits (n % nanosPerSecond)

/-- An instant before the epoch has no written form. -/
inductive WritingFault where
  | beforeEpoch
  deriving DecidableEq, Repr

def WritingFault.message : WritingFault → String
  | .beforeEpoch => "SystemTime must be later than UNIX_EPOCH"

def toJson (t : Instant) : Except WritingFault Json :=
  if t.nanos < 0 then .error .beforeEpoch
  else .ok (.object [("secs_since_epoch", .number (t.nanos / nanosPerSecond)),
    ("nanos_since_epoch", .number (t.nanos % nanosPerSecond))])

/-- How long ago an instant was, seen from `now`, in the largest unit that fits. -/
def age (t now : Instant) : String :=
  if now.nanos < t.nanos then "in the future"
  else
    let seconds := ((now.nanos - t.nanos) / nanosPerSecond).toNat
    if seconds < 60 then s!"{seconds}s ago"
    else if seconds < 3600 then s!"{seconds / 60}m ago"
    else if seconds < 86400 then s!"{seconds / 3600}h ago"
    else s!"{seconds / 86400}d ago"

end Instant

namespace Timestamp

/-- The exact number of nanoseconds, without bounds. -/
def total (t : Timestamp) : Int := t.seconds.toInt * nanosPerSecond + t.nanoseconds.toInt

/-- The instant of a time; one too far from the epoch becomes the farthest on its side. -/
def toInstant (t : Timestamp) : Instant := ⟨max (-farthest) (min farthest t.total)⟩

/-- The time of an instant, both parts on the same side of the epoch. -/
def ofInstant (t : Instant) : Timestamp :=
  ⟨Int64.ofInt (t.nanos.tdiv nanosPerSecond), Int64.ofInt (t.nanos.tmod nanosPerSecond)⟩

/-- Seconds decide, then nanoseconds. -/
def compare (a b : Timestamp) : Ordering :=
  (Ord.compare a.seconds.toInt b.seconds.toInt).then
    (Ord.compare a.nanoseconds.toInt b.nanoseconds.toInt)

end Timestamp

end CodeIndex
