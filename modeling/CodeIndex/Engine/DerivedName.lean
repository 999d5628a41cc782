import CodeIndex.Bytes
/-!
# Derived unit names

A unit that writes an output file is named after the file: the last segment of its path, a dash,
and a 64-bit FNV-1a hash of the whole path in base 36.
-/
namespace CodeIndex.DerivedName

def hashStart : UInt64 := 0xcbf29ce484222325

def hashPrime : UInt64 := 0x100000001b3

/-- The hash of octets: each one is mixed in before a multiplication modulo 2^64. -/
def hash (octets : Bytes) : UInt64 :=
  octets.foldl (fun h b => (h ^^^ b.toUInt64) * hashPrime) hashStart

/-- The octet of a digit below 36: `0` to `9`, then `A` to `Z`. -/
def digit (n : Nat) : UInt8 := UInt8.ofNat (if n < 10 then 0x30 + n else 0x41 + (n - 10))

/-- The digits of a number in base 36, lowest first. -/
def digitsUp (n : Nat) : Bytes :=
  if n < 36 then [digit n] else digit (n % 36) :: digitsUp (n / 36)
termination_by n
decreasing_by omega

def digits (n : Nat) : Bytes := (digitsUp n).reverse

def lastSegment (path : Bytes) : Bytes := (path.reverse.takeWhile (· != 0x2F)).reverse

/-- The name of the unit that writes a file. -/
def ofPath (path : Bytes) : Bytes := lastSegment path ++ 0x2D :: digits (hash path).toNat

end CodeIndex.DerivedName
