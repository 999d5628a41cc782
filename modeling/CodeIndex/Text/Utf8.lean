import CodeIndex.Bytes
/-!
# UTF-8

Octets read as text. The reader takes one character at a time and stops at the first octet that no
well-formed text can have at its place; `lossy` puts U+FFFD there and goes on behind it.
-/
namespace CodeIndex

namespace Utf8

def encode (text : String) : Bytes := text.toList.flatMap String.utf8EncodeChar

/-- Where octets stop being text. -/
structure Fault where
  /-- How many octets before it are well formed. -/
  validUpTo : Nat
  /-- How many octets cannot be read, or nothing when the input ends inside a character. -/
  width : Option Nat
  deriving DecidableEq, Repr

def Fault.message (f : Fault) : String :=
  match f.width with
  | some n => s!"invalid utf-8 sequence of {n} bytes from index {f.validUpTo}"
  | none => s!"incomplete utf-8 byte sequence from index {f.validUpTo}"

/-- What a leading octet announces: octets to follow, the bounds of the first of them, and the bits
it carries itself. The bounds keep out overlong forms, surrogates and values above U+10FFFF. -/
structure Lead where
  more : Nat
  low : UInt8
  high : UInt8
  bits : Nat
  deriving DecidableEq, Repr

def lead (b : UInt8) : Option Lead :=
  if 0xC2 ≤ b && b ≤ 0xDF then some ⟨1, 0x80, 0xBF, b.toNat - 0xC0⟩
  else if b == 0xE0 then some ⟨2, 0xA0, 0xBF, 0⟩
  else if b == 0xED then some ⟨2, 0x80, 0x9F, 0xD⟩
  else if 0xE1 ≤ b && b ≤ 0xEF then some ⟨2, 0x80, 0xBF, b.toNat - 0xE0⟩
  else if b == 0xF0 then some ⟨3, 0x90, 0xBF, 0⟩
  else if 0xF1 ≤ b && b ≤ 0xF3 then some ⟨3, 0x80, 0xBF, b.toNat - 0xF0⟩
  else if b == 0xF4 then some ⟨3, 0x80, 0x8F, 4⟩
  else none

inductive Head where
  /-- A character and what follows it. -/
  | char (c : Char) (rest : Bytes)
  /-- `width` octets that begin no character. -/
  | broken (width : Nat)
  /-- The input ends inside a character. -/
  | cut
  deriving DecidableEq, Repr

def followBits (b : UInt8) : Nat := b.toNat - 0x80

/-- Reads `n` further octets after `width` ones that carry `bits`. -/
def follow : Nat → Nat → Nat → Bytes → Head
  | 0, bits, _, rest => .char (Char.ofNat bits) rest
  | _ + 1, _, _, [] => .cut
  | n + 1, bits, width, b :: rest =>
    if 0x80 ≤ b && b ≤ 0xBF then follow n (bits * 64 + followBits b) (width + 1) rest
    else .broken width

/-- Reads a character that starts with `b`. -/
def head (b : UInt8) (rest : Bytes) : Head :=
  if b < 0x80 then .char (Char.ofNat b.toNat) rest
  else match lead b, rest with
    | none, _ => .broken 1
    | some _, [] => .cut
    | some l, c :: rest =>
      if l.low ≤ c && c ≤ l.high then follow (l.more - 1) (l.bits * 64 + followBits c) 2 rest
      else .broken 1

theorem follow_length {n bits width : Nat} {bytes rest : Bytes} {c : Char}
    (h : follow n bits width bytes = .char c rest) : rest.length ≤ bytes.length := by
  induction n generalizing bits width bytes with
  | zero => simp only [follow, Head.char.injEq] at h; simp [h.2]
  | succ n ih =>
    cases bytes with
    | nil => simp [follow] at h
    | cons b bytes =>
      simp only [follow] at h
      split at h
      · have := ih h; simp only [List.length_cons]; omega
      · cases h

theorem head_length {b : UInt8} {bytes rest : Bytes} {c : Char}
    (h : head b bytes = .char c rest) : rest.length ≤ bytes.length := by
  simp only [head] at h
  split at h
  · simp only [Head.char.injEq] at h; simp [h.2]
  · split at h
    · cases h
    · cases h
    · split at h
      · have := follow_length h; simp only [List.length_cons]; omega
      · cases h

/-- Reads to the end or to the first fault, counting octets from `start`. -/
def read (start : Nat) (bytes : Bytes) : Except Fault (List Char) :=
  match bytes with
  | [] => .ok []
  | b :: more =>
    match _h : head b more with
    | .char c rest => (read (start + c.utf8Size) rest).map (c :: ·)
    | .broken width => .error ⟨start, some width⟩
    | .cut => .error ⟨start, none⟩
termination_by bytes.length
decreasing_by have := head_length _h; simp only [List.length_cons]; omega

def decode (bytes : Bytes) : Except Fault String := (read 0 bytes).map String.ofList

/-- The characters, with U+FFFD for each stretch that begins no character. -/
def readLossy (bytes : Bytes) : List Char :=
  match bytes with
  | [] => []
  | b :: more =>
    match h : head b more with
    | .char c rest => c :: readLossy rest
    | .broken width => '\uFFFD' :: readLossy (more.drop (width - 1))
    | .cut => ['\uFFFD']
termination_by bytes.length
decreasing_by
  · have := head_length h; simp only [List.length_cons]; omega
  · simp only [List.length_cons, List.length_drop]; omega

def lossy (bytes : Bytes) : String := String.ofList (readLossy bytes)

end Utf8

end CodeIndex
