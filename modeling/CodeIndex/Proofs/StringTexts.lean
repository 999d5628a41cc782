import CodeIndex.Engine.Native
import CodeIndex.Proofs.WellFormedText
import CodeIndex.Store.Strings
import Mathlib.Order.Bounds.Defs
/-!
# Strings as texts

A string of an index is read in several ways. If its octets are well formed, all of them give the
one text that has these octets, and the string equals this text and no other. If they are not, the
strict readings fail at the end of the longest well-formed part in front, the others give that part
with U+FFFD behind it and more, and the string equals no text.
-/
namespace CodeIndex

namespace Utf8

section Reading

variable {b : UInt8} {more rest : Bytes} {c : Char}

theorem readLossy_char (front : head b more = .char c rest) :
    readLossy (b :: more) = c :: readLossy rest := by
  rw [readLossy]
  split <;> simp_all

/-- A text is spelled in one way: its first character can be told from the octets. -/
theorem encodeChar_append_inj {d : Char} {x y : Bytes}
    (same : String.utf8EncodeChar c ++ x = String.utf8EncodeChar d ++ y) : c = d ∧ x = y := by
  obtain ⟨b, more, encoded, front⟩ := head_utf8EncodeChar c x
  obtain ⟨b', more', encoded', front'⟩ := head_utf8EncodeChar d y
  rw [encoded, encoded', List.cons_append, List.cons_append, List.cons.injEq] at same
  rw [same.1, same.2, front', Head.char.injEq] at front
  exact ⟨front.1.symm, front.2.symm⟩

/-- Some octets that begin with no character. -/
structure Stuck (octets : Bytes) : Prop where
  some : octets ≠ []
  noChar (c : Char) (rest : Bytes) : octets ≠ String.utf8EncodeChar c ++ rest

theorem stuck_of_head (noChar : ∀ c rest, head b more ≠ .char c rest) : Stuck (b :: more) where
  some := List.cons_ne_nil b more
  noChar c rest same := by
    obtain ⟨b', more', encoded, front⟩ := head_utf8EncodeChar c rest
    rw [encoded, List.cons_append, List.cons.injEq] at same
    rw [← same.1, ← same.2] at front
    exact noChar c rest front

/-- Where no character begins there is a replacement. -/
theorem Stuck.readLossy_eq {octets : Bytes} (stuck : Stuck octets) :
    ∃ rest, readLossy octets = '\uFFFD' :: rest := by
  cases octets with
  | nil => exact absurd rfl stuck.some
  | cons b more =>
    rw [readLossy]
    split
    · rename_i c rest front
      exact absurd (eq_of_head front) (stuck.noChar c rest)
    · exact ⟨_, rfl⟩
    · exact ⟨_, rfl⟩

/-- A reader that fails has read characters up to where none begins. -/
theorem read_error {start : Nat} {bytes : Bytes} {fault : Fault}
    (failed : read start bytes = .error fault) :
    ∃ (front : List Char) (bad : Bytes), bytes = front.flatMap String.utf8EncodeChar ++ bad ∧
      Stuck bad ∧ fault.validUpTo = start + (front.flatMap String.utf8EncodeChar).length := by
  fun_induction read start bytes with
  | case1 => cases failed
  | case2 start b more c rest first ih =>
    cases tail : read (start + c.utf8Size) rest with
    | ok text =>
      rw [tail] at failed
      cases failed
    | error fault' =>
      rw [tail] at failed
      cases failed
      obtain ⟨front, bad, rfl, stuck, place⟩ := ih tail
      refine ⟨c :: front, bad, ?_, stuck, ?_⟩
      · rw [List.flatMap_cons, List.append_assoc, eq_of_head first]
      · rw [place, List.flatMap_cons, List.length_append, String.length_utf8EncodeChar]
        omega
  | case3 start b more width first =>
    cases failed
    exact ⟨[], b :: more, rfl, stuck_of_head fun c rest => by rw [first]; nofun, rfl⟩
  | case4 start b more first =>
    cases failed
    exact ⟨[], b :: more, rfl, stuck_of_head fun c rest => by rw [first]; nofun, rfl⟩

/-- Characters in front are kept. -/
theorem readLossy_append (front : List Char) (bad : Bytes) :
    readLossy (front.flatMap String.utf8EncodeChar ++ bad) = front ++ readLossy bad := by
  induction front with
  | nil => rfl
  | cons c front ih =>
    obtain ⟨b, more, encoded, first⟩ :=
      head_utf8EncodeChar c (front.flatMap String.utf8EncodeChar ++ bad)
    rw [List.flatMap_cons, List.append_assoc, encoded, List.cons_append, readLossy_char first, ih,
      List.cons_append]

/-- No characters go on where none begins. -/
theorem Stuck.length_le {front chars : List Char} {bad rest : Bytes} (stuck : Stuck bad)
    (same : chars.flatMap String.utf8EncodeChar ++ rest =
      front.flatMap String.utf8EncodeChar ++ bad) :
    (chars.flatMap String.utf8EncodeChar).length ≤
      (front.flatMap String.utf8EncodeChar).length := by
  -- the lists have the same characters as long as both go on, and the first ends no later
  induction chars generalizing front with
  | nil => exact Nat.zero_le _
  | cons c chars ih =>
    rw [List.flatMap_cons, List.append_assoc] at same
    cases front with
    | nil => exact absurd same.symm (stuck.noChar c _)
    | cons d front =>
      rw [List.flatMap_cons, List.append_assoc] at same
      obtain ⟨rfl, behind⟩ := encodeChar_append_inj same
      rw [List.flatMap_cons, List.flatMap_cons, List.length_append, List.length_append]
      exact Nat.add_le_add_left (ih behind) _

/-- Up to where no character begins is the longest well-formed part in front. -/
theorem Stuck.isGreatest (front : List Char) {bad : Bytes} (stuck : Stuck bad) :
    IsGreatest {n | n ≤ (front.flatMap String.utf8EncodeChar ++ bad).length ∧
        WellFormed ((front.flatMap String.utf8EncodeChar ++ bad).take n)}
      (front.flatMap String.utf8EncodeChar).length := by
  constructor
  · refine ⟨?_, ?_⟩
    · rw [List.length_append]
      exact Nat.le_add_right _ _
    · rw [List.take_left]
      exact wellFormed_flatMap front
  · rintro n ⟨within, formed⟩
    obtain ⟨text, encoded⟩ := wellFormed_iff.mp formed
    have whole := List.take_append_drop n (front.flatMap String.utf8EncodeChar ++ bad)
    rw [← encoded, encode] at whole
    have no_longer := stuck.length_le whole
    rwa [← encode, encoded, List.length_take, Nat.min_eq_left within] at no_longer

/-- There the replacement stands behind it. -/
theorem Stuck.lossy_eq (front : List Char) {bad : Bytes} (stuck : Stuck bad) :
    ∃ rest, lossy (front.flatMap String.utf8EncodeChar ++ bad) =
      String.ofList front ++ "\uFFFD" ++ rest := by
  obtain ⟨rest, replaced⟩ := stuck.readLossy_eq
  refine ⟨String.ofList rest, ?_⟩
  rw [lossy, readLossy_append, replaced]
  apply String.toList_inj.mp
  simp

end Reading

/-- Octets that are no text are one up to where no character begins. -/
theorem decode_error {octets : Bytes} {fault : Fault} (failed : decode octets = .error fault) :
    ∃ (front : List Char) (bad : Bytes), octets = front.flatMap String.utf8EncodeChar ++ bad ∧
      Stuck bad ∧ fault.validUpTo = (front.flatMap String.utf8EncodeChar).length := by
  rw [decode] at failed
  cases characters : read 0 octets with
  | ok text =>
    rw [characters] at failed
    cases failed
  | error fault' =>
    rw [characters] at failed
    cases failed
    obtain ⟨front, bad, parts, stuck, place⟩ := read_error characters
    exact ⟨front, bad, parts, stuck, by rw [place, Nat.zero_add]⟩

end Utf8

namespace Bytes

open Utf8

/-- A string that is a text: every reading gives it, and it equals no other. -/
structure IsOfText (octets : Bytes) (text : String) : Prop where
  encoded : encode text = octets
  asText : octets.asText = .ok text
  ownText : octets.ownText = .ok text
  lossyText : octets.lossyText = text
  lossyPath : octets.lossyPath = ⟨text⟩
  shown : octets.shown = text
  equalsText (other : String) : octets.equalsText other ↔ other = text

/-- A string that is no text: strict readings tell where it stops being one, the others put U+FFFD
there, and it equals no text. -/
structure StopsAt (octets : Bytes) (fault : Utf8.Fault) : Prop where
  asText : octets.asText = .error fault
  ownText : octets.ownText = .error (.invalidUtf8 fault)
  longest : IsGreatest {n | n ≤ octets.length ∧ WellFormed (octets.take n)} fault.validUpTo
  replaced : ∃ front rest text : String, encode front = octets.take fault.validUpTo ∧
    text = front ++ "\uFFFD" ++ rest ∧ octets.lossyText = text ∧ octets.lossyPath = ⟨text⟩ ∧
    octets.shown = text
  equalsText (other : String) : octets.equalsText other = false

variable {octets : Bytes}

theorem isOfText_encode (text : String) : IsOfText (encode text) text where
  encoded := rfl
  asText := decode_encode text
  ownText := by rw [Bytes.ownText, Bytes.asText, decode_encode]; rfl
  lossyText := lossy_encode text
  lossyPath := congrArg Path.mk (lossy_encode text)
  shown := lossy_encode text
  equalsText other := by rw [Bytes.equalsText, beq_iff_eq, encode_inj, eq_comm]

theorem stopsAt_of_decode {fault : Utf8.Fault} (failed : decode octets = .error fault) :
    StopsAt octets fault := by
  obtain ⟨front, bad, parts, stuck, place⟩ := decode_error failed
  refine ⟨failed, ?_, ?_, ?_, fun other => ?_⟩
  · rw [ownText, asText, failed]
    rfl
  · rw [place, parts]
    exact stuck.isGreatest front
  · obtain ⟨rest, replaced⟩ := stuck.lossy_eq front
    refine ⟨String.ofList front, rest, octets.lossyText, ?_, ?_, rfl, rfl, rfl⟩
    · rw [encode, String.toList_ofList, place, parts, List.take_left]
    · rw [lossyText, parts, replaced]
  · rw [equalsText, beq_eq_false_iff_ne]
    rintro rfl
    rw [decode_encode] at failed
    cases failed

theorem wellFormed_iff_isOfText : WellFormed octets ↔ ∃ text, IsOfText octets text := by
  rw [wellFormed_iff]
  constructor
  · rintro ⟨text, rfl⟩
    exact ⟨text, isOfText_encode text⟩
  · rintro ⟨text, h⟩
    exact ⟨text, h.encoded⟩

theorem not_wellFormed_iff_stopsAt : ¬ WellFormed octets ↔ ∃ fault, StopsAt octets fault := by
  rw [wellFormed_iff]
  constructor
  · intro none
    cases read : decode octets with
    | ok text => exact absurd ⟨text, encode_of_decode read⟩ none
    | error fault => exact ⟨fault, stopsAt_of_decode read⟩
  · rintro ⟨fault, stops⟩ ⟨text, rfl⟩
    have same := stops.equalsText text
    simp [equalsText] at same

end Bytes

namespace RawString

/-- The string at a place of a memory, which may be null, with the length it is said to have. -/
def inMemory (memory : Bytes) (length : Nat) : (place : Option Nat) → RawString
  | none => .null length
  | some start => .pointing ((memory.drop start).take length)

/-- The octets that a place and a length mean. -/
structure Spans (memory : Bytes) (length : Nat) (place : Option Nat) (octets : Bytes) : Prop where
  nothing : place = none ∨ length = 0 → octets = []
  /-- What lies behind a string, and before it, is not seen. -/
  each (start : Nat) : place = some start → start + length ≤ memory.length →
    octets.length = length ∧ ∀ i < length, octets[i]? = memory[start + i]?

theorem spans_inMemory (memory : Bytes) (length : Nat) (place : Option Nat) :
    Spans memory length place (inMemory memory length place).octets where
  nothing empty := by
    rcases empty with rfl | rfl
    · rfl
    · cases place with
      | none => rfl
      | some start => rfl
  each start placed within := by
    subst placed
    have long : ((memory.drop start).take length).length = length := by
      rw [List.length_take, List.length_drop]
      omega
    refine ⟨long, fun i inside => ?_⟩
    rw [inMemory, octets, List.getElem?_take_of_lt inside, List.getElem?_drop]

end RawString

/-- A raw string is seen as the octets it means, and read as the text these octets are or told to be
none. -/
theorem raw_strings_as_text :
    (∀ memory length place,
      RawString.Spans memory length place (RawString.inMemory memory length place).octets) ∧
    (∀ s : RawString, Utf8.WellFormed s.octets ↔ ∃ text, s.octets.IsOfText text) ∧
    ∀ s : RawString, ¬ Utf8.WellFormed s.octets ↔ ∃ fault, s.octets.StopsAt fault :=
  ⟨RawString.spans_inMemory, fun _ => Bytes.wellFormed_iff_isOfText,
    fun _ => Bytes.not_wellFormed_iff_stopsAt⟩

example : Bytes.lossyText [0x61, 0xFF, 0x62] = "a\uFFFDb" := by cbv

end CodeIndex
