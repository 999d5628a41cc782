import CodeIndex.Proofs.FirstDeclared
import CodeIndex.Proofs.NativeObjects
import CodeIndex.Proofs.PathOctets
import CodeIndex.Proofs.UnitOutcomes
import Mathlib.Data.List.Induction
/-!
# Units behind output files

The unit that writes a file is asked for in two steps. An engine names a unit for any path, be it in
the store or not, and the time of that name is looked up: a name that has no time is no answer. So
every answer is the name of a unit of the store. The engine in memory takes the name that the first
unit of the file has, or makes one up from the path; both are text, so it never fails.
-/
namespace CodeIndex

namespace Utf8

def IsText (octets : Bytes) : Prop := ∃ text, encode text = octets

theorem IsText.append {front back : Bytes} (h : IsText front) (h' : IsText back) :
    IsText (front ++ back) := by
  obtain ⟨a, rfl⟩ := h
  obtain ⟨b, rfl⟩ := h'
  exact ⟨a ++ b, encode_append a b⟩

theorem isText_utf8EncodeChar (c : Char) : IsText (String.utf8EncodeChar c) :=
  ⟨String.singleton c, by simp [encode]⟩

theorem utf8EncodeChar_ascii :
    ∀ n < 0x80, String.utf8EncodeChar (Char.ofNat n) = [UInt8.ofNat n] := by decide

/-- Octets below 128 are text. -/
theorem isText_of_ascii {octets : Bytes} (ascii : ∀ b ∈ octets, b < 0x80) : IsText octets := by
  induction octets with
  | nil => exact ⟨"", rfl⟩
  | cons b rest ih =>
    have small : b.toNat < 0x80 := ascii b List.mem_cons_self
    have single : IsText [b] := by
      have octet := utf8EncodeChar_ascii b.toNat small
      rw [UInt8.ofNat_toNat] at octet
      exact octet ▸ isText_utf8EncodeChar _
    exact single.append (ih fun other among => ascii other (List.mem_cons_of_mem b among))

/-- A text has a zero octet when it has a zero character. -/
theorem zero_mem_encode {text : String} : 0 ∈ encode text ↔ hasNul text = true := by
  rw [hasNul, List.contains_iff_mem, encode, List.mem_flatMap]
  constructor
  · rintro ⟨c, among, zero⟩
    by_contra absent
    have notNul : c ≠ '\x00' := fun same => absent (same ▸ among)
    exact utf8EncodeChar_ne_zero notNul 0 zero rfl
  · intro among
    exact ⟨_, among, by decide⟩

end Utf8

namespace DerivedName

open Utf8

theorem lastSegment_append {path more : Bytes} (within : 0x2F ∉ more) :
    lastSegment (path ++ more) = lastSegment path ++ more := by
  have other : ∀ b ∈ more.reverse, (b != 0x2F) = true := by
    intro b among
    rw [bne_iff_ne]
    rintro rfl
    exact within (List.mem_reverse.mp among)
  rw [lastSegment, List.reverse_append, List.takeWhile_append_of_pos other, List.reverse_append,
    List.reverse_reverse, lastSegment]

theorem lastSegment_slash (path : Bytes) : lastSegment (path ++ [0x2F]) = [] := by
  simp [lastSegment]

/-- The last segment of a text is text: a slash stands for itself alone. -/
theorem isText_lastSegment (text : String) : IsText (lastSegment (encode text)) := by
  rw [encode]
  induction text.toList using List.reverseRecOn with
  | nil => exact ⟨"", rfl⟩
  | append_singleton front c ih =>
    rw [List.flatMap_append, List.flatMap_singleton]
    by_cases slash : c = '/'
    · have single : String.utf8EncodeChar '/' = [0x2F] := by decide
      rw [slash, single, lastSegment_slash]
      exact ⟨"", rfl⟩
    · rw [lastSegment_append (mt (slash_mem_utf8EncodeChar c).mp slash)]
      exact ih.append (isText_utf8EncodeChar c)

theorem digit_ascii : ∀ n < 36, digit n < 0x80 ∧ digit n ≠ 0 := by decide

theorem digitsUp_ascii (n : Nat) : ∀ b ∈ digitsUp n, b < 0x80 ∧ b ≠ 0 := by
  induction n using digitsUp.induct with
  | case1 n small =>
    rw [digitsUp, if_pos small]
    simpa using digit_ascii n small
  | case2 n large ih =>
    rw [digitsUp, if_neg large, List.forall_mem_cons]
    exact ⟨digit_ascii (n % 36) (Nat.mod_lt n (by decide)), ih⟩

/-- What stands behind the last segment: a dash and the digits of the hash. -/
theorem suffix_ascii (n : Nat) : ∀ b ∈ 0x2D :: digits n, b < 0x80 ∧ b ≠ 0 := by
  rw [List.forall_mem_cons]
  refine ⟨by decide, fun b among => ?_⟩
  exact digitsUp_ascii n b (List.mem_reverse.mp among)

/-- A name derived from text is text. -/
theorem isText_ofPath (text : String) : IsText (ofPath (encode text)) :=
  (isText_lastSegment text).append (isText_of_ascii fun b among => (suffix_ascii _ b among).1)

theorem ofPath_ne_nil (path : Bytes) : ofPath path ≠ [] := by
  simp [ofPath]

/-- A name derived from octets without a zero has none. -/
theorem zero_notMem_ofPath {path : Bytes} (whole : 0 ∉ path) : 0 ∉ ofPath path := by
  rw [ofPath, List.mem_append, not_or]
  refine ⟨fun zero => whole ?_, fun zero => (suffix_ascii _ 0 zero).2 rfl⟩
  have among := List.mem_reverse.mp zero
  exact List.mem_reverse.mp (List.takeWhile_subset _ among)

end DerivedName

namespace Engine

/-- The unit of a name that an engine derived from a path, if the store has it. -/
def unitOfDerived (e : Engine) (octets : Bytes) : Access (Except Fault (Option String)) := do
  if octets.isEmpty then pure (.ok none)
  else match Utf8.decode octets with
    | .error fault => pure (.error (.malformed (.invalidUtf8 fault)))
    | .ok name => match ← e.unitInstant name with
      | .ok _ => pure (.ok (some name))
      | .error _ => pure (.ok none)

/-- An engine whose lookup of a time fails for the names that no unit has, and for no other. -/
structure TimesUnits (e : Engine) : Prop where
  /-- The order of the names makes no difference to what they are. -/
  ordered : ∀ octets, octets ∈ e.unitNames true ↔ octets ∈ e.unitNames false
  times : ∀ name l, hasNul name = false →
    ((∃ time, (e.unitTime name l).1 = .ok time) ↔ Utf8.encode name ∈ e.unitNames false)

/-- An engine that answers for a path with a unit of the store, or not at all. What it derives from
the path may be any octets. -/
structure AnswersStored (e : Engine) : Prop where
  path : ∀ path l, hasNul path.text = false →
    e.unitForOutput path l = e.unitOfDerived (e.unitNameFor path.text) l
  empty : ∀ l, (e.unitOfDerived [] l).1 = .ok none
  malformed : ∀ octets fault l, Utf8.decode octets = .error fault →
    (e.unitOfDerived octets l).1 = .error (.malformed (.invalidUtf8 fault))
  stored : ∀ octets name l, octets ≠ [] → Utf8.decode octets = .ok name → 0 ∉ octets →
    octets ∈ e.unitNames false → (e.unitOfDerived octets l).1 = .ok (some name)
  other : ∀ octets name l, Utf8.decode octets = .ok name →
    0 ∈ octets ∨ octets ∉ e.unitNames false → (e.unitOfDerived octets l).1 = .ok none
  /-- An answer is one of the names of the units, and has a time. -/
  listed : ∀ octets name l, (e.unitOfDerived octets l).1 = .ok (some name) →
    (∀ sorted l', name ∈ (e.textNames sorted l').1) ∧
      ∀ l', ∃ instant, (e.unitInstant name l').1 = .ok instant

section Deriving

variable {e : Engine} (l : Ledger)

theorem unitForOutput_eq {path : Path} (whole : hasNul path.text = false) :
    e.unitForOutput path = e.unitOfDerived (e.unitNameFor path.text) := by
  rw [unitForOutput, whole]
  rfl

/-- Octets that are text come to the text when it has an instant. -/
theorem unitOfDerived_encode {name : String} (filled : Utf8.encode name ≠ []) :
    (e.unitOfDerived (Utf8.encode name) l).1 =
      match (e.unitInstant name l).1 with
      | .ok _ => .ok (some name)
      | .error _ => .ok none := by
  have some : (Utf8.encode name).isEmpty = false := List.isEmpty_eq_false_iff.mpr filled
  rw [unitOfDerived, some, if_neg Bool.false_ne_true, Utf8.decode_encode]
  dsimp only
  rw [bind_apply]
  cases (e.unitInstant name l).1 <;> rfl

theorem TimesUnits.unitInstant (h : e.TimesUnits) (name : String) :
    (∃ instant, (e.unitInstant name l).1 = .ok instant) ↔
      0 ∉ Utf8.encode name ∧ Utf8.encode name ∈ e.unitNames false := by
  rw [Utf8.zero_mem_encode, Bool.not_eq_true, Engine.unitInstant]
  cases nul : hasNul name with
  | true => simp
  | false =>
    rw [← h.times name l nul]
    simp only [Bool.false_eq_true, if_false, bind_apply, true_and]
    cases (e.unitTime name l).1 <;> simp

/-- Octets that are no text are a fault. -/
theorem unitOfDerived_malformed {octets : Bytes} {fault : Utf8.Fault}
    (bad : Utf8.decode octets = .error fault) :
    (e.unitOfDerived octets l).1 = .error (.malformed (.invalidUtf8 fault)) := by
  have filled : octets.isEmpty = false := by
    rw [List.isEmpty_eq_false_iff]
    rintro rfl
    exact nomatch bad.symm.trans (Utf8.decode_encode "")
  rw [unitOfDerived, filled, if_neg Bool.false_ne_true, bad]
  rfl

/-- Text is answered with when it is the name of a unit that can be asked for. -/
theorem TimesUnits.unitOfDerived_encode (h : e.TimesUnits) (name : String) :
    (e.unitOfDerived (Utf8.encode name) l).1 =
      .ok (if Utf8.encode name ≠ [] ∧ 0 ∉ Utf8.encode name ∧ Utf8.encode name ∈ e.unitNames false
        then some name else none) := by
  by_cases filled : Utf8.encode name = []
  · rw [filled]
    rfl
  · have instant := h.unitInstant l name
    rw [Engine.unitOfDerived_encode l filled]
    cases told : (e.unitInstant name l).1 with
    | ok time => rw [if_pos ⟨filled, instant.mp ⟨time, told⟩⟩]
    | error fault =>
      rw [if_neg]
      rintro ⟨_, known⟩
      obtain ⟨time, told'⟩ := instant.mpr known
      exact nomatch told.symm.trans told'

/-- The names as text are those whose octets are names. -/
theorem mem_textNames {name : String} {sorted : Bool} :
    name ∈ (e.textNames sorted l).1 ↔ Utf8.encode name ∈ e.unitNames sorted := by
  have text : (Utf8.decode (Utf8.encode name)).isOk = true := by
    rw [Utf8.decode_encode]
    rfl
  have among := congrArg (Utf8.encode name ∈ ·) (encode_textNames e sorted l)
  simpa [List.mem_filter, text, Utf8.encode_inj] using among

theorem TimesUnits.answersStored (h : e.TimesUnits) : e.AnswersStored where
  path _ l whole := congrFun (unitForOutput_eq whole) l
  empty _ := rfl
  malformed _ _ l bad := unitOfDerived_malformed l bad
  stored octets name l filled read whole known := by
    obtain rfl := Utf8.encode_of_decode read
    rw [h.unitOfDerived_encode l name, if_pos ⟨filled, whole, known⟩]
  other octets name l read unknown := by
    obtain rfl := Utf8.encode_of_decode read
    rw [h.unitOfDerived_encode l name, if_neg]
    rintro ⟨_, whole, known⟩
    exact unknown.elim whole fun absent => absent known
  listed octets name l answer := by
    cases read : Utf8.decode octets with
    | error fault => exact nomatch (unitOfDerived_malformed l read).symm.trans answer
    | ok text =>
      obtain rfl := Utf8.encode_of_decode read
      rw [h.unitOfDerived_encode l text, Except.ok.injEq] at answer
      split at answer
      case isTrue known =>
        obtain rfl := Option.some.inj answer
        refine ⟨fun sorted l' => (mem_textNames l').mpr ?_, fun l' => ?_⟩
        · cases sorted with
          | false => exact known.2.2
          | true => exact (h.ordered _).mpr known.2.2
        · exact (h.unitInstant l' text).mpr known.2
      case isFalse => nomatch answer

end Deriving

end Engine

section Engines

/-- In memory a name has a time when a unit has the name. -/
theorem Tables.exists_unitTime (t : Tables) (name : String) :
    (∃ time, t.unitTime name = .ok time) ↔ Utf8.encode name ∈ t.unitNames false := by
  have named : Utf8.encode name ∈ t.unitNames false ↔ ∃ row ∈ t.units, row.entry.name = name := by
    simp [Tables.unitNames, Utf8.encode_inj]
  rw [named, Tables.unitTime, Tables.unit?]
  cases found : t.units.findIdx? (·.entry.name == name) with
  | none => simpa using found
  | some i =>
    obtain ⟨row, stands, bears⟩ := getElem?_of_findIdx? found
    refine ⟨fun _ => ⟨row, List.mem_of_getElem? stands, by simpa using bears⟩, fun _ => ⟨_, rfl⟩⟩

theorem Tables.timesUnits (t : Tables) (settings : MemorySettings) :
    (t.engine settings).TimesUnits where
  ordered _ := (perm_unitNames t).mem_iff
  times name _ _ := t.exists_unitTime name

theorem NativeLibrary.timesUnits (lib : NativeLibrary) : lib.engine.TimesUnits where
  ordered _ := by
    rw [lib.engine_unitNames, lib.engine_unitNames]
    exact (List.mergeSort_perm _ _).mem_iff
  times name l _ := by
    have named : Utf8.encode name ∈ lib.engine.unitNames false ↔
        ∃ u ∈ lib.contents.units, u.name.octets = Utf8.encode name := by
      rw [lib.engine_unitNames]
      exact List.mem_map
    have answer : (lib.engine.unitTime name l).1 =
        (lib.unitTime name).mapError NativeFailure.report := Native.timed_fst _ l
    rw [named, answer, NativeLibrary.unitTime, NativeLibrary.unit?]
    cases found : lib.contents.units.find? (·.name.octets == Utf8.encode name) with
    | none => simpa [Except.mapError] using found
    | some u =>
      have bears := List.find?_some found
      exact ⟨fun _ => ⟨u, List.mem_of_find?_eq_some found, by simpa using bears⟩,
        fun _ => ⟨_, rfl⟩⟩

end Engines

/-- How an engine that shows declared contents answers for a path. It takes the name of the first
unit that is declared to write the file, and otherwise the derived one. -/
structure AnswersDeclared (c : Contents String String) (e : Engine) : Prop where
  total : ∀ path l, hasNul path.text = false → ∃ found, (e.unitForOutput path l).1 = .ok found
  written : ∀ path row u l, hasNul path.text = false →
    FirstNamed (·.outputFile) c.units path.text row u →
    (e.unitForOutput path l).1 =
      .ok (if u.name = "" ∨ hasNul u.name = true then none else some u.name)
  derived : ∀ path name l, hasNul path.text = false →
    (∀ u ∈ c.units, u.outputFile ≠ path.text) →
    ((e.unitForOutput path l).1 = .ok (some name) ↔ (∃ u ∈ c.units, u.name = name) ∧
      Utf8.encode name = DerivedName.ofPath (Utf8.encode path.text))

section Memory

variable (c : Contents String String) (settings : MemorySettings) {path : Path} (l : Ledger)

theorem mem_unitNames_ofContents {name : String} :
    Utf8.encode name ∈ (Tables.ofContents c).unitNames false ↔ ∃ u ∈ c.units, u.name = name := by
  rw [unitNames_ofContents]
  simp [Contents.declaredNames, Utf8.encode_inj]

/-- What the engine in memory answers when it goes by a name. -/
theorem unitForOutput_named {text : String} (whole : hasNul path.text = false)
    (named : (Tables.ofContents c).unitNameFor path.text = Utf8.encode text) :
    (((Tables.ofContents c).engine settings).unitForOutput path l).1 =
      .ok (if text ≠ "" ∧ hasNul text = false ∧ ∃ u ∈ c.units, u.name = text then some text
        else none) := by
  have answer := ((Tables.ofContents c).timesUnits settings).unitOfDerived_encode l text
  have filled : Utf8.encode text ≠ [] ↔ text ≠ "" := not_congr (Utf8.encode_eq_nil text)
  have fit : 0 ∉ Utf8.encode text ↔ hasNul text = false := by
    rw [Utf8.zero_mem_encode, Bool.not_eq_true]
  have derived : ((Tables.ofContents c).engine settings).unitNameFor path.text =
      Utf8.encode text := named
  rw [Engine.unitForOutput_eq whole, derived, answer]
  exact congrArg Except.ok
    (if_congr (and_congr filled (and_congr fit (mem_unitNames_ofContents c))) rfl rfl)

/-- The name the engine in memory goes by is text. -/
theorem isText_unitNameFor (text : String) :
    Utf8.IsText ((Tables.ofContents c).unitNameFor text) := by
  rw [(Tables.ofContents_holds c).unitNameFor]
  split
  case h_1 u _ => exact ⟨u.name, rfl⟩
  case h_2 => exact DerivedName.isText_ofPath text

theorem answersDeclared : AnswersDeclared c ((Tables.ofContents c).engine settings) where
  total path l whole := by
    obtain ⟨text, named⟩ := isText_unitNameFor c path.text
    exact ⟨_, unitForOutput_named c settings l whole named.symm⟩
  written path row u l whole first := by
    obtain ⟨found, stands⟩ := firstNamed_iff.mp first
    have writes : c.units.find? (·.outputFile == path.text) = some u := by
      rw [List.find?_eq_bind_findIdx?_getElem?, found]
      exact stands
    have named : (Tables.ofContents c).unitNameFor path.text = Utf8.encode u.name := by
      rw [(Tables.ofContents_holds c).unitNameFor, writes]
    have known : ∃ other ∈ c.units, other.name = u.name := ⟨u, List.mem_of_getElem? stands, rfl⟩
    rw [unitForOutput_named c settings l whole named, Except.ok.injEq]
    by_cases empty : u.name = ""
    · rw [if_neg fun stored => stored.1 empty, if_pos (.inl empty)]
    · cases nul : hasNul u.name with
      | true => simp
      | false => simp [empty, known]
  derived path name l whole unwritten := by
    have writes : c.units.find? (·.outputFile == path.text) = none := by
      simpa [List.find?_eq_none] using unwritten
    have octets : (Tables.ofContents c).unitNameFor path.text =
        DerivedName.ofPath (Utf8.encode path.text) := by
      rw [(Tables.ofContents_holds c).unitNameFor, writes]
    obtain ⟨text, named⟩ := DerivedName.isText_ofPath path.text
    have filled : text ≠ "" := by
      rw [Ne, ← Utf8.encode_eq_nil, named]
      exact DerivedName.ofPath_ne_nil _
    have fit : hasNul text = false := by
      rw [← Bool.not_eq_true, ← Utf8.zero_mem_encode, named]
      refine DerivedName.zero_notMem_ofPath ?_
      rw [Utf8.zero_mem_encode, Bool.not_eq_true]
      exact whole
    rw [unitForOutput_named c settings l whole (octets.trans named.symm), ← named, Utf8.encode_inj]
    constructor
    · intro answer
      rw [Except.ok.injEq] at answer
      split at answer
      case isTrue stored =>
        obtain rfl := Option.some.inj answer
        exact ⟨stored.2.2, rfl⟩
      case isFalse => nomatch answer
    · rintro ⟨known, rfl⟩
      rw [if_pos ⟨filled, fit, known⟩]

end Memory

/-- Every answer for an output file is a unit of the store: for any engine that times its units, for
all tables in memory and for all native libraries. In memory the answer goes by the declarations,
and there always is one. -/
theorem output_names_stored :
    (∀ e : Engine, e.TimesUnits → e.AnswersStored) ∧
    (∀ (c : Contents String String) (settings : MemorySettings),
      ((Tables.ofContents c).engine settings).AnswersStored ∧
      AnswersDeclared c ((Tables.ofContents c).engine settings)) ∧
    ∀ lib : NativeLibrary, lib.engine.AnswersStored :=
  ⟨fun _ times => times.answersStored,
    fun c settings =>
      ⟨((Tables.ofContents c).timesUnits settings).answersStored, answersDeclared c settings⟩,
    fun lib => lib.timesUnits.answersStored⟩

/-- A native library where `b.o` is written by a unit that it names and times. -/
theorem output_names_stored_library :
    let e := (Contents.uneven.library RawString.sparing {} []).engine
    e.TimesUnits ∧ e.AnswersStored ∧ (e.unitForOutput ⟨"b.o"⟩ {}).1 = .ok (some "b") := by
  intro e
  have times : e.TimesUnits := NativeLibrary.timesUnits _
  have answers := output_names_stored.1 e times
  refine ⟨times, answers, ?_⟩
  have writes : Contents.uneven.units.find? (·.outputFile == "b.o") =
      some (UnitEntry.bare "b" "b.o") := rfl
  have named : e.unitNameFor "b.o" = Utf8.encode "b" :=
    native_unitNameFor RawString.octets_sparing Contents.uneven {} [] writes
  rw [answers.path ⟨"b.o"⟩ {} (by decide), named]
  exact answers.stored _ "b" {} (by decide) (Utf8.decode_encode "b") (by decide) (by decide)

end CodeIndex
