import CodeIndex.Proofs.Alike
import CodeIndex.Proofs.Served
import CodeIndex.Store.Cursor
import CodeIndex.Store.Inputs
import CodeIndex.Store.Snapshot
/-!
# Agreement of engines

The same declared contents may stand in the tables of the engine in memory or behind the functions
of a native library. Every query of the access layer has the same answer from both, whatever either
has handed out so far. What a client cannot tell apart is left out of the comparison: the handles
behind what it opened, and the words in which an engine says that a name is not there.
-/
namespace CodeIndex

/-- What a client can tell of an open unit: all but its handle. -/
def OpenUnit.seen (u : OpenUnit) : String × UnitReader := (u.name, u.reader)

/-- What a client can tell of an open record, but for ranges of lines that end beyond 32 bits. -/
def OpenRecord.seen (r : OpenRecord) : String × Option Path × RecordReader :=
  (r.name, r.file, r.reader.bounded)

def RecordCursor.seen (cursor : RecordCursor) : (String × UnitReader) × Option (List RecordName) :=
  (cursor.unit.seen, cursor.pending)

namespace Contents

def hasUnit (c : Contents String String) (name : String) : Bool := c.units.any (·.name == name)

def hasRecord (c : Contents String String) (name : String) : Bool :=
  c.records.any (·.name == name)

/-- A fault without the words of an engine for a name that is not there. A name with a zero in it
never reaches an engine. -/
def plain (c : Contents String String) : Fault → Fault
  | .unitOpen name message =>
    .unitOpen name (if c.hasUnit name || hasNul name then message else "")
  | .recordOpen name message =>
    .recordOpen name (if c.hasRecord name || hasNul name then message else "")
  | fault => fault

def told {α β : Type} (c : Contents String String) (seen : α → β) (outcome : Except Fault α) :
    Except Fault β :=
  (outcome.map seen).mapError c.plain

end Contents

def Fault.wordless : Fault → Fault
  | .engine _ => .engine ""
  | fault => fault

/-- Opens the units inside an enumeration for a visitor with a state of its own. -/
def Engine.visitUnits {σ β : Type} (e : Engine) (c : Contents String String) (sorted : Bool)
    (discard : β → StateM σ Unit)
    (visit : Except Fault (String × UnitReader) → StateM σ (Option β)) :
    StateT σ Access (Option β) :=
  e.findUnit sorted (fun value => aside (discard value)) fun outcome =>
    aside (visit (c.told OpenUnit.seen outcome))

def Engine.visitRecords {σ β : Type} (e : Engine) (c : Contents String String) (u : OpenUnit)
    (discard : β → StateM σ Unit)
    (visit : Except Fault (String × Option Path × RecordReader) → StateM σ (Option β)) :
    StateT σ Access (Option β) :=
  u.findRecord e (fun value => aside (discard value)) fun outcome =>
    aside (visit (c.told OpenRecord.seen outcome))

/-- Two open units of which every query has the same answer. -/
structure SameUnit (c : Contents String String) (e e' : Engine) (u u' : OpenUnit) : Prop where
  snapshot : u.snapshot = u'.snapshot
  describe : u.describe = u'.describe
  written : u.written = u'.written
  includes : (u.includes e).SameVisits (u'.includes e')
  dependencies : (u.dependencies e).SameVisits (u'.dependencies e')
  unitNames : (u.dependencyUnitNames e).Alike (u'.dependencyUnitNames e')
  inputFiles : (u.inputFiles e).Alike (u'.inputFiles e')
  staleness : ∀ files, (u.staleness e files).Alike (u'.staleness e' files)
  nextRecord : ∀ pending,
    ((fun p => (p.1.map (c.told OpenRecord.seen), p.2.seen)) <$>
      (RecordCursor.mk u pending).next e).Alike
    ((fun p => (p.1.map (c.told OpenRecord.seen), p.2.seen)) <$>
      (RecordCursor.mk u' pending).next e')
  pullRecords : ∀ pending limit,
    (List.map (c.told OpenRecord.seen) <$> (RecordCursor.mk u pending).pull e limit).Alike
      (List.map (c.told OpenRecord.seen) <$> (RecordCursor.mk u' pending).pull e' limit)
  visitRecords : ∀ {σ β : Type} (discard : β → StateM σ Unit)
    (visit : Except Fault (String × Option Path × RecordReader) → StateM σ (Option β)) (s : σ),
    ((e.visitRecords c u discard visit).run s).Alike ((e'.visitRecords c u' discard visit).run s)

structure SameRecord (e e' : Engine) (r r' : OpenRecord) : Prop where
  describe : r.describe = r'.describe
  symbols : (r.symbols e).SameVisits (r'.symbols e')
  occurrences : (r.occurrences e none).SameVisits (r'.occurrences e' none)
  lines : ∀ start count : UInt32, start.toNat + count.toNat < UInt32.size →
    (r.occurrences e (some (start, count))).SameVisits (r'.occurrences e' (some (start, count)))
  relations : ∀ o : Occurrence, (o.lendRelations e).SameVisits (o.lendRelations e')
  snapshot : ∀ o : Occurrence, (o.snapshot e).Alike (o.snapshot e')

/-- Two engines of which every query has the same answer. -/
structure SameAnswers (c : Contents String String) (e e' : Engine) : Prop where
  openStore : ∀ lib lib' files path, lib.engine = e → lib'.engine = e' →
    ((fun outcome => outcome.map Store.path) <$> Store.openAt lib files path).Alike
      ((fun outcome => outcome.map Store.path) <$> Store.openAt lib' files path)
  names : ∀ sorted, (e.names sorted).SameVisits (e'.names sorted)
  textNames : ∀ sorted, (e.textNames sorted).Alike (e'.textNames sorted)
  openUnit : ∀ name, (c.told OpenUnit.seen <$> e.openUnit name).Alike
    (c.told OpenUnit.seen <$> e'.openUnit name)
  openRecord : ∀ name file, (c.told OpenRecord.seen <$> e.openRecord name file).Alike
    (c.told OpenRecord.seen <$> e'.openRecord name file)
  unitInstant : ∀ name, c.hasUnit name || hasNul name →
    (e.unitInstant name).Alike (e'.unitInstant name)
  unitInstant_absent : ∀ name, ((·.mapError Fault.wordless) <$> e.unitInstant name).Alike
    ((·.mapError Fault.wordless) <$> e'.unitInstant name)
  unitForOutput : ∀ path : Path, (∃ u ∈ c.units, u.outputFile = path.text) →
    (e.unitForOutput path).Alike (e'.unitForOutput path)
  nextUnit : ∀ cursor : UnitCursor,
    ((fun p => (p.1.map (c.told OpenUnit.seen), p.2)) <$> cursor.next e).Alike
      ((fun p => (p.1.map (c.told OpenUnit.seen), p.2)) <$> cursor.next e')
  pullUnits : ∀ (cursor : UnitCursor) limit,
    (List.map (c.told OpenUnit.seen) <$> cursor.pull e limit).Alike
      (List.map (c.told OpenUnit.seen) <$> cursor.pull e' limit)
  visitUnits : ∀ {σ β : Type} sorted (discard : β → StateM σ Unit)
    (visit : Except Fault (String × UnitReader) → StateM σ (Option β)) (s : σ),
    ((e.visitUnits c sorted discard visit).run s).Alike
      ((e'.visitUnits c sorted discard visit).run s)
  unit : ∀ u u' : OpenUnit, u.seen = u'.seen → SameUnit c e e' u u'
  record : ∀ r r' : OpenRecord, r.seen = r'.seen → SameRecord e e' r r'

/-- The engine in memory and bound native functions open the same units and records, and every
getter of the one answers as that of the other. -/
structure SameGetters {P : Pointee → Type} (t : Tables) (f : NativeFunctions P) : Prop where
  unit : ∀ name handle, t.openUnit name = .ok handle →
    ∃ unit, f.unit name = .ok unit ∧ t.accessors.AgreeOnUnit f.accessors handle unit
  unit_of : ∀ name unit, f.unit name = .ok unit →
    ∃ handle, t.openUnit name = .ok handle ∧ t.accessors.AgreeOnUnit f.accessors handle unit
  record : ∀ name handle, t.openRecord name = .ok handle →
    ∃ record, f.record name = .ok record ∧ t.accessors.AgreeOnRecord f.accessors handle record
  record_of : ∀ name record, f.record name = .ok record →
    ∃ handle, t.openRecord name = .ok handle ∧ t.accessors.AgreeOnRecord f.accessors handle record

namespace Contents

variable (c : Contents String String) (name : String)

def openedUnit : Except Fault (String × UnitReader) :=
  if hasNul name then .error (.unitOpen name "unit name contains a NUL byte")
  else ((c.unitAnswer "" name).map fun reader => (name, reader)).mapError (.unitOpen name)

def openedRecord (file : Option Path) : Except Fault (String × Option Path × RecordReader) :=
  if hasNul name then .error (.recordOpen name "record name contains a NUL byte")
  else ((c.recordAnswer "" name).map fun reader => (name, file, reader)).mapError
    (.recordOpen name)

variable {c name}

theorem hasUnit_eq : c.hasUnit name = (c.units.find? (·.name == name)).isSome := by
  rw [hasUnit, List.isSome_find?]

theorem hasRecord_eq : c.hasRecord name = (c.records.find? (·.name == name)).isSome := by
  rw [hasRecord, List.isSome_find?]

/-- Without the words for a name that is not there, an answer is told by the first entry alone. -/
theorem firstAnswer_plain {τ α β : Type} {first : Option τ} {failure : τ → Option String}
    {reader : τ → α} {absent : String} {seen : α → β} {fault : String → Fault}
    (words : ∀ message, c.plain (fault message) = fault (if first.isSome then message else "")) :
    ((firstAnswer first failure reader absent).map seen).mapError (fun m => c.plain (fault m)) =
      ((firstAnswer first failure reader "").map seen).mapError fault := by
  cases first with
  | none => exact congrArg Except.error (words absent)
  | some entry =>
    rw [firstAnswer, firstAnswer]
    cases failure entry with
    | some message => exact congrArg Except.error (words message)
    | none => rfl

end Contents

namespace Answers

variable {c : Contents String String} {settings : MemorySettings} {e e' : Engine}

theorem openUnit_told (h : Answers c settings e) (name : String) (l : Ledger) :
    c.told OpenUnit.seen (e.openUnit name l).1 = c.openedUnit name := by
  rw [Contents.openedUnit]
  cases nul : hasNul name with
  | true => simp [Engine.openUnit, Contents.told, Contents.plain, Except.map, Except.mapError, nul]
  | false =>
    obtain ⟨absent, answer⟩ := h.unit name l
    have passed : c.told OpenUnit.seen (e.openUnit name l).1 =
        ((c.unitAnswer absent name).map fun reader => (name, reader)).mapError
          fun message => c.plain (.unitOpen name message) := by
      rw [← answer, Engine.openUnit, nul]
      simp only [Bool.false_eq_true, if_false, bind_apply]
      cases (e.createUnit name l).1 <;> rfl
    rw [passed]
    refine Contents.firstAnswer_plain fun message => ?_
    rw [Contents.plain, nul, Bool.or_false, Contents.hasUnit_eq]

theorem openRecord_told (h : Answers c settings e) (name : String) (file : Option Path)
    (l : Ledger) :
    c.told OpenRecord.seen (e.openRecord name file l).1 = c.openedRecord name file := by
  rw [Contents.openedRecord]
  cases nul : hasNul name with
  | true =>
    simp [Engine.openRecord, Contents.told, Contents.plain, Except.map, Except.mapError, nul]
  | false =>
    obtain ⟨absent, answer⟩ := h.record name l
    have passed : c.told OpenRecord.seen (e.openRecord name file l).1 =
        ((c.recordAnswer absent name).map fun reader => (name, file, reader)).mapError
          fun message => c.plain (.recordOpen name message) := by
      rw [← answer, Engine.openRecord, nul]
      simp only [Bool.false_eq_true, if_false, bind_apply]
      cases (e.createRecord name l).1 <;> rfl
    rw [passed]
    refine Contents.firstAnswer_plain fun message => ?_
    rw [Contents.plain, nul, Bool.or_false, Contents.hasRecord_eq]

/-- The time of a unit that is there. -/
theorem unitInstant_declared (h : Answers c settings e) {name : String}
    {u : UnitEntry String String} (found : c.units.find? (·.name == name) = some u)
    (noNul : hasNul name = false) (l : Ledger) :
    (e.unitInstant name l).1 = .ok u.modified.toInstant := by
  obtain ⟨absent, answer⟩ := h.unitTime name l
  rw [Contents.timeAnswer, found] at answer
  simp [Engine.unitInstant, noNul, answer]

/-- There is no time of a unit that is not there. -/
theorem unitInstant_absent (h : Answers c settings e) {name : String}
    (found : c.units.find? (·.name == name) = none) (noNul : hasNul name = false) (l : Ledger) :
    ∃ message, (e.unitInstant name l).1 = .error (.engine message) := by
  obtain ⟨absent, answer⟩ := h.unitTime name l
  rw [Contents.timeAnswer, found] at answer
  exact ⟨absent, by simp [Engine.unitInstant, noNul, answer]⟩

theorem unitInstant_nul {name : String} (nul : hasNul name = true) (l : Ledger) :
    (e.unitInstant name l).1 = .error (.engine s!"unit name {Text.quote name} contains NUL") := by
  simp [Engine.unitInstant, nul]

/-- The unit of a file that some unit writes is there, unless its name cannot be asked for. -/
theorem unitForOutput_written (h : Answers c settings e) {path : Path}
    {u : UnitEntry String String} (writes : c.units.find? (·.outputFile == path.text) = some u)
    (l : Ledger) : (e.unitForOutput path l).1 =
      if hasNul path.text then .error (.store (.invalidPath path))
      else .ok (if u.name = "" ∨ hasNul u.name = true then none else some u.name) := by
  have octets := h.unitNameFor path.text u writes
  rw [Engine.unitForOutput]
  split
  · rfl
  · dsimp only
    rw [octets]
    by_cases empty : u.name = ""
    · have none : (Utf8.encode u.name).isEmpty = true := by rw [empty]; rfl
      rw [if_pos none, if_pos (.inl empty)]
      rfl
    · have some : (Utf8.encode u.name).isEmpty = false := by
        rw [List.isEmpty_eq_false_iff]
        exact fun nothing => empty (Utf8.encode_inj.mp nothing)
      rw [some, if_neg (by simp), Utf8.decode_encode]
      dsimp only
      rw [bind_apply]
      cases nul : hasNul u.name with
      | true => simp [unitInstant_nul nul]
      | false =>
        cases found : c.units.find? (·.name == u.name) with
        | none =>
          have declared := List.mem_of_find?_eq_some writes
          exact absurd (by simp) (List.find?_eq_none.mp found u declared)
        | some first =>
          have time := h.unitInstant_declared found nul l
          simp [time, empty]

/-- What opening a store comes to. -/
theorem openStore_told (h : Answers c settings e) {lib : Library} (he : lib.engine = e)
    (files : FileSystem NativeLibrary) (path : Path) (l : Ledger) :
    (Store.openAt lib files path l).1.map Store.path =
      match Store.check files path settings.formatVersion with
      | .error fault => .error fault
      | .ok _ =>
        if hasNul path.text then .error (.invalidPath path)
        else match settings.storeFailure with
          | some message => .error (.engine path message)
          | none => .ok path := by
  have answer := h.store path.text l
  rw [Store.openAt, he, h.formatVersion]
  cases Store.check files path settings.formatVersion with
  | error fault => rfl
  | ok checked =>
    dsimp only
    split
    · rfl
    · rw [bind_apply]
      cases outcome : (e.createStore path.text l).1 with
      | error message =>
        rw [outcome] at answer
        cases failure : settings.storeFailure with
        | some m => simpa [failure, Except.map] using answer
        | none => simp [failure, Except.map] at answer
      | ok handle =>
        rw [outcome] at answer
        cases failure : settings.storeFailure with
        | some m => simp [failure, Except.map] at answer
        | none => rfl

/-- The same unit has the same inputs from any engine. -/
theorem inputFiles_alike {u u' : OpenUnit} (same : u.seen = u'.seen) :
    (u.inputFiles e).Alike (u'.inputFiles e') := by
  have readers : u.reader = u'.reader := congrArg Prod.snd same
  have items : (u.dependencies e).items = (u'.dependencies e').items :=
    congrArg UnitReader.dependencies readers
  have met (found : List Dependency) : u.metInputs found = u'.metInputs found := by
    rw [OpenUnit.metInputs, OpenUnit.metInputs, OpenUnit.mainInput, OpenUnit.mainInput, readers]
  refine (toList_alike items).bind fun found => ?_
  rw [met]
  exact fun _ _ => rfl

variable (h : Answers c settings e) (h' : Answers c settings e')
include h h'

theorem heeds_alike : e.conduct.heedsStop = e'.conduct.heedsStop :=
  h.heedsStop.trans h'.heedsStop.symm

theorem names_alike (sorted : Bool) : (e.names sorted).items = (e'.names sorted).items :=
  (h.unitNames sorted).trans (h'.unitNames sorted).symm

theorem openUnit_alike (name : String) :
    (c.told OpenUnit.seen <$> e.openUnit name).Alike (c.told OpenUnit.seen <$> e'.openUnit name) :=
  fun l l' => (h.openUnit_told name l).trans (h'.openUnit_told name l').symm

theorem openNamedUnit_alike (name : Except Fault String) :
    (c.told OpenUnit.seen <$> e.openNamedUnit name).Alike
      (c.told OpenUnit.seen <$> e'.openNamedUnit name) := by
  cases name with
  | error fault => exact fun _ _ => rfl
  | ok name => exact openUnit_alike h h' name

theorem openRecord_alike (name : String) (file : Option Path) :
    (c.told OpenRecord.seen <$> e.openRecord name file).Alike
      (c.told OpenRecord.seen <$> e'.openRecord name file) :=
  fun l l' => (h.openRecord_told name file l).trans (h'.openRecord_told name file l').symm

theorem openDependency_alike (d : Dependency) :
    (c.told OpenRecord.seen <$> e.openDependency d).Alike
      (c.told OpenRecord.seen <$> e'.openDependency d) := by
  rw [Engine.openDependency, Engine.openDependency]
  split
  · exact fun _ _ => rfl
  · exact openRecord_alike h h' _ _

theorem openStore_alike {lib lib' : Library} (he : lib.engine = e) (he' : lib'.engine = e')
    (files : FileSystem NativeLibrary) (path : Path) :
    ((fun outcome => outcome.map Store.path) <$> Store.openAt lib files path).Alike
      ((fun outcome => outcome.map Store.path) <$> Store.openAt lib' files path) :=
  fun l l' => (h.openStore_told he files path l).trans (h'.openStore_told he' files path l').symm

/-- A fault in asking for a time differs in its words alone, and only if there is no such unit. -/
theorem unitInstant_alike (name : String) :
    (c.hasUnit name || hasNul name → (e.unitInstant name).Alike (e'.unitInstant name)) ∧
    ((·.mapError Fault.wordless) <$> e.unitInstant name).Alike
      ((·.mapError Fault.wordless) <$> e'.unitInstant name) := by
  cases nul : hasNul name with
  | true =>
    have same : (e.unitInstant name).Alike (e'.unitInstant name) := fun l l' =>
      (unitInstant_nul nul l).trans (unitInstant_nul nul l').symm
    exact ⟨fun _ => same, same.map _⟩
  | false =>
    cases found : c.units.find? (·.name == name) with
    | some u =>
      have same : (e.unitInstant name).Alike (e'.unitInstant name) := fun l l' =>
        (h.unitInstant_declared found nul l).trans (h'.unitInstant_declared found nul l').symm
      exact ⟨fun _ => same, same.map _⟩
    | none =>
      refine ⟨fun declared => ?_, fun l l' => ?_⟩
      · rw [Contents.hasUnit_eq, found] at declared
        exact nomatch declared
      · obtain ⟨message, told⟩ := h.unitInstant_absent found nul l
        obtain ⟨message', told'⟩ := h'.unitInstant_absent found nul l'
        rw [map_apply, map_apply, told, told']
        rfl

theorem unitForOutput_alike {path : Path} (written : ∃ u ∈ c.units, u.outputFile = path.text) :
    (e.unitForOutput path).Alike (e'.unitForOutput path) := by
  cases found : c.units.find? (·.outputFile == path.text) with
  | none =>
    obtain ⟨u, declared, writes⟩ := written
    exact absurd (by simpa using writes) (List.find?_eq_none.mp found u declared)
  | some u =>
    exact fun l l' =>
      (h.unitForOutput_written found l).trans (h'.unitForOutput_written found l').symm

theorem nextUnit_alike (cursor : UnitCursor) :
    ((fun p => (p.1.map (c.told OpenUnit.seen), p.2)) <$> cursor.next e).Alike
      ((fun p => (p.1.map (c.told OpenUnit.seen), p.2)) <$> cursor.next e') := by
  have gather : (cursor.gather e).Alike (cursor.gather e') := by
    rw [UnitCursor.gather, UnitCursor.gather]
    cases cursor.pending with
    | some names => exact fun _ _ => rfl
    | none => exact mapCollect_alike (names_alike h h' cursor.sorted) _
  rw [UnitCursor.next, UnitCursor.next, map_bind, map_bind]
  refine gather.bind fun names => ?_
  cases names with
  | nil => exact fun _ _ => rfl
  | cons name rest =>
    exact (openNamedUnit_alike h h' name).map
      fun told => (some told, { cursor with pending := some rest })

theorem pullUnits_alike (cursor : UnitCursor) (limit : Nat) :
    (List.map (c.told OpenUnit.seen) <$> cursor.pull e limit).Alike
      (List.map (c.told OpenUnit.seen) <$> cursor.pull e' limit) := by
  induction limit generalizing cursor with
  | zero => exact fun _ _ => rfl
  | succ limit ih =>
    rw [UnitCursor.pull, UnitCursor.pull, map_bind, map_bind]
    refine (nextUnit_alike h h' cursor).bind_told fun p p' same => ?_
    obtain ⟨outcome, rest⟩ := p
    obtain ⟨outcome', rest'⟩ := p'
    obtain ⟨told, rfl⟩ := Prod.mk.inj same
    match outcome, outcome', told with
    | none, none, _ => exact fun _ _ => rfl
    | some opened, some opened', told =>
      exact (ih rest).cons (Option.some.inj told)

theorem visitUnits_alike {σ β : Type} (sorted : Bool) (discard : β → StateM σ Unit)
    (visit : Except Fault (String × UnitReader) → StateM σ (Option β)) :
    Beside (e.visitUnits c sorted discard visit) (e'.visitUnits c sorted discard visit) :=
  beside_find (names_alike h h' sorted) (heeds_alike h h') discard fun octets =>
    beside_told (openNamedUnit_alike h h' (Engine.readName octets)) visit

theorem nextRecord_alike {u u' : OpenUnit} (same : u.seen = u'.seen)
    (pending : Option (List RecordName)) :
    ((fun p => (p.1.map (c.told OpenRecord.seen), p.2.seen)) <$>
      (RecordCursor.mk u pending).next e).Alike
    ((fun p => (p.1.map (c.told OpenRecord.seen), p.2.seen)) <$>
      (RecordCursor.mk u' pending).next e') := by
  have left (names : List RecordName) :
      (RecordCursor.mk u (some names)).seen = (RecordCursor.mk u' (some names)).seen :=
    congrArg (·, some names) same
  have gather : ((RecordCursor.mk u pending).gather e).Alike
      ((RecordCursor.mk u' pending).gather e') := by
    rw [RecordCursor.gather, RecordCursor.gather]
    cases pending with
    | some names => exact fun _ _ => rfl
    | none =>
      have items : (u.dependencies e).items = (u'.dependencies e').items :=
        congrArg (UnitReader.dependencies ∘ Prod.snd) same
      exact (toList_alike items).map fun found => found.filterMap Dependency.recordName?
  rw [RecordCursor.next, RecordCursor.next, map_bind, map_bind]
  refine gather.bind fun names => ?_
  cases names with
  | nil => exact fun _ _ => congrArg (none, ·) (left [])
  | cons entry rest =>
    rw [map_bind, map_bind]
    have opens := openRecord_alike h h' entry.1 (some entry.2)
    refine opens.bind_told fun opened opened' told _ _ => ?_
    exact congrArg₂ (fun outcome seen => (some outcome, seen)) told (left rest)

theorem pullRecords_alike {u u' : OpenUnit} (same : u.seen = u'.seen)
    (pending : Option (List RecordName)) (limit : Nat) :
    (List.map (c.told OpenRecord.seen) <$> (RecordCursor.mk u pending).pull e limit).Alike
      (List.map (c.told OpenRecord.seen) <$> (RecordCursor.mk u' pending).pull e' limit) := by
  induction limit generalizing u u' pending with
  | zero => exact fun _ _ => rfl
  | succ limit ih =>
    rw [RecordCursor.pull, RecordCursor.pull, map_bind, map_bind]
    refine (nextRecord_alike h h' same pending).bind_told fun p p' same => ?_
    obtain ⟨outcome, ⟨u, rest⟩⟩ := p
    obtain ⟨outcome', ⟨u', rest'⟩⟩ := p'
    obtain ⟨told, left⟩ := Prod.mk.inj same
    obtain ⟨same, rfl⟩ := Prod.mk.inj left
    match outcome, outcome', told with
    | none, none, _ => exact fun _ _ => rfl
    | some opened, some opened', told => exact (ih same rest).cons (Option.some.inj told)

theorem visitRecords_alike {u u' : OpenUnit} (same : u.seen = u'.seen) {σ β : Type}
    (discard : β → StateM σ Unit)
    (visit : Except Fault (String × Option Path × RecordReader) → StateM σ (Option β)) :
    Beside (e.visitRecords c u discard visit) (e'.visitRecords c u' discard visit) := by
  have items : (u.dependencies e).items = (u'.dependencies e').items :=
    congrArg (UnitReader.dependencies ∘ Prod.snd) same
  refine beside_find items (heeds_alike h h') discard fun d => ?_
  split
  · exact beside_told (openDependency_alike h h' d) visit
  · exact .refl_pure _

theorem sameUnit {u u' : OpenUnit} (same : u.seen = u'.seen) : SameUnit c e e' u u' := by
  obtain ⟨names, readers⟩ := Prod.mk.inj same
  have heeds := heeds_alike h h'
  have written : u.written = u'.written := by rw [OpenUnit.written, OpenUnit.written, readers]
  have dependencies : (u.dependencies e).items = (u'.dependencies e').items :=
    congrArg UnitReader.dependencies readers
  have inputs : (u.inputFiles e).Alike (u'.inputFiles e') := inputFiles_alike same
  refine {
    snapshot := ?_
    describe := ?_
    written := written
    includes := sameVisits (congrArg UnitReader.includes readers) heeds
    dependencies := sameVisits dependencies heeds
    unitNames := (toList_alike dependencies).bind fun _ _ _ => rfl
    inputFiles := inputs
    staleness := fun files => inputs.bind fun found => ?_
    nextRecord := nextRecord_alike h h' same
    pullRecords := pullRecords_alike h h' same
    visitRecords := visitRecords_alike h h' same }
  · rw [OpenUnit.snapshot, OpenUnit.snapshot, names, readers, written]
  · rw [OpenUnit.describe, OpenUnit.describe, names, readers]
  · rw [written]
    cases OpenUnit.judge files u'.written found <;> exact fun _ _ => rfl

theorem sameRecord {r r' : OpenRecord} (same : r.seen = r'.seen) : SameRecord e e' r r' := by
  obtain ⟨names, rest⟩ := Prod.mk.inj same
  obtain ⟨files, readers⟩ := Prod.mk.inj rest
  have heeds := heeds_alike h h'
  have within : r.reader.bounded.inLines = r'.reader.bounded.inLines :=
    congrArg RecordReader.inLines readers
  refine {
    describe := ?_
    symbols := sameVisits (congrArg RecordReader.symbols readers) heeds
    occurrences := sameVisits (congrArg RecordReader.occurrences readers) heeds
    lines := fun start count fits => sameVisits ?_ heeds
    relations := fun o => @sameVisits _ (o.lendRelations e) (o.lendRelations e') rfl heeds
    snapshot := fun o => ?_ }
  · rw [OpenRecord.describe, OpenRecord.describe, names, files]
  · have lines := congrFun (congrFun within start) count
    simp only [RecordReader.bounded, fits, if_true] at lines
    exact lines
  · have relations : (o.lendRelations e).items = (o.lendRelations e').items := rfl
    exact (mapCollect_alike relations Relation.snapshot).bind fun _ _ _ => rfl

end Answers

/-- Every query has the same answer from engines that answer by the same declarations. -/
theorem sameAnswers {c : Contents String String} {settings : MemorySettings} {e e' : Engine}
    (h : Answers c settings e) (h' : Answers c settings e') : SameAnswers c e e' where
  openStore _ _ files path he he' := h.openStore_alike h' he he' files path
  names sorted := sameVisits (h.names_alike h' sorted) (h.heeds_alike h')
  textNames sorted := (toList_alike (h.names_alike h' sorted)).map _
  openUnit := h.openUnit_alike h'
  openRecord := h.openRecord_alike h'
  unitInstant name := (h.unitInstant_alike h' name).1
  unitInstant_absent name := (h.unitInstant_alike h' name).2
  unitForOutput _ written := h.unitForOutput_alike h' written
  nextUnit := h.nextUnit_alike h'
  pullUnits := h.pullUnits_alike h'
  visitUnits sorted discard visit := h.visitUnits_alike h' sorted discard visit
  unit _ _ same := h.sameUnit h' same
  record _ _ same := h.sameRecord h' same

section Getters

variable {raw : String → RawString} (faithful : ∀ text, (raw text).octets = Utf8.encode text)
variable {c : Contents String String} (servable : c.Servable) (settings : MemorySettings)
variable (derivedName : Bytes)
include faithful servable

theorem sameGetters :
    SameGetters (Tables.ofContents c) (c.library raw settings derivedName).functions := by
  have holds := Tables.ofContents_holds c
  constructor
  · intro name handle opens
    obtain ⟨i, u, first, declared, whole, rfl⟩ := holds.openUnit_eq_ok_iff.mp opens
    refine ⟨_, ?_, declared_unit_agrees faithful c settings derivedName declared ?_⟩
    · exact (openUnit_served_iff faithful ..).mpr ⟨i, u, first, declared, whole, rfl⟩
    · exact servable.units u (List.mem_of_getElem? declared)
  · intro name unit opens
    obtain ⟨i, u, first, declared, whole, rfl⟩ := (openUnit_served_iff faithful ..).mp opens
    refine ⟨_, ?_, declared_unit_agrees faithful c settings derivedName declared ?_⟩
    · exact holds.openUnit_eq_ok_iff.mpr ⟨i, u, first, declared, whole, rfl⟩
    · exact servable.units u (List.mem_of_getElem? declared)
  · intro name handle opens
    obtain ⟨j, r, first, declared, whole, rfl⟩ := holds.openRecord_eq_ok_iff.mp opens
    refine ⟨_, ?_, declared_record_agrees faithful c settings derivedName declared ?_⟩
    · exact (openRecord_served_iff faithful ..).mpr ⟨j, r, first, declared, whole, rfl⟩
    · exact servable.records r (List.mem_of_getElem? declared)
  · intro name record opens
    obtain ⟨j, r, first, declared, whole, rfl⟩ := (openRecord_served_iff faithful ..).mp opens
    refine ⟨_, ?_, declared_record_agrees faithful c settings derivedName declared ?_⟩
    · exact holds.openRecord_eq_ok_iff.mpr ⟨j, r, first, declared, whole, rfl⟩
    · exact servable.records r (List.mem_of_getElem? declared)

end Getters

/-- The engine in memory and the engine bound to a library agree on all contents that both can show:
every getter has the same answer, and so has every query that is made of them. -/
theorem engines_agree (c : Contents String String) (settings : MemorySettings)
    (servable : c.Servable) (noNul : ∀ message ∈ settings.storeFailure, hasNul message = false)
    (raw : String → RawString) (faithful : ∀ text, (raw text).octets = Utf8.encode text)
    (derivedName : Bytes) :
    ∃ functions,
      NativeFunctions.resolve (c.library raw settings derivedName).exports = .ok functions ∧
      SameGetters (Tables.ofContents c) functions ∧
      SameAnswers c ((Tables.ofContents c).engine settings) functions.engine :=
  ⟨_, NativeLibrary.resolve_eq_ok _ (List.find?_eq_none.mpr fun _ _ => by simp [Contents.library,
      NativeLibrary.has]),
    sameGetters faithful servable settings derivedName,
    sameAnswers (memory_answers settings servable)
      (native_answers faithful servable noNul derivedName)⟩

/-- Raw strings with null pointers for empty texts. -/
def RawString.sparing (text : String) : RawString :=
  if text = "" then .null 0 else .pointing (Utf8.encode text)

theorem RawString.octets_sparing (text : String) : (sparing text).octets = Utf8.encode text := by
  rw [sparing]
  split
  · rename_i empty
    rw [empty]
    rfl
  · rfl

theorem Contents.servable_uneven : uneven.Servable := by
  refine ⟨fun u declared => ?_, fun r declared => ?_⟩
  · simp only [uneven, List.mem_cons, List.not_mem_nil, or_false] at declared
    obtain rfl | rfl | rfl | rfl := declared <;>
      exact ⟨by decide, by decide, by decide⟩
  · simp only [uneven, List.mem_cons, List.not_mem_nil, or_false] at declared
    obtain rfl | rfl | rfl := declared <;>
      exact ⟨by decide, by decide⟩

theorem engines_agree_uneven :
    Contents.uneven.Servable ∧ (∀ message ∈ some "torn", hasNul message = false) ∧
    (∀ text, (RawString.sparing text).octets = Utf8.encode text) ∧
    ∃ functions, NativeFunctions.resolve
        (Contents.uneven.library RawString.sparing { storeFailure := some "torn" } []).exports =
          .ok functions ∧
      SameGetters (Tables.ofContents Contents.uneven) functions ∧
      SameAnswers Contents.uneven
        ((Tables.ofContents Contents.uneven).engine { storeFailure := some "torn" })
        functions.engine :=
  ⟨Contents.servable_uneven, by decide, RawString.octets_sparing,
    engines_agree Contents.uneven { storeFailure := some "torn" } Contents.servable_uneven
      (by decide) RawString.sparing RawString.octets_sparing []⟩

end CodeIndex
