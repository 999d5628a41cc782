import CodeIndex.Engine.Tables
import CodeIndex.Proofs.FirstDeclared
import CodeIndex.Proofs.NativeObjects
/-!
# Outcomes of an enumeration of records

The records of a unit are enumerated in two ways: a cursor gathers what its dependencies on records
name and opens one record at each pull, and a visit opens the records inside the enumeration of the
dependencies. Each dependency on a record comes to one outcome in its place, and the outcome depends
on that dependency alone. The two ways differ in names that are not text: a visitor is shown a fault
for each, and a cursor passes them over.
-/
namespace CodeIndex

def OpenRecord.view (r : OpenRecord) : String × Option Path × RecordReader :=
  (r.name, r.file, r.reader)

/-- What a record's name comes to for a source file, given how records of each name open. -/
def namedRecord (answer : String → Except String RecordReader) (name : String) (file : Path) :
    Except Fault (String × Option Path × RecordReader) :=
  if hasNul name then .error (.recordOpen name "record name contains a NUL byte")
  else match answer name with
    | .ok reader => .ok (name, some file, reader)
    | .error message => .error (.recordOpen name message)

def recordOutcome (answer : String → Except String RecordReader) (d : Dependency) :
    Except Fault (String × Option Path × RecordReader) :=
  match Utf8.decode d.name with
  | .error fault => .error (.malformed (.invalidUtf8 fault))
  | .ok name => namedRecord answer name ⟨Utf8.lossy d.file⟩

/-- Records open like this, whatever the engine has handed out so far. -/
def Engine.AnswersRecords (e : Engine) (answer : String → Except String RecordReader) : Prop :=
  ∀ name l, (e.createRecord name l).1.map Prod.snd = answer name

def Fault.isUnread : Fault → Bool
  | .malformed (.invalidUtf8 _) => true
  | _ => false

def isUnread {α : Type} : Except Fault α → Bool
  | .error fault => fault.isUnread
  | .ok _ => false

namespace Dependency

def onRecord (d : Dependency) : Bool := d.kind == .record

def named (d : Dependency) : Bool := (Utf8.decode d.name).isOk

end Dependency

def goingOn {σ γ : Type} (visitor : γ → StateT σ Access Unit) (outcome : γ) :
    StateT σ Access (Option Empty) := do
  visitor outcome
  pure none

/-- Shows every record of a unit to a visitor: the outcomes it was shown. -/
def OpenUnit.showRecords {σ : Type} (e : Engine) (u : OpenUnit)
    (visitor : Except Fault OpenRecord → StateT σ Access Unit) :
    StateT σ Access (List (Except Fault OpenRecord)) :=
  Prod.snd <$> u.searchRecords e (fun nothing => nomatch nothing) (goingOn visitor)

/-- The two enumerations of the records of a unit come to the same, but for names that are not
text. -/
structure RecordsAgree (e : Engine) (answer : String → Except String RecordReader)
    (u : OpenUnit) : Prop where
  /-- A visitor is shown one outcome for each dependency on a record. -/
  shown {σ : Type} (visitor : Except Fault OpenRecord → StateT σ Access Unit) (s : σ) (l : Ledger) :
    ((u.showRecords e visitor).run s l).1.1.map (·.map OpenRecord.view) =
      (u.reader.dependencies.filter Dependency.onRecord).map (recordOutcome answer)
  /-- A cursor that is pulled a number of times gives the first outcomes of those with a name that
  is text. -/
  drained {σ : Type} (work : Except Fault OpenRecord → StateT σ Access Unit) (limit : Nat) (s : σ)
    (l : Ledger) :
    let named := u.reader.dependencies.filter fun d => d.onRecord && d.named
    let drained := ((e.recordCursors.drain work limit ⟨u, none⟩).run s l).1.1
    drained.1.map (·.map OpenRecord.view) = (named.map (recordOutcome answer)).take limit ∧
      drained.2 = decide (named.length < limit)
  /-- A cursor that is pulled often enough ends, after all that a visitor is shown but the faults of
  names that are not text. -/
  agree {σ τ : Type} (work : Except Fault OpenRecord → StateT σ Access Unit)
    (visitor : Except Fault OpenRecord → StateT τ Access Unit) (spare : Nat) (s : σ) (s' : τ)
    (l l' : Ledger) :
    let limit := u.reader.dependencies.length + 1 + spare
    let drained := ((e.recordCursors.drain work limit ⟨u, none⟩).run s l).1.1
    let shown := ((u.showRecords e visitor).run s' l').1.1
    drained.1.map (·.map OpenRecord.view) =
        (shown.filter fun outcome => !isUnread outcome).map (·.map OpenRecord.view) ∧
      drained.2 = true
  /-- A record that opens has the name and the file of its dependency; a failure tells the name. -/
  told (d : Dependency) (name : String) : Utf8.decode d.name = .ok name →
    (∃ reader, answer name = .ok reader ∧
      recordOutcome answer d = .ok (name, some ⟨Utf8.lossy d.file⟩, reader)) ∨
    ∃ message, recordOutcome answer d = .error (.recordOpen name message)

section Outcomes

variable {e : Engine} {answer : String → Except String RecordReader} {σ : Type}

theorem recordOutcome_of_read {d : Dependency} {name : String}
    (read : Utf8.decode d.name = .ok name) :
    recordOutcome answer d = namedRecord answer name ⟨Utf8.lossy d.file⟩ := by
  rw [recordOutcome, read]

theorem openRecord_view (h : e.AnswersRecords answer) (name : String) (file : Path) (l : Ledger) :
    (e.openRecord name (some file) l).1.map OpenRecord.view = namedRecord answer name file := by
  simp only [namedRecord, Engine.openRecord]
  split
  · rfl
  · rw [← h name l, bind_apply]
    rcases (e.createRecord name l).1 with message | ⟨handle, reader⟩ <;> rfl

theorem openDependency_outcome (h : e.AnswersRecords answer) (d : Dependency) (l : Ledger) :
    (e.openDependency d l).1.map OpenRecord.view = recordOutcome answer d := by
  rw [Engine.openDependency, recordOutcome, Engine.readName]
  cases Utf8.decode d.name with
  | error fault => rfl
  | ok name => exact openRecord_view h name _ l

/-- Opens the record of a dependency, if it is on one, for a visitor whose outcomes are noted. -/
def recordNoting (e : Engine) (visitor : Except Fault OpenRecord → StateT σ Access Unit)
    (d : Dependency) : StateT (List (Except Fault OpenRecord)) (StateT σ Access) Unit := do
  if d.onRecord then
    let outcome ← liftM (e.openDependency d)
    modify (· ++ [outcome])
    (visitor outcome : StateT σ Access Unit)

/-- What one call of the visitor notes. -/
theorem recordNoting_adds (h : e.AnswersRecords answer)
    (visitor : Except Fault OpenRecord → StateT σ Access Unit) (d : Dependency)
    (shown : List (Except Fault OpenRecord)) (s : σ) (l : Ledger) :
    (((recordNoting e visitor d).run shown).run s l).1.1.2.map (·.map OpenRecord.view) =
      shown.map (·.map OpenRecord.view) ++
        if d.onRecord then [recordOutcome answer d] else [] := by
  rw [recordNoting]
  cases d.onRecord with
  | false => simp
  | true =>
    change (shown ++ [(e.openDependency d l).1]).map _ = _
    rw [List.map_append, List.map_singleton, openDependency_outcome h]
    rfl

/-- Showing every record is a loop over the dependencies, whatever the conduct. -/
theorem findRecord_goingOn (u : OpenUnit) (visitor : Except Fault OpenRecord → StateT σ Access Unit)
    (discard : Empty → StateT (List (Except Fault OpenRecord)) (StateT σ Access) Unit) :
    u.findRecord e discard (noted (goingOn visitor)) =
      (fun _ => none) <$> forM u.reader.dependencies (Lending.lend (recordNoting e visitor)) := by
  have call (d : Dependency) :
      (if d.kind == .record then do noted (goingOn visitor) (← liftM (e.openDependency d))
        else pure none) = recordNoting e visitor d >>= fun _ => pure none := by
    rw [recordNoting, Dependency.onRecord]
    split
    · simp [noted, goingOn]
    · rfl
  rw [OpenUnit.findRecord, funext call]
  exact (u.dependencies e).findDiscarding_none discard (recordNoting e visitor)

theorem flatMap_onRecord {γ : Type} (f : Dependency → γ) (dependencies : List Dependency) :
    (dependencies.flatMap fun d => if d.onRecord then [f d] else []) =
      (dependencies.filter Dependency.onRecord).map f := by
  induction dependencies with
  | nil => rfl
  | cons d rest ih =>
    rw [List.flatMap_cons, List.filter_cons, ih]
    cases d.onRecord <;> rfl

theorem showRecords_outcomes (h : e.AnswersRecords answer) (u : OpenUnit)
    (visitor : Except Fault OpenRecord → StateT σ Access Unit) (s : σ) (l : Ledger) :
    ((u.showRecords e visitor).run s l).1.1.map (·.map OpenRecord.view) =
      (u.reader.dependencies.filter Dependency.onRecord).map (recordOutcome answer) := by
  have shown := Lending.forM_noted (recordNoting_adds h visitor) u.reader.dependencies [] s l
  rw [flatMap_onRecord] at shown
  rw [OpenUnit.showRecords, OpenUnit.searchRecords, findRecord_goingOn]
  exact shown

/-- What a cursor gathers are the dependencies on records with a name that is text. -/
theorem recordNames_outcomes (dependencies : List Dependency) :
    (dependencies.filterMap Dependency.recordName?).map
        (fun record => namedRecord answer record.1 record.2) =
      (dependencies.filter fun d => d.onRecord && d.named).map (recordOutcome answer) := by
  induction dependencies with
  | nil => rfl
  | cons d rest ih =>
    rw [List.filterMap_cons, List.filter_cons, Dependency.recordName?, Dependency.onRecord,
      Dependency.named]
    cases d.kind == .record with
    | false => exact ih
    | true =>
      cases read : Utf8.decode d.name with
      | error fault => exact ih
      | ok name => exact congrArg₂ List.cons (recordOutcome_of_read read).symm ih

theorem drain_recordOutcomes (h : e.AnswersRecords answer) (u : OpenUnit)
    (work : Except Fault OpenRecord → StateT σ Access Unit) (limit : Nat) (s : σ) (l : Ledger) :
    let named := u.reader.dependencies.filter fun d => d.onRecord && d.named
    let drained := ((e.recordCursors.drain work limit ⟨u, none⟩).run s l).1.1
    drained.1.map (·.map OpenRecord.view) = (named.map (recordOutcome answer)).take limit ∧
      drained.2 = decide (named.length < limit) := by
  intro named drained
  have left : (e.recordCursors.left ⟨u, none⟩).map
      (fun record => namedRecord answer record.1 record.2) = named.map (recordOutcome answer) :=
    recordNames_outcomes u.reader.dependencies
  have length : (e.recordCursors.left ⟨u, none⟩).length = named.length := by
    simpa using congrArg List.length left
  have all := e.recordCursors.drain_outcomes
    (fun record l => openRecord_view h record.1 record.2 l) work limit ⟨u, none⟩ s l
  rw [left, length] at all
  exact all

theorem recordOutcome_named {d : Dependency} {name : String}
    (read : Utf8.decode d.name = .ok name) :
    (∃ reader, answer name = .ok reader ∧
      recordOutcome answer d = .ok (name, some ⟨Utf8.lossy d.file⟩, reader)) ∨
    ∃ message, recordOutcome answer d = .error (.recordOpen name message) := by
  rw [recordOutcome_of_read read, namedRecord]
  split
  · exact .inr ⟨_, rfl⟩
  · cases answer name with
    | ok reader => exact .inl ⟨reader, rfl, rfl⟩
    | error message => exact .inr ⟨message, rfl⟩

/-- The outcomes that are not faults of a name are those of the names that are text. -/
theorem isUnread_recordOutcome (d : Dependency) :
    isUnread (recordOutcome answer d) = !d.named := by
  cases read : Utf8.decode d.name with
  | error fault =>
    rw [recordOutcome, Dependency.named, read]
    rfl
  | ok name =>
    rw [Dependency.named, read]
    rcases @recordOutcome_named answer _ _ read with ⟨reader, -, is⟩ | ⟨message, is⟩
    · rw [is]
      rfl
    · rw [is]
      rfl

theorem isUnread_map {α β : Type} (f : α → β) (outcome : Except Fault α) :
    isUnread (outcome.map f) = isUnread outcome := by
  cases outcome <;> rfl

/-- Without the faults of names, a visitor is shown what the dependencies with a name that is text
come to. -/
theorem showRecords_filter (h : e.AnswersRecords answer) (u : OpenUnit)
    (visitor : Except Fault OpenRecord → StateT σ Access Unit) (s : σ) (l : Ledger) :
    (((u.showRecords e visitor).run s l).1.1.filter fun outcome => !isUnread outcome).map
        (·.map OpenRecord.view) =
      (u.reader.dependencies.filter fun d => d.onRecord && d.named).map (recordOutcome answer) := by
  have shown := congrArg (List.filter fun outcome => !isUnread outcome)
    (showRecords_outcomes h u visitor s l)
  simpa only [List.filter_map, List.filter_filter, Function.comp_def, isUnread_map,
    isUnread_recordOutcome, Bool.not_not, Bool.and_comm] using shown

theorem Engine.AnswersRecords.agree (h : e.AnswersRecords answer) (u : OpenUnit) :
    RecordsAgree e answer u where
  shown visitor s l := showRecords_outcomes h u visitor s l
  drained work limit s l := drain_recordOutcomes h u work limit s l
  agree work visitor spare s s' l l' := by
    have fewer := List.length_filter_le (fun d => d.onRecord && d.named) u.reader.dependencies
    obtain ⟨outcomes, ended⟩ :=
      drain_recordOutcomes h u work (u.reader.dependencies.length + 1 + spare) s l
    refine ⟨?_, ended.trans (decide_eq_true (by omega))⟩
    rw [outcomes, showRecords_filter h, List.take_of_length_le]
    rw [List.length_map]
    omega
  told d name read := recordOutcome_named read

end Outcomes

/-- How records open in memory. -/
theorem Tables.answersRecords (t : Tables) (settings : MemorySettings) :
    (t.engine settings).AnswersRecords fun name => (t.openRecord name).map t.recordReader := by
  intro name l
  rw [Tables.createRecord_fst]
  dsimp only
  cases t.openRecord name <;> rfl

/-- How they open with native functions. -/
theorem NativeFunctions.answersRecords {P : Pointee → Type} (f : NativeFunctions P) :
    f.engine.AnswersRecords fun name => (f.openRecord name).mapError NativeFailure.report :=
  fun name l => Native.created_snd .record (f.openRecord name) l

/-- Pulled and shown, the records of a unit come to the same outcomes in either engine, but for the
faults of names that are not text. -/
theorem record_enumerations_agree :
    (∀ (t : Tables) (settings : MemorySettings) (u : OpenUnit),
      RecordsAgree (t.engine settings) (fun name => (t.openRecord name).map t.recordReader) u) ∧
    ∀ (P : Pointee → Type) (f : NativeFunctions P) (u : OpenUnit),
      RecordsAgree f.engine (fun name => (f.openRecord name).mapError NativeFailure.report) u := by
  refine ⟨fun t settings u => ?_, fun _ f u => ?_⟩
  · exact (t.answersRecords settings).agree u
  · exact f.answersRecords.agree u

end CodeIndex
