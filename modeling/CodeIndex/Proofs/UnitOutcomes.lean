import CodeIndex.Engine.Native
import CodeIndex.Proofs.Cursors
import CodeIndex.Proofs.EngineAgreement
import CodeIndex.Proofs.NativeObjects
import CodeIndex.Proofs.TextReading
/-!
# Outcomes of an enumeration of units

Units are enumerated in two ways: a cursor gathers the names and opens one unit at each pull, and a
visit opens the units inside the enumeration of the names. Both come to the same outcomes, one for
each name in its place, and an outcome depends on its name alone. So no failure changes another
outcome, and neither does what is done between two of them.
-/
namespace CodeIndex

/-- What a name that is text comes to, given how units of each name open. -/
def namedOutcome (answer : String → Except String UnitReader) (name : String) :
    Except Fault (String × UnitReader) :=
  if hasNul name then .error (.unitOpen name "unit name contains a NUL byte")
  else match answer name with
    | .ok reader => .ok (name, reader)
    | .error message => .error (.unitOpen name message)

def unitOutcome (answer : String → Except String UnitReader) (octets : Bytes) :
    Except Fault (String × UnitReader) :=
  match Utf8.decode octets with
  | .error fault => .error (.malformed (.invalidUtf8 fault))
  | .ok name => namedOutcome answer name

/-- Units open like this, whatever the engine has handed out so far. -/
def Engine.AnswersUnits (e : Engine) (answer : String → Except String UnitReader) : Prop :=
  ∀ name l, (e.createUnit name l).1.map Prod.snd = answer name

section Showing

variable {σ : Type}

def noting (visitor : Except Fault OpenUnit → StateT σ Access Unit)
    (outcome : Except Fault OpenUnit) :
    StateT (List (Except Fault OpenUnit)) (StateT σ Access) Unit := do
  modify (· ++ [outcome])
  (visitor outcome : StateT σ Access Unit)

/-- Shows every unit of a store to a visitor: the outcomes it was shown. -/
def Engine.showUnits (e : Engine) (sorted : Bool)
    (visitor : Except Fault OpenUnit → StateT σ Access Unit) :
    StateT σ Access (List (Except Fault OpenUnit)) := do
  let (_, shown) ← (e.findUnit (m := StateT (List (Except Fault OpenUnit)) (StateT σ Access))
    (β := Empty) sorted (fun _ => pure ⟨⟩) fun outcome => do
      noting visitor outcome
      pure none).run []
  pure shown

end Showing

/-- The two enumerations of the units of an engine come to the same. -/
structure UnitsAgree (e : Engine) (answer : String → Except String UnitReader) : Prop where
  /-- A visitor is shown one outcome for each name. -/
  shown {σ : Type} (sorted : Bool) (visitor : Except Fault OpenUnit → StateT σ Access Unit) (s : σ)
    (l : Ledger) :
    (((e.showUnits sorted visitor).run s l).1.1).map (·.map OpenUnit.seen) =
      (e.unitNames sorted).map (unitOutcome answer)
  /-- A cursor that is pulled a number of times gives the first of them. -/
  drained {σ : Type} (sorted : Bool) (work : Except Fault OpenUnit → StateT σ Access Unit)
    (limit : Nat) (s : σ) (l : Ledger) :
    let drained := ((e.unitCursors.drain work limit ⟨sorted, none⟩).run s l).1.1
    drained.1.map (·.map OpenUnit.seen) =
        ((e.unitNames sorted).map (unitOutcome answer)).take limit ∧
      drained.2 = decide ((e.unitNames sorted).length < limit)
  /-- A cursor that is pulled often enough ends, after all that a visitor is shown. -/
  agree {σ τ : Type} (sorted : Bool) (work : Except Fault OpenUnit → StateT σ Access Unit)
    (visitor : Except Fault OpenUnit → StateT τ Access Unit) (spare : Nat) (s : σ) (s' : τ)
    (l l' : Ledger) :
    let limit := (e.unitNames sorted).length + 1 + spare
    let drained := ((e.unitCursors.drain work limit ⟨sorted, none⟩).run s l).1.1
    drained.1.map (·.map OpenUnit.seen) =
        (((e.showUnits sorted visitor).run s' l').1.1).map (·.map OpenUnit.seen) ∧
      drained.2 = true

section Outcomes

variable {e : Engine} {answer : String → Except String UnitReader} {σ : Type}

theorem openNamedUnit_seen (h : e.AnswersUnits answer) (name : Except Fault String) (l : Ledger) :
    (e.openNamedUnit name l).1.map OpenUnit.seen = name.bind (namedOutcome answer) := by
  cases name with
  | error fault => rfl
  | ok name =>
    simp only [Except.bind, namedOutcome, Engine.openNamedUnit, Engine.openUnit]
    split
    · rfl
    · rw [← h name l, bind_apply]
      rcases (e.createUnit name l).1 with message | ⟨handle, reader⟩ <;> rfl

theorem readName_bind (octets : Bytes) :
    (Engine.readName octets).bind (namedOutcome answer) = unitOutcome answer octets := by
  rw [unitOutcome, Engine.readName]
  cases Utf8.decode octets <;> rfl

/-- Opens the unit of a name for a visitor whose outcomes are noted. -/
def openNoting (e : Engine) (visitor : Except Fault OpenUnit → StateT σ Access Unit)
    (octets : Bytes) : StateT (List (Except Fault OpenUnit)) (StateT σ Access) Unit := do
  noting visitor (← liftM (e.openNamedUnit (Engine.readName octets)))

/-- One call of the visitor notes what the name comes to. -/
theorem openNoting_adds (h : e.AnswersUnits answer)
    (visitor : Except Fault OpenUnit → StateT σ Access Unit) (octets : Bytes)
    (shown : List (Except Fault OpenUnit)) (s : σ) (l : Ledger) :
    (((openNoting e visitor octets).run shown).run s l).1.1.2.map (·.map OpenUnit.seen) =
      shown.map (·.map OpenUnit.seen) ++ [unitOutcome answer octets] := by
  have opened := openNamedUnit_seen h (Engine.readName octets) l
  rw [readName_bind] at opened
  have step : (((openNoting e visitor octets).run shown).run s l).1.1.2 =
      shown ++ [(e.openNamedUnit (Engine.readName octets) l).1] := rfl
  rw [step, List.map_append, List.map_singleton, opened]

theorem showUnits_outcomes (h : e.AnswersUnits answer) (sorted : Bool)
    (visitor : Except Fault OpenUnit → StateT σ Access Unit) (s : σ) (l : Ledger) :
    (((e.showUnits sorted visitor).run s l).1.1).map (·.map OpenUnit.seen) =
      (e.unitNames sorted).map (unitOutcome answer) := by
  have search : e.findUnit (m := StateT (List (Except Fault OpenUnit)) (StateT σ Access))
      (β := Empty) sorted (fun _ => pure ⟨⟩) (fun outcome => do
        noting visitor outcome
        pure none) =
      (fun _ => none) <$> forM (e.unitNames sorted) (Lending.lend (openNoting e visitor)) := by
    rw [Engine.findUnit]
    simp only [← bind_assoc]
    exact (e.names sorted).findDiscarding_none _ (openNoting e visitor)
  have shown := Lending.forM_noted (openNoting_adds h visitor) (e.unitNames sorted) [] s l
  rw [← List.map_eq_flatMap] at shown
  rw [Engine.showUnits, search]
  exact shown

theorem drain_unitOutcomes (h : e.AnswersUnits answer) (sorted : Bool)
    (work : Except Fault OpenUnit → StateT σ Access Unit) (limit : Nat) (s : σ) (l : Ledger) :
    let drained := ((e.unitCursors.drain work limit ⟨sorted, none⟩).run s l).1.1
    drained.1.map (·.map OpenUnit.seen) =
        ((e.unitNames sorted).map (unitOutcome answer)).take limit ∧
      drained.2 = decide ((e.unitNames sorted).length < limit) := by
  have left : e.unitCursors.left ⟨sorted, none⟩ = (e.unitNames sorted).map Engine.readName := rfl
  have drained := e.unitCursors.drain_outcomes (openNamedUnit_seen h) work limit ⟨sorted, none⟩ s l
  simpa [left, Function.comp_def, readName_bind] using drained

theorem Engine.AnswersUnits.agree (h : e.AnswersUnits answer) : UnitsAgree e answer where
  shown sorted visitor s l := showUnits_outcomes h sorted visitor s l
  drained sorted work limit s l := drain_unitOutcomes h sorted work limit s l
  agree sorted work visitor spare s s' l l' := by
    obtain ⟨outcomes, ended⟩ :=
      drain_unitOutcomes h sorted work ((e.unitNames sorted).length + 1 + spare) s l
    refine ⟨?_, by rw [ended]; simp; omega⟩
    rw [outcomes, showUnits_outcomes h, List.take_of_length_le]
    rw [List.length_map]
    omega

end Outcomes

/-- The names of the units in order are those of the tables, each as often as it stands there. -/
theorem perm_unitNames (t : Tables) : (t.unitNames true).Perm (t.unitNames false) :=
  List.mergeSort_perm _ _

theorem pairwise_unitNames (t : Tables) : (t.unitNames true).Pairwise fun a b => Bytes.le a b :=
  @List.pairwise_mergeSort _ Bytes.le (fun _ _ _ => Bytes.le_trans) Bytes.le_total _

/-- The names as text are those that are text, octet for octet. -/
theorem encode_textNames (e : Engine) (sorted : Bool) (l : Ledger) :
    (e.textNames sorted l).1.map Utf8.encode =
      (e.unitNames sorted).filter fun octets => (Utf8.decode octets).isOk := by
  have names : (e.textNames sorted l).1 =
      (e.unitNames sorted).filterMap fun octets => (Utf8.decode octets).toOption := by
    rw [Engine.textNames, bind_apply, Lending.toList_apply]
    rfl
  rw [names]
  induction e.unitNames sorted with
  | nil => rfl
  | cons octets rest ih =>
    cases read : Utf8.decode octets with
    | error fault =>
      have skipped : (Utf8.decode octets).toOption = none := by rw [read]; rfl
      have bad : (Utf8.decode octets).isOk = false := by rw [read]; rfl
      simp [skipped, bad, ih]
    | ok name =>
      have kept : (Utf8.decode octets).toOption = some name := by rw [read]; rfl
      have good : (Utf8.decode octets).isOk = true := by rw [read]; rfl
      simp [kept, good, ih, Utf8.encode_of_decode read]

/-- Pulled and shown, units come to the same outcomes in any engine. The engine in memory sorts the
names it has, and names as text are the names that are text. -/
theorem unit_enumerations_agree :
    (∀ (t : Tables) (settings : MemorySettings),
      UnitsAgree (t.engine settings) (fun name => (t.openUnit name).map t.unitReader) ∧
      (t.unitNames false = t.units.map fun row => Utf8.encode row.entry.name) ∧
      (t.unitNames true).Perm (t.unitNames false) ∧
      (t.unitNames true).Pairwise fun a b => Bytes.le a b) ∧
    (∀ (P : Pointee → Type) (f : NativeFunctions P),
      UnitsAgree f.engine fun name => (f.openUnit name).mapError NativeFailure.report) ∧
    ∀ (e : Engine) (sorted : Bool) (l : Ledger),
      (e.textNames sorted l).1.map Utf8.encode =
        (e.unitNames sorted).filter fun octets => (Utf8.decode octets).isOk := by
  refine ⟨fun t settings => ⟨?_, rfl, perm_unitNames t, pairwise_unitNames t⟩, fun _ f => ?_,
    encode_textNames⟩
  · refine Engine.AnswersUnits.agree fun name l => ?_
    rw [Tables.createUnit_fst]
    cases t.openUnit name <;> rfl
  · exact Engine.AnswersUnits.agree fun name l => Native.created_snd .unit (f.openUnit name) l

end CodeIndex
