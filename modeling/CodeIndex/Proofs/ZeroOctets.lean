import CodeIndex.Engine.Tables
import CodeIndex.Proofs.Client
import CodeIndex.Proofs.Cursors
import CodeIndex.Proofs.StoreShape
/-!
# Names and paths with a zero octet

A native call would read a text up to its first zero octet and take that part for the whole. No such
text reaches an engine: each call that is given one answers with a fault of its own, at the cost of
no call, and an enumeration gives that fault in the place of the name and goes on.

Opening a store looks at the directory first. A path with a zero octet is already refused there, so
the fault it comes to is one of inspection; the refusal that follows is never reached.
-/
namespace CodeIndex

def zeroInUnit (name : String) : Fault := .unitOpen name "unit name contains a NUL byte"

def zeroInRecord (name : String) : Fault := .recordOpen name "record name contains a NUL byte"

section Refused

variable (e : Engine) (l : Ledger) {name : String}

theorem openUnit_zero (h : hasNul name) : e.openUnit name l = (.error (zeroInUnit name), l) := by
  rw [Engine.openUnit, if_pos h]
  rfl

theorem openRecord_zero (h : hasNul name) (file : Option Path) :
    e.openRecord name file l = (.error (zeroInRecord name), l) := by
  rw [Engine.openRecord, if_pos h]
  rfl

theorem unitInstant_zero (h : hasNul name) :
    e.unitInstant name l = (.error (.engine s!"unit name {Text.quote name} contains NUL"), l) := by
  rw [Engine.unitInstant, if_pos h]
  rfl

theorem unitForOutput_zero {path : Path} (h : hasNul path.text) :
    e.unitForOutput path l = (.error (.store (.invalidPath path)), l) := by
  rw [Engine.unitForOutput, if_pos h]
  rfl

end Refused

section Opening

variable (files : Library.Files) {path : Path}

/-- A path with a zero octet leads nowhere. -/
theorem metadata_zero (h : hasNul path.text) : files.metadata path = .error .zeroOctet := by
  rw [FileTree.metadata, FileTree.locate, if_pos h]

/-- The shape of the directory is not even looked at. -/
theorem check_zero (h : hasNul path.text) (expected : UInt32) :
    Store.check files path expected = .error (.io path .zeroOctet) :=
  Store.check_unseen (metadata_zero files h) nofun

theorem openAt_zero (lib : Library) (h : hasNul path.text) (l : Ledger) :
    Store.openAt lib files path l = (.error (.io path .zeroOctet), l) := by
  rw [Store.openAt, check_zero files h]
  rfl

/-- No path is ever refused for what stands in its text: looking at its directory is what fails. -/
theorem openAt_ne_invalidPath (lib : Library) (path q : Path) (l : Ledger) :
    (Store.openAt lib files path l).1 ≠ .error (.invalidPath q) := by
  intro same
  cases zero : hasNul path.text with
  | true =>
    rw [openAt_zero files lib zero] at same
    cases same
  | false =>
    have shape := (Store.openAt_eq_error_iff zero (by simp) l).mp same
    cases shape

end Opening

section Enumerated

variable {σ β : Type} (e : Engine)

/-- Shows a visitor what an enumerated name comes to. One with a zero octet comes to its fault, and
any other is opened. -/
def Engine.showName (visit : Except Fault OpenUnit → StateT σ Access (Option β)) (octets : Bytes) :
    StateT σ Access (Option β) :=
  match Engine.readName octets with
  | .error fault => visit (.error fault)
  | .ok name =>
    if hasNul name then visit (.error (zeroInUnit name))
    else do visit (← liftM (e.openUnit name))

def Engine.showDependency (visit : Except Fault OpenRecord → StateT σ Access (Option β))
    (d : Dependency) : StateT σ Access (Option β) :=
  if d.kind == .record then
    match Engine.readName d.name with
    | .error fault => visit (.error fault)
    | .ok name =>
      if hasNul name then visit (.error (zeroInRecord name))
      else do visit (← liftM (e.openRecord name (some ⟨Utf8.lossy d.file⟩)))
  else pure none

/-- Work whose outcome is settled beforehand. -/
theorem liftM_settled {α γ : Type} {work : Access α} {a : α} (h : ∀ l, work l = (a, l))
    (next : α → StateT σ Access γ) : (liftM work : StateT σ Access α) >>= next = next a := by
  have settled : work = pure a := funext h
  have lifted : (liftM (pure a : Access α) : StateT σ Access α) = pure a := monadLift_pure a
  rw [settled, lifted, pure_bind]

theorem openNamedUnit_shown (visit : Except Fault OpenUnit → StateT σ Access (Option β))
    (octets : Bytes) :
    (do visit (← liftM (e.openNamedUnit (Engine.readName octets)))) = e.showName visit octets := by
  unfold Engine.showName
  cases Engine.readName octets with
  | error fault => exact liftM_settled (fun _ => rfl) visit
  | ok name =>
    dsimp only
    split
    · rename_i h
      exact liftM_settled (fun l => openUnit_zero e l h) visit
    · rfl

theorem openDependency_shown (visit : Except Fault OpenRecord → StateT σ Access (Option β))
    (d : Dependency) :
    (if d.kind == .record then do visit (← liftM (e.openDependency d)) else pure none) =
      e.showDependency visit d := by
  unfold Engine.showDependency Engine.openDependency
  split
  · cases Engine.readName d.name with
    | error fault => exact liftM_settled (fun _ => rfl) visit
    | ok name =>
      dsimp only
      split
      · rename_i h
        exact liftM_settled (fun l => openRecord_zero e l h _) visit
      · rfl
  · rfl

/-- A visit to the units shows the fault of a name with a zero octet in the place of the name. -/
theorem findUnit_shown (sorted : Bool) (discard : β → StateT σ Access Unit)
    (visit : Except Fault OpenUnit → StateT σ Access (Option β)) :
    e.findUnit sorted discard visit =
      (e.names sorted).findDiscarding discard (e.showName visit) := by
  have shown := funext (openNamedUnit_shown e visit)
  rw [Engine.findUnit, shown]

/-- So does a visit to the records of a unit. -/
theorem findRecord_shown (u : OpenUnit) (discard : β → StateT σ Access Unit)
    (visit : Except Fault OpenRecord → StateT σ Access (Option β)) :
    u.findRecord e discard visit =
      (u.dependencies e).findDiscarding discard (e.showDependency visit) := by
  have shown := funext (openDependency_shown e visit)
  rw [OpenUnit.findRecord, shown]

/-- A cursor gives the fault of a unit's name with a zero octet, and goes on behind it. -/
theorem nextUnit_zero {c : UnitCursor} {name : String} {rest : List (Except Fault String)}
    (next : e.unitCursors.left c = .ok name :: rest) (h : hasNul name) (l : Ledger) :
    c.next e l = ((some (.error (zeroInUnit name)), { c with pending := some rest }),
      e.unitCursors.gathered c l) := by
  refine (e.unitCursors.next_cons next l).trans ?_
  change ((some (e.openUnit name _).1, _), (e.openUnit name _).2) = _
  rw [openUnit_zero e _ h]
  rfl

/-- A cursor gives the fault of a record's name with a zero octet, and goes on behind it. -/
theorem nextRecord_zero {c : RecordCursor} {name : String} {file : Path} {rest : List RecordName}
    (next : e.recordCursors.left c = (name, file) :: rest) (h : hasNul name) (l : Ledger) :
    c.next e l = ((some (.error (zeroInRecord name)), { c with pending := some rest }),
      e.recordCursors.gathered c l) := by
  refine (e.recordCursors.next_cons next l).trans ?_
  change ((some (e.openRecord name (some file) _).1, _), (e.openRecord name (some file) _).2) = _
  rw [openRecord_zero e _ h]
  rfl

end Enumerated

section Unasked

/-- An engine that answers texts with a zero octet as another engine does, and all others as
before. -/
def Engine.answeringNul (e other : Engine) : Engine where
  formatVersion := e.formatVersion
  concurrentReads := e.concurrentReads
  conduct := e.conduct
  createStore path := if hasNul path then other.createStore path else e.createStore path
  disposeStore := e.disposeStore
  unitNames := e.unitNames
  unitNameFor path := if hasNul path then other.unitNameFor path else e.unitNameFor path
  unitTime name := if hasNul name then other.unitTime name else e.unitTime name
  createUnit name := if hasNul name then other.createUnit name else e.createUnit name
  disposeUnit := e.disposeUnit
  createRecord name := if hasNul name then other.createRecord name else e.createRecord name
  disposeRecord := e.disposeRecord

variable (e other : Engine)

theorem openUnit_answeringNul : (e.answeringNul other).openUnit = e.openUnit := by
  funext name
  unfold Engine.openUnit
  split
  · rfl
  · rename_i h
    simp only [Engine.answeringNul, if_neg h]

theorem openNamedUnit_answeringNul : (e.answeringNul other).openNamedUnit = e.openNamedUnit := by
  funext name
  cases name with
  | error fault => rfl
  | ok name => exact congrFun (openUnit_answeringNul e other) name

theorem openRecord_answeringNul : (e.answeringNul other).openRecord = e.openRecord := by
  funext name file
  unfold Engine.openRecord
  split
  · rfl
  · rename_i h
    simp only [Engine.answeringNul, if_neg h]

theorem openDependency_answeringNul :
    (e.answeringNul other).openDependency = e.openDependency := by
  funext d
  unfold Engine.openDependency
  rw [openRecord_answeringNul]

theorem unitInstant_answeringNul : (e.answeringNul other).unitInstant = e.unitInstant := by
  funext name
  unfold Engine.unitInstant
  split
  · rfl
  · rename_i h
    simp only [Engine.answeringNul, if_neg h]

theorem unitForOutput_answeringNul :
    (e.answeringNul other).unitForOutput = e.unitForOutput := by
  funext path
  unfold Engine.unitForOutput
  rw [unitInstant_answeringNul]
  split
  · rfl
  · rename_i h
    simp only [Engine.answeringNul, if_neg h]

theorem openAt_answeringNul (lib : Library) (files : FileSystem NativeLibrary) (path : Path) :
    Store.openAt { lib with engine := lib.engine.answeringNul other } files path =
      Store.openAt lib files path := by
  unfold Store.openAt
  by_cases h : hasNul path.text
  · simp only [Engine.answeringNul, if_pos h]
  · simp only [Engine.answeringNul, if_neg h]

theorem nextUnit_answeringNul : UnitCursor.next (e.answeringNul other) = UnitCursor.next e := by
  funext c
  unfold UnitCursor.next
  rw [openNamedUnit_answeringNul]
  rfl

theorem nextRecord_answeringNul :
    RecordCursor.next (e.answeringNul other) = RecordCursor.next e := by
  funext c
  unfold RecordCursor.next
  rw [openRecord_answeringNul]
  rfl

section Visits

variable {m : Type → Type} [Monad m] [MonadLiftT Access m] {β : Type}

theorem findUnit_answeringNul (sorted : Bool) (discard : β → m Unit)
    (visit : Except Fault OpenUnit → m (Option β)) :
    (e.answeringNul other).findUnit sorted discard visit = e.findUnit sorted discard visit := by
  unfold Engine.findUnit
  rw [openNamedUnit_answeringNul]
  rfl

theorem findRecord_answeringNul (u : OpenUnit) (discard : β → m Unit)
    (visit : Except Fault OpenRecord → m (Option β)) :
    u.findRecord (e.answeringNul other) discard visit = u.findRecord e discard visit := by
  unfold OpenUnit.findRecord
  rw [openDependency_answeringNul]
  rfl

end Visits

end Unasked

section Clients

open Client

variable (other : Engine) {α β : Type}

def Client.hearing (c : Client) : Client :=
  { c with library := { c.library with engine := c.library.engine.answeringNul other } }

/-- Work that comes to the same however texts with a zero octet are answered. -/
def Unheard (work : ClientM α) : Prop :=
  ∀ c, work (c.hearing other) = ((work c).1, (work c).2.hearing other)

variable {other}

theorem unheard_pure (a : α) : Unheard other (pure a : ClientM α) := fun _ => rfl

theorem Unheard.bind {work : ClientM α} {next : α → ClientM β} (h : Unheard other work)
    (hn : ∀ a, Unheard other (next a)) : Unheard other (work >>= next) := by
  intro c
  rw [bind_apply, h c, hn]
  rfl

theorem unheard_access (work : Access α) : Unheard other (access work) := fun _ => rfl

/-- Reading the client, if what is read of it does not tell the engines apart. -/
theorem unheard_get {next : Client → ClientM β} (same : ∀ c, next (c.hearing other) = next c)
    (hn : ∀ c, Unheard other (next c)) : Unheard other (get >>= next) := by
  intro c
  rw [bind_apply, get_apply, same c, hn c c]
  rfl

theorem unheard_engine {next : Engine → ClientM β}
    (same : ∀ e : Engine, next (e.answeringNul other) = next e)
    (hn : ∀ e, Unheard other (next e)) : Unheard other (engine >>= next) :=
  unheard_get (fun _ => same _) fun _ => hn _

theorem unheard_note : Unheard other note := fun _ => rfl

theorem unheard_value (key : Key) : Unheard other (value? key) := fun _ => rfl

theorem unheard_receive {ε : Type} (wrap : α → Value) (outcome : Except ε α) :
    Unheard other (receive wrap outcome) := by
  cases outcome with
  | error fault => exact unheard_pure _
  | ok opened => exact fun _ => rfl

theorem unheard_drop (key : Key) : Unheard other (drop key) := by
  refine (unheard_value key).bind fun found => ?_
  cases found with
  | none => exact unheard_pure _
  | some v =>
    have erased : Unheard other
        (modify fun c : Client => { c with holdings := c.holdings.eraseP (·.1 == key) }) :=
      fun _ => rfl
    refine erased.bind fun _ => unheard_engine (fun e => ?_) fun e => ?_
    · cases v <;> rfl
    · exact (unheard_access _).bind fun _ => unheard_note.bind fun _ => unheard_pure _

theorem unheard_dropAll (keys : List Key) : Unheard other (dropAll keys) := by
  induction keys with
  | nil => exact unheard_pure _
  | cons key rest ih => exact (unheard_drop key).bind fun _ => ih

theorem unheard_withStore {key : Key} {otherwise : α} {work : Engine → ClientM α}
    (same : ∀ e : Engine, work (e.answeringNul other) = work e)
    (hw : ∀ e, Unheard other (work e)) : Unheard other (withStore key otherwise work) := by
  refine (unheard_value key).bind fun found => ?_
  split
  · exact unheard_engine same hw
  · exact unheard_pure _

theorem unheard_withUnit {key : Key} {otherwise : α} {work : OpenUnit → ClientM α}
    (hw : ∀ u, Unheard other (work u)) : Unheard other (withUnit key otherwise work) := by
  refine (unheard_value key).bind fun found => ?_
  split
  · exact hw _
  · exact unheard_pure _

theorem unheard_withRecord {key : Key} {otherwise : α} {work : OpenRecord → ClientM α}
    (hw : ∀ r, Unheard other (work r)) : Unheard other (withRecord key otherwise work) := by
  refine (unheard_value key).bind fun found => ?_
  split
  · exact hw _
  · exact unheard_pure _

theorem unheard_walk {ε : Type} (heeds : Bool) {visit : α → ClientM (Reply ε (List Key))}
    (hv : ∀ item, Unheard other (visit item)) (kept : Option (List Key)) (items : List α) :
    Unheard other (walk heeds dropAll visit kept items) := by
  induction items generalizing kept with
  | nil => exact unheard_pure _
  | cons item rest ih =>
    refine (hv item).bind fun reply => ?_
    cases reply with
    | goOn => exact ih kept
    | raise payload => exact unheard_pure _
    | stop value =>
      have after : Unheard other
          (if heeds then pure (.ok (some value))
            else walk heeds dropAll visit (some value) rest) := by
        split
        · exact unheard_pure _
        · exact ih _
      cases kept with
      | none => exact after
      | some earlier => exact (unheard_dropAll earlier).bind fun _ => after

theorem unheard_find (l : Lending α) {f : α → ClientM (Option (List Key))}
    (hf : ∀ item, Unheard other (f item)) : Unheard other (l.findDiscarding dropAll f) := by
  rw [Lending.findDiscarding, Lending.visitDiscarding_eq_walk]
  refine (unheard_walk _ (fun item => ?_) _ _).bind fun result => ?_
  · refine (unheard_access _).bind fun _ => (hf item).bind fun value => ?_
    cases value <;> exact unheard_pure _
  · cases result with
    | ok outcome => exact unheard_pure _
    | error payload => exact payload.elim

theorem unheard_call (call : Call) : Unheard other call.run := by
  cases call with
  | openStore files path =>
    refine unheard_get (fun c => ?_) fun c => (unheard_access _).bind fun opened => ?_
    · rw [Client.hearing, openAt_answeringNul]
    · exact (unheard_receive .store opened).bind fun _ => unheard_pure _
  | share key =>
    refine unheard_withStore (fun _ => rfl) fun e => unheard_get (fun _ => rfl) fun c => ?_
    split
    · exact unheard_pure _
    · exact (unheard_drop key).bind fun _ => unheard_pure _
  | openUnit key name =>
    refine unheard_withStore (fun e => ?_) fun e => (unheard_access _).bind fun opened => ?_
    · rw [openUnit_answeringNul]
    · exact (unheard_receive .unit opened).bind fun _ => unheard_pure _
  | openRecord key name =>
    refine unheard_withStore (fun e => ?_) fun e => (unheard_access _).bind fun opened => ?_
    · rw [openRecord_answeringNul]
    · exact (unheard_receive .record opened).bind fun _ => unheard_pure _
  | startUnits key sorted => exact unheard_withStore (fun _ => rfl) fun _ => unheard_pure _
  | startRecords key => exact unheard_withUnit fun _ => unheard_pure _
  | nextUnit cursor =>
    refine unheard_engine (fun e => ?_) fun e => (unheard_access _).bind ?_
    · rw [nextUnit_answeringNul]
    · rintro ⟨outcome, next⟩
      cases outcome with
      | none => exact unheard_pure _
      | some opened =>
        refine (unheard_receive .unit opened).bind fun key => ?_
        cases key <;> exact unheard_pure _
  | nextRecord cursor =>
    refine unheard_engine (fun e => ?_) fun e => (unheard_access _).bind ?_
    · rw [nextRecord_answeringNul]
    · rintro ⟨outcome, next⟩
      cases outcome with
      | none => exact unheard_pure _
      | some opened =>
        refine (unheard_receive .record opened).bind fun key => ?_
        cases key <;> exact unheard_pure _
  | unitInstant key name =>
    refine unheard_withStore (fun e => ?_) fun e => (unheard_access _).bind fun outcome => ?_
    · rw [unitInstant_answeringNul]
    · cases outcome <;> exact unheard_pure _
  | unitForOutput key path =>
    refine unheard_withStore (fun e => ?_) fun e => (unheard_access _).bind fun outcome => ?_
    · rw [unitForOutput_answeringNul]
    · cases outcome <;> exact unheard_pure _
  | drop key => exact (unheard_drop key).bind fun _ => unheard_pure _

theorem unheard_visit (sequence : Sequence) {visitor : Item → ClientM (Option (List Key))}
    (hv : ∀ item, Unheard other (visitor item)) : Unheard other (sequence.visit visitor) := by
  cases sequence with
  | names key sorted =>
    exact unheard_withStore (fun _ => rfl) fun e => unheard_find _ fun octets => hv _
  | units key sorted =>
    refine unheard_withStore (fun e => findUnit_answeringNul e other sorted dropAll _) fun e => ?_
    refine unheard_find _ fun octets => (unheard_access _).bind fun opened => ?_
    exact (unheard_receive .unit opened).bind fun _ => hv _
  | includes key =>
    exact unheard_withUnit fun u => unheard_engine (fun _ => rfl) fun e =>
      unheard_find _ fun i => hv _
  | dependencies key =>
    exact unheard_withUnit fun u => unheard_engine (fun _ => rfl) fun e =>
      unheard_find _ fun d => hv _
  | records key =>
    refine unheard_withUnit fun u => unheard_engine
      (fun e => findRecord_answeringNul e other u dropAll _) fun e => unheard_find _ fun d => ?_
    split
    · refine (unheard_access _).bind fun opened => ?_
      exact (unheard_receive .record opened).bind fun _ => hv _
    · exact unheard_pure _
  | symbols key =>
    exact unheard_withRecord fun r => unheard_engine (fun _ => rfl) fun e =>
      unheard_find _ fun s => hv _
  | occurrences key lines =>
    exact unheard_withRecord fun r => unheard_engine (fun _ => rfl) fun e =>
      unheard_find _ fun o => hv _
  | relations o => exact unheard_engine (fun _ => rfl) fun e => unheard_find _ fun r => hv _

/-- Whatever a client does, it goes the same however texts with a zero octet are answered. The
induction is on the script, so visitors are covered. -/
theorem unheard_script (script : Script) : Unheard other script.run := by
  induction script with
  | done reply => exact unheard_pure _
  | call call next ih =>
    exact (unheard_call call).bind fun answer => unheard_note.bind fun _ => ih answer
  | visit sequence visitor next visits ih =>
    refine (unheard_visit sequence fun item => ?_).bind fun kept =>
      unheard_note.bind fun _ => ih kept
    exact unheard_get (fun _ => rfl) fun c => visits _ item

end Clients

/-- What is refused, wherever an engine is to be given a text with a zero octet: the answer is the
same on every engine and the ledger is left alone. An enumeration gives the fault in the place of
the name, opens the other names as before, and lends no more than it lends anyway. -/
structure RefusesZeros (e : Engine) : Prop where
  /-- The directory is looked at first, and that is what fails. -/
  openAt (lib : Library) (files : Library.Files) (path : Path) (l : Ledger) : lib.engine = e →
    hasNul path.text → Store.openAt lib files path l = (.error (.io path .zeroOctet), l)
  openUnit (name : String) (l : Ledger) : hasNul name →
    e.openUnit name l = (.error (zeroInUnit name), l)
  openRecord (name : String) (file : Option Path) (l : Ledger) : hasNul name →
    e.openRecord name file l = (.error (zeroInRecord name), l)
  unitInstant (name : String) (l : Ledger) : hasNul name →
    e.unitInstant name l = (.error (.engine s!"unit name {Text.quote name} contains NUL"), l)
  unitForOutput (path : Path) (l : Ledger) : hasNul path.text →
    e.unitForOutput path l = (.error (.store (.invalidPath path)), l)
  pulledUnit (c : UnitCursor) (name : String) (rest : List (Except Fault String)) (l : Ledger) :
    e.unitCursors.left c = .ok name :: rest → hasNul name →
    c.next e l = ((some (.error (zeroInUnit name)), { c with pending := some rest }),
      e.unitCursors.gathered c l)
  pulledRecord (c : RecordCursor) (name : String) (file : Path) (rest : List RecordName)
    (l : Ledger) : e.recordCursors.left c = (name, file) :: rest → hasNul name →
    c.next e l = ((some (.error (zeroInRecord name)), { c with pending := some rest }),
      e.recordCursors.gathered c l)
  shownUnits {σ β : Type} (sorted : Bool) (discard : β → StateT σ Access Unit)
    (visit : Except Fault OpenUnit → StateT σ Access (Option β)) :
    e.findUnit sorted discard visit = (e.names sorted).findDiscarding discard (e.showName visit)
  shownRecords {σ β : Type} (u : OpenUnit) (discard : β → StateT σ Access Unit)
    (visit : Except Fault OpenRecord → StateT σ Access (Option β)) :
    u.findRecord e discard visit =
      (u.dependencies e).findDiscarding discard (e.showDependency visit)

/-- Texts with a zero octet are refused, no path is refused as a text when a store is opened, and no
run of a client depends on what its engine would answer to such a text. -/
theorem zero_octets_refused (e : Engine) :
    RefusesZeros e ∧
    (∀ (lib : Library) (files : Library.Files) (path q : Path) (l : Ledger),
      (Store.openAt lib files path l).1 ≠ .error (.invalidPath q)) ∧
    ∀ (other : Engine) (script : Script) (c : Client), c.library.engine = e →
      script.run (c.hearing other) = ((script.run c).1, (script.run c).2.hearing other) := by
  refine ⟨?_, fun lib files path q l => openAt_ne_invalidPath files lib path q l,
    fun other script c _ => unheard_script script c⟩
  exact {
    openAt := fun lib files path l _ h => openAt_zero files lib h l
    openUnit := fun name l h => openUnit_zero e l h
    openRecord := fun name file l h => openRecord_zero e l h file
    unitInstant := fun name l h => unitInstant_zero e l h
    unitForOutput := fun path l h => unitForOutput_zero e l h
    pulledUnit := fun c name rest l next h => nextUnit_zero e next h l
    pulledRecord := fun c name file rest l next h => nextRecord_zero e next h l
    shownUnits := findUnit_shown e
    shownRecords := findRecord_shown e }

/-- On a tree with a store in it, the path of the store with a zero octet and more behind it comes
to a fault of inspection; the same path as an output file is refused for its text. -/
theorem zero_path_inspected :
    let path : Path := ⟨"store\x00x"⟩
    let files : Library.Files :=
      (FileTree.empty ⟨0⟩ ["work"]).addDirectory ⟨"store/v5"⟩
    let engine := (Tables.ofContents ⟨[], []⟩).engine {}
    (Store.openAt (.ofEngine engine) files path {}).1 = .error (.io path .zeroOctet) ∧
      (Store.openAt (.ofEngine engine) files path {}).1 ≠ .error (.invalidPath path) ∧
      (engine.unitForOutput path {}).1 = .error (.store (.invalidPath path)) := by
  intro path files engine
  have zero : hasNul path.text := by decide
  refine ⟨?_, ?_, ?_⟩
  · rw [openAt_zero files _ zero]
  · exact openAt_ne_invalidPath files _ path path {}
  · rw [unitForOutput_zero engine {} zero]

end CodeIndex
