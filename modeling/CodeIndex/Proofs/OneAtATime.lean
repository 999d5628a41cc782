import CodeIndex.Command.Run
import CodeIndex.Engine.Tables
import CodeIndex.Proofs.VisitorCalls
/-!
# One reader at a time

Whatever a command comes to, it gives back every unit and record it opened, and on the way it never
has more than one unit and one record open. The end of a run shows the first. To see the second, the
engine is watched: after each of its calls the counters are looked at, and a moment that is not
allowed is noted as a miss. A run that goes the same with and without the watch had no such moment.
-/
namespace CodeIndex

open Report

/-- Work after which the counters are looked at. -/
def Access.watched {α : Type} (allowed : Counters → Bool) (work : Access α) : Access α := do
  let outcome ← work
  Access.count fun c => if allowed c then c else { c with misses := c.misses + 1 }
  pure outcome

/-- The engine with each call that opens or closes something watched. -/
def Engine.watched (allowed : Counters → Bool) (e : Engine) : Engine where
  formatVersion := e.formatVersion
  concurrentReads := e.concurrentReads
  conduct := e.conduct
  createStore path := (e.createStore path).watched allowed
  disposeStore handle := (e.disposeStore handle).watched allowed
  unitNames := e.unitNames
  unitNameFor := e.unitNameFor
  unitTime := e.unitTime
  createUnit name := (e.createUnit name).watched allowed
  disposeUnit handle := (e.disposeUnit handle).watched allowed
  createRecord name := (e.createRecord name).watched allowed
  disposeRecord handle := (e.disposeRecord handle).watched allowed

/-- A moment that is not allowed is noted. -/
theorem misses_watched {α : Type} {allowed : Counters → Bool} {work : Access α} {l : Ledger}
    (forbidden : allowed (work l).2.counters = false) :
    (work.watched allowed l).2.counters.misses = (work l).2.counters.misses + 1 := by
  simp [Access.watched, forbidden]

/-- No store, at most one unit and at most one record more than at first are open. -/
def oneMore (first : Counters) (c : Counters) : Bool :=
  c.stores == first.stores && c.units ≤ first.units + 1 && c.records ≤ first.records + 1

/-- How many units and records were opened and not yet closed. -/
structure Open where
  units : Nat := 0
  records : Nat := 0

/-- A ledger on which these are open besides what was open at first. The peak followed one more unit
at most. -/
structure Further (first : Ledger) (more : Open) (l : Ledger) : Prop where
  stores : l.counters.stores = first.counters.stores
  units : l.counters.units = first.counters.units + more.units
  records : l.counters.records = first.counters.records + more.records
  misses : l.counters.misses = first.counters.misses
  objects : l.objects = first.objects
  peak : first.counters.peakUnits ≤ l.counters.peakUnits
  onePeak : l.counters.peakUnits ≤ max first.counters.peakUnits (first.counters.units + 1)

section Counters

variable {first l : Ledger} {units records : Nat}

theorem Further.refl (first : Ledger) : Further first {} first where
  stores := rfl
  units := rfl
  records := rfl
  misses := rfl
  objects := rfl
  peak := Nat.le_refl _
  onePeak := Nat.le_max_left _ _

/-- A moment with one unit and one record more is allowed, and nothing is noted. -/
theorem Further.allowed {more : Open} (h : Further first more l) (units : more.units ≤ 1)
    (records : more.records ≤ 1) : oneMore first.counters l.counters = true := by
  simp only [oneMore, h.stores, h.units, h.records, beq_self_eq_true, Bool.true_and,
    Bool.and_eq_true, decide_eq_true_eq]
  omega

theorem Further.lendMany {more : Open} (h : Further first more l) (count : Nat) :
    Further first more (l.lendMany count) where
  stores := h.stores
  units := h.units
  records := h.records
  misses := h.misses
  objects := h.objects
  peak := h.peak
  onePeak := h.onePeak

theorem Further.openUnit (h : Further first ⟨0, records⟩ l) :
    Further first ⟨1, records⟩ { l with counters := l.counters.openUnit } where
  stores := h.stores
  units := by simp [Counters.openUnit, h.units]
  records := h.records
  misses := h.misses
  objects := h.objects
  peak := Nat.le_trans h.peak (Nat.le_max_left _ _)
  onePeak := by
    have peak := h.onePeak
    simp only [Counters.openUnit, h.units]
    omega

theorem Further.closeUnit (h : Further first ⟨1, records⟩ l) :
    Further first ⟨0, records⟩ { l with counters := l.counters.closeUnit } where
  stores := h.stores
  units := by simp [Counters.closeUnit, h.units]
  records := h.records
  misses := by simp [Counters.closeUnit, Counters.missing, h.units, h.misses]
  objects := h.objects
  peak := h.peak
  onePeak := h.onePeak

theorem Further.openRecord (h : Further first ⟨units, 0⟩ l) :
    Further first ⟨units, 1⟩ { l with counters := l.counters.openRecord } where
  stores := h.stores
  units := h.units
  records := by simp [Counters.openRecord, h.records]
  misses := h.misses
  objects := h.objects
  peak := h.peak
  onePeak := h.onePeak

theorem Further.closeRecord (h : Further first ⟨units, 1⟩ l) :
    Further first ⟨units, 0⟩ { l with counters := l.counters.closeRecord } where
  stores := h.stores
  units := h.units
  records := by simp [Counters.closeRecord, h.records]
  misses := by simp [Counters.closeRecord, Counters.missing, h.records, h.misses]
  objects := h.objects
  peak := h.peak
  onePeak := h.onePeak

end Counters

section Steady

variable {first : Ledger} {α β : Type}

/-- Work goes the same with and without the watch, from a ledger on which `before` is open besides
what was open at first, and leaves open what its outcome tells. -/
def Steady (first : Ledger) (before : Open) (after : α → Open) (watched plain : Access α) : Prop :=
  ∀ ⦃l⦄, Further first before l →
    watched l = plain l ∧ Further first (after (plain l).1) (plain l).2

variable {before : Open} {after : α → Open} {after' : β → Open} {watched plain : Access α}

theorem steady_pure (a : α) (h : after a = before) :
    Steady first before after (pure a) (pure a) := by
  intro l further
  refine ⟨rfl, ?_⟩
  rw [pure_apply, h]
  exact further

theorem Steady.bind {next next' : α → Access β} (h : Steady first before after watched plain)
    (hn : ∀ a, Steady first (after a) after' (next a) (next' a)) :
    Steady first before after' (watched >>= next) (plain >>= next') := by
  intro l further
  obtain ⟨same, kept⟩ := h further
  obtain ⟨same', kept'⟩ := hn _ kept
  rw [bind_apply, bind_apply, same]
  exact ⟨same', kept'⟩

def OnlyLends (work : Access α) : Prop := ∀ l, ∃ count, (work l).2 = l.lendMany count

theorem OnlyLends.steady {work : Access α} (h : OnlyLends work) :
    Steady first before (fun _ => before) work work := by
  intro l further
  obtain ⟨count, lent⟩ := h l
  refine ⟨rfl, ?_⟩
  rw [lent]
  exact further.lendMany count

theorem onlyLends_pure (a : α) : OnlyLends (pure a : Access α) := fun _ => ⟨0, rfl⟩

theorem OnlyLends.bind {work : Access α} {next : α → Access β} (h : OnlyLends work)
    (hn : ∀ a, OnlyLends (next a)) : OnlyLends (work >>= next) := by
  intro l
  obtain ⟨count, lent⟩ := h l
  obtain ⟨count', lent'⟩ := hn (work l).1 (work l).2
  refine ⟨count + count', ?_⟩
  rw [bind_apply, lent', lent, Ledger.lendMany, Ledger.lendMany, Ledger.lendMany, Nat.add_assoc]

theorem onlyLends_lend {f : α → Access β} (h : ∀ item, OnlyLends (f item)) (item : α) :
    OnlyLends (Lending.lend f item : Access β) := by
  have noted : OnlyLends (Access.note Ledger.lend) := fun _ => ⟨1, rfl⟩
  exact noted.bind fun _ => h item

/-- Collecting lends the items, besides what each of the images lends. -/
theorem onlyLends_mapCollect (l : Lending α) {f : α → Access β} (h : ∀ item, OnlyLends (f item)) :
    OnlyLends (l.mapCollect f) := by
  rw [Lending.mapCollect_eq_mapM]
  induction l.items with
  | nil => exact onlyLends_pure _
  | cons item rest ih =>
    rw [List.mapM_cons]
    exact (onlyLends_lend h item).bind fun _ => ih.bind fun _ => onlyLends_pure _

theorem onlyLends_toList (l : Lending α) : OnlyLends l.toList :=
  onlyLends_mapCollect l onlyLends_pure

theorem onlyLends_count (l : Lending α) : OnlyLends l.count := fun ledger =>
  ⟨l.items.length, congrArg Prod.snd (l.count_apply ledger)⟩

section Entries

variable (e : Engine)

theorem onlyLends_snapshot (o : Occurrence) : OnlyLends (o.snapshot e) :=
  (onlyLends_mapCollect _ fun _ => onlyLends_pure _).bind fun _ => onlyLends_pure _

theorem onlyLends_takeOccurrence (usr : Option String) (o : Occurrence) :
    OnlyLends (takeOccurrence e usr o) := by
  unfold takeOccurrence
  split
  · exact (onlyLends_snapshot e o).bind fun _ => onlyLends_pure _
  · exact onlyLends_pure _

theorem onlyLends_includesEntry (mainFile : Option String) (u : OpenUnit) :
    OnlyLends (includesEntry e mainFile u) := by
  unfold includesEntry
  split
  · exact (onlyLends_mapCollect _ fun _ => onlyLends_pure _).bind fun _ => onlyLends_pure _
  · exact onlyLends_pure _

theorem onlyLends_staleness (files : FileSystem NativeLibrary) (u : OpenUnit) :
    OnlyLends (u.staleness e files) := by
  have inputs : OnlyLends (u.inputFiles e) :=
    (onlyLends_toList _).bind fun _ => onlyLends_pure _
  refine inputs.bind fun found => ?_
  cases OpenUnit.judge files u.written found <;> exact onlyLends_pure _

theorem onlyLends_staleEntry (files : FileSystem NativeLibrary) (onlyStale : Bool) (u : OpenUnit) :
    OnlyLends (staleEntry e files onlyStale u) := by
  refine (onlyLends_staleness e files u).bind fun outcome => ?_
  cases outcome with
  | error fault => exact onlyLends_pure _
  | ok staleness =>
    dsimp only
    split <;> exact onlyLends_pure _

end Entries

end Steady

section Calls

variable {first : Ledger} {α β ε : Type}

def unitOpened (records : Nat) : Except ε α → Open
  | .ok _ => ⟨1, records⟩
  | .error _ => ⟨0, records⟩

def recordOpened (units : Nat) : Except ε α → Open
  | .ok _ => ⟨units, 1⟩
  | .error _ => ⟨units, 0⟩

/-- Watching does nothing to a moment that is allowed. -/
theorem steady_watched {before : Open} {after : α → Open} {work : Access α}
    (few : ∀ a, (after a).units ≤ 1 ∧ (after a).records ≤ 1)
    (kept : ∀ l, Further first before l → Further first (after (work l).1) (work l).2) :
    Steady first before after (work.watched (oneMore first.counters)) work := by
  intro l further
  have there := kept l further
  refine ⟨?_, there⟩
  have allowed := there.allowed (few _).1 (few _).2
  simp only [Access.watched, bind_apply, Access.count_apply, pure_apply, allowed, if_true]
  rfl

theorem further_handOut {before opened : Open} {after : Except String α → Open}
    {count : Counters → Counters} (answer : Except String α)
    (failed : ∀ message, after (.error message) = before) (found : ∀ a, after (.ok a) = opened)
    (counts : ∀ l, Further first before l →
      Further first opened { l with counters := count l.counters }) (l : Ledger)
    (further : Further first before l) :
    Further first (after (Tables.handOut count answer l).1) (Tables.handOut count answer l).2 := by
  cases answer with
  | error message =>
    rw [Tables.handOut_fst, failed]
    exact further
  | ok a =>
    rw [Tables.handOut_fst, found]
    exact counts l further

variable (t : Tables) (settings : MemorySettings) (first)

/-- The engine in memory, watched for moments with more than one unit or record more than at
first. -/
abbrev Tables.watchedEngine (first : Ledger) : Engine :=
  (t.engine settings).watched (oneMore first.counters)

theorem steady_createUnit (records : Nat) (few : records ≤ 1) (name : String) :
    Steady first ⟨0, records⟩ (unitOpened records)
      ((t.watchedEngine settings first).createUnit name)
      ((t.engine settings).createUnit name) := by
  refine steady_watched (fun outcome => ?_) (further_handOut _ (fun _ => rfl) (fun _ => rfl)
    fun l further => further.openUnit)
  cases outcome <;> simp [unitOpened, few]

/-- The watch sees a second unit that is opened before the first one is closed. -/
theorem second_unit_noted {name name' : String} {unit unit' : Handle}
    (opens : t.openUnit name = .ok unit) (opens' : t.openUnit name' = .ok unit') :
    ((do let _ ← (t.watchedEngine settings first).createUnit name
         (t.watchedEngine settings first).createUnit name') first).2.counters.misses =
      first.counters.misses + 1 := by
  obtain ⟨same, -⟩ :=
    steady_createUnit first t settings 0 (Nat.zero_le 1) name (.refl first)
  have created : ((t.engine settings).createUnit name first).2 =
      { first with counters := first.counters.openUnit } := by
    simp only [Tables.engine, opens]
    rfl
  have created' (l : Ledger) : ((t.engine settings).createUnit name' l).2 =
      { l with counters := l.counters.openUnit } := by
    simp only [Tables.engine, opens']
    rfl
  have forbidden : oneMore first.counters ((t.engine settings).createUnit name'
      { first with counters := first.counters.openUnit }).2.counters = false := by
    rw [created']
    simp [oneMore, Counters.openUnit]
  have noted := misses_watched forbidden
  rw [created'] at noted
  rw [bind_apply, same, created]
  exact noted

theorem steady_openUnit (records : Nat) (few : records ≤ 1) (name : String) :
    Steady first ⟨0, records⟩ (unitOpened records) ((t.watchedEngine settings first).openUnit name)
      ((t.engine settings).openUnit name) := by
  unfold Engine.openUnit
  split
  · exact steady_pure _ rfl
  · refine (steady_createUnit first t settings records few name).bind fun outcome => ?_
    cases outcome <;> exact steady_pure _ rfl

theorem steady_openNamedUnit (records : Nat) (few : records ≤ 1) (name : Except Fault String) :
    Steady first ⟨0, records⟩ (unitOpened records)
      ((t.watchedEngine settings first).openNamedUnit name)
      ((t.engine settings).openNamedUnit name) := by
  cases name with
  | error fault => exact steady_pure _ rfl
  | ok name => exact steady_openUnit first t settings records few name

theorem steady_closeUnit (records : Nat) (few : records ≤ 1) (u : OpenUnit) :
    Steady first ⟨1, records⟩ (fun _ => ⟨0, records⟩) (u.close (t.watchedEngine settings first))
      (u.close (t.engine settings)) :=
  steady_watched (fun _ => ⟨Nat.zero_le 1, few⟩) fun _ further => further.closeUnit

theorem steady_openRecord (units : Nat) (few : units ≤ 1) (name : String) (file : Option Path) :
    Steady first ⟨units, 0⟩ (recordOpened units)
      ((t.watchedEngine settings first).openRecord name file)
      ((t.engine settings).openRecord name file) := by
  unfold Engine.openRecord
  split
  · exact steady_pure _ rfl
  · have created : Steady first ⟨units, 0⟩ (recordOpened units)
        ((t.watchedEngine settings first).createRecord name)
        ((t.engine settings).createRecord name) := by
      refine steady_watched (fun outcome => ?_) (further_handOut _ (fun _ => rfl) (fun _ => rfl)
        fun l further => further.openRecord)
      cases outcome <;> simp [recordOpened, few]
    refine created.bind fun outcome => ?_
    cases outcome <;> exact steady_pure _ rfl

theorem steady_closeRecord (units : Nat) (few : units ≤ 1) (r : OpenRecord) :
    Steady first ⟨units, 1⟩ (fun _ => ⟨units, 0⟩) (r.close (t.watchedEngine settings first))
      (r.close (t.engine settings)) :=
  steady_watched (fun _ => ⟨few, Nat.zero_le 1⟩) fun _ further => further.closeRecord

end Calls

section Reports

variable (first : Ledger) (t : Tables) (settings : MemorySettings) {α : Type}

/-- A unit that is worked on is closed, whatever the work comes to. -/
theorem steady_withUnit {entry entry' : OpenUnit → Access (Except Fault α)} (name : String)
    (h : ∀ u, Steady first ⟨1, 0⟩ (fun _ => ⟨1, 0⟩) (entry u) (entry' u)) :
    Steady first {} (fun _ => {}) (withUnit (t.watchedEngine settings first) name entry)
      (withUnit (t.engine settings) name entry') := by
  refine (steady_openUnit first t settings 0 (Nat.zero_le 1) name).bind fun outcome => ?_
  cases outcome with
  | error fault => exact steady_pure _ rfl
  | ok unit =>
    refine (h unit).bind fun result => ?_
    exact (steady_closeUnit first t settings 0 (Nat.zero_le 1) unit).bind fun _ => steady_pure _ rfl

/-- Each unit is closed before the next one is opened, also when its entry fails. -/
theorem steady_overNames {entry entry' : OpenUnit → Access (Except Fault (Option α))}
    (h : ∀ u, Steady first ⟨1, 0⟩ (fun _ => ⟨1, 0⟩) (entry u) (entry' u))
    (names : List (Except Fault String)) :
    Steady first {} (fun _ => {}) (overNames (t.watchedEngine settings first) entry names)
      (overNames (t.engine settings) entry' names) := by
  induction names with
  | nil => exact steady_pure _ rfl
  | cons name rest ih =>
    refine (steady_openNamedUnit first t settings 0 (Nat.zero_le 1) name).bind fun outcome => ?_
    cases outcome with
    | error fault => exact ih
    | ok unit =>
      refine (h unit).bind fun result => ?_
      refine (steady_closeUnit first t settings 0 (Nat.zero_le 1) unit).bind fun _ => ?_
      cases result with
      | error fault => exact steady_pure _ rfl
      | ok found => exact ih.bind fun _ => steady_pure _ rfl

theorem steady_gather {entry entry' : OpenUnit → Access (Except Fault (Option α))}
    (h : ∀ u, Steady first ⟨1, 0⟩ (fun _ => ⟨1, 0⟩) (entry u) (entry' u)) (unit : Option String)
    (sorted : Bool) :
    Steady first {} (fun _ => {}) (gather (t.watchedEngine settings first) unit sorted entry)
      (gather (t.engine settings) unit sorted entry') := by
  cases unit with
  | some name =>
    exact (steady_withUnit first t settings name h).bind fun _ => steady_pure _ rfl
  | none =>
    have gathered : Steady first {} (fun _ => {})
        ((UnitCursor.mk sorted none).gather (t.watchedEngine settings first))
        ((UnitCursor.mk sorted none).gather (t.engine settings)) :=
      (onlyLends_mapCollect _ fun _ => onlyLends_pure _).steady
    exact gathered.bind fun names => steady_overNames first t settings h names

theorem steady_countRecord (outcome : Except Fault OpenRecord) :
    Steady first (recordOpened 1 outcome) (fun _ => ⟨1, 0⟩)
      (countRecord (t.watchedEngine settings first) outcome)
      (countRecord (t.engine settings) outcome) := by
  cases outcome with
  | error fault => exact steady_pure _ rfl
  | ok record =>
    refine (onlyLends_count (record.symbols (t.engine settings))).steady.bind fun symbols => ?_
    refine (onlyLends_count (record.occurrences (t.engine settings) none)).steady.bind
      fun occurrences => ?_
    refine (steady_closeRecord first t settings 1 (Nat.le_refl 1) record).bind fun _ => ?_
    exact steady_pure _ rfl

/-- Each record is closed before the next one is opened. -/
theorem steady_countRecords (names : List RecordName) :
    Steady first ⟨1, 0⟩ (fun _ => ⟨1, 0⟩) (countRecords (t.watchedEngine settings first) names)
      (countRecords (t.engine settings) names) := by
  induction names with
  | nil => exact steady_pure _ rfl
  | cons record rest ih =>
    obtain ⟨name, file⟩ := record
    refine (steady_openRecord first t settings 1 (Nat.le_refl 1) name (some file)).bind
      fun outcome => ?_
    refine (steady_countRecord first t settings outcome).bind fun entry => ?_
    exact ih.bind fun _ => steady_pure _ rfl

theorem steady_recordEntries (unit : String) :
    Steady first {} (fun _ => {}) (recordEntries (t.watchedEngine settings first) unit)
      (recordEntries (t.engine settings) unit) := by
  refine steady_withUnit first t settings unit fun u => ?_
  have gathered : Steady first ⟨1, 0⟩ (fun _ => ⟨1, 0⟩)
      ((RecordCursor.mk u none).gather (t.watchedEngine settings first))
      ((RecordCursor.mk u none).gather (t.engine settings)) :=
    ((onlyLends_toList (u.dependencies (t.engine settings))).bind
      fun _ => onlyLends_pure _).steady
  refine gathered.bind fun names => ?_
  exact (steady_countRecords first t settings names).bind fun _ => steady_pure _ rfl

/-- The record is closed once what was asked for was copied. -/
theorem steady_occurrenceEntries (record : String) (usr : Option String)
    (lines : Option (UInt32 × UInt32)) :
    Steady first {} (fun _ => {})
      (occurrenceEntries (t.watchedEngine settings first) record usr lines)
      (occurrenceEntries (t.engine settings) record usr lines) := by
  refine (steady_openRecord first t settings 0 (Nat.zero_le 1) record none).bind fun outcome => ?_
  cases outcome with
  | error fault => exact steady_pure _ rfl
  | ok record =>
    have taken : Steady first ⟨0, 1⟩ (fun _ => ⟨0, 1⟩)
        ((record.occurrences (t.watchedEngine settings first) lines).mapCollect
          (takeOccurrence (t.watchedEngine settings first) usr))
        ((record.occurrences (t.engine settings) lines).mapCollect
          (takeOccurrence (t.engine settings) usr)) :=
      (onlyLends_mapCollect _ (onlyLends_takeOccurrence (t.engine settings) usr)).steady
    refine taken.bind fun found => ?_
    exact (steady_closeRecord first t settings 0 (Nat.zero_le 1) record).bind
      fun _ => steady_pure _ rfl

/-- A command is a run that gathers entries and shows them. -/
theorem steady_run (files : FileSystem NativeLibrary) (clock : Instant) (json : Bool)
    (command : Command) :
    Steady first {} (fun _ => {})
      (command.run (t.watchedEngine settings first) files clock json)
      (command.run (t.engine settings) files clock json) := by
  cases command with
  | units sorted =>
    refine (steady_gather first t settings (fun _ => steady_pure _ rfl) none sorted).bind
      fun entries => ?_
    cases entries with
    | error fault => exact steady_pure _ rfl
    | ok entries => cases json <;> exact steady_pure _ rfl
  | includes unit mainFile =>
    refine (steady_gather first t settings
      (fun u => (onlyLends_includesEntry (t.engine settings) mainFile u).steady) unit true).bind
      fun entries => ?_
    cases entries <;> exact steady_pure _ rfl
  | records unit =>
    refine (steady_recordEntries first t settings unit).bind fun entries => ?_
    cases entries <;> exact steady_pure _ rfl
  | occurrences record usr start count =>
    refine (steady_occurrenceEntries first t settings record usr _).bind fun entries => ?_
    cases entries <;> exact steady_pure _ rfl
  | stale unit onlyStale =>
    refine (steady_gather first t settings
      (fun u => (onlyLends_staleEntry (t.engine settings) files onlyStale u).steady) unit true).bind
      fun entries => ?_
    cases entries <;> exact steady_pure _ rfl

end Reports

/-- A command on an engine in memory, whatever is open at first and whatever the command comes to:
nothing is left open and nothing came back that was not out; the peak followed one more unit at
most; and no moment of the run had more than one unit or one record more open than at first. -/
structure OneReader (t : Tables) (settings : MemorySettings) (first : Ledger)
    (run : Engine → Access (Except ReportFault String)) : Prop where
  handles : let last := (run (t.engine settings) first).2
    last.stores = first.stores ∧ last.units = first.units ∧ last.records = first.records ∧
      last.total = first.total
  misses : (run (t.engine settings) first).2.counters.misses = first.counters.misses
  peak : (run (t.engine settings) first).2.peakUnits ≤
    max first.peakUnits (first.counters.units + 1)
  moments : run ((t.engine settings).watched (oneMore first.counters)) first =
    run (t.engine settings) first

theorem one_reader_at_a_time (t : Tables) (settings : MemorySettings)
    (files : FileSystem NativeLibrary) (clock : Instant) (json : Bool) (command : Command)
    (first : Ledger) :
    OneReader t settings first fun e => command.run e files clock json := by
  obtain ⟨same, last⟩ := steady_run first t settings files clock json command (.refl first)
  have stores : (command.run (t.engine settings) files clock json first).2.stores =
      first.stores := by rw [Ledger.stores, Ledger.stores, last.stores, last.objects]
  have units : (command.run (t.engine settings) files clock json first).2.units =
      first.units := by rw [Ledger.units, Ledger.units, last.units, last.objects]; rfl
  have records : (command.run (t.engine settings) files clock json first).2.records =
      first.records := by rw [Ledger.records, Ledger.records, last.records, last.objects]; rfl
  exact {
    handles := ⟨stores, units, records, by rw [Ledger.total, Ledger.total, stores, units, records]⟩
    misses := last.misses
    peak := last.onePeak
    moments := same }

end CodeIndex
