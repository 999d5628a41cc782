import CodeIndex.Proofs.PathOctets
import CodeIndex.Proofs.Rows
/-!
# What reports list

Reports on all units list units that open, and no others. Once the entries of a report are gathered
they can be written, but for one case: the time of a unit that was written before the epoch has no
written form, so the JSON of units fails when such a unit is listed.
-/
namespace CodeIndex

namespace Report

section Times

/-- However far from the epoch a time is, its instant lies on the same side. -/
theorem toInstant_beforeEpoch (t : Timestamp) : t.toInstant.nanos < 0 ↔ t.total < 0 := by
  have far : (0 : Int) < farthest := by decide
  simp only [Timestamp.toInstant]
  omega

theorem unitToJson_error {u : UnitInfo} (early : u.modified.nanos < 0) :
    u.toJson = .error .beforeEpoch := by
  rw [UnitInfo.toJson, Instant.toJson, if_pos early]
  rfl

theorem unitToJson_ok {u : UnitInfo} (late : ¬ u.modified.nanos < 0) : ∃ j, u.toJson = .ok j := by
  rw [UnitInfo.toJson, Instant.toJson, if_neg late]
  exact ⟨_, rfl⟩

/-- A list of units cannot be written exactly when one of them is from before the epoch. -/
theorem mapM_unitToJson_error (entries : List UnitInfo) (fault : Instant.WritingFault) :
    entries.mapM UnitInfo.toJson = .error fault ↔ ∃ u ∈ entries, u.modified.nanos < 0 := by
  cases fault
  induction entries with
  | nil => simp [pure, Except.pure]
  | cons u rest ih =>
    by_cases early : u.modified.nanos < 0
    · rw [mapM_cons_error (unitToJson_error early)]
      simp [early]
    · obtain ⟨j, written⟩ := unitToJson_ok early
      rw [mapM_cons_ok written]
      simp only [List.mem_cons, exists_eq_or_imp, early, false_or, ← ih]
      cases rest.mapM UnitInfo.toJson <;> simp [Except.map]

end Times

section Listed

variable {α β γ ε : Type} {f : α → Except ε (Option β)}

/-- When every item gives something, each gives it in its place. -/
theorem mapM_some {g : α → β} (gives : ∀ x, f x = .ok (some (g x))) (xs : List α) :
    (xs.mapM f).map (·.flatMap Option.toList) = .ok (xs.map g) := by
  have flat : (xs.map fun x => some (g x)).flatMap Option.toList = xs.map g := by
    rw [List.flatMap_map, List.map_eq_flatMap]
    rfl
  rw [mapM_ok gives]
  exact congrArg Except.ok flat

/-- When an item gives nothing but what bears its name, the names stay in order. -/
theorem mapM_sublist {name : α → γ} {key : β → γ}
    (keeps : ∀ x y, f x = .ok (some y) → key y = name x) (xs : List α) {ys : List β}
    (gathered : (xs.mapM f).map (·.flatMap Option.toList) = .ok ys) :
    (ys.map key).Sublist (xs.map name) := by
  induction xs generalizing ys with
  | nil =>
    cases gathered
    exact .slnil
  | cons x rest ih =>
    cases found : f x with
    | error fault =>
      rw [mapM_cons_error found] at gathered
      nomatch gathered
    | ok y =>
      rw [mapM_cons_ok found] at gathered
      cases further : rest.mapM f with
      | error fault => rw [further] at gathered; nomatch gathered
      | ok found' =>
        rw [further] at gathered ih
        cases gathered
        have tail := ih rfl
        cases y with
        | none => exact tail.cons _
        | some y =>
          have named := keeps x y found
          simpa [named] using tail

end Listed

section Opened

variable {e : Engine} {answer : String → Except String UnitReader}

def glance (seen : String × UnitReader) : UnitInfo := (OpenUnit.mk seen.1 0 seen.2).snapshot

theorem glance_seen (u : OpenUnit) : glance u.seen = u.snapshot := rfl

/-- The units that are listed, by what is seen of those that open. -/
theorem unitEntries_fst (h : e.AnswersUnits answer) (sorted : Bool) (l : Ledger) :
    (unitEntries e sorted l).1 =
      .ok ((seenUnits answer ((e.unitNames sorted).map Engine.readName)).map glance) := by
  have sight : BySight fun unit : OpenUnit =>
      (pure (.ok (some unit.snapshot)) : Access (Except Fault (Option UnitInfo))) := by
    intro u u' l l' same
    simp only [pure_apply, ← glance_seen, same]
  rw [unitEntries, gather_none_fst h sight]
  exact mapM_some (fun _ => rfl) _

/-- A unit that is seen opens, and is seen the same then. -/
theorem openUnit_of_seen (h : e.AnswersUnits answer) {names : List (Except Fault String)}
    {seen : String × UnitReader} (member : seen ∈ seenUnits answer names) (l : Ledger) :
    ∃ u, (e.openUnit seen.1 l).1 = .ok u ∧ u.seen = seen := by
  have opens := openUnit_seen h seen.1 l
  rw [seenUnits_open seen member] at opens
  cases opened : (e.openUnit seen.1 l).1 with
  | error fault => rw [opened] at opens; nomatch opens
  | ok u =>
    rw [opened] at opens
    exact ⟨u, rfl, Except.ok.inj opens⟩

/-- A unit that does not open does not open another time. -/
theorem openUnit_unopened (h : e.AnswersUnits answer) {name : String} {fault : Fault} {l : Ledger}
    (unopened : (e.openUnit name l).1 = .error fault) (l' : Ledger) :
    (e.openUnit name l').1 = .error fault := by
  have named := openUnit_seen h name l
  have again := openUnit_seen h name l'
  rw [unopened] at named
  rw [← named] at again
  cases opened : (e.openUnit name l').1 with
  | error other =>
    rw [opened] at again
    exact congrArg Except.error (Except.error.inj again)
  | ok u => rw [opened] at again; nomatch again

/-- The units that are listed are those that open, each as it is then. -/
theorem units_listed (h : e.AnswersUnits answer) (sorted : Bool) (l l' : Ledger) :
    ∃ entries, (unitEntries e sorted l).1 = .ok entries ∧
      entries.map (·.name) = e.openable sorted l' ∧
      ∀ entry ∈ entries, ∃ u, (e.openUnit entry.name l').1 = .ok u ∧ entry = u.snapshot := by
  refine ⟨_, unitEntries_fst h sorted l, ?_, ?_⟩
  · rw [openable_eq h, List.map_map]
    rfl
  · intro entry listed
    obtain ⟨seen, member, rfl⟩ := List.mem_map.mp listed
    obtain ⟨u, opened, same⟩ := openUnit_of_seen h member l'
    exact ⟨u, opened, by rw [← glance_seen, same]⟩

/-- A unit from before the epoch is listed exactly when one opens. -/
theorem early_listed {sorted : Bool} {l : Ledger} {entries : List UnitInfo}
    (names : entries.map (·.name) = e.openable sorted l)
    (opened : ∀ entry ∈ entries, ∃ u, (e.openUnit entry.name l).1 = .ok u ∧ entry = u.snapshot) :
    (∃ entry ∈ entries, entry.modified.nanos < 0) ↔
      ∃ name ∈ e.openable sorted l, ∃ u,
        (e.openUnit name l).1 = .ok u ∧ u.reader.modified.total < 0 := by
  constructor
  · rintro ⟨entry, listed, early⟩
    obtain ⟨u, opens, same⟩ := opened entry listed
    refine ⟨entry.name, names ▸ List.mem_map_of_mem listed, u, opens, ?_⟩
    rw [same] at early
    exact (toInstant_beforeEpoch _).mp early
  · rintro ⟨name, member, u, opens, early⟩
    rw [← names] at member
    obtain ⟨entry, listed, rfl⟩ := List.mem_map.mp member
    obtain ⟨u', opens', same⟩ := opened entry listed
    rw [opens] at opens'
    cases opens'
    refine ⟨entry, listed, ?_⟩
    rw [same]
    exact (toInstant_beforeEpoch _).mpr early

/-- The JSON of units fails exactly when a unit that opens was written before the epoch. -/
theorem units_written (h : e.AnswersUnits answer) (files : FileSystem NativeLibrary) (sorted : Bool)
    (clock : Instant) (l l' : Ledger) (fault : ReportFault) :
    ((Command.units sorted).run e files clock true l).1 = .error fault ↔
      fault = .writing .beforeEpoch ∧ ∃ name ∈ e.openable sorted l', ∃ u,
        (e.openUnit name l').1 = .ok u ∧ u.reader.modified.total < 0 := by
  obtain ⟨entries, gathered, names, opened⟩ := units_listed h sorted l l'
  have early := mapM_unitToJson_error entries
  rw [(units_modesAgree e files sorted).json clock l entries gathered, ← early_listed names opened]
  cases written : entries.mapM unitForm.toJson with
  | error cause =>
    have some := (early cause).mp written
    cases cause
    simp [Except.map, Except.mapError, some, eq_comm]
  | ok items =>
    have none : ¬ ∃ entry ∈ entries, entry.modified.nanos < 0 := by
      intro some
      have failed : entries.mapM unitForm.toJson = .error .beforeEpoch :=
        (early .beforeEpoch).mpr some
      rw [failed] at written
      nomatch written
    simp [Except.map, Except.mapError, none]

theorem includes_listed (h : e.AnswersUnits answer) (mainFile : Option String) {l : Ledger}
    {entries : List UnitIncludes} (gathered : (includesEntries e none mainFile l).1 = .ok entries)
    (l' : Ledger) : (entries.map (·.unit)).Sublist (e.openable true l') := by
  rw [includesEntries, gather_none_fst h (includesEntry_bySight e mainFile)] at gathered
  rw [openable_eq h]
  refine mapM_sublist (fun seen entry given => ?_) _ gathered
  rw [entryOf, includesEntry_fst] at given
  split at given
  · cases given
    rfl
  · cases given

theorem stale_listed (h : e.AnswersUnits answer) (files : FileSystem NativeLibrary)
    (onlyStale : Bool) {l : Ledger} {entries : List UnitStaleness}
    (gathered : (staleEntries e files none onlyStale l).1 = .ok entries) (l' : Ledger) :
    (entries.map (·.unit)).Sublist (e.openable true l') := by
  rw [staleEntries, gather_none_fst h (staleEntry_bySight e files onlyStale)] at gathered
  rw [openable_eq h]
  refine mapM_sublist (fun seen entry given => ?_) _ gathered
  rw [entryOf, staleEntry_fst] at given
  cases found : (OpenUnit.staleness e files ⟨seen.1, 0, seen.2⟩ {}).1 with
  | error fault => rw [found] at given; cases given
  | ok staleness =>
    rw [found] at given
    have kept : keepStale onlyStale seen.1 staleness = some entry := Except.ok.inj given
    unfold keepStale at kept
    split at kept
    · cases kept
    · cases kept
      rfl

/-- A report on a unit that does not open says so. -/
theorem records_unopened (h : e.AnswersUnits answer) {name : String} {fault : Fault} {l : Ledger}
    (unopened : (e.openUnit name l).1 = .error fault) (l' : Ledger) :
    (recordEntries e name l').1 = .error fault := by
  rw [recordEntries, withUnit, bind_apply, openUnit_unopened h unopened l']
  rfl

end Opened

structure ReportsShown (e : Engine) (files : FileSystem NativeLibrary) : Prop where
  units (sorted : Bool) : ModesAgree unitForm (unitEntries e sorted)
    fun clock json => (Command.units sorted).run e files clock json
  includes (unit mainFile : Option String) :
    ModesAgree includesForm (includesEntries e unit mainFile)
      fun clock json => (Command.includes unit mainFile).run e files clock json
  records (unit : String) : ModesAgree recordForm (recordEntries e unit)
    fun clock json => (Command.records unit).run e files clock json
  occurrences (record : String) (usr : Option String) (start count : Option UInt32) :
    ModesAgree occurrenceForm (occurrenceEntries e record usr (Command.lines start count))
      fun clock json => (Command.occurrences record usr start count).run e files clock json
  stale (unit : Option String) (onlyStale : Bool) :
    ModesAgree staleForm (staleEntries e files unit onlyStale)
      fun clock json => (Command.stale unit onlyStale).run e files clock json
  /-- The JSON of units fails when a unit that is listed was written before the epoch. -/
  unitsWritten (sorted : Bool) (clock : Instant) (l l' : Ledger) (fault : ReportFault) :
    ((Command.units sorted).run e files clock true l).1 = .error fault ↔
      fault = .writing .beforeEpoch ∧ ∃ name ∈ e.openable sorted l', ∃ u,
        (e.openUnit name l').1 = .ok u ∧ u.reader.modified.total < 0
  /-- No other JSON fails once its entries are gathered. -/
  othersWritten (command : Command) (clock : Instant) (json : Bool) (l : Ledger)
    (fault : Instant.WritingFault) :
    (command.run e files clock json l).1 = .error (.writing fault) →
    ∃ sorted, command = .units sorted
  /-- The units that open are listed, each as it is when it is opened. -/
  unitsListed (sorted : Bool) (l l' : Ledger) : ∃ entries,
    (unitEntries e sorted l).1 = .ok entries ∧ entries.map (·.name) = e.openable sorted l' ∧
    ∀ entry ∈ entries, ∃ u, (e.openUnit entry.name l').1 = .ok u ∧ entry = u.snapshot
  /-- Reports on all units have no entries but those of units that open. -/
  includesListed (mainFile : Option String) (l l' : Ledger) (entries : List UnitIncludes) :
    (includesEntries e none mainFile l).1 = .ok entries →
    (entries.map (·.unit)).Sublist (e.openable true l')
  staleListed (onlyStale : Bool) (l l' : Ledger) (entries : List UnitStaleness) :
    (staleEntries e files none onlyStale l).1 = .ok entries →
    (entries.map (·.unit)).Sublist (e.openable true l')
  /-- A report on one unit that does not open fails in both modes. -/
  unopened (name : String) (fault : Fault) (mainFile : Option String) (onlyStale : Bool)
    (clock : Instant) (json : Bool) (l l' : Ledger) : (e.openUnit name l).1 = .error fault →
    ∀ command ∈ [Command.includes (some name) mainFile, .records name,
      .stale (some name) onlyStale], (command.run e files clock json l').1 = .error (.query fault)

theorem reportsShown {e : Engine} {answer : String → Except String UnitReader}
    (h : e.AnswersUnits answer) (files : FileSystem NativeLibrary) : ReportsShown e files where
  units := units_modesAgree e files
  includes := includes_modesAgree e files
  records := records_modesAgree e files
  occurrences := occurrences_modesAgree e files
  stale := stale_modesAgree e files
  unitsWritten := units_written h files
  othersWritten command clock json l fault failed := by
    cases command with
    | units sorted => exact ⟨sorted, rfl⟩
    | includes unit mainFile =>
      exact absurd failed ((includes_modesAgree e files unit mainFile).writes
        (fun _ => rfl) clock json l fault)
    | records unit =>
      exact absurd failed ((records_modesAgree e files unit).writes
        (fun _ => rfl) clock json l fault)
    | occurrences record usr start count =>
      exact absurd failed ((occurrences_modesAgree e files record usr start count).writes
        (fun _ => rfl) clock json l fault)
    | stale unit onlyStale =>
      exact absurd failed ((stale_modesAgree e files unit onlyStale).writes
        (fun _ => rfl) clock json l fault)
  unitsListed := units_listed h
  includesListed mainFile l l' entries gathered := includes_listed h mainFile gathered l'
  staleListed onlyStale l l' entries gathered := stale_listed h files onlyStale gathered l'
  unopened name fault mainFile onlyStale clock json l l' unopened command member := by
    simp only [List.mem_cons, List.not_mem_nil, or_false] at member
    rcases member with rfl | rfl | rfl
    · refine (includes_modesAgree e files (some name) mainFile).fails clock json l' fault ?_
      exact (gather_concatenates h (includesEntry_bySight e mainFile)).unopened name fault l l'
        unopened
    · refine (records_modesAgree e files name).fails clock json l' fault ?_
      exact records_unopened h unopened l'
    · refine (stale_modesAgree e files (some name) onlyStale).fails clock json l' fault ?_
      exact (gather_concatenates h (staleEntry_bySight e files onlyStale)).unopened name fault l l'
        unopened

/-- The paths of entries are written from their octets. -/
structure PathsWritten : Prop where
  /-- Paths are joined octet by octet, and remain text. -/
  inputs (u : OpenUnit) (dependencies : List Dependency) :
    (u.metInputs dependencies).map Path.octets = u.metOctets dependencies
  path (p : Path) : writePath p.octets = .ok (.string p.text)
  units (u : UnitInfo) : u.write = u.toJson.mapError .time
  includes (u : UnitIncludes) : u.write = .ok u.toJson
  stale (u : UnitStaleness) : u.write = .ok u.toJson

/-- Tables and JSON show the same, with every engine that answers alike when asked again: rows are
read off the entries of the JSON, which fails for units from before the epoch and for nothing else.
No path of an entry keeps it from being written. -/
theorem tables_show_json :
    (∀ (t : Tables) (settings : MemorySettings) (files : FileSystem NativeLibrary),
      ReportsShown (t.engine settings) files) ∧
    (∀ (P : Pointee → Type) (f : NativeFunctions P) (files : FileSystem NativeLibrary),
      ReportsShown f.engine files) ∧
    PathsWritten :=
  ⟨fun t settings files => reportsShown (t.answersUnits settings) files,
    fun _ f files => reportsShown f.answersUnits files,
    ⟨OpenUnit.octets_metInputs, writePath_octets, UnitInfo.write_eq, UnitIncludes.write_eq,
      UnitStaleness.write_eq⟩⟩

end Report

end CodeIndex
