import CodeIndex.Library
import CodeIndex.Proofs.Binding
import CodeIndex.Proofs.NativeObjects
import CodeIndex.Store.Cursor
import CodeIndex.Store.Inputs
import CodeIndex.Store.Snapshot
import Mathlib.Data.List.Find
/-!
# Loading

Loading looks at one thing after the other, and the first that is amiss is the fault: the file, what
the system's loader makes of it, the functions that the library must have, the format it reads. Who
wrote a unit, and in which version, can be told only by functions that a library may lack. It loads
without them, and all that changes is that these strings are empty in every unit.
-/
namespace CodeIndex

def Host.Leads (host : Host) (path : Path) : Prop := ∃ node, host.metadata path = .ok node

def LoadOptions.Admits (options : LoadOptions) (version : UInt32) : Prop :=
  options.minFormatVersion ≤ version ∧ version ≤ options.maxFormatVersion

namespace NativeLibrary

/-- A library has every function that it must have. -/
def Complete (lib : NativeLibrary) : Prop := ∀ name ∈ Export.required, name ∉ lib.missing

/-- A library lacks a function that it must have, and has those that are asked for before. -/
def LacksFirst (lib : NativeLibrary) (symbol : String) : Prop :=
  ∃ before after, Export.required = before ++ symbol :: after ∧
    symbol ∈ lib.missing ∧ ∀ name ∈ before, name ∉ lib.missing

variable {lib : NativeLibrary}

theorem has_iff {name : String} : lib.has name = true ↔ name ∉ lib.missing := by
  simp [has]

theorem firstMissing_eq_none_iff : lib.firstMissing = none ↔ lib.Complete := by
  simp [firstMissing, Complete, has]

theorem firstMissing_eq_some_iff {symbol : String} :
    lib.firstMissing = some symbol ↔ lib.LacksFirst symbol := by
  rw [firstMissing, List.find?_eq_some_iff_append]
  simp only [has, Bool.not_not, Bool.not_eq_true', List.contains_eq_mem, decide_eq_true_eq,
    decide_eq_false_iff_not, LacksFirst]
  constructor
  · rintro ⟨lacks, before, after, place, had⟩
    exact ⟨before, after, place, lacks, had⟩
  · rintro ⟨before, after, place, lacks, had⟩
    exact ⟨lacks, before, after, place, had⟩

end NativeLibrary

theorem Host.pathExists_iff {host : Host} {path : Path} :
    host.pathExists path = true ↔ host.Leads path := by
  rw [pathExists, Leads]
  cases host.metadata path <;> simp [Except.isOk, Except.toBool]

theorem LoadOptions.accepts_iff {options : LoadOptions} {version : UInt32} :
    options.accepts version = true ↔ options.Admits version := by
  simp [accepts, Admits]

namespace Library

variable {host : Host} {path : Path} {options : LoadOptions}

/-- What loading from a path comes to. -/
inductive Loading (host : Host) (path : Path) (options : LoadOptions) :
    Except LoadFault Library → Prop
  | notFound : ¬ host.Leads path → Loading host path options (.error (.notFound path))
  | notALibrary {said : String} : host.Leads path → host.loader path = .error said →
      Loading host path options (.error (.notALibrary path said))
  | missingSymbol {lib : NativeLibrary} {symbol : String} : host.Leads path →
      host.loader path = .ok lib → lib.LacksFirst symbol →
      Loading host path options (.error (.missingSymbol symbol loaderText))
  | incompatible {lib : NativeLibrary} : host.Leads path → host.loader path = .ok lib →
      lib.Complete → ¬ options.Admits lib.formatVersion →
      Loading host path options (.error (.incompatibleVersion lib.formatVersion
        options.minFormatVersion options.maxFormatVersion))
  | loaded {lib : NativeLibrary} : host.Leads path → host.loader path = .ok lib → lib.Complete →
      options.Admits lib.formatVersion →
      Loading host path options (.ok ⟨lib.engine, some path, options.assumeConcurrentReads⟩)

theorem load_notFound (gone : ¬ host.Leads path) :
    load host path options = .error (.notFound path) := by
  have gone : host.pathExists path = false :=
    Bool.eq_false_iff.mpr fun leads => gone (Host.pathExists_iff.mp leads)
  rw [load, gone]
  rfl

theorem load_notALibrary {said : String} (leads : host.Leads path)
    (refused : host.loader path = .error said) :
    load host path options = .error (.notALibrary path said) := by
  rw [load, Host.pathExists_iff.mpr leads, refused]
  rfl

section Opened

variable {lib : NativeLibrary} (leads : host.Leads path) (opened : host.loader path = .ok lib)

include leads opened

theorem load_missingSymbol {symbol : String} (lacks : lib.LacksFirst symbol) :
    load host path options = .error (.missingSymbol symbol loaderText) := by
  have resolved := lib.resolve_eq_error (NativeLibrary.firstMissing_eq_some_iff.mpr lacks)
  simp only [load, Host.pathExists_iff.mpr leads, opened, resolved, Bool.not_true,
    Bool.false_eq_true, if_false]

theorem load_incompatible (complete : lib.Complete) (apart : ¬ options.Admits lib.formatVersion) :
    load host path options = .error (.incompatibleVersion lib.formatVersion
      options.minFormatVersion options.maxFormatVersion) := by
  have apart : options.accepts lib.formatVersion = false :=
    Bool.eq_false_iff.mpr fun accepted => apart (LoadOptions.accepts_iff.mp accepted)
  have resolved := lib.resolve_eq_ok (NativeLibrary.firstMissing_eq_none_iff.mpr complete)
  have version : lib.functions.engine.formatVersion = lib.formatVersion := rfl
  simp only [load, Host.pathExists_iff.mpr leads, opened, resolved, version, apart, Bool.not_true,
    Bool.not_false, Bool.false_eq_true, if_false, if_true]

theorem load_loaded (complete : lib.Complete) (within : options.Admits lib.formatVersion) :
    load host path options = .ok ⟨lib.engine, some path, options.assumeConcurrentReads⟩ := by
  -- The engine bound to a library does not tell by itself that concurrent reads are safe.
  have silent : lib.functions.engine.concurrentReads = false := rfl
  have resolved := lib.resolve_eq_ok (NativeLibrary.firstMissing_eq_none_iff.mpr complete)
  have version : lib.functions.engine.formatVersion = lib.formatVersion := rfl
  simp only [load, Host.pathExists_iff.mpr leads, opened, resolved, version,
    LoadOptions.accepts_iff.mpr within, silent, Bool.or_false, Bool.not_true, Bool.false_eq_true,
    if_false]
  rfl

end Opened

/-- Loading comes to one thing. -/
theorem Loading.load_eq {outcome : Except LoadFault Library}
    (loading : Loading host path options outcome) : load host path options = outcome := by
  cases loading with
  | notFound gone => exact load_notFound gone
  | notALibrary leads refused => exact load_notALibrary leads refused
  | missingSymbol leads opened lacks => exact load_missingSymbol leads opened lacks
  | incompatible leads opened complete apart => exact load_incompatible leads opened complete apart
  | loaded leads opened complete within => exact load_loaded leads opened complete within

/-- Loading comes to something. -/
theorem exists_loading (host : Host) (path : Path) (options : LoadOptions) :
    ∃ outcome, Loading host path options outcome := by
  by_cases leads : host.Leads path
  · cases opened : host.loader path with
    | error said => exact ⟨_, .notALibrary leads opened⟩
    | ok lib =>
      cases first : lib.firstMissing with
      | some symbol =>
        exact ⟨_, .missingSymbol leads opened (NativeLibrary.firstMissing_eq_some_iff.mp first)⟩
      | none =>
        have complete := NativeLibrary.firstMissing_eq_none_iff.mp first
        by_cases within : options.Admits lib.formatVersion
        · exact ⟨_, .loaded leads opened complete within⟩
        · exact ⟨_, .incompatible leads opened complete within⟩
  · exact ⟨_, .notFound leads⟩

theorem load_eq_iff {outcome : Except LoadFault Library} :
    load host path options = outcome ↔ Loading host path options outcome := by
  refine ⟨?_, Loading.load_eq⟩
  rintro rfl
  obtain ⟨outcome, loading⟩ := exists_loading host path options
  rw [loading.load_eq]
  exact loading

/-- Loading decides in a fixed order: each fault has its one reason, which is looked at when all
that comes before is in order. -/
structure DecidesInOrder (host : Host) (path : Path) (options : LoadOptions) : Prop where
  notFound : load host path options = .error (.notFound path) ↔ ¬ host.Leads path
  notALibrary (said : String) : load host path options = .error (.notALibrary path said) ↔
    host.Leads path ∧ host.loader path = .error said
  missingSymbol (symbol said : String) :
    load host path options = .error (.missingSymbol symbol said) ↔
      host.Leads path ∧ ∃ lib, host.loader path = .ok lib ∧ lib.LacksFirst symbol ∧
        said = loaderText
  incompatible (found min max : UInt32) :
    load host path options = .error (.incompatibleVersion found min max) ↔
      host.Leads path ∧ ∃ lib, host.loader path = .ok lib ∧ lib.Complete ∧
        ¬ options.Admits lib.formatVersion ∧ found = lib.formatVersion ∧
        min = options.minFormatVersion ∧ max = options.maxFormatVersion
  loaded (bound : Library) : load host path options = .ok bound ↔
    host.Leads path ∧ ∃ lib, host.loader path = .ok lib ∧ lib.Complete ∧
      options.Admits lib.formatVersion ∧
      bound = ⟨lib.engine, some path, options.assumeConcurrentReads⟩
  /-- There is no other outcome. -/
  outcome : Loading host path options (load host path options)
  /-- Bounds the wrong way round admit no format. -/
  nothingAdmitted : options.maxFormatVersion < options.minFormatVersion →
    ∀ version, ¬ options.Admits version

theorem decidesInOrder (host : Host) (path : Path) (options : LoadOptions) :
    DecidesInOrder host path options where
  notFound := by
    rw [load_eq_iff]
    refine ⟨fun loading => ?_, .notFound⟩
    cases loading with
    | notFound gone => exact gone
  notALibrary said := by
    rw [load_eq_iff]
    refine ⟨fun loading => ?_, fun ⟨leads, refused⟩ => .notALibrary leads refused⟩
    cases loading with
    | notALibrary leads refused => exact ⟨leads, refused⟩
  missingSymbol symbol said := by
    rw [load_eq_iff]
    constructor
    · intro loading
      cases loading with
      | missingSymbol leads opened lacks => exact ⟨leads, _, opened, lacks, rfl⟩
    · rintro ⟨leads, lib, opened, lacks, rfl⟩
      exact .missingSymbol leads opened lacks
  incompatible found min max := by
    rw [load_eq_iff]
    constructor
    · intro loading
      cases loading with
      | incompatible leads opened complete apart =>
        exact ⟨leads, _, opened, complete, apart, rfl, rfl, rfl⟩
    · rintro ⟨leads, lib, opened, complete, apart, rfl, rfl, rfl⟩
      exact .incompatible leads opened complete apart
  loaded bound := by
    rw [load_eq_iff]
    constructor
    · intro loading
      cases loading with
      | loaded leads opened complete within => exact ⟨leads, _, opened, complete, within, rfl⟩
    · rintro ⟨leads, lib, opened, complete, within, rfl⟩
      exact .loaded leads opened complete within
  outcome := load_eq_iff.mp rfl
  nothingAdmitted crossed version within :=
    UInt32.not_lt.mpr (UInt32.le_trans within.1 within.2) crossed

end Library

/-- A reader some of whose provider strings are gone. -/
def UnitReader.blank (identifierGone versionGone : Bool) (reader : UnitReader) : UnitReader :=
  { reader with
    providerIdentifier := if identifierGone then [] else reader.providerIdentifier
    providerVersion := if versionGone then [] else reader.providerVersion }

def OpenUnit.viewing (view : UnitReader → UnitReader) (u : OpenUnit) : OpenUnit :=
  { u with reader := view u.reader }

/-- An engine that shows the readers of units otherwise, and is the same in all else. -/
def Engine.viewing (view : UnitReader → UnitReader) (e : Engine) : Engine :=
  { e with
    createUnit := fun name =>
      Except.map (fun made => (made.1, view made.2)) <$> e.createUnit name }

namespace NativeLibrary

/-- The library with the functions that tell who wrote a unit. -/
def withProviders (lib : NativeLibrary) : NativeLibrary :=
  { lib with
    missing := lib.missing.filter fun name =>
      name != Export.providerIdentifier && name != Export.providerVersion }

/-- A reader as a library shows it that may lack these functions. -/
def blank (lib : NativeLibrary) : UnitReader → UnitReader :=
  UnitReader.blank (!lib.has Export.providerIdentifier) (!lib.has Export.providerVersion)

end NativeLibrary

namespace Export

theorem providerIdentifier_not_required : providerIdentifier ∉ required := by
  simp [providerIdentifier, required]

theorem providerVersion_not_required : providerVersion ∉ required := by
  simp [providerVersion, required]

end Export

namespace NativeLibrary

variable (lib : NativeLibrary)

/-- Functions that a library must have are not among those added. -/
theorem has_withProviders {name : String} (asked : name ∈ Export.required) :
    lib.withProviders.has name = lib.has name := by
  have notIdentifier : name ≠ Export.providerIdentifier := fun same =>
    Export.providerIdentifier_not_required (same ▸ asked)
  have notVersion : name ≠ Export.providerVersion := fun same =>
    Export.providerVersion_not_required (same ▸ asked)
  simp [has, withProviders, notIdentifier, notVersion]

theorem firstMissing_withProviders : lib.withProviders.firstMissing = lib.firstMissing :=
  List.find?_congr fun name asked => by rw [lib.has_withProviders asked]

/-- Only the strings whose getter is not there are read otherwise. -/
theorem unitReader_withProviders (u : Pointer .unit) :
    lib.functions.accessors.unitReader u =
      lib.blank (lib.withProviders.functions.accessors.unitReader u) := by
  have identifier : lib.withProviders.has Export.providerIdentifier = true := by
    simp [has, withProviders]
  have version : lib.withProviders.has Export.providerVersion = true := by
    simp [has, withProviders]
  simp only [Accessors.unitReader, NativeFunctions.accessors, NativeFunctions.unitGetter?,
    functions, blank, UnitReader.blank, identifier, version, if_true]
  cases lib.has Export.providerIdentifier <;> cases lib.has Export.providerVersion <;> rfl

theorem openUnit_withProviders (name : String) :
    lib.functions.openUnit name = (lib.withProviders.functions.openUnit name).map lib.blank := by
  change (lib.openUnit name).map _ = ((lib.openUnit name).map _).map lib.blank
  cases lib.openUnit name with
  | error failure => rfl
  | ok u => exact congrArg Except.ok (lib.unitReader_withProviders u)

end NativeLibrary

/-- What is made does not change with how it is shown. -/
theorem Native.created_map {α β : Type} (kind : ResourceKind) (answer : Except NativeFailure α)
    (f : α → β) : created kind (answer.map f) =
      Except.map (fun made => (made.1, f made.2)) <$> created kind answer := by
  funext l
  cases answer with
  | ok seen => rfl
  | error failure => simp only [Except.map, map_apply, created_error]

/-- A library that lacks the functions for provider strings is bound to an engine that shows these
empty, and is the same in all else. -/
theorem NativeLibrary.engine_withProviders (lib : NativeLibrary) :
    lib.engine = lib.withProviders.engine.viewing lib.blank := by
  have units : lib.engine.createUnit = (lib.withProviders.engine.viewing lib.blank).createUnit := by
    funext name
    change Native.created .unit (lib.functions.openUnit name) = _
    rw [lib.openUnit_withProviders, Native.created_map]
    rfl
  have rest : lib.engine =
      { lib.withProviders.engine with createUnit := lib.engine.createUnit } := rfl
  rw [rest, units]
  rfl

/-- Every query about an open unit has the same answer from two engines, of which the second shows
the unit's reader otherwise. -/
structure SameQueries (e e' : Engine) (view : UnitReader → UnitReader) (u : OpenUnit) : Prop where
  snapshot : (u.viewing view).snapshot = u.snapshot
  describe : (u.viewing view).describe = u.describe
  written : (u.viewing view).written = u.written
  includes : (u.viewing view).includes e' = u.includes e
  dependencies : (u.viewing view).dependencies e' = u.dependencies e
  unitNames : (u.viewing view).dependencyUnitNames e' = u.dependencyUnitNames e
  inputFiles : (u.viewing view).inputFiles e' = u.inputFiles e
  staleness (files : FileSystem NativeLibrary) :
    (u.viewing view).staleness e' files = u.staleness e files
  pullRecords (pending : Option (List RecordName)) (limit : Nat) :
    (RecordCursor.mk (u.viewing view) pending).pull e' limit =
      (RecordCursor.mk u pending).pull e limit
  visitRecords {σ β : Type} (discard : β → StateT σ Access Unit)
    (visit : Except Fault OpenRecord → StateT σ Access (Option β)) :
    (u.viewing view).findRecord e' discard visit = u.findRecord e discard visit
  close : (u.viewing view).close e' = u.close e

/-- Every query has the same answer from two engines, but for what the readers of units show. -/
structure SameButReaders (e e' : Engine) (view : UnitReader → UnitReader) : Prop where
  openStore {lib lib' : Library} (files : FileSystem NativeLibrary) (path : Path) :
    lib.engine = e → lib'.engine = e' → Store.openAt lib' files path = Store.openAt lib files path
  names (sorted : Bool) : e'.names sorted = e.names sorted
  textNames (sorted : Bool) : e'.textNames sorted = e.textNames sorted
  unitInstant (name : String) : e'.unitInstant name = e.unitInstant name
  unitForOutput (path : Path) : e'.unitForOutput path = e.unitForOutput path
  openUnit (name : String) :
    e'.openUnit name = Except.map (OpenUnit.viewing view) <$> e.openUnit name
  pullUnits (cursor : UnitCursor) (limit : Nat) :
    cursor.pull e' limit = List.map (Except.map (OpenUnit.viewing view)) <$> cursor.pull e limit
  visitUnits {σ β : Type} (sorted : Bool) (discard : β → StateT σ Access Unit)
    (visit : Except Fault OpenUnit → StateT σ Access (Option β)) :
    e'.findUnit sorted discard visit =
      e.findUnit sorted discard fun outcome => visit (outcome.map (OpenUnit.viewing view))
  walkUnits : e'.walkUnits = e.walkUnits
  unit (u : OpenUnit) : SameQueries e e' view u
  openRecord (name : String) (file : Option Path) : e'.openRecord name file = e.openRecord name file
  symbols (r : OpenRecord) : r.symbols e' = r.symbols e
  occurrences (r : OpenRecord) (lines : Option (UInt32 × UInt32)) :
    r.occurrences e' lines = r.occurrences e lines
  relations (o : Occurrence) : o.lendRelations e' = o.lendRelations e

namespace Engine

variable (e : Engine) (view : UnitReader → UnitReader)

theorem openUnit_viewing (name : String) :
    (e.viewing view).openUnit name = Except.map (OpenUnit.viewing view) <$> e.openUnit name := by
  funext l
  simp only [openUnit, viewing]
  split
  · rfl
  · simp only [bind_apply, map_apply]
    rcases e.createUnit name l with ⟨message | made, l'⟩ <;> rfl

theorem openNamedUnit_viewing (name : Except Fault String) :
    (e.viewing view).openNamedUnit name =
      Except.map (OpenUnit.viewing view) <$> e.openNamedUnit name := by
  cases name with
  | error fault => rfl
  | ok name => exact e.openUnit_viewing view name

theorem next_viewing (cursor : UnitCursor) :
    cursor.next (e.viewing view) =
      (fun p => (p.1.map (Except.map (OpenUnit.viewing view)), p.2)) <$> cursor.next e := by
  funext l
  have gathered : cursor.gather (e.viewing view) = cursor.gather e := rfl
  simp only [UnitCursor.next, gathered, bind_apply, map_apply]
  rcases cursor.gather e l with ⟨_ | ⟨name, rest⟩, l'⟩
  · rfl
  · simp only [openNamedUnit_viewing]
    rfl

theorem pull_viewing (cursor : UnitCursor) (limit : Nat) :
    cursor.pull (e.viewing view) limit =
      List.map (Except.map (OpenUnit.viewing view)) <$> cursor.pull e limit := by
  induction limit generalizing cursor with
  | zero => rfl
  | succ limit ih =>
    funext l
    simp only [UnitCursor.pull, next_viewing, bind_apply, map_apply]
    rcases cursor.next e l with ⟨⟨_ | outcome, cursor'⟩, l'⟩
    · rfl
    · simp only [Option.map_some, ih]
      rfl

theorem tryUnits_viewing (names : List (Except Fault String)) :
    (e.viewing view).tryUnits names = e.tryUnits names := by
  induction names with
  | nil => rfl
  | cons name rest ih =>
    rw [tryUnits, tryUnits, openNamedUnit_viewing, bind_map_left, ih]
    apply bind_congr
    intro outcome
    cases outcome <;> rfl

theorem findUnit_viewing {σ β : Type} (sorted : Bool) (discard : β → StateT σ Access Unit)
    (visit : Except Fault OpenUnit → StateT σ Access (Option β)) :
    (e.viewing view).findUnit sorted discard visit =
      e.findUnit sorted discard fun outcome => visit (outcome.map (OpenUnit.viewing view)) := by
  have opened (octets : Bytes) : (do
      visit (← liftM ((e.viewing view).openNamedUnit (readName octets)))) = (do
      visit ((← liftM (e.openNamedUnit (readName octets))).map (OpenUnit.viewing view)) :
        StateT σ Access (Option β)) := by
    rw [openNamedUnit_viewing]
    rfl
  unfold findUnit
  simp only [opened]
  rfl

end Engine

section Blank

variable (e : Engine) (identifierGone versionGone : Bool)

/-- A cursor opens the same records from a unit whose provider strings are gone. -/
theorem RecordCursor.pull_blank (u : OpenUnit) (pending : Option (List RecordName)) (limit : Nat) :
    (RecordCursor.mk (u.viewing (.blank identifierGone versionGone)) pending).pull
        (e.viewing (.blank identifierGone versionGone)) limit =
      (RecordCursor.mk u pending).pull e limit := by
  induction limit generalizing pending with
  | zero => rfl
  | succ limit ih =>
    funext l
    have gathered : (RecordCursor.mk (u.viewing (.blank identifierGone versionGone)) pending).gather
        (e.viewing (.blank identifierGone versionGone)) =
      (RecordCursor.mk u pending).gather e := rfl
    simp only [pull, next, gathered, bind_apply]
    cases ((RecordCursor.mk u pending).gather e l).1 with
    | nil => rfl
    | cons first rest =>
      simp only [bind_apply, pure_apply, ih]
      rfl

/-- Provider strings take no part in any other answer about a unit. -/
theorem OpenUnit.sameQueries (u : OpenUnit) :
    SameQueries e (e.viewing (.blank identifierGone versionGone))
      (.blank identifierGone versionGone) u where
  snapshot := rfl
  describe := rfl
  written := rfl
  includes := rfl
  dependencies := rfl
  unitNames := rfl
  inputFiles := rfl
  staleness _ := rfl
  pullRecords := RecordCursor.pull_blank e identifierGone versionGone u
  visitRecords _ _ := rfl
  close := rfl

/-- Nor in any answer of an engine. -/
theorem Engine.sameButReaders :
    SameButReaders e (e.viewing (.blank identifierGone versionGone))
      (.blank identifierGone versionGone) where
  openStore files path is is' := by
    rw [Store.openAt, Store.openAt, is, is']
    rfl
  names _ := rfl
  textNames _ := rfl
  unitInstant _ := rfl
  unitForOutput _ := rfl
  openUnit := e.openUnit_viewing _
  pullUnits := e.pull_viewing _
  visitUnits := e.findUnit_viewing _
  walkUnits := by
    funext l
    simp only [walkUnits, bind_apply, tryUnits_viewing]
    rfl
  unit := OpenUnit.sameQueries e identifierGone versionGone
  openRecord _ _ := rfl
  symbols _ := rfl
  occurrences _ _ := rfl
  relations _ := rfl

end Blank

def Host.withProviders (host : Host) : Host :=
  { host with loader := fun path => (host.loader path).map NativeLibrary.withProviders }

/-- A library needs no function for provider strings. It loads, or is refused, as it would with
both, and its engine differs only by the strings whose function it lacks: these are empty. -/
structure SparesProviders (host : Host) (path : Path) (options : LoadOptions) : Prop where
  optional : Export.providerIdentifier ∉ Export.required ∧ Export.providerVersion ∉ Export.required
  /-- The library with both functions lacks no other function that the first has. -/
  full (lib : NativeLibrary) (name : String) : lib.withProviders.has name = true ↔
    lib.has name ∨ name = Export.providerIdentifier ∨ name = Export.providerVersion
  refused (said : String) : host.loader path = .error said →
    Library.load host path options = Library.load host.withProviders path options
  opened (lib : NativeLibrary) : host.loader path = .ok lib →
    Library.load host path options = (Library.load host.withProviders path options).map
      fun bound => { bound with engine := bound.engine.viewing lib.blank }
  /-- The provider strings are empty whose functions are not there; the rest of a reader is as
  with a full library. -/
  shown (lib : NativeLibrary) (reader : UnitReader) :
    (lib.blank reader).providerIdentifier =
        (if lib.has Export.providerIdentifier then reader.providerIdentifier else []) ∧
      (lib.blank reader).providerVersion =
        (if lib.has Export.providerVersion then reader.providerVersion else []) ∧
      { lib.blank reader with
        providerIdentifier := reader.providerIdentifier
        providerVersion := reader.providerVersion } = reader
  answers (lib : NativeLibrary) :
    lib.engine = lib.withProviders.engine.viewing lib.blank ∧
      SameButReaders lib.withProviders.engine lib.engine lib.blank

namespace Library

variable {host : Host} {path : Path} {options : LoadOptions}

/-- Whether a library loads does not hang on the functions for provider strings. -/
theorem load_withProviders {lib : NativeLibrary} (opened : host.loader path = .ok lib) :
    load host path options = (load host.withProviders path options).map
      fun bound => { bound with engine := bound.engine.viewing lib.blank } := by
  have full : host.withProviders.loader path = .ok lib.withProviders :=
    congrArg (Except.map NativeLibrary.withProviders) opened
  have there : host.withProviders.pathExists path = host.pathExists path := rfl
  simp only [load, there, full, opened]
  split
  · rfl
  · cases first : lib.firstMissing with
    | some symbol =>
      have first' := lib.firstMissing_withProviders.trans first
      rw [lib.resolve_eq_error first, lib.withProviders.resolve_eq_error first']
      rfl
    | none =>
      have first' := lib.firstMissing_withProviders.trans first
      have bound : lib.functions.engine = lib.withProviders.functions.engine.viewing lib.blank :=
        lib.engine_withProviders
      rw [lib.resolve_eq_ok first, lib.withProviders.resolve_eq_ok first']
      dsimp only
      rw [bound]
      have version : (lib.withProviders.functions.engine.viewing lib.blank).formatVersion =
          lib.withProviders.functions.engine.formatVersion := rfl
      rw [version]
      split <;> rfl

theorem sparesProviders (host : Host) (path : Path) (options : LoadOptions) :
    SparesProviders host path options where
  optional := ⟨Export.providerIdentifier_not_required, Export.providerVersion_not_required⟩
  full lib name := by
    simp only [NativeLibrary.has_iff, NativeLibrary.withProviders, List.mem_filter, bne_iff_ne,
      Bool.and_eq_true, ne_eq]
    tauto
  refused said refused := by
    have full : host.withProviders.loader path = .error said :=
      congrArg (Except.map NativeLibrary.withProviders) refused
    rw [load, load, full, refused]
    rfl
  opened _ opened := load_withProviders opened
  shown lib reader := by
    simp only [NativeLibrary.blank, UnitReader.blank]
    cases lib.has Export.providerIdentifier <;> cases lib.has Export.providerVersion <;>
      simp
  answers lib := by
    refine ⟨lib.engine_withProviders, ?_⟩
    rw [lib.engine_withProviders]
    exact lib.withProviders.engine.sameButReaders _ _

/-- Loading decides in a fixed order, and spares no function but those for provider strings. -/
theorem loading_decided (host : Host) (path : Path) (options : LoadOptions) :
    DecidesInOrder host path options ∧ SparesProviders host path options :=
  ⟨decidesInOrder host path options, sparesProviders host path options⟩

end Library

end CodeIndex
