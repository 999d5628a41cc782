import CodeIndex.Proofs.Binding
import CodeIndex.Proofs.LaidOut
import CodeIndex.Proofs.NameFetching
import CodeIndex.Proofs.NativeObjects
import CodeIndex.Proofs.TextReading
/-!
# Served contents

A native library may hold the contents that tables in memory are made of. What it answers is then
told by the declarations alone: its readers give what is declared, its names are the declared names,
and the first unit or record of a name decides. The library may hand strings over as it likes, also
as null pointers, as long as their octets are seen through them.
-/
namespace CodeIndex

section Serving

variable (raw : String → RawString)

/-- A declared failure as an error object. -/
def toldFailure (message : String) : NativeFailure := .object (some (Utf8.encode message))

def IncludeEntry.served (e : IncludeEntry String) : IncludeEntry RawString :=
  ⟨raw e.source, e.line, raw e.target⟩

def DependencyEntry.served (e : DependencyEntry String) : DependencyEntry RawString :=
  ⟨e.kind, raw e.name, raw e.file, raw e.moduleName, e.isSystem⟩

def SymbolEntry.served (e : SymbolEntry String) : SymbolEntry RawString :=
  ⟨e.kind, e.language, e.subkind, e.properties, e.roles, e.relatedRoles, raw e.name, raw e.usr,
    raw e.codegenName⟩

def UnitEntry.served (u : UnitEntry String String) : UnitEntry RawString NativeFailure where
  name := raw u.name
  mainFile := raw u.mainFile
  outputFile := raw u.outputFile
  moduleName := raw u.moduleName
  workingDirectory := raw u.workingDirectory
  target := raw u.target
  sysroot := raw u.sysroot
  providerIdentifier := raw u.providerIdentifier
  providerVersion := raw u.providerVersion
  modified := u.modified
  isSystem := u.isSystem
  isModule := u.isModule
  isDebug := u.isDebug
  hasMainFile := u.hasMainFile
  includes := u.includes.map (IncludeEntry.served raw)
  dependencies := u.dependencies.map (DependencyEntry.served raw)
  failure := u.failure.map toldFailure

def RecordEntry.served (r : RecordEntry String String) : RecordEntry RawString NativeFailure where
  name := raw r.name
  symbols := r.symbols.map (SymbolEntry.served raw)
  occurrences := r.occurrences
  failure := r.failure.map toldFailure

/-- The native library that holds declared contents. It has every function and ends enumerations
when told to. -/
def Contents.library (c : Contents String String) (settings : MemorySettings)
    (derivedName : Bytes) : NativeLibrary where
  formatVersion := settings.formatVersion
  contents := ⟨c.units.map (UnitEntry.served raw), c.records.map (RecordEntry.served raw)⟩
  storeFailure := settings.storeFailure.map toldFailure
  derivedName := derivedName

end Serving

/-- A unit that both kinds of engine can show: its lines fit 32 bits, its flag says whether there is
a main file, and its failure has no zero in it. -/
structure UnitEntry.Servable (u : UnitEntry String String) : Prop where
  lines : ∀ i ∈ u.includes, 0 ≤ i.line ∧ i.line < UInt32.size
  mainFile : u.hasMainFile = (u.mainFile != "")
  failure : ∀ message ∈ u.failure, hasNul message = false

/-- A record that both kinds of engine can show: it names its own symbols, and its failure has no
zero in it. -/
structure RecordEntry.Servable (r : RecordEntry String String) : Prop where
  inRange : r.InRange
  failure : ∀ message ∈ r.failure, hasNul message = false

/-- A range that ends within 32 bits has the same lines either way. -/
theorem inLines_eq_lineWithin {start count : UInt32}
    (fits : start.toNat + count.toNat < UInt32.size) (line : UInt32) :
    Tables.inLines start count line = lineWithin start count line := by
  have last : Tables.lastLine start count = start.toNat + count.toNat :=
    Nat.min_eq_left (by omega)
  rw [Tables.inLines, lineWithin, last]

/-- The text of a row is handed over as it is declared. -/
theorem octets_lookUp {α : Type} {table : List α} {handle : Handle} {e : α}
    (found : lookUp table handle = some e) (text : α → String) :
    (RawString.ofText? ((lookUp table handle).map text)).octets = Utf8.encode (text e) := by
  rw [found]
  rfl

section Getters

variable {raw : String → RawString} (faithful : ∀ text, (raw text).octets = Utf8.encode text)
variable {t : Tables} {handle : Handle} {lib : NativeLibrary}
include faithful

/-- The getters of a directive answer as it is declared, in the tables and in the library. -/
theorem directive_agrees {e : IncludeEntry String} (found : lookUp t.includes handle = some e)
    (fits : 0 ≤ e.line ∧ e.line < UInt32.size) :
    t.accessors.AgreeOnDirective lib.functions.accessors handle (e.served raw) where
  source := (octets_lookUp found _).trans (faithful _).symm
  target := (octets_lookUp found _).trans (faithful _).symm
  line := by
    have narrow : ((UInt32.ofInt e.line).toNat : Int) = e.line := by
      have same : e.line % 2 ^ 32 = e.line := Int.emod_eq_of_lt fits.1 fits.2
      have small : e.line.toNat < UInt32.size := (Int.toNat_lt fits.1).mpr fits.2
      rw [UInt32.ofInt, same, UInt32.toNat_ofNat_of_lt' small, Int.toNat_of_nonneg fits.1]
    calc t.accessors.directiveLine handle = e.line := by simp only [Tables.accessors, found]; rfl
      _ = lib.functions.accessors.directiveLine (e.served raw) := narrow.symm

theorem dependency_agrees {e : DependencyEntry String}
    (found : lookUp t.dependencies handle = some e) :
    t.accessors.AgreeOnDependency lib.functions.accessors handle (e.served raw) where
  kind := by simp only [Tables.accessors, found]; rfl
  isSystem := by simp only [Tables.accessors, found]; rfl
  string field := by
    refine (octets_lookUp found _).trans ?_
    cases field <;> exact (faithful _).symm

theorem symbol_agrees {e : SymbolEntry String} (found : lookUp t.symbols handle = some e) :
    t.accessors.AgreeOnSymbol lib.functions.accessors handle (e.served raw) where
  language := by simp only [Tables.accessors, found]; rfl
  kind := by simp only [Tables.accessors, found]; rfl
  subkind := by simp only [Tables.accessors, found]; rfl
  properties := by simp only [Tables.accessors, found]; rfl
  roles := by simp only [Tables.accessors, found]; rfl
  relatedRoles := by simp only [Tables.accessors, found]; rfl
  string field := by
    refine (octets_lookUp found _).trans ?_
    cases field <;> exact (faithful _).symm

/-- A unit of the tables agrees with the one that the library holds for it. -/
theorem unit_agrees {u : UnitEntry String String} {row : UnitRow} (servable : u.Servable)
    (found : lookUp t.units handle = some row) (held : t.HoldsUnit u row)
    (complete : ∀ name, lib.has name = true) :
    t.accessors.AgreeOnUnit lib.functions.accessors handle (u.served raw) where
  string field := by
    obtain rfl := held.entry
    refine (octets_lookUp found _).trans ?_
    have provided (name : String) (getter : NativeLibrary.Pointer .unit → RawString) :
        (if lib.has name then some getter else none) = some getter := if_pos (complete name)
    simp only [NativeFunctions.accessors, NativeLibrary.functions, provided]
    cases field <;> exact (faithful _).symm
  flag flag := by
    obtain rfl := held.entry
    simp only [Tables.accessors, found]
    cases flag with
    | hasMainFile => exact servable.mainFile.symm
    | isSystem => rfl
    | isModule => rfl
    | isDebug => rfl
  modified := by
    obtain rfl := held.entry
    simp only [Tables.accessors, found]
    rfl
  dependencies := by
    have tokens : t.accessors.unitDependencies handle = row.dependencies.tokens := by
      simp only [Tables.accessors, found]
      rfl
    rw [tokens]
    refine List.forall₂_map_right_iff.mpr (held.dependencies.stands.imp fun _ d found => ?_)
    exact dependency_agrees faithful found.1
  directives := by
    have tokens : t.accessors.unitDirectives handle = row.includes.tokens := by
      simp only [Tables.accessors, found]
      rfl
    rw [tokens]
    refine List.forall₂_map_right_iff.mpr (held.includes.stands.imp fun _ i found => ?_)
    exact directive_agrees faithful found.1 (servable.lines i found.2)

variable {r : RecordEntry String String} {row : RecordRow} (held : t.HoldsRecord r row)
include held

/-- The row of a record's symbol agrees with the symbol at its position. -/
theorem symbolAt_agrees {position : Nat} (inside : position < r.symbols.length) :
    t.accessors.AgreeOnSymbol lib.functions.accessors (token (row.symbols.start + position))
      (NativeLibrary.symbolAt (r.served raw) position) := by
  have found : lookUp t.symbols (token (row.symbols.start + position)) =
      some r.symbols[position] := by
    rw [lookUp_token, held.symbols.getElem? inside, List.getElem?_eq_getElem inside]
  have served :
      NativeLibrary.symbolAt (r.served raw) position = r.symbols[position].served raw := by
    rw [NativeLibrary.symbolAt, RecordEntry.served, List.getD_eq_getElem?_getD, List.getElem?_map,
      List.getElem?_eq_getElem inside]
    rfl
  rw [served]
  exact symbol_agrees faithful found

/-- A row of relations agrees with the relation it was made for. -/
theorem relation_agrees {relation : UInt64 × Nat}
    (found : lookUp t.relations handle = some (relation.1, row.symbols.start + relation.2))
    (inside : relation.2 < r.symbols.length) :
    t.accessors.AgreeOnRelation lib.functions.accessors handle (r.served raw, relation) where
  roles := by simp only [Tables.accessors, found]; rfl
  symbol := by
    have leads : t.accessors.relationSymbol handle = token (row.symbols.start + relation.2) := by
      simp only [Tables.accessors, found]
      rfl
    rw [leads]
    exact symbolAt_agrees faithful held inside

/-- A row of occurrences agrees with the occurrence it was made for. -/
theorem occurrence_agrees {o : OccurrenceEntry} {found : OccurrenceRow}
    (stands : lookUp t.occurrences handle = some found)
    (holds : t.HoldsOccurrence row.symbols.start o found)
    (inside : o.symbol < r.symbols.length ∧
      ∀ relation ∈ o.relations, relation.2 < r.symbols.length) :
    t.accessors.AgreeOnOccurrence lib.functions.accessors handle (r.served raw, o) where
  symbol := by
    have leads : t.accessors.occurrenceSymbol handle = token (row.symbols.start + o.symbol) := by
      simp only [Tables.accessors, stands, ← holds.symbol]
      rfl
    rw [leads]
    exact symbolAt_agrees faithful held inside.1
  roles := by
    simp only [Tables.accessors, stands]
    exact holds.roles
  place := by
    change t.place handle = (o.line, o.column)
    rw [Tables.place, stands, ← holds.line, ← holds.column]
  relations := by
    have tokens : t.accessors.occurrenceRelations handle = found.relations.tokens := by
      simp only [Tables.accessors, stands]
      rfl
    rw [tokens]
    have stands := List.forall₂_map_right_iff.mp holds.relations.stands
    refine List.forall₂_map_right_iff.mpr (stands.imp fun _ relation leads => ?_)
    obtain ⟨named, declared, same⟩ := List.mem_map.mp leads.2
    have position : named.2 = relation.2 := Nat.add_left_cancel (Prod.mk.inj same).2
    exact relation_agrees faithful held leads.1 (position ▸ inside.2 named declared)

theorem occurrences_agree (inRange : r.InRange) :
    List.Forall₂ (t.accessors.AgreeOnOccurrence lib.functions.accessors) row.occurrences.tokens
      (r.occurrences.map fun o => (r.served raw, o)) := by
  obtain ⟨rows, place, holds⟩ := held.occurrences
  have within := (List.forall₂_and_left _ _).mpr ⟨inRange, holds⟩
  refine List.forall₂_map_right_iff.mpr ((forall₂_through place.stands within).imp ?_)
  rintro _ o ⟨found, ⟨stands, _⟩, inside, held'⟩
  exact occurrence_agrees faithful held stands held' inside

/-- A record of the tables agrees with the one that the library holds for it. -/
theorem record_agrees (found : lookUp t.records handle = some row) (inRange : r.InRange) :
    t.accessors.AgreeOnRecord lib.functions.accessors handle (r.served raw) := by
  have occurrences : List.Forall₂ (t.accessors.AgreeOnOccurrence lib.functions.accessors)
      row.occurrences.tokens (r.occurrences.map fun o => (r.served raw, o)) :=
    occurrences_agree faithful held inRange
  have tokens : t.accessors.recordOccurrences handle = row.occurrences.tokens := by
    simp only [Tables.accessors, found]
    rfl
  refine ⟨fun uncached => ?_, tokens ▸ occurrences, fun start count fits => ?_⟩
  · have tokens : t.accessors.recordSymbols handle uncached = row.symbols.tokens := by
      simp only [Tables.accessors, found]
      rfl
    rw [tokens]
    refine List.forall₂_map_right_iff.mpr (held.symbols.stands.imp fun _ s found => ?_)
    exact symbol_agrees faithful found.1
  · have lines : t.accessors.recordLines handle start count = row.occurrences.tokens.filter
        fun o => Tables.inLines start count (t.place o).1 := by
      simp only [Tables.accessors, found]
      rfl
    have lines' : lib.functions.accessors.recordLines (r.served raw) start count =
        (r.occurrences.map fun o => (r.served raw, o)).filter
          fun o => lineWithin start count o.2.line := by
      rw [List.filter_map]
      rfl
    rw [lines, lines']
    refine List.rel_filter (fun x y same => ?_) occurrences
    have place : t.place x = (y.2.line, y.2.column) := same.place
    change Tables.inLines start count (t.place x).1 = true ↔ _
    rw [place, inLines_eq_lineWithin fits]

end Getters

/-- What opening comes to when this is the first entry of the name. -/
def firstAnswer {τ α : Type} (first : Option τ) (failure : τ → Option String) (reader : τ → α)
    (absent : String) : Except String α :=
  match first with
  | none => .error absent
  | some entry => match failure entry with
    | some message => .error message
    | none => .ok (reader entry)

def Contents.unitAnswer (c : Contents String String) (absent name : String) :
    Except String UnitReader :=
  firstAnswer (c.units.find? (·.name == name)) UnitEntry.failure UnitEntry.reader absent

def Contents.recordAnswer (c : Contents String String) (absent name : String) :
    Except String RecordReader :=
  firstAnswer (c.records.find? (·.name == name)) RecordEntry.failure (fun r => r.reader.bounded)
    absent

/-- When a unit was written: the first unit of the name decides. -/
def Contents.timeAnswer (c : Contents String String) (absent name : String) :
    Except String Timestamp :=
  match c.units.find? (·.name == name) with
  | none => .error absent
  | some u => .ok u.modified

section Memory

variable (c : Contents String String) (settings : MemorySettings) (name : String) (l : Ledger)

theorem memory_createUnit :
    (((Tables.ofContents c).engine settings).createUnit name l).1.map Prod.snd =
      c.unitAnswer (Tables.noUnit name) name := by
  have holds := Tables.ofContents_holds c
  rw [Tables.createUnit_fst, holds.openUnit, Contents.unitAnswer,
    List.find?_eq_bind_findIdx?_getElem?]
  cases found : c.units.findIdx? (·.name == name) with
  | none => rfl
  | some i =>
    obtain ⟨u, declared, _⟩ := getElem?_of_findIdx? found
    simp only [Option.bind_some, declared, firstAnswer]
    cases u.failure with
    | some message => rfl
    | none => simp [Except.map, holds.unitReader declared]

theorem memory_createRecord (inRange : ∀ r ∈ c.records, r.InRange) :
    (((Tables.ofContents c).engine settings).createRecord name l).1.map (·.2.bounded) =
      c.recordAnswer (Tables.noRecord name) name := by
  have holds := Tables.ofContents_holds c
  rw [Tables.createRecord_fst, holds.openRecord, Contents.recordAnswer,
    List.find?_eq_bind_findIdx?_getElem?]
  cases found : c.records.findIdx? (·.name == name) with
  | none => rfl
  | some j =>
    obtain ⟨r, declared, _⟩ := getElem?_of_findIdx? found
    have inside := inRange r (List.mem_of_getElem? declared)
    simp only [Option.bind_some, declared, firstAnswer]
    cases r.failure with
    | some message => rfl
    | none => simp [Except.map, holds.recordReader declared inside]

theorem memory_unitTime :
    (((Tables.ofContents c).engine settings).unitTime name l).1 =
      c.timeAnswer (Tables.noUnit name) name := by
  have holds := Tables.ofContents_holds c
  change (Tables.ofContents c).unitTime name = _
  rw [Tables.unitTime, holds.unit?, Contents.timeAnswer, List.find?_eq_bind_findIdx?_getElem?]
  cases found : c.units.findIdx? (·.name == name) with
  | none => rfl
  | some i =>
    obtain ⟨u, declared, _⟩ := getElem?_of_findIdx? found
    simp [declared, holds.unitReader declared, UnitEntry.reader]

end Memory

/-- A failure without a zero in it is reported as it is declared. -/
theorem report_toldFailure {message : String} (noNul : hasNul message = false) :
    (toldFailure message).report = message := by
  rw [toldFailure, NativeFailure.report, Utf8.beforeNul_encode noNul, Utf8.lossy_encode]

section Native

variable {raw : String → RawString} (faithful : ∀ text, (raw text).octets = Utf8.encode text)
variable (c : Contents String String) (settings : MemorySettings) (derivedName : Bytes)
variable (name : String) (l : Ledger)
include faithful

theorem unit?_served : (c.library raw settings derivedName).unit? name =
    (c.units.find? (·.name == name)).map (UnitEntry.served raw) := by
  have same : ((fun u : UnitEntry RawString NativeFailure => u.name.octets == Utf8.encode name) ∘
      UnitEntry.served raw) = fun u => u.name == name := by
    funext u
    simp [UnitEntry.served, faithful, Utf8.encode_inj]
  rw [NativeLibrary.unit?, Contents.library, List.find?_map, same]

theorem record?_served : (c.library raw settings derivedName).record? name =
    (c.records.find? (·.name == name)).map (RecordEntry.served raw) := by
  have same : ((fun r : RecordEntry RawString NativeFailure =>
      r.name.octets == Utf8.encode name) ∘ RecordEntry.served raw) = fun r => r.name == name := by
    funext r
    simp [RecordEntry.served, faithful, Utf8.encode_inj]
  rw [NativeLibrary.record?, Contents.library, List.find?_map, same]

/-- A unit opens in the library just if its first declaration declares no failure. -/
theorem openUnit_served_iff {unit : NativeLibrary.Pointer .unit} :
    (c.library raw settings derivedName).openUnit name = .ok unit ↔
      ∃ i u, c.units.findIdx? (·.name == name) = some i ∧ c.units[i]? = some u ∧
        u.failure = none ∧ unit = u.served raw := by
  rw [NativeLibrary.openUnit, unit?_served faithful, List.find?_eq_bind_findIdx?_getElem?]
  cases found : c.units.findIdx? (·.name == name) with
  | none => simp
  | some i =>
    obtain ⟨u, declared, _⟩ := getElem?_of_findIdx? found
    cases failure : u.failure <;> simp [declared, UnitEntry.served, failure, eq_comm]

theorem openRecord_served_iff {record : NativeLibrary.Pointer .record} :
    (c.library raw settings derivedName).openRecord name = .ok record ↔
      ∃ j r, c.records.findIdx? (·.name == name) = some j ∧ c.records[j]? = some r ∧
        r.failure = none ∧ record = r.served raw := by
  rw [NativeLibrary.openRecord, record?_served faithful, List.find?_eq_bind_findIdx?_getElem?]
  cases found : c.records.findIdx? (·.name == name) with
  | none => simp
  | some j =>
    obtain ⟨r, declared, _⟩ := getElem?_of_findIdx? found
    cases failure : r.failure <;> simp [declared, RecordEntry.served, failure, eq_comm]

/-- A declared unit answers the same by the handle of its row and by the library's pointer. -/
theorem declared_unit_agrees {i : Nat} {u : UnitEntry String String}
    (declared : c.units[i]? = some u) (servable : u.Servable) :
    (Tables.ofContents c).accessors.AgreeOnUnit
      (c.library raw settings derivedName).functions.accessors (token i) (u.served raw) := by
  obtain ⟨row, found, held⟩ := (Tables.ofContents_holds c).lookUp_unit declared
  exact unit_agrees faithful servable found held fun _ => rfl

theorem declared_record_agrees {j : Nat} {r : RecordEntry String String}
    (declared : c.records[j]? = some r) (servable : r.Servable) :
    (Tables.ofContents c).accessors.AgreeOnRecord
      (c.library raw settings derivedName).functions.accessors (token j) (r.served raw) := by
  obtain ⟨row, found, held⟩ := (Tables.ofContents_holds c).lookUp_record declared
  exact record_agrees faithful held found servable.inRange

/-- The native reader of a declared unit gives what is declared. -/
theorem served_unitReader {i : Nat} {u : UnitEntry String String} (declared : c.units[i]? = some u)
    (servable : u.Servable) : (c.library raw settings derivedName).functions.accessors.unitReader
      (u.served raw) = u.reader := by
  have agrees := declared_unit_agrees faithful c settings derivedName declared servable
  rw [← agrees.reader]
  exact (Tables.ofContents_holds c).unitReader declared

/-- So does the native reader of a declared record. -/
theorem served_recordReader {j : Nat} {r : RecordEntry String String}
    (declared : c.records[j]? = some r) (servable : r.Servable) :
    ((c.library raw settings derivedName).functions.accessors.recordReader
      (r.served raw)).bounded = r.reader.bounded := by
  have agrees := declared_record_agrees faithful c settings derivedName declared servable
  rw [← agrees.reader]
  exact congrArg RecordReader.bounded
    ((Tables.ofContents_holds c).recordReader declared servable.inRange)

theorem native_createUnit (servable : ∀ u ∈ c.units, u.Servable) :
    ((c.library raw settings derivedName).engine.createUnit name l).1.map Prod.snd =
      c.unitAnswer (NativeLibrary.noUnit name).report name := by
  let lib := c.library raw settings derivedName
  have answer : (lib.engine.createUnit name l).1.map Prod.snd =
      ((lib.openUnit name).map lib.functions.accessors.unitReader).mapError NativeFailure.report :=
    Native.created_snd .unit _ l
  rw [answer, NativeLibrary.openUnit, unit?_served faithful, Contents.unitAnswer,
    List.find?_eq_bind_findIdx?_getElem?]
  cases found : c.units.findIdx? (·.name == name) with
  | none => rfl
  | some i =>
    obtain ⟨u, declared, _⟩ := getElem?_of_findIdx? found
    have fit := servable u (List.mem_of_getElem? declared)
    have read := served_unitReader faithful c settings derivedName declared fit
    have failed : (u.served raw).failure = u.failure.map toldFailure := rfl
    cases failure : u.failure with
    | some message =>
      have report := report_toldFailure (fit.failure message failure)
      simp [declared, failed, failure, firstAnswer, Except.map, Except.mapError, report]
    | none => simp [declared, failed, failure, firstAnswer, Except.map, Except.mapError, lib, read]

theorem native_createRecord (servable : ∀ r ∈ c.records, r.Servable) :
    ((c.library raw settings derivedName).engine.createRecord name l).1.map (·.2.bounded) =
      c.recordAnswer (NativeLibrary.noRecord name).report name := by
  let lib := c.library raw settings derivedName
  have answer : (lib.engine.createRecord name l).1.map Prod.snd =
      ((lib.openRecord name).map lib.functions.accessors.recordReader).mapError
        NativeFailure.report :=
    Native.created_snd .record _ l
  have split (outcome : Except String (Handle × RecordReader)) :
      outcome.map (·.2.bounded) = (outcome.map Prod.snd).map RecordReader.bounded := by
    cases outcome <;> rfl
  rw [split, answer, NativeLibrary.openRecord, record?_served faithful, Contents.recordAnswer,
    List.find?_eq_bind_findIdx?_getElem?]
  cases found : c.records.findIdx? (·.name == name) with
  | none => rfl
  | some j =>
    obtain ⟨r, declared, _⟩ := getElem?_of_findIdx? found
    have fit := servable r (List.mem_of_getElem? declared)
    have read := served_recordReader faithful c settings derivedName declared fit
    have failed : (r.served raw).failure = r.failure.map toldFailure := rfl
    cases failure : r.failure with
    | some message =>
      have report := report_toldFailure (fit.failure message failure)
      simp [declared, failed, failure, firstAnswer, Except.map, Except.mapError, report]
    | none => simp [declared, failed, failure, firstAnswer, Except.map, Except.mapError, lib, read]

theorem native_unitTime :
    ((c.library raw settings derivedName).engine.unitTime name l).1 =
      c.timeAnswer (NativeLibrary.noUnit name).report name := by
  have answer : ((c.library raw settings derivedName).engine.unitTime name l).1 =
      ((c.library raw settings derivedName).unitTime name).mapError NativeFailure.report :=
    Native.timed_fst _ l
  rw [answer, NativeLibrary.unitTime, unit?_served faithful, Contents.timeAnswer]
  cases c.units.find? (·.name == name) <;> rfl

/-- The names are the declared ones. -/
theorem native_unitNames (sorted : Bool) :
    (c.library raw settings derivedName).engine.unitNames sorted =
      (Tables.ofContents c).unitNames sorted := by
  have served : (c.units.map (UnitEntry.served raw)).map (·.name.octets) =
      c.units.map fun u => Utf8.encode u.name := by
    rw [List.map_map]
    exact List.map_congr_left fun u _ => faithful u.name
  have rows : (c.units.map fun u => Utf8.encode u.name) =
      (Tables.ofContents c).units.map fun row => Utf8.encode row.entry.name := by
    rw [(Tables.ofContents_holds c).entries, List.map_map]
    rfl
  rw [NativeLibrary.engine_unitNames, Tables.unitNames, ← rows, ← served]
  rfl

/-- The unit of a file that some unit writes is the first unit that writes it. -/
theorem native_unitNameFor {path : String} {u : UnitEntry String String}
    (writes : c.units.find? (·.outputFile == path) = some u) :
    (c.library raw settings derivedName).engine.unitNameFor path = Utf8.encode u.name := by
  have same : ((fun u : UnitEntry RawString NativeFailure =>
      u.outputFile.octets == Utf8.encode path) ∘ UnitEntry.served raw) =
        fun u => u.outputFile == path := by
    funext u
    simp [UnitEntry.served, faithful, Utf8.encode_inj]
  have answer : (c.library raw settings derivedName).engine.unitNameFor path =
      ((c.library raw settings derivedName).unitNameFor path).whole := by
    rw [NativeLibrary.engine, NativeFunctions.engine, NativeLibrary.functions]
  rw [answer, NativeLibrary.unitNameFor, NameCall.whole_writing, Contents.library, List.find?_map,
    same, writes]
  exact faithful u.name

end Native

/-- An engine that answers by the declarations alone. Only the words for a name that is not there
are its own, and ranges of lines that end beyond 32 bits. -/
structure Answers (c : Contents String String) (settings : MemorySettings) (e : Engine) :
    Prop where
  formatVersion : e.formatVersion = settings.formatVersion
  heedsStop : e.conduct.heedsStop = true
  store : ∀ path l, (e.createStore path l).1.map (fun _ => ()) =
    match settings.storeFailure with
    | some message => .error message
    | none => .ok ()
  unitNames : ∀ sorted, e.unitNames sorted = (Tables.ofContents c).unitNames sorted
  unitNameFor : ∀ path u, c.units.find? (·.outputFile == path) = some u →
    e.unitNameFor path = Utf8.encode u.name
  unitTime : ∀ name l, ∃ absent, (e.unitTime name l).1 = c.timeAnswer absent name
  unit : ∀ name l, ∃ absent, (e.createUnit name l).1.map Prod.snd = c.unitAnswer absent name
  record : ∀ name l, ∃ absent,
    (e.createRecord name l).1.map (·.2.bounded) = c.recordAnswer absent name

structure Contents.Servable (c : Contents String String) : Prop where
  units : ∀ u ∈ c.units, u.Servable
  records : ∀ r ∈ c.records, r.Servable

theorem memory_answers {c : Contents String String} (settings : MemorySettings)
    (servable : c.Servable) : Answers c settings ((Tables.ofContents c).engine settings) where
  formatVersion := rfl
  heedsStop := rfl
  store path l := by
    change (Tables.handOut Counters.openStore _ l).1.map _ = _
    rw [Tables.handOut_fst]
    cases settings.storeFailure <;> rfl
  unitNames _ := rfl
  unitNameFor path u writes := by
    change (Tables.ofContents c).unitNameFor path = _
    rw [(Tables.ofContents_holds c).unitNameFor, writes]
  unitTime name l := ⟨_, memory_unitTime c settings name l⟩
  unit name l := ⟨_, memory_createUnit c settings name l⟩
  record name l := ⟨_, memory_createRecord c settings name l fun r declared =>
    (servable.records r declared).inRange⟩

theorem native_answers {raw : String → RawString}
    (faithful : ∀ text, (raw text).octets = Utf8.encode text) {c : Contents String String}
    {settings : MemorySettings} (servable : c.Servable)
    (noNul : ∀ message ∈ settings.storeFailure, hasNul message = false) (derivedName : Bytes) :
    Answers c settings (c.library raw settings derivedName).engine where
  formatVersion := rfl
  heedsStop := rfl
  store path l := by
    have answer : ((c.library raw settings derivedName).engine.createStore path l).1 =
        (Native.created .store ((c.library raw settings derivedName).functions.store path) l).1.map
          Prod.fst := rfl
    have served : (c.library raw settings derivedName).storeFailure =
        settings.storeFailure.map toldFailure := rfl
    have opened : (c.library raw settings derivedName).functions.store path =
        (c.library raw settings derivedName).openStore path := rfl
    rw [answer, opened, NativeLibrary.openStore, served]
    cases failure : settings.storeFailure with
    | none => rfl
    | some message =>
      have report := report_toldFailure (noNul message failure)
      simp only [Option.map_some, Native.created_error, report]
      rfl
  unitNames sorted := native_unitNames faithful c settings derivedName sorted
  unitNameFor path u writes := native_unitNameFor faithful c settings derivedName writes
  unitTime name l := ⟨_, native_unitTime faithful c settings derivedName name l⟩
  unit name l := ⟨_, native_createUnit faithful c settings derivedName name l servable.units⟩
  record name l := ⟨_, native_createRecord faithful c settings derivedName name l servable.records⟩

end CodeIndex
