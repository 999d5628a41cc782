import CodeIndex.Proofs.LaidOut
import CodeIndex.Proofs.Traversals
import CodeIndex.Store.Record
import CodeIndex.Store.Unit
/-!
# Reading back

What visitors of an engine in memory are shown is what was declared. Contents may be of any size and
shape, with empty lists anywhere; only the symbols that a record names have to be its own.
-/
namespace CodeIndex

structure Include.Shows (i : Include) (e : IncludeEntry String) : Prop where
  source : i.source = Utf8.encode e.source
  line : i.line = e.line
  target : i.target = Utf8.encode e.target

structure Dependency.Shows (d : Dependency) (e : DependencyEntry String) : Prop where
  kind : d.kind = .ofRaw e.kind
  name : d.name = Utf8.encode e.name
  file : d.file = Utf8.encode e.file
  moduleName : d.moduleName = Utf8.encode e.moduleName
  isSystem : d.isSystem = e.isSystem

structure Symbol.Shows (s : Symbol) (e : SymbolEntry String) : Prop where
  kind : s.kind = .ofRaw e.kind
  language : s.language = .ofRaw e.language
  subkind : s.subkind = e.subkind
  properties : s.properties.bits = e.properties
  roles : s.roles.bits = e.roles
  relatedRoles : s.relatedRoles.bits = e.relatedRoles
  name : s.name = Utf8.encode e.name
  usr : s.usr = Utf8.encode e.usr
  codegenName : s.codegenName = Utf8.encode e.codegenName

/-- A sequence lends a visitor one item for each declared one, in order, and notes every call. -/
def Lends {α β : Type} (seq : Lending α) (Shows : α → β → Prop) (declared : List β) : Prop :=
  ∀ l, ∃ shown, seq.toList l = (shown, l.lendMany declared.length) ∧
    List.Forall₂ Shows shown declared

/-- A relation with the declared roles and the symbol its record declares at the position. -/
structure Relation.Shows (r : RecordEntry String String) (relation : Relation)
    (declared : UInt64 × Nat) : Prop where
  roles : relation.roles.bits = declared.1
  symbol : ∃ s, r.symbols[declared.2]? = some s ∧ relation.symbol.Shows s

/-- An occurrence with all that is declared of it, and the symbol its record declares at the
position. -/
structure Occurrence.Shows (e : Engine) (r : RecordEntry String String) (o : Occurrence)
    (declared : OccurrenceEntry) : Prop where
  symbol : ∃ s, r.symbols[declared.symbol]? = some s ∧ o.symbol.Shows s
  roles : o.roles.bits = declared.roles
  line : o.line = declared.line
  column : o.column = declared.column
  relations : Lends (o.lendRelations e) (Relation.Shows r) declared.relations

structure ShowsUnit (e : Engine) (opened : OpenUnit) (u : UnitEntry String String) : Prop where
  mainFile : opened.reader.mainFile = Utf8.encode u.mainFile
  outputFile : opened.reader.outputFile = Utf8.encode u.outputFile
  moduleName : opened.reader.moduleName = Utf8.encode u.moduleName
  workingDirectory : opened.reader.workingDirectory = Utf8.encode u.workingDirectory
  target : opened.reader.target = Utf8.encode u.target
  sysroot : opened.reader.sysroot = Utf8.encode u.sysroot
  providerIdentifier : opened.reader.providerIdentifier = Utf8.encode u.providerIdentifier
  providerVersion : opened.reader.providerVersion = Utf8.encode u.providerVersion
  modified : opened.reader.modified = u.modified
  isSystem : opened.reader.isSystem = u.isSystem
  isModule : opened.reader.isModule = u.isModule
  isDebug : opened.reader.isDebug = u.isDebug
  hasMainFile : opened.reader.hasMainFile = true ↔ u.mainFile ≠ ""
  includes : Lends (opened.includes e) Include.Shows u.includes
  dependencies : Lends (opened.dependencies e) Dependency.Shows u.dependencies

/-- A record that shows all that is declared of it. A range of lines holds the occurrences on them,
but for the last number of a line. -/
structure ShowsRecord (e : Engine) (opened : OpenRecord) (r : RecordEntry String String) :
    Prop where
  symbols : Lends (opened.symbols e) Symbol.Shows r.symbols
  occurrences : Lends (opened.occurrences e none) (Occurrence.Shows e r) r.occurrences
  lines : ∀ start count, Lends (opened.occurrences e (some (start, count))) (Occurrence.Shows e r)
    (r.occurrences.filter fun o => start.toNat ≤ o.line.toNat ∧
      o.line.toNat < min (start.toNat + count.toNat) (UInt32.size - 1))

/-- An engine in memory that gives back declared contents, through every handle. A name opens the
first unit or record that is declared under it, unless that one declares a failure. -/
structure ReadsBack (c : Contents String String) (settings : MemorySettings) : Prop where
  units : ∀ (i : Nat) u name, c.units[i]? = some u →
    ShowsUnit ((Tables.ofContents c).engine settings)
      ⟨name, token i, (Tables.ofContents c).unitReader (token i)⟩ u
  records : ∀ (j : Nat) r name file, c.records[j]? = some r →
    ShowsRecord ((Tables.ofContents c).engine settings)
      ⟨name, token j, file, (Tables.ofContents c).recordReader (token j)⟩ r
  openUnit : ∀ name l opened,
    (((Tables.ofContents c).engine settings).openUnit name l).1 = .ok opened ↔
      hasNul name = false ∧ ∃ i u, c.units.findIdx? (·.name == name) = some i ∧
        c.units[i]? = some u ∧ u.failure = none ∧
        opened = ⟨name, token i, (Tables.ofContents c).unitReader (token i)⟩
  openRecord : ∀ name file l opened,
    (((Tables.ofContents c).engine settings).openRecord name file l).1 = .ok opened ↔
      hasNul name = false ∧ ∃ j r, c.records.findIdx? (·.name == name) = some j ∧
        c.records[j]? = some r ∧ r.failure = none ∧
        opened = ⟨name, token j, file, (Tables.ofContents c).recordReader (token j)⟩

section Lends

variable {α β : Type} {Shows : α → β → Prop} {seq : Lending α} {declared : List β}

theorem lends_of_forall₂ (shows : List.Forall₂ Shows seq.items declared) :
    Lends seq Shows declared := fun l =>
  ⟨seq.items, by rw [Lending.toList_apply, shows.length_eq], shows⟩

theorem Lends.forall₂ (lends : Lends seq Shows declared) :
    List.Forall₂ Shows seq.items declared := by
  obtain ⟨shown, listed, shows⟩ := lends {}
  rw [Lending.toList_apply] at listed
  exact (Prod.mk.inj listed).1 ▸ shows

/-- Items that are made of the declared ones are lent for them. -/
theorem lends_map {f : β → α} (items : seq.items = declared.map f)
    (shows : ∀ d ∈ declared, Shows (f d) d) : Lends seq Shows declared := by
  refine lends_of_forall₂ ?_
  rw [items, List.forall₂_map_left_iff, List.forall₂_same]
  exact shows

/-- Where an item shows a declaration just if it is made of it, the items are all made so. -/
theorem Lends.items_eq {f : β → α} (lends : Lends seq Shows declared)
    (made : ∀ item d, Shows item d → item = f d) : seq.items = declared.map f := by
  have same : seq.items.map id = declared.map f := map_eq_of_forall₂ (lends.forall₂.imp made)
  simpa using same

end Lends

theorem IncludeEntry.shows_view (e : IncludeEntry String) : (e.view Utf8.encode).Shows e :=
  ⟨rfl, rfl, rfl⟩

theorem Include.Shows.eq_view {i : Include} {e : IncludeEntry String} (h : i.Shows e) :
    i = e.view Utf8.encode := by
  obtain ⟨_, _, _⟩ := i
  obtain ⟨rfl, rfl, rfl⟩ := h
  rfl

theorem DependencyEntry.shows_view (e : DependencyEntry String) : (e.view Utf8.encode).Shows e :=
  ⟨rfl, rfl, rfl, rfl, rfl⟩

theorem Dependency.Shows.eq_view {d : Dependency} {e : DependencyEntry String} (h : d.Shows e) :
    d = e.view Utf8.encode := by
  obtain ⟨_, _, _, _, _⟩ := d
  obtain ⟨rfl, rfl, rfl, rfl, rfl⟩ := h
  rfl

theorem SymbolEntry.shows_view (e : SymbolEntry String) : (e.view Utf8.encode).Shows e :=
  ⟨rfl, rfl, rfl, rfl, rfl, rfl, rfl, rfl, rfl⟩

theorem RecordEntry.symbolAt_view {r : RecordEntry String String} {position : Nat}
    (inside : position < r.symbols.length) : ∃ s, r.symbols[position]? = some s ∧
      r.symbolAt Utf8.encode position = s.view Utf8.encode := by
  have found := List.getElem?_eq_getElem inside
  exact ⟨_, found, by rw [RecordEntry.symbolAt, found]⟩

/-- Positions of a record lead to its own symbols. -/
theorem RecordEntry.symbolAt_shows {r : RecordEntry String String} {position : Nat}
    (inside : position < r.symbols.length) : ∃ s, r.symbols[position]? = some s ∧
      (r.symbolAt Utf8.encode position).Shows s := by
  obtain ⟨s, found, leads⟩ := RecordEntry.symbolAt_view inside
  exact ⟨s, found, leads ▸ s.shows_view⟩

theorem RecordEntry.occurrenceView_shows {r : RecordEntry String String} (inRange : r.InRange)
    (e : Engine) {o : OccurrenceEntry} (declared : o ∈ r.occurrences) :
    (r.occurrenceView Utf8.encode o).Shows e r o where
  symbol := RecordEntry.symbolAt_shows (inRange o declared).1
  roles := rfl
  line := rfl
  column := rfl
  relations := by
    refine lends_map (f := fun relation =>
      ⟨⟨relation.1⟩, r.symbolAt Utf8.encode relation.2⟩) rfl fun relation named => ⟨rfl, ?_⟩
    exact RecordEntry.symbolAt_shows ((inRange o declared).2 relation named)

theorem showsUnit_of_reader (e : Engine) {opened : OpenUnit} {u : UnitEntry String String}
    (same : opened.reader = u.reader) : ShowsUnit e opened u := by
  have includes : (opened.includes e).items = u.includes.map (·.view Utf8.encode) :=
    congrArg UnitReader.includes same
  have dependencies : (opened.dependencies e).items = u.dependencies.map (·.view Utf8.encode) :=
    congrArg UnitReader.dependencies same
  constructor
  case includes => exact lends_map includes fun e _ => e.shows_view
  case dependencies => exact lends_map dependencies fun d _ => d.shows_view
  case hasMainFile =>
    rw [same]
    exact bne_iff_ne
  all_goals rw [same]; rfl

/-- Nothing else is read of a unit. -/
theorem ShowsUnit.reader {e : Engine} {opened : OpenUnit} {u : UnitEntry String String}
    (shows : ShowsUnit e opened u) : opened.reader = u.reader := by
  have includes := shows.includes.items_eq fun _ _ => Include.Shows.eq_view
  have dependencies := shows.dependencies.items_eq fun _ _ => Dependency.Shows.eq_view
  have hasMainFile : opened.reader.hasMainFile = (u.mainFile != "") :=
    Bool.eq_iff_iff.mpr (shows.hasMainFile.trans bne_iff_ne.symm)
  rw [UnitEntry.reader, ← includes, ← dependencies, ← hasMainFile, ← shows.mainFile,
    ← shows.outputFile, ← shows.moduleName, ← shows.workingDirectory, ← shows.target,
    ← shows.sysroot, ← shows.providerIdentifier, ← shows.providerVersion, ← shows.modified,
    ← shows.isSystem, ← shows.isModule, ← shows.isDebug]
  rfl

theorem showsRecord_of_reader (e : Engine) {opened : OpenRecord} {r : RecordEntry String String}
    (same : opened.reader = r.reader) (inRange : r.InRange) : ShowsRecord e opened r where
  symbols := lends_map (congrArg RecordReader.symbols same) fun s _ => s.shows_view
  occurrences := lends_map (congrArg RecordReader.occurrences same) fun _ declared =>
    RecordEntry.occurrenceView_shows inRange e declared
  lines start count := by
    have items : (opened.occurrences e (some (start, count))).items =
        (r.occurrences.filter fun o => Tables.inLines start count o.line).map
          (r.occurrenceView Utf8.encode) :=
      congrArg (fun reader => reader.inLines start count) same
    have spelled : (r.occurrences.filter fun o => decide (start.toNat ≤ o.line.toNat ∧
        o.line.toNat < min (start.toNat + count.toNat) (UInt32.size - 1))) =
        r.occurrences.filter fun o => Tables.inLines start count o.line := by
      refine List.filter_congr fun o _ => ?_
      rw [Bool.decide_and]
      rfl
    rw [spelled]
    exact lends_map items fun o within =>
      RecordEntry.occurrenceView_shows inRange e (List.mem_of_mem_filter within)

section Opening

variable {t : Tables} {settings : MemorySettings} {name : String} {l : Ledger}

/-- What the access layer opens in memory stands in the tables. -/
theorem Tables.openUnit_eq_ok_iff {opened : OpenUnit} :
    ((t.engine settings).openUnit name l).1 = .ok opened ↔ hasNul name = false ∧
      ∃ handle, t.openUnit name = .ok handle ∧ opened = ⟨name, handle, t.unitReader handle⟩ := by
  rw [Engine.openUnit]
  cases nul : hasNul name with
  | true => simp
  | false =>
    simp only [Bool.false_eq_true, if_false, bind_apply, Tables.createUnit_fst]
    cases t.openUnit name <;> simp [Except.map, eq_comm]

theorem Tables.openRecord_eq_ok_iff {file : Option Path} {opened : OpenRecord} :
    ((t.engine settings).openRecord name file l).1 = .ok opened ↔ hasNul name = false ∧
      ∃ handle, t.openRecord name = .ok handle ∧
        opened = ⟨name, handle, file, t.recordReader handle⟩ := by
  rw [Engine.openRecord]
  cases nul : hasNul name with
  | true => simp
  | false =>
    simp only [Bool.false_eq_true, if_false, bind_apply, Tables.createRecord_fst]
    cases t.openRecord name <;> simp [Except.map, eq_comm]

end Opening

/-- The engine in memory gives back all declared contents whose records name their own symbols. -/
theorem tables_read_back (c : Contents String String) (settings : MemorySettings)
    (inRange : ∀ r ∈ c.records, r.InRange) : ReadsBack c settings := by
  have holds := Tables.ofContents_holds c
  refine ⟨?_, ?_, ?_, ?_⟩
  · intro i u name declared
    exact showsUnit_of_reader _ (holds.unitReader declared)
  · intro j r name file declared
    have inside := inRange r (List.mem_of_getElem? declared)
    exact showsRecord_of_reader _ (holds.recordReader declared inside) inside
  · intro name l opened
    rw [Tables.openUnit_eq_ok_iff]
    refine and_congr_right fun _ => ?_
    constructor
    · rintro ⟨handle, opens, rfl⟩
      obtain ⟨i, u, first, declared, whole, rfl⟩ := holds.openUnit_eq_ok_iff.mp opens
      exact ⟨i, u, first, declared, whole, rfl⟩
    · rintro ⟨i, u, first, declared, whole, rfl⟩
      exact ⟨_, holds.openUnit_eq_ok_iff.mpr ⟨i, u, first, declared, whole, rfl⟩, rfl⟩
  · intro name file l opened
    rw [Tables.openRecord_eq_ok_iff]
    refine and_congr_right fun _ => ?_
    constructor
    · rintro ⟨handle, opens, rfl⟩
      obtain ⟨j, r, first, declared, whole, rfl⟩ := holds.openRecord_eq_ok_iff.mp opens
      exact ⟨j, r, first, declared, whole, rfl⟩
    · rintro ⟨j, r, first, declared, whole, rfl⟩
      exact ⟨_, holds.openRecord_eq_ok_iff.mpr ⟨j, r, first, declared, whole, rfl⟩, rfl⟩

theorem tables_read_back_uneven :
    (∀ r ∈ Contents.uneven.records, r.InRange) ∧ ReadsBack Contents.uneven {} :=
  ⟨by decide, tables_read_back Contents.uneven {} (by decide)⟩

end CodeIndex
