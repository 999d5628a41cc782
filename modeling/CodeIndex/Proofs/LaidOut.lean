import CodeIndex.Engine.Tables
import CodeIndex.Proofs.Declared
import CodeIndex.Proofs.Getters
/-!
# Laid-out contents

The tables in memory hold what was declared. Each span covers exactly the items it was made for,
wherever they stand, and tables only grow at their ends, so a span that was right once stays right.
From this every reader gives back the declared lists of its own unit or record: whole, in order and
with nothing of another, also where lists are empty.
-/
namespace CodeIndex

section Spans

variable {α β : Type} {table items : List α} {s : Span}

/-- A stretch of a table that holds exactly some items. -/
def Occupies (table : List α) (s : Span) (items : List α) : Prop :=
  ∃ front back, table = front ++ items ++ back ∧ s = ⟨front.length, front.length + items.length⟩

theorem occupies_spanBehind (table items : List α) :
    Occupies (table ++ items) (Tables.spanBehind table items) items :=
  ⟨table, [], by simp, rfl⟩

/-- A stretch stays where it is when its table grows. -/
theorem Occupies.mono {table' : List α} (h : Occupies table s items) (grown : table <+: table') :
    Occupies table' s items := by
  obtain ⟨front, back, rfl, rfl⟩ := h
  obtain ⟨more, rfl⟩ := grown
  exact ⟨front, back ++ more, by simp, rfl⟩

/-- The item at a position of a stretch. -/
theorem Occupies.getElem? (h : Occupies table s items) {k : Nat} (inside : k < items.length) :
    table[s.start + k]? = items[k]? := by
  obtain ⟨front, back, rfl, rfl⟩ := h
  rw [List.append_assoc, List.getElem?_append_right (Nat.le_add_right _ _), Nat.add_sub_cancel_left,
    List.getElem?_append_left inside]

/-- The handles of a stretch stand for its items, one by one. -/
theorem Occupies.stands (h : Occupies table s items) :
    List.Forall₂ (fun handle item => lookUp table handle = some item ∧ item ∈ items) s.tokens
      items := by
  have size : s.stop - s.start = items.length := by
    obtain ⟨front, back, rfl, rfl⟩ := h
    simp
  refine List.forall₂_iff_get.mpr ⟨by simp [Span.tokens, size], fun k _ inside => ?_⟩
  have found : table[s.start + k]? = some items[k] := by
    rw [h.getElem? inside, List.getElem?_eq_getElem inside]
  simpa [Span.tokens] using found

/-- Reading a stretch through its handles gives its items. -/
theorem Occupies.read (h : Occupies table s items) {f : Handle → β} {g : α → β}
    (reads : ∀ handle item, lookUp table handle = some item → f handle = g item) :
    s.tokens.map f = items.map g :=
  map_eq_of_forall₂ (h.stands.imp fun handle item found => reads handle item found.1)

end Spans

/-- Lists that agree item by item have related items at each position. -/
theorem forall₂_getElem? {α β : Type} {R : α → β → Prop} {as : List α} {bs : List β}
    (h : List.Forall₂ R as bs) {i : Nat} {a : α} (found : as[i]? = some a) :
    ∃ b, bs[i]? = some b ∧ R a b := by
  induction h generalizing i with
  | nil => simp at found
  | cons same _ ih =>
    cases i with
    | zero =>
      rw [List.getElem?_cons_zero, Option.some.injEq] at found
      exact ⟨_, rfl, found ▸ same⟩
    | succ i => exact ih found

/-- Lists that agree with a third item by item agree through its items. -/
theorem forall₂_through {α β γ : Type} {R : α → β → Prop} {S : γ → β → Prop} {as : List α}
    {bs : List β} {cs : List γ} (h : List.Forall₂ R as bs) (h' : List.Forall₂ S cs bs) :
    List.Forall₂ (fun a c => ∃ b, R a b ∧ S c b) as cs := by
  induction h generalizing cs with
  | nil =>
    cases h'
    exact .nil
  | cons same _ ih =>
    cases h' with
    | cons same' rest => exact .cons ⟨_, same, same'⟩ (ih rest)

/-- The first item that fulfils a condition stands where it was found. -/
theorem getElem?_of_findIdx? {α : Type} {p : α → Bool} {as : List α} {i : Nat}
    (found : as.findIdx? p = some i) : ∃ a, as[i]? = some a ∧ p a = true := by
  obtain ⟨inside, fulfils, _⟩ := List.findIdx?_eq_some_iff_getElem.mp found
  exact ⟨as[i], List.getElem?_eq_getElem inside, fulfils⟩

namespace Tables

structure Grown (t t' : Tables) : Prop where
  includes : t.includes <+: t'.includes
  dependencies : t.dependencies <+: t'.dependencies
  symbols : t.symbols <+: t'.symbols
  occurrences : t.occurrences <+: t'.occurrences
  relations : t.relations <+: t'.relations

theorem Grown.refl (t : Tables) : t.Grown t :=
  ⟨List.prefix_rfl, List.prefix_rfl, List.prefix_rfl, List.prefix_rfl, List.prefix_rfl⟩

theorem Grown.trans {t t' t'' : Tables} (h : t.Grown t') (h' : t'.Grown t'') : t.Grown t'' :=
  ⟨h.includes.trans h'.includes, h.dependencies.trans h'.dependencies, h.symbols.trans h'.symbols,
    h.occurrences.trans h'.occurrences, h.relations.trans h'.relations⟩

structure HoldsUnit (t : Tables) (u : UnitEntry String String) (row : UnitRow) : Prop where
  entry : row.entry = u
  includes : Occupies t.includes row.includes u.includes
  dependencies : Occupies t.dependencies row.dependencies u.dependencies

/-- A row that holds a declared occurrence of a record whose symbols begin at row `base`. -/
structure HoldsOccurrence (t : Tables) (base : Nat) (o : OccurrenceEntry) (row : OccurrenceRow) :
    Prop where
  symbol : row.symbol = base + o.symbol
  roles : row.roles = o.roles
  line : row.line = o.line
  column : row.column = o.column
  relations : Occupies t.relations row.relations (o.relations.map fun r => (r.1, base + r.2))

structure HoldsRecord (t : Tables) (r : RecordEntry String String) (row : RecordRow) : Prop where
  name : row.name = r.name
  failure : row.failure = r.failure
  symbols : Occupies t.symbols row.symbols r.symbols
  occurrences : ∃ rows, Occupies t.occurrences row.occurrences rows ∧
    List.Forall₂ (t.HoldsOccurrence row.symbols.start) r.occurrences rows

variable {t t' : Tables}

theorem HoldsUnit.mono {u : UnitEntry String String} {row : UnitRow} (h : t.HoldsUnit u row)
    (grown : t.Grown t') : t'.HoldsUnit u row :=
  ⟨h.entry, h.includes.mono grown.includes, h.dependencies.mono grown.dependencies⟩

theorem HoldsOccurrence.mono {base : Nat} {o : OccurrenceEntry} {row : OccurrenceRow}
    (h : t.HoldsOccurrence base o row) (grown : t.Grown t') : t'.HoldsOccurrence base o row :=
  ⟨h.symbol, h.roles, h.line, h.column, h.relations.mono grown.relations⟩

theorem HoldsRecord.mono {r : RecordEntry String String} {row : RecordRow}
    (h : t.HoldsRecord r row) (grown : t.Grown t') : t'.HoldsRecord r row := by
  obtain ⟨rows, place, holds⟩ := h.occurrences
  refine ⟨h.name, h.failure, h.symbols.mono grown.symbols, rows,
    place.mono grown.occurrences, ?_⟩
  exact holds.imp fun _ _ held => held.mono grown

/-- Tables that hold declared contents: a row for each unit and each record, in order. -/
structure Holds (t : Tables) (c : Contents String String) : Prop where
  units : List.Forall₂ t.HoldsUnit c.units t.units
  records : List.Forall₂ t.HoldsRecord c.records t.records

/-- Adding a unit keeps what is held and holds the unit behind it. -/
theorem Holds.addUnit {us : List (UnitEntry String String)} {rs : List (RecordEntry String String)}
    (h : t.Holds ⟨us, rs⟩) (u : UnitEntry String String) :
    (t.addUnit u).Holds ⟨us ++ [u], rs⟩ := by
  have grown : t.Grown (t.addUnit u) :=
    ⟨List.prefix_append _ _, List.prefix_append _ _, List.prefix_rfl, List.prefix_rfl,
      List.prefix_rfl⟩
  constructor
  · refine List.rel_append (h.units.imp fun _ _ held => held.mono grown) ?_
    exact .cons ⟨rfl, occupies_spanBehind _ _, occupies_spanBehind _ _⟩ .nil
  · exact h.records.imp fun _ _ held => held.mono grown

theorem Holds.addUnits {us : List (UnitEntry String String)} {rs : List (RecordEntry String String)}
    (h : t.Holds ⟨us, rs⟩) (more : List (UnitEntry String String)) :
    (more.foldl Tables.addUnit t).Holds ⟨us ++ more, rs⟩ := by
  induction more generalizing t us with
  | nil => simpa using h
  | cons u rest ih => simpa using ih (h.addUnit u)

/-- What occurrences add to tables: their rows behind the table of occurrences, their relations
behind the table of relations, and nothing else. -/
structure Filled (t : Tables) (base : Nat) (os : List OccurrenceEntry) (filled : Tables) :
    Prop where
  grown : t.Grown filled
  units : filled.units = t.units
  records : filled.records = t.records
  symbols : filled.symbols = t.symbols
  occurrences : ∃ rows, filled.occurrences = t.occurrences ++ rows ∧
    List.Forall₂ (filled.HoldsOccurrence base) os rows

theorem filled_addOccurrences (t : Tables) (base : Nat) (os : List OccurrenceEntry) :
    t.Filled base os (os.foldl (addOccurrence base) t) := by
  induction os generalizing t with
  | nil => exact ⟨.refl t, rfl, rfl, rfl, [], by simp, .nil⟩
  | cons o rest ih =>
    have step : t.Grown (t.addOccurrence base o) :=
      ⟨List.prefix_rfl, List.prefix_rfl, List.prefix_rfl, List.prefix_append _ _,
        List.prefix_append _ _⟩
    let row : OccurrenceRow := ⟨base + o.symbol, o.roles, o.line, o.column,
      spanBehind t.relations (o.relations.map fun r => (r.1, base + r.2))⟩
    have held : (t.addOccurrence base o).HoldsOccurrence base o row :=
      ⟨rfl, rfl, rfl, rfl, occupies_spanBehind _ _⟩
    obtain ⟨grown, units, records, symbols, rows, behind, holds⟩ := ih (t.addOccurrence base o)
    refine ⟨step.trans grown, units, records, symbols, row :: rows, ?_, ?_⟩
    · rw [List.foldl_cons, behind, addOccurrence, List.append_assoc]
      rfl
    · exact .cons (held.mono grown) holds

/-- Adding a record keeps what is held and holds the record behind it. -/
theorem Holds.addRecord {us : List (UnitEntry String String)}
    {rs : List (RecordEntry String String)} (h : t.Holds ⟨us, rs⟩) (r : RecordEntry String String) :
    (t.addRecord r).Holds ⟨us, rs ++ [r]⟩ := by
  let base := t.symbols.length
  let filled :=
    r.occurrences.foldl (addOccurrence base) { t with symbols := t.symbols ++ r.symbols }
  obtain ⟨onward, units, records, symbols, rows, behind, holds⟩ :=
    filled_addOccurrences { t with symbols := t.symbols ++ r.symbols } base r.occurrences
  have grown : t.Grown (t.addRecord r) :=
    ⟨onward.includes, onward.dependencies, (List.prefix_append _ _).trans onward.symbols,
      onward.occurrences, onward.relations⟩
  have same : filled.Grown (t.addRecord r) :=
    ⟨List.prefix_rfl, List.prefix_rfl, List.prefix_rfl, List.prefix_rfl, List.prefix_rfl⟩
  constructor
  · change List.Forall₂ _ us filled.units
    rw [units]
    exact h.units.imp fun _ _ held => held.mono grown
  · refine List.rel_append (h.records.imp fun _ _ held => held.mono grown) (.cons ?_ .nil)
    refine ⟨rfl, rfl, (occupies_spanBehind _ _).mono onward.symbols, rows, ?_, ?_⟩
    · refine ⟨t.occurrences, [], by rw [List.append_nil]; exact behind, ?_⟩
      change Span.mk _ filled.occurrences.length = _
      rw [behind, List.length_append]
    · exact holds.imp fun _ _ held => held.mono same

theorem Holds.addRecords {us : List (UnitEntry String String)}
    {rs : List (RecordEntry String String)} (h : t.Holds ⟨us, rs⟩)
    (more : List (RecordEntry String String)) :
    (more.foldl Tables.addRecord t).Holds ⟨us, rs ++ more⟩ := by
  induction more generalizing t rs with
  | nil => simpa using h
  | cons r rest ih => simpa using ih (h.addRecord r)

/-- The tables of declared contents hold them. -/
theorem ofContents_holds (c : Contents String String) : (ofContents c).Holds c := by
  have none : Tables.Holds {} ⟨[], []⟩ := ⟨.nil, .nil⟩
  simpa [ofContents] using (none.addUnits c.units).addRecords c.records

end Tables

namespace Tables

section Accessing

variable (t : Tables) (handle : Handle)

theorem directive_eq : t.accessors.directive handle =
    match lookUp t.includes handle with
    | some e => e.view Utf8.encode
    | none => ⟨[], 0, []⟩ := by
  simp only [Accessors.directive, accessors]
  cases lookUp t.includes handle <;> rfl

theorem dependency_eq : t.accessors.dependency handle =
    match lookUp t.dependencies handle with
    | some e => e.view Utf8.encode
    | none => ⟨.ofRaw 0, [], [], [], false⟩ := by
  simp only [Accessors.dependency, accessors]
  cases lookUp t.dependencies handle <;> rfl

theorem symbol_eq : t.accessors.symbol handle =
    match lookUp t.symbols handle with
    | some e => e.view Utf8.encode
    | none => .empty := by
  simp only [Accessors.symbol, accessors]
  cases lookUp t.symbols handle <;> rfl

theorem relation_eq : t.accessors.relation handle =
    match lookUp t.relations handle with
    | some (roles, symbol) => ⟨⟨roles⟩, t.accessors.symbol (token symbol)⟩
    | none => ⟨⟨0⟩, .empty⟩ := by
  simp only [Accessors.relation, accessors]
  cases lookUp t.relations handle <;> rfl

theorem occurrence_eq : t.accessors.occurrence handle =
    match lookUp t.occurrences handle with
    | some o => ⟨t.accessors.symbol (token o.symbol), ⟨o.roles⟩, o.line, o.column,
        o.relations.tokens.map t.accessors.relation⟩
    | none => ⟨.empty, ⟨0⟩, 0, 0, []⟩ := by
  simp only [Accessors.occurrence, accessors, place]
  cases lookUp t.occurrences handle <;> rfl

end Accessing

section Reading

variable {t : Tables} {u : UnitEntry String String} {unitRow : UnitRow}
  {r : RecordEntry String String} {row : RecordRow}

theorem HoldsUnit.read_directives (h : t.HoldsUnit u unitRow) :
    unitRow.includes.tokens.map t.accessors.directive = u.includes.map (·.view Utf8.encode) := by
  refine h.includes.read fun handle item found => ?_
  rw [directive_eq, found]

theorem HoldsUnit.read_dependencies (h : t.HoldsUnit u unitRow) :
    unitRow.dependencies.tokens.map t.accessors.dependency =
      u.dependencies.map (·.view Utf8.encode) := by
  refine h.dependencies.read fun handle item found => ?_
  rw [dependency_eq, found]

theorem HoldsRecord.read_symbols (h : t.HoldsRecord r row) :
    row.symbols.tokens.map t.accessors.symbol = r.symbols.map (·.view Utf8.encode) := by
  refine h.symbols.read fun handle item found => ?_
  rw [symbol_eq, found]

/-- A position of a record is counted from the row its symbols begin at. -/
theorem HoldsRecord.symbolAt (h : t.HoldsRecord r row) {position : Nat}
    (inside : position < r.symbols.length) :
    t.accessors.symbol (token (row.symbols.start + position)) =
      r.symbolAt Utf8.encode position := by
  rw [symbol_eq, lookUp_token, h.symbols.getElem? inside, RecordEntry.symbolAt]
  cases r.symbols[position]? <;> rfl

/-- The relations of an occurrence lead to the rows that their positions are counted to. -/
theorem HoldsOccurrence.read_relations {base : Nat} {o : OccurrenceEntry}
    {occurrence : OccurrenceRow} (held : t.HoldsOccurrence base o occurrence) :
    occurrence.relations.tokens.map t.accessors.relation = o.relations.map fun relation =>
      ⟨⟨relation.1⟩, t.accessors.symbol (token (base + relation.2))⟩ := by
  have read : occurrence.relations.tokens.map t.accessors.relation =
      (o.relations.map fun relation => (relation.1, base + relation.2)).map
        fun found => ⟨⟨found.1⟩, t.accessors.symbol (token found.2)⟩ := by
    refine held.relations.read fun handle item found => ?_
    rw [relation_eq, found]
  rw [read, List.map_map]
  rfl

/-- The occurrences of a record are its declared ones, whatever positions they name. -/
theorem HoldsRecord.read_rows (h : t.HoldsRecord r row) :
    row.occurrences.tokens.map t.accessors.occurrence = r.occurrences.map
      (·.view fun position => t.accessors.symbol (token (row.symbols.start + position))) := by
  obtain ⟨rows, place, holds⟩ := h.occurrences
  have read : row.occurrences.tokens.map t.accessors.occurrence = rows.map fun o =>
      ⟨t.accessors.symbol (token o.symbol), ⟨o.roles⟩, o.line, o.column,
        o.relations.tokens.map t.accessors.relation⟩ := by
    refine place.read fun handle item found => ?_
    rw [occurrence_eq, found]
  rw [read]
  refine (map_eq_of_forall₂ (holds.imp fun o occurrence held => ?_)).symm
  rw [OccurrenceEntry.view, held.symbol, held.roles, held.line, held.column, held.read_relations]

/-- The reader of a row's handle gives back what is declared of the unit the row holds. -/
theorem HoldsUnit.reader (h : t.HoldsUnit u unitRow) {handle : Handle}
    (found : lookUp t.units handle = some unitRow) : t.unitReader handle = u.reader := by
  have directives : (t.accessors.unitDirectives handle).map t.accessors.directive =
      u.includes.map (·.view Utf8.encode) := by
    simp only [accessors, found, tokensOf]
    exact h.read_directives
  have dependencies : (t.accessors.unitDependencies handle).map t.accessors.dependency =
      u.dependencies.map (·.view Utf8.encode) := by
    simp only [accessors, found, tokensOf]
    exact h.read_dependencies
  obtain rfl := h.entry
  rw [unitReader, Accessors.unitReader, directives, dependencies]
  simp only [accessors, found]
  rfl

section

variable (h : t.HoldsRecord r row) {handle : Handle} (found : lookUp t.records handle = some row)
include h found

theorem HoldsRecord.reader_symbols :
    (t.recordReader handle).symbols = r.symbols.map (·.view Utf8.encode) := by
  simp only [recordReader, Accessors.recordReader, accessors, found, tokensOf]
  exact h.read_symbols

theorem HoldsRecord.reader_occurrences : (t.recordReader handle).occurrences = r.occurrences.map
    (·.view fun position => t.accessors.symbol (token (row.symbols.start + position))) := by
  simp only [recordReader, Accessors.recordReader, accessors, found, tokensOf]
  exact h.read_rows

/-- The reader of a row's handle gives back what is declared of the record the row holds. -/
theorem HoldsRecord.reader (inRange : r.InRange) : t.recordReader handle = r.reader := by
  have occurrences : (t.recordReader handle).occurrences =
      r.occurrences.map (r.occurrenceView Utf8.encode) := by
    rw [h.reader_occurrences found]
    refine List.map_congr_left fun o declared => ?_
    obtain ⟨symbol, related⟩ := inRange o declared
    exact OccurrenceEntry.view_congr (h.symbolAt symbol) fun relation named =>
      h.symbolAt (related relation named)
  have lines (start count : UInt32) :
      (t.recordReader handle).inLines start count = r.reader.inLines start count := by
    rw [inLines_recordReader, occurrences]
    exact List.filter_map
  exact (RecordReader.mk.injEq ..).mpr ⟨h.reader_symbols found, occurrences,
    funext fun start => funext fun count => lines start count⟩

end

end Reading

section Opening

variable {t : Tables} {c : Contents String String} (h : t.Holds c)
include h

theorem Holds.lookUp_unit {i : Nat} {u : UnitEntry String String}
    (declared : c.units[i]? = some u) :
    ∃ row, lookUp t.units (token i) = some row ∧ t.HoldsUnit u row :=
  forall₂_getElem? h.units declared

theorem Holds.lookUp_record {j : Nat} {r : RecordEntry String String}
    (declared : c.records[j]? = some r) :
    ∃ row, lookUp t.records (token j) = some row ∧ t.HoldsRecord r row :=
  forall₂_getElem? h.records declared

/-- The reader of a unit's handle gives back what is declared of the unit. -/
theorem Holds.unitReader {i : Nat} {u : UnitEntry String String}
    (declared : c.units[i]? = some u) : t.unitReader (token i) = u.reader := by
  obtain ⟨row, found, held⟩ := h.lookUp_unit declared
  exact held.reader found

/-- The reader of a record's handle gives back what is declared of the record. -/
theorem Holds.recordReader {j : Nat} {r : RecordEntry String String}
    (declared : c.records[j]? = some r) (inRange : r.InRange) :
    t.recordReader (token j) = r.reader := by
  obtain ⟨row, found, held⟩ := h.lookUp_record declared
  exact held.reader found inRange

/-- The rows of units carry what is declared, in order. -/
theorem Holds.entries : c.units = t.units.map (·.entry) := by
  have same := map_eq_of_forall₂ (f := id) (g := UnitRow.entry)
    (h.units.imp fun _ _ held => held.entry.symm)
  simpa using same

/-- The unit of a name is the first that is declared under it. -/
theorem Holds.unit? (name : String) :
    t.unit? name = (c.units.findIdx? (·.name == name)).map token := by
  rw [h.entries, List.findIdx?_map]
  rfl

/-- The unit of an output file is the first that is declared to write it. -/
theorem Holds.unitNameFor (path : String) :
    t.unitNameFor path = match c.units.find? (·.outputFile == path) with
      | some u => Utf8.encode u.name
      | none => DerivedName.ofPath (Utf8.encode path) := by
  have same : (fun u : UnitEntry String String => u.outputFile == path) ∘ UnitRow.entry =
      fun row => row.entry.outputFile == path := rfl
  rw [h.entries, List.find?_map, same, Tables.unitNameFor]
  cases t.units.find? (·.entry.outputFile == path) <;> rfl

/-- The record of a name is the first that is declared under it. -/
theorem Holds.record? (name : String) :
    t.record? name = (c.records.findIdx? (·.name == name)).map token := by
  have names : c.records.map (·.name) = t.records.map (·.name) :=
    map_eq_of_forall₂ (h.records.imp fun _ _ held => held.name.symm)
  have same := congrArg (List.findIdx? (· == name)) names
  rw [List.findIdx?_map, List.findIdx?_map] at same
  exact congrArg (Option.map token) same.symm

/-- What opening a unit comes to, by its declaration. -/
theorem Holds.openUnit (name : String) :
    t.openUnit name = match c.units.findIdx? (·.name == name) with
      | none => .error (noUnit name)
      | some i => match (c.units[i]?).bind (·.failure) with
        | some message => .error message
        | none => .ok (token i) := by
  rw [Tables.openUnit, h.unit?]
  cases found : c.units.findIdx? (·.name == name) with
  | none => rfl
  | some i =>
    obtain ⟨u, declared, _⟩ := getElem?_of_findIdx? found
    obtain ⟨row, stands, held⟩ := h.lookUp_unit declared
    cases failure : u.failure <;> simp [stands, declared, held.entry, failure]

/-- What opening a record comes to, by its declaration. -/
theorem Holds.openRecord (name : String) :
    t.openRecord name = match c.records.findIdx? (·.name == name) with
      | none => .error (noRecord name)
      | some j => match (c.records[j]?).bind (·.failure) with
        | some message => .error message
        | none => .ok (token j) := by
  rw [Tables.openRecord, h.record?]
  cases found : c.records.findIdx? (·.name == name) with
  | none => rfl
  | some j =>
    obtain ⟨r, declared, _⟩ := getElem?_of_findIdx? found
    obtain ⟨row, stands, held⟩ := h.lookUp_record declared
    cases failure : r.failure <;> simp [stands, declared, held.failure, failure]

/-- The unit that opens is the first that is declared under the name, if it declares no failure. -/
theorem Holds.openUnit_eq_ok_iff {name : String} {handle : Handle} :
    t.openUnit name = .ok handle ↔ ∃ i u, c.units.findIdx? (·.name == name) = some i ∧
      c.units[i]? = some u ∧ u.failure = none ∧ handle = token i := by
  rw [h.openUnit]
  cases found : c.units.findIdx? (·.name == name) with
  | none => simp
  | some i =>
    obtain ⟨u, declared, _⟩ := getElem?_of_findIdx? found
    cases failure : u.failure <;> simp [declared, failure, eq_comm]

/-- The record that opens is the first that is declared under the name, if it declares no
failure. -/
theorem Holds.openRecord_eq_ok_iff {name : String} {handle : Handle} :
    t.openRecord name = .ok handle ↔ ∃ j r, c.records.findIdx? (·.name == name) = some j ∧
      c.records[j]? = some r ∧ r.failure = none ∧ handle = token j := by
  rw [h.openRecord]
  cases found : c.records.findIdx? (·.name == name) with
  | none => simp
  | some j =>
    obtain ⟨r, declared, _⟩ := getElem?_of_findIdx? found
    cases failure : r.failure <;> simp [declared, failure, eq_comm]

end Opening

end Tables

end CodeIndex
