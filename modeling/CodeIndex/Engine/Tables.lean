import CodeIndex.Engine.Accessors
import CodeIndex.Engine.Contents
import CodeIndex.Engine.DerivedName
/-!
# Tables in memory

The contents of an index laid out in flat tables: the lists of all units and of all records stand
behind one another, and each unit, record and occurrence keeps the span of its own items. The
engine in memory reads these tables. It opens the first unit or record of a name.
-/
namespace CodeIndex

/-- The handle of a row. -/
def token (row : Nat) : Handle := row + 1

def lookUp {α : Type} (table : List α) : Handle → Option α
  | 0 => none
  | row + 1 => table[row]?

@[simp] theorem lookUp_token {α : Type} (table : List α) (row : Nat) :
    lookUp table (token row) = table[row]? := rfl

structure Span where
  start : Nat
  stop : Nat
  deriving DecidableEq, Repr

def Span.tokens (s : Span) : List Handle := (List.range' s.start (s.stop - s.start)).map token

/-- A unit with the stretches of its items. -/
structure UnitRow where
  entry : UnitEntry String String
  includes : Span
  dependencies : Span

structure RecordRow where
  name : String
  failure : Option String
  symbols : Span
  occurrences : Span

/-- An occurrence; its symbol is a row of the table of all symbols. -/
structure OccurrenceRow where
  symbol : Nat
  roles : UInt64
  line : UInt32
  column : UInt32
  relations : Span
  deriving DecidableEq, Repr

structure Tables where
  units : List UnitRow := []
  includes : List (IncludeEntry String) := []
  dependencies : List (DependencyEntry String) := []
  records : List RecordRow := []
  symbols : List (SymbolEntry String) := []
  occurrences : List OccurrenceRow := []
  /-- Roles with rows of the table of all symbols. -/
  relations : List (UInt64 × Nat) := []

namespace Tables

/-- The stretch that `added` rows take behind a table. -/
def spanBehind {α : Type} (table added : List α) : Span :=
  ⟨table.length, table.length + added.length⟩

def addUnit (t : Tables) (u : UnitEntry String String) : Tables :=
  { t with
    includes := t.includes ++ u.includes
    dependencies := t.dependencies ++ u.dependencies
    units := t.units ++
      [⟨u, spanBehind t.includes u.includes, spanBehind t.dependencies u.dependencies⟩] }

/-- Adds an occurrence whose symbols are counted from row `base` on. -/
def addOccurrence (base : Nat) (t : Tables) (o : OccurrenceEntry) : Tables :=
  { t with
    relations := t.relations ++ o.relations.map fun relation => (relation.1, base + relation.2)
    occurrences := t.occurrences ++
      [⟨base + o.symbol, o.roles, o.line, o.column, spanBehind t.relations
        (o.relations.map fun relation => (relation.1, base + relation.2))⟩] }

def addRecord (t : Tables) (r : RecordEntry String String) : Tables :=
  let base := t.symbols.length
  let filled :=
    r.occurrences.foldl (addOccurrence base) { t with symbols := t.symbols ++ r.symbols }
  { filled with
    records := t.records ++ [⟨r.name, r.failure, spanBehind t.symbols r.symbols,
      ⟨t.occurrences.length, filled.occurrences.length⟩⟩] }

def ofContents (c : Contents String String) : Tables :=
  c.records.foldl addRecord (c.units.foldl addUnit {})

/-- The end of a range of lines; it does not go beyond the last number of a line. -/
def lastLine (start count : UInt32) : Nat := min (start.toNat + count.toNat) (UInt32.size - 1)

def inLines (start count line : UInt32) : Bool :=
  start.toNat ≤ line.toNat && line.toNat < lastLine start count

/-- The handles of a stretch, none if there is no row to take it from. -/
def tokensOf {α : Type} (stretch : α → Span) : Option α → List Handle
  | some row => (stretch row).tokens
  | none => []

def unitText (u : UnitEntry String String) : UnitField → String
  | .mainFile => u.mainFile
  | .outputFile => u.outputFile
  | .moduleName => u.moduleName
  | .workingDirectory => u.workingDirectory
  | .target => u.target
  | .sysroot => u.sysroot
  | .providerIdentifier => u.providerIdentifier
  | .providerVersion => u.providerVersion

/-- A unit has a main file when the name of one is not empty. -/
def unitFlag (u : UnitEntry String String) : UnitFlag → Bool
  | .isSystem => u.isSystem
  | .isModule => u.isModule
  | .isDebug => u.isDebug
  | .hasMainFile => u.mainFile != ""

def dependencyText (d : DependencyEntry String) : DependencyField → String
  | .name => d.name
  | .file => d.file
  | .moduleName => d.moduleName

def symbolText (s : SymbolEntry String) : SymbolField → String
  | .name => s.name
  | .usr => s.usr
  | .codegenName => s.codegenName

def place (t : Tables) (handle : Handle) : UInt32 × UInt32 :=
  match lookUp t.occurrences handle with
  | some o => (o.line, o.column)
  | none => (0, 0)

/-- What the tables say of a handle. A handle without a row is told to be empty, zero or false, and
the symbol it leads to has no row either. -/
def accessors (t : Tables) : Accessors fun _ => Handle where
  unitString reader field :=
    .ofText? ((lookUp t.units reader).map fun row => unitText row.entry field)
  unitFlag reader flag := (lookUp t.units reader).any fun row => unitFlag row.entry flag
  unitModified reader := ((lookUp t.units reader).map (·.entry.modified)).getD {}
  unitDependencies reader := tokensOf UnitRow.dependencies (lookUp t.units reader)
  unitDirectives reader := tokensOf UnitRow.includes (lookUp t.units reader)
  dependencyKind d := ((lookUp t.dependencies d).map (·.kind)).getD 0
  dependencyIsSystem d := (lookUp t.dependencies d).any (·.isSystem)
  dependencyString d field :=
    .ofText? ((lookUp t.dependencies d).map fun entry => dependencyText entry field)
  directiveSource i := .ofText? ((lookUp t.includes i).map (·.source))
  directiveTarget i := .ofText? ((lookUp t.includes i).map (·.target))
  directiveLine i := ((lookUp t.includes i).map (·.line)).getD 0
  recordSymbols reader _ := tokensOf RecordRow.symbols (lookUp t.records reader)
  recordOccurrences reader := tokensOf RecordRow.occurrences (lookUp t.records reader)
  recordLines reader start count :=
    (tokensOf RecordRow.occurrences (lookUp t.records reader)).filter fun o =>
      inLines start count (t.place o).1
  symbolLanguage s := ((lookUp t.symbols s).map (·.language)).getD 0
  symbolKind s := ((lookUp t.symbols s).map (·.kind)).getD 0
  symbolSubkind s := ((lookUp t.symbols s).map (·.subkind)).getD 0
  symbolProperties s := ((lookUp t.symbols s).map (·.properties)).getD 0
  symbolRoles s := ((lookUp t.symbols s).map (·.roles)).getD 0
  symbolRelatedRoles s := ((lookUp t.symbols s).map (·.relatedRoles)).getD 0
  symbolString s field := .ofText? ((lookUp t.symbols s).map fun entry => symbolText entry field)
  occurrenceSymbol o := ((lookUp t.occurrences o).map fun row => token row.symbol).getD 0
  occurrenceRoles o := ((lookUp t.occurrences o).map (·.roles)).getD 0
  occurrencePlace := t.place
  occurrenceRelations o := tokensOf OccurrenceRow.relations (lookUp t.occurrences o)
  relationRoles r := ((lookUp t.relations r).map Prod.fst).getD 0
  relationSymbol r := ((lookUp t.relations r).map fun row => token row.2).getD 0

def unitReader (t : Tables) (handle : Handle) : UnitReader := t.accessors.unitReader handle

def recordReader (t : Tables) (handle : Handle) : RecordReader := t.accessors.recordReader handle

/-- A range of lines has the occurrences that are read with a line in it. -/
theorem inLines_recordReader (t : Tables) (handle : Handle) (start count : UInt32) :
    (t.recordReader handle).inLines start count =
      (t.recordReader handle).occurrences.filter fun o => inLines start count o.line := by
  simp only [recordReader, Accessors.recordReader, List.filter_map]
  rfl

def unit? (t : Tables) (name : String) : Option Handle :=
  (t.units.findIdx? (·.entry.name == name)).map token

def record? (t : Tables) (name : String) : Option Handle :=
  (t.records.findIdx? (·.name == name)).map token

def noUnit (name : String) : String := s!"unit '{name}' not found"

def noRecord (name : String) : String := s!"record '{name}' not found"

/-- The first unit of a name, unless it cannot be opened. -/
def openUnit (t : Tables) (name : String) : Except String Handle :=
  match t.unit? name with
  | none => .error (noUnit name)
  | some handle => match (lookUp t.units handle).bind (·.entry.failure) with
    | some message => .error message
    | none => .ok handle

def openRecord (t : Tables) (name : String) : Except String Handle :=
  match t.record? name with
  | none => .error (noRecord name)
  | some handle => match (lookUp t.records handle).bind (·.failure) with
    | some message => .error message
    | none => .ok handle

def unitTime (t : Tables) (name : String) : Except String Timestamp :=
  match t.unit? name with
  | none => .error (noUnit name)
  | some handle => .ok (t.unitReader handle).modified

def unitNames (t : Tables) (sorted : Bool) : List Bytes :=
  let names := t.units.map fun row => Utf8.encode row.entry.name
  if sorted then names.mergeSort Bytes.le else names

/-- The name of the first unit that writes a file, or the one derived from the path. -/
def unitNameFor (t : Tables) (path : String) : Bytes :=
  match t.units.find? (·.entry.outputFile == path) with
  | some row => Utf8.encode row.entry.name
  | none => DerivedName.ofPath (Utf8.encode path)

end Tables

/-- What sets one engine in memory apart from another. -/
structure MemorySettings where
  formatVersion : UInt32 := 5
  concurrentReads : Bool := true
  /-- Why no store opens. -/
  storeFailure : Option String := none

def Tables.handOut {α : Type} (count : Counters → Counters) :
    Except String α → Access (Except String α)
  | .ok found => do
    Access.count count
    pure (.ok found)
  | .error message => pure (.error message)

@[simp] theorem Tables.handOut_fst {α : Type} (count : Counters → Counters)
    (answer : Except String α) (l : Ledger) : (handOut count answer l).1 = answer := by
  cases answer <;> rfl

/-- The engine in memory. It ends enumerations when told to, and does not shield them. -/
def Tables.engine (t : Tables) (settings : MemorySettings) : Engine where
  formatVersion := settings.formatVersion
  concurrentReads := settings.concurrentReads
  conduct := ⟨true, false⟩
  createStore _ := handOut Counters.openStore (match settings.storeFailure with
    | some message => .error message
    | none => .ok (token 0))
  disposeStore _ := Access.count Counters.closeStore
  unitNames := t.unitNames
  unitNameFor := t.unitNameFor
  unitTime name := pure (t.unitTime name)
  createUnit name :=
    handOut Counters.openUnit ((t.openUnit name).map fun handle => (handle, t.unitReader handle))
  disposeUnit _ := Access.count Counters.closeUnit
  createRecord name := handOut Counters.openRecord
    ((t.openRecord name).map fun handle => (handle, t.recordReader handle))
  disposeRecord _ := Access.count Counters.closeRecord

namespace Tables

variable (t : Tables) (settings : MemorySettings) (name : String) (l : Ledger)

theorem createUnit_fst : ((t.engine settings).createUnit name l).1 =
    (t.openUnit name).map fun handle => (handle, t.unitReader handle) :=
  handOut_fst _ _ l

theorem createRecord_fst : ((t.engine settings).createRecord name l).1 =
    (t.openRecord name).map fun handle => (handle, t.recordReader handle) :=
  handOut_fst _ _ l

end Tables

end CodeIndex
