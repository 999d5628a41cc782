import CodeIndex.Engine.Tables
/-!
# Declared contents as they are read

What a reader is to show of declared contents, told by the declarations alone, without the accessors
of any engine. A range of lines is cut out as the engine in memory does it.
-/
namespace CodeIndex

variable {σ φ : Type}

/-- The directive as a reader gives it. -/
def IncludeEntry.view (octets : σ → Bytes) (e : IncludeEntry σ) : Include :=
  ⟨octets e.source, e.line, octets e.target⟩

def DependencyEntry.view (octets : σ → Bytes) (e : DependencyEntry σ) : Dependency where
  kind := .ofRaw e.kind
  name := octets e.name
  file := octets e.file
  moduleName := octets e.moduleName
  isSystem := e.isSystem

def SymbolEntry.view (octets : σ → Bytes) (e : SymbolEntry σ) : Symbol where
  kind := .ofRaw e.kind
  language := .ofRaw e.language
  subkind := e.subkind
  properties := ⟨e.properties⟩
  roles := ⟨e.roles⟩
  relatedRoles := ⟨e.relatedRoles⟩
  name := octets e.name
  usr := octets e.usr
  codegenName := octets e.codegenName

/-- The symbol at a position of a record; past the end it is the empty one. -/
def RecordEntry.symbolAt (octets : σ → Bytes) (r : RecordEntry σ φ) (position : Nat) : Symbol :=
  match r.symbols[position]? with
  | some e => e.view octets
  | none => .empty

def RecordEntry.occurrenceView (octets : σ → Bytes) (r : RecordEntry σ φ) (o : OccurrenceEntry) :
    Occurrence where
  symbol := r.symbolAt octets o.symbol
  roles := ⟨o.roles⟩
  line := o.line
  column := o.column
  relations := o.relations.map fun relation => ⟨⟨relation.1⟩, r.symbolAt octets relation.2⟩

/-- The symbols a record's occurrences and their relations name are among its own. -/
def RecordEntry.InRange (r : RecordEntry σ φ) : Prop :=
  ∀ o ∈ r.occurrences, o.symbol < r.symbols.length ∧
    ∀ relation ∈ o.relations, relation.2 < r.symbols.length

instance (r : RecordEntry σ φ) : Decidable r.InRange :=
  inferInstanceAs (Decidable (∀ o ∈ r.occurrences, o.symbol < r.symbols.length ∧
    ∀ relation ∈ o.relations, relation.2 < r.symbols.length))

/-- What is declared of a unit, as a reader gives it. -/
def UnitEntry.reader (u : UnitEntry String String) : UnitReader where
  mainFile := Utf8.encode u.mainFile
  outputFile := Utf8.encode u.outputFile
  moduleName := Utf8.encode u.moduleName
  workingDirectory := Utf8.encode u.workingDirectory
  target := Utf8.encode u.target
  sysroot := Utf8.encode u.sysroot
  providerIdentifier := Utf8.encode u.providerIdentifier
  providerVersion := Utf8.encode u.providerVersion
  modified := u.modified
  isSystem := u.isSystem
  isModule := u.isModule
  isDebug := u.isDebug
  hasMainFile := u.mainFile != ""
  includes := u.includes.map (·.view Utf8.encode)
  dependencies := u.dependencies.map (·.view Utf8.encode)

/-- The occurrence as a reader gives it when this is what positions lead to. -/
def OccurrenceEntry.view (symbolAt : Nat → Symbol) (o : OccurrenceEntry) : Occurrence where
  symbol := symbolAt o.symbol
  roles := ⟨o.roles⟩
  line := o.line
  column := o.column
  relations := o.relations.map fun relation => ⟨⟨relation.1⟩, symbolAt relation.2⟩

/-- Only the positions that an occurrence names count. -/
theorem OccurrenceEntry.view_congr {o : OccurrenceEntry} {symbolAt symbolAt' : Nat → Symbol}
    (symbol : symbolAt o.symbol = symbolAt' o.symbol)
    (related : ∀ relation ∈ o.relations, symbolAt relation.2 = symbolAt' relation.2) :
    o.view symbolAt = o.view symbolAt' := by
  have relations :
      o.relations.map (fun relation => Relation.mk ⟨relation.1⟩ (symbolAt relation.2)) =
        o.relations.map fun relation => ⟨⟨relation.1⟩, symbolAt' relation.2⟩ :=
    List.map_congr_left fun relation named => by rw [related relation named]
  rw [view, view, symbol, relations]

def RecordEntry.reader (r : RecordEntry String String) : RecordReader where
  symbols := r.symbols.map (·.view Utf8.encode)
  occurrences := r.occurrences.map (r.occurrenceView Utf8.encode)
  inLines start count :=
    (r.occurrences.filter fun o => Tables.inLines start count o.line).map
      (r.occurrenceView Utf8.encode)

def UnitEntry.bare (name outputFile : String) : UnitEntry String String :=
  ⟨name, "", outputFile, "", "", "", "", "", "", {}, false, false, false, false, [], [], none⟩

def SymbolEntry.bare (name : String) : SymbolEntry String := ⟨0, 0, 0, 0, 0, 0, name, "", ""⟩

/-- Contents whose lists differ in length. Empty ones stand between the others. -/
def Contents.uneven : Contents String String where
  units := [
    { UnitEntry.bare "a" "a.o" with
      includes := [⟨"a.c", 1, "a.h"⟩, ⟨"a.h", 2, "b.h"⟩]
      dependencies := [⟨2, "r", "a.c", "", false⟩] },
    UnitEntry.bare "b" "b.o",
    { UnitEntry.bare "a" "a.o" with failure := some "torn" },
    { UnitEntry.bare "c" "c.o" with
      mainFile := "c.c", hasMainFile := true
      dependencies := [⟨1, "a", "", "", true⟩, ⟨3, "", "c.h", "", false⟩] }]
  records := [
    ⟨"r", [.bare "f", .bare "g"], [⟨1, 1, 4, 2, [(8, 0), (8, 1)]⟩, ⟨0, 2, 5, 1, []⟩], none⟩,
    ⟨"s", [], [], some "torn"⟩,
    ⟨"t", [.bare "h"], [⟨0, 1, 1, 1, [(4, 0)]⟩], none⟩]

end CodeIndex
