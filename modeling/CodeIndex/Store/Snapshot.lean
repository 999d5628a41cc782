import CodeIndex.Store.Unit
import CodeIndex.Store.Record
/-!
# Snapshots

Owned copies of what an engine lends, with strings as text, and their JSON.
-/
namespace CodeIndex

structure UnitInfo where
  name : String
  mainFile : Option String
  outputFile : String
  moduleName : String
  target : String
  isSystem : Bool
  modified : Instant
  deriving DecidableEq, Repr

structure SymbolInfo where
  name : String
  usr : String
  kind : SymbolKind
  language : SymbolLanguage
  properties : SymbolProperties
  roles : SymbolRoles
  deriving DecidableEq, Repr

/-- A relation with the related symbol's USR. -/
structure RelationInfo where
  roles : SymbolRoles
  usr : String
  deriving DecidableEq, Repr

structure OccurrenceInfo where
  symbol : SymbolInfo
  roles : SymbolRoles
  line : UInt32
  column : UInt32
  relations : List RelationInfo
  deriving DecidableEq, Repr

structure IncludeInfo where
  source : String
  line : Int
  target : String
  deriving DecidableEq, Repr

structure DependencyInfo where
  kind : DependencyKind
  name : String
  file : String
  moduleName : String
  isSystem : Bool
  deriving DecidableEq, Repr

def OpenUnit.snapshot (u : OpenUnit) : UnitInfo where
  name := u.name
  mainFile := if u.reader.hasMainFile then some (Utf8.lossy u.reader.mainFile) else none
  outputFile := Utf8.lossy u.reader.outputFile
  moduleName := Utf8.lossy u.reader.moduleName
  target := Utf8.lossy u.reader.target
  isSystem := u.reader.isSystem
  modified := u.written

/-- The unit as an object; a time before the epoch has no written form. -/
def UnitInfo.toJson (u : UnitInfo) : Except Instant.WritingFault Json := do
  let modified ← u.modified.toJson
  return .object [
    ("name", .string u.name),
    ("main_file", match u.mainFile with
      | some file => .string file
      | none => .null),
    ("output_file", .string u.outputFile),
    ("module_name", .string u.moduleName),
    ("target", .string u.target),
    ("is_system", .bool u.isSystem),
    ("modification_time", modified)]

def Include.snapshot (i : Include) : IncludeInfo :=
  ⟨Utf8.lossy i.source, i.line, Utf8.lossy i.target⟩

def IncludeInfo.toJson (i : IncludeInfo) : Json :=
  .object [("source_path", .string i.source), ("line", .number i.line),
    ("target_path", .string i.target)]

def Dependency.snapshot (d : Dependency) : DependencyInfo :=
  ⟨d.kind, Utf8.lossy d.name, Utf8.lossy d.file, Utf8.lossy d.moduleName, d.isSystem⟩

def DependencyInfo.toJson (d : DependencyInfo) : Json :=
  .object [("kind", d.kind.toJson), ("name", .string d.name), ("file_path", .string d.file),
    ("module_name", .string d.moduleName), ("is_system", .bool d.isSystem)]

/-- A flag set as its number. -/
def Flags.toJson {table : FlagTable} (f : Flags table) : Json := .number f.bits.toNat

def Symbol.snapshot (s : Symbol) : SymbolInfo where
  name := Utf8.lossy s.name
  usr := Utf8.lossy s.usr
  kind := s.kind
  language := s.language
  properties := s.properties
  roles := s.roles

def SymbolInfo.toJson (s : SymbolInfo) : Json :=
  .object [("name", .string s.name), ("usr", .string s.usr), ("kind", s.kind.toJson),
    ("language", s.language.toJson), ("properties", s.properties.toJson),
    ("roles", s.roles.toJson)]

def Relation.snapshot (r : Relation) : RelationInfo := ⟨r.roles, Utf8.lossy r.symbol.usr⟩

def RelationInfo.toJson (r : RelationInfo) : Json :=
  .object [("roles", r.roles.toJson), ("usr", .string r.usr)]

/-- The occurrence as text; its relations are lent on the way. -/
def Occurrence.snapshot (e : Engine) (o : Occurrence) : Access OccurrenceInfo := do
  let relations ← (o.lendRelations e).mapCollect fun r => pure r.snapshot
  pure ⟨o.symbol.snapshot, o.roles, o.line, o.column, relations⟩

def OccurrenceInfo.toJson (o : OccurrenceInfo) : Json :=
  .object [("symbol", o.symbol.toJson), ("roles", o.roles.toJson), ("line", .number o.line.toNat),
    ("column", .number o.column.toNat), ("relations", .array (o.relations.map (·.toJson)))]

end CodeIndex
