import CodeIndex.Engine.Basic
/-!
# Accessors

What an engine hands out is opaque. It goes by a handle and is asked about one thing at a time; what
an enumeration offers goes by handles as well. A reader puts the answers together.
-/
namespace CodeIndex

/-- A string as an engine hands it over. -/
inductive RawString where
  /-- A null pointer, whatever the length beside it. -/
  | null (length : Nat)
  | pointing (octets : Bytes)
  deriving DecidableEq, Repr

def RawString.octets : RawString → Bytes
  | .null _ => []
  | .pointing octets => octets

/-- A text as the engine in memory hands it over; where there is none it is a null pointer. -/
def RawString.ofText? : Option String → RawString
  | some text => .pointing (Utf8.encode text)
  | none => .null 0

inductive UnitField where
  | mainFile
  | outputFile
  | moduleName
  | workingDirectory
  | target
  | sysroot
  | providerIdentifier
  | providerVersion
  deriving DecidableEq, Repr

inductive UnitFlag where
  | isSystem
  | isModule
  | isDebug
  | hasMainFile
  deriving DecidableEq, Repr

inductive DependencyField where
  | name
  | file
  | moduleName
  deriving DecidableEq, Repr

inductive SymbolField where
  | name
  | usr
  | codegenName
  deriving DecidableEq, Repr

/-- What a handle stands for. Engines choose their handles for each kind. -/
inductive Pointee where
  | unit
  | directive
  | dependency
  | record
  | symbol
  | occurrence
  | relation
  deriving DecidableEq, Repr

/-- The questions an engine answers about what goes by a handle. -/
structure Accessors (P : Pointee → Type) where
  unitString : P .unit → UnitField → RawString
  unitFlag : P .unit → UnitFlag → Bool
  unitModified : P .unit → Timestamp
  unitDependencies : P .unit → List (P .dependency)
  unitDirectives : P .unit → List (P .directive)
  dependencyKind : P .dependency → UInt32
  dependencyIsSystem : P .dependency → Bool
  dependencyString : P .dependency → DependencyField → RawString
  directiveSource : P .directive → RawString
  directiveTarget : P .directive → RawString
  directiveLine : P .directive → Int
  /-- The symbols; an engine may be told not to keep what it reads on the way. -/
  recordSymbols : P .record → (uncached : Bool) → List (P .symbol)
  recordOccurrences : P .record → List (P .occurrence)
  /-- The occurrences on `count` lines from `start` on. -/
  recordLines : P .record → (start count : UInt32) → List (P .occurrence)
  symbolLanguage : P .symbol → UInt32
  symbolKind : P .symbol → UInt32
  symbolSubkind : P .symbol → UInt32
  symbolProperties : P .symbol → UInt64
  symbolRoles : P .symbol → UInt64
  symbolRelatedRoles : P .symbol → UInt64
  symbolString : P .symbol → SymbolField → RawString
  occurrenceSymbol : P .occurrence → P .symbol
  occurrenceRoles : P .occurrence → UInt64
  /-- The line and the column. -/
  occurrencePlace : P .occurrence → UInt32 × UInt32
  occurrenceRelations : P .occurrence → List (P .relation)
  relationRoles : P .relation → UInt64
  relationSymbol : P .relation → P .symbol

namespace Accessors

variable {P : Pointee → Type} (a : Accessors P)

def directive (handle : P .directive) : Include where
  source := (a.directiveSource handle).octets
  line := a.directiveLine handle
  target := (a.directiveTarget handle).octets

def dependency (handle : P .dependency) : Dependency where
  kind := .ofRaw (a.dependencyKind handle)
  name := (a.dependencyString handle .name).octets
  file := (a.dependencyString handle .file).octets
  moduleName := (a.dependencyString handle .moduleName).octets
  isSystem := a.dependencyIsSystem handle

def symbol (handle : P .symbol) : Symbol where
  kind := .ofRaw (a.symbolKind handle)
  language := .ofRaw (a.symbolLanguage handle)
  subkind := a.symbolSubkind handle
  properties := ⟨a.symbolProperties handle⟩
  roles := ⟨a.symbolRoles handle⟩
  relatedRoles := ⟨a.symbolRelatedRoles handle⟩
  name := (a.symbolString handle .name).octets
  usr := (a.symbolString handle .usr).octets
  codegenName := (a.symbolString handle .codegenName).octets

def relation (handle : P .relation) : Relation where
  roles := ⟨a.relationRoles handle⟩
  symbol := a.symbol (a.relationSymbol handle)

def occurrence (handle : P .occurrence) : Occurrence where
  symbol := a.symbol (a.occurrenceSymbol handle)
  roles := ⟨a.occurrenceRoles handle⟩
  line := (a.occurrencePlace handle).1
  column := (a.occurrencePlace handle).2
  relations := (a.occurrenceRelations handle).map a.relation

def unitReader (handle : P .unit) : UnitReader where
  mainFile := (a.unitString handle .mainFile).octets
  outputFile := (a.unitString handle .outputFile).octets
  moduleName := (a.unitString handle .moduleName).octets
  workingDirectory := (a.unitString handle .workingDirectory).octets
  target := (a.unitString handle .target).octets
  sysroot := (a.unitString handle .sysroot).octets
  providerIdentifier := (a.unitString handle .providerIdentifier).octets
  providerVersion := (a.unitString handle .providerVersion).octets
  modified := a.unitModified handle
  isSystem := a.unitFlag handle .isSystem
  isModule := a.unitFlag handle .isModule
  isDebug := a.unitFlag handle .isDebug
  hasMainFile := a.unitFlag handle .hasMainFile
  includes := (a.unitDirectives handle).map a.directive
  dependencies := (a.unitDependencies handle).map a.dependency

/-- What is read of a record; its symbols are asked for as they are kept. -/
def recordReader (handle : P .record) : RecordReader where
  symbols := (a.recordSymbols handle false).map a.symbol
  occurrences := (a.recordOccurrences handle).map a.occurrence
  inLines start count := (a.recordLines handle start count).map a.occurrence

end Accessors

end CodeIndex
