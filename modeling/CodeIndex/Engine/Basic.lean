import CodeIndex.Engine.Ledger
import CodeIndex.Engine.Traversal
import CodeIndex.Flags
import CodeIndex.Kinds
import CodeIndex.Time
import CodeIndex.Text.Utf8
/-!
# Engines

An engine answers queries about one index: the names of its units, and readers on its units and
records. What it hands out is seen here as it is seen through the reader: strings are octets.
-/
namespace CodeIndex

structure Include where
  source : Bytes
  line : Int
  target : Bytes
  deriving DecidableEq, Repr

structure Dependency where
  kind : DependencyKind
  name : Bytes
  file : Bytes
  moduleName : Bytes
  isSystem : Bool
  deriving DecidableEq, Repr

structure Symbol where
  kind : SymbolKind
  language : SymbolLanguage
  subkind : UInt32
  properties : SymbolProperties
  roles : SymbolRoles
  relatedRoles : SymbolRoles
  name : Bytes
  usr : Bytes
  codegenName : Bytes
  deriving DecidableEq, Repr

def Symbol.empty : Symbol where
  kind := .ofRaw 0
  language := .ofRaw 0
  subkind := 0
  properties := ⟨0⟩
  roles := ⟨0⟩
  relatedRoles := ⟨0⟩
  name := []
  usr := []
  codegenName := []

structure Relation where
  roles : SymbolRoles
  symbol : Symbol
  deriving DecidableEq, Repr

structure Occurrence where
  symbol : Symbol
  roles : SymbolRoles
  line : UInt32
  column : UInt32
  relations : List Relation
  deriving DecidableEq, Repr

structure UnitReader where
  mainFile : Bytes
  outputFile : Bytes
  moduleName : Bytes
  workingDirectory : Bytes
  target : Bytes
  sysroot : Bytes
  providerIdentifier : Bytes
  providerVersion : Bytes
  modified : Timestamp
  isSystem : Bool
  isModule : Bool
  isDebug : Bool
  hasMainFile : Bool
  includes : List Include
  dependencies : List Dependency
  deriving DecidableEq, Repr

structure RecordReader where
  symbols : List Symbol
  occurrences : List Occurrence
  /-- The occurrences on `count` lines from `start` on. -/
  inLines : (start count : UInt32) → List Occurrence

def UnitReader.empty : UnitReader where
  mainFile := []
  outputFile := []
  moduleName := []
  workingDirectory := []
  target := []
  sysroot := []
  providerIdentifier := []
  providerVersion := []
  modified := {}
  isSystem := false
  isModule := false
  isDebug := false
  hasMainFile := false
  includes := []
  dependencies := []

def RecordReader.empty : RecordReader := ⟨[], [], fun _ _ => []⟩

/-- The calls an engine answers. What is created is to be disposed of; a call that fails gives a
message. -/
structure Engine where
  /-- The format of the stores it reads. -/
  formatVersion : UInt32
  /-- Whether one store may be read from several threads at once. -/
  concurrentReads : Bool
  conduct : Conduct
  createStore : (path : String) → Access (Except String Handle)
  disposeStore : Handle → Access Unit
  /-- The names of the units, in its own order or sorted. -/
  unitNames : (sorted : Bool) → List Bytes
  /-- The name of the unit that writes an output file; no unit of that name need exist. -/
  unitNameFor : (outputPath : String) → Bytes
  unitTime : (name : String) → Access (Except String Timestamp)
  createUnit : (name : String) → Access (Except String (Handle × UnitReader))
  disposeUnit : Handle → Access Unit
  createRecord : (name : String) → Access (Except String (Handle × RecordReader))
  disposeRecord : Handle → Access Unit

end CodeIndex
