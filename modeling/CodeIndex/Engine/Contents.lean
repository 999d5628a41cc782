import CodeIndex.Engine.Basic
/-!
# Declared contents

What an index holds, as it is declared: units with their includes and dependencies, and records
with symbols and their occurrences. Occurrences and relations name symbols by their position in
the record. `σ` is the type of strings and `φ` that of failures.
-/
namespace CodeIndex

structure IncludeEntry (σ : Type) where
  source : σ
  line : Int
  target : σ
  deriving DecidableEq, Repr

structure DependencyEntry (σ : Type) where
  kind : UInt32
  name : σ
  file : σ
  moduleName : σ
  isSystem : Bool
  deriving DecidableEq, Repr

structure UnitEntry (σ φ : Type) where
  name : σ
  mainFile : σ
  outputFile : σ
  moduleName : σ
  workingDirectory : σ
  target : σ
  sysroot : σ
  providerIdentifier : σ
  providerVersion : σ
  modified : Timestamp
  isSystem : Bool
  isModule : Bool
  isDebug : Bool
  /-- Whether the unit says it has a main file. -/
  hasMainFile : Bool
  includes : List (IncludeEntry σ)
  dependencies : List (DependencyEntry σ)
  /-- Why the unit cannot be opened. -/
  failure : Option φ

structure SymbolEntry (σ : Type) where
  kind : UInt32
  language : UInt32
  subkind : UInt32
  properties : UInt64
  roles : UInt64
  relatedRoles : UInt64
  name : σ
  usr : σ
  codegenName : σ
  deriving DecidableEq, Repr

/-- A declared occurrence of the symbol at a position of its record. -/
structure OccurrenceEntry where
  symbol : Nat
  roles : UInt64
  line : UInt32
  column : UInt32
  /-- Roles with the position of the related symbol. -/
  relations : List (UInt64 × Nat)
  deriving DecidableEq, Repr

structure RecordEntry (σ φ : Type) where
  name : σ
  symbols : List (SymbolEntry σ)
  occurrences : List OccurrenceEntry
  /-- Why the record cannot be opened. -/
  failure : Option φ

structure Contents (σ φ : Type) where
  units : List (UnitEntry σ φ)
  records : List (RecordEntry σ φ)

/-- Whether a line is one of `count` lines from `start` on, counted without bound. -/
def lineWithin (start count line : UInt32) : Bool :=
  start.toNat ≤ line.toNat && line.toNat < start.toNat + count.toNat

end CodeIndex
