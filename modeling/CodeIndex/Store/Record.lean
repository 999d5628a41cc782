import CodeIndex.Store.Basic
/-!
# Records of a store

A record is opened by name, alone or on behalf of a unit, which then tells the source file. It lends
its symbols and their occurrences, and an occurrence lends its relations.
-/
namespace CodeIndex

structure OpenRecord where
  name : String
  handle : Handle
  /-- The source file it describes, when it was reached through a unit. -/
  file : Option Path
  reader : RecordReader

namespace Engine

def openRecord (e : Engine) (name : String) (file : Option Path) :
    Access (Except Fault OpenRecord) := do
  if hasNul name then pure (.error (.recordOpen name "record name contains a NUL byte"))
  else match ← e.createRecord name with
    | .ok (handle, reader) => pure (.ok ⟨name, handle, file, reader⟩)
    | .error message => pure (.error (.recordOpen name message))

end Engine

namespace OpenRecord

def close (e : Engine) (r : OpenRecord) : Access Unit := e.disposeRecord r.handle

def describe (r : OpenRecord) : String :=
  Text.describeRecord "Record"
    [("name", Text.quote r.name),
     ("file_path", Text.describeOption (r.file.map fun p => Text.quote p.text))]

def symbols (e : Engine) (r : OpenRecord) : Lending Symbol := ⟨e.conduct, r.reader.symbols⟩

/-- The record's occurrences, or those on `count` lines from `start` on. -/
def occurrences (e : Engine) (r : OpenRecord) (lines : Option (UInt32 × UInt32)) :
    Lending Occurrence :=
  ⟨e.conduct, match lines with
    | none => r.reader.occurrences
    | some (start, count) => r.reader.inLines start count⟩

end OpenRecord

def Occurrence.lendRelations (e : Engine) (o : Occurrence) : Lending Relation :=
  ⟨e.conduct, o.relations⟩

def Symbol.describe (s : Symbol) : String :=
  Text.describeRecord "Symbol"
    [("name", Text.quote (Utf8.lossy s.name)), ("usr", Text.quote (Utf8.lossy s.usr)),
     ("kind", s.kind.describe)]

def Occurrence.describe (o : Occurrence) : String :=
  Text.describeRecord "Occurrence"
    [("symbol", Text.quote (Utf8.lossy o.symbol.name)), ("roles", o.roles.describe),
     ("line", toString o.line), ("column", toString o.column)]

def Relation.describe (r : Relation) : String :=
  Text.describeRecord "SymbolRelation"
    [("roles", r.roles.describe), ("symbol", Text.quote (Utf8.lossy r.symbol.name))]

end CodeIndex
