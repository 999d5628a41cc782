import CodeIndex.Store.Basic
/-!
# Units of a store

A unit is opened by name, and so is the unit that an enumeration names. A name with a zero octet in
it never reaches the engine. The unit that wrote an output file is found without opening it.
-/
namespace CodeIndex

structure OpenUnit where
  name : String
  handle : Handle
  reader : UnitReader
  deriving DecidableEq, Repr

namespace Engine

def openUnit (e : Engine) (name : String) : Access (Except Fault OpenUnit) := do
  if hasNul name then pure (.error (.unitOpen name "unit name contains a NUL byte"))
  else match ← e.createUnit name with
    | .ok (handle, reader) => pure (.ok ⟨name, handle, reader⟩)
    | .error message => pure (.error (.unitOpen name message))

/-- Opens the unit of an enumerated name. -/
def openNamedUnit (e : Engine) (name : Except Fault String) : Access (Except Fault OpenUnit) := do
  match name with
  | .error fault => pure (.error fault)
  | .ok name => e.openUnit name

/-- When a unit was written, without opening it. -/
def unitInstant (e : Engine) (name : String) : Access (Except Fault Instant) := do
  if hasNul name then pure (.error (.engine s!"unit name {Text.quote name} contains NUL"))
  else match ← e.unitTime name with
    | .ok time => pure (.ok time.toInstant)
    | .error message => pure (.error (.engine message))

/-- The unit that wrote an output file, if the store has it. -/
def unitForOutput (e : Engine) (path : Path) : Access (Except Fault (Option String)) := do
  if hasNul path.text then pure (.error (.store (.invalidPath path)))
  else
    let octets := e.unitNameFor path.text
    if octets.isEmpty then pure (.ok none)
    else match Utf8.decode octets with
      | .error fault => pure (.error (.malformed (.invalidUtf8 fault)))
      | .ok name => match ← e.unitInstant name with
        | .ok _ => pure (.ok (some name))
        | .error _ => pure (.ok none)

end Engine

namespace OpenUnit

def close (e : Engine) (u : OpenUnit) : Access Unit := e.disposeUnit u.handle

def describe (u : OpenUnit) : String :=
  Text.describeRecord "Unit"
    [("name", Text.quote u.name),
     ("main_file", Text.quote (Utf8.lossy u.reader.mainFile)),
     ("output_file", Text.quote (Utf8.lossy u.reader.outputFile))]

def written (u : OpenUnit) : Instant := u.reader.modified.toInstant

def includes (e : Engine) (u : OpenUnit) : Lending Include := ⟨e.conduct, u.reader.includes⟩

def dependencies (e : Engine) (u : OpenUnit) : Lending Dependency :=
  ⟨e.conduct, u.reader.dependencies⟩

/-- The names of the units it depends on. -/
def dependencyUnitNames (e : Engine) (u : OpenUnit) : Access (List String) := do
  let dependencies ← (u.dependencies e).toList
  pure ((dependencies.filter (·.kind == .unit)).map fun d => Utf8.lossy d.name)

end OpenUnit

/-- The line of a directive, if it is one: from 1 on and within 32 bits. -/
def Include.checkedLine (i : Include) : Except Malformation Nat :=
  if 1 ≤ i.line ∧ i.line < UInt32.size then .ok i.line.toNat
  else .error (.invalidLine (Utf8.lossy i.source) i.line)

def Include.describe (i : Include) : String :=
  Text.describeRecord "UnitInclude"
    [("source_path", Text.quote (Utf8.lossy i.source)), ("line", toString i.line),
     ("target_path", Text.quote (Utf8.lossy i.target))]

end CodeIndex
