import CodeIndex.Store.Unit
import CodeIndex.Store.Record
/-!
# Cursors

Units and records can be pulled one at a time. A cursor gathers all names at its first pull; each
pull then opens the one reader it gives. Once the names are used up every pull gives nothing.

The push form opens each reader inside the enumeration and shows the outcome to a visitor.
-/
namespace CodeIndex

/-- A pull cursor over the units of a store. -/
structure UnitCursor where
  sorted : Bool
  /-- The names still to open, once they are gathered. -/
  pending : Option (List (Except Fault String)) := none

namespace UnitCursor

/-- The names still to open, gathered at the first call. -/
def gather (e : Engine) (c : UnitCursor) : Access (List (Except Fault String)) :=
  match c.pending with
  | some names => pure names
  | none => (e.names c.sorted).mapCollect fun octets => pure (Engine.readName octets)

/-- The outcome for the next name, and the cursor after it. -/
def next (e : Engine) (c : UnitCursor) : Access (Option (Except Fault OpenUnit) × UnitCursor) := do
  match ← c.gather e with
  | [] => pure (none, { c with pending := some [] })
  | name :: rest => pure (some (← e.openNamedUnit name), { c with pending := some rest })

/-- The outcomes for at most `limit` names, all units left open. -/
def pull (e : Engine) (c : UnitCursor) : (limit : Nat) → Access (List (Except Fault OpenUnit))
  | 0 => pure []
  | limit + 1 => do
    let (outcome, c) ← c.next e
    match outcome with
    | none => pure []
    | some outcome => return outcome :: (← c.pull e limit)

end UnitCursor

/-- Opens and closes the unit of each name in turn; how many names there are and how many open. -/
def Engine.tryUnits (e : Engine) : List (Except Fault String) → Access (Nat × Nat)
  | [] => pure (0, 0)
  | name :: rest => do
    let outcome ← e.openNamedUnit name
    if let .ok unit := outcome then unit.close e
    let (items, opened) ← e.tryUnits rest
    pure (items + 1, opened + if outcome.isOk then 1 else 0)

def Engine.walkUnits (e : Engine) : Access (Nat × Nat) := do
  e.tryUnits (← (UnitCursor.mk false none).gather e)

/-- Opens each unit inside the enumeration of the names and shows the outcome to a visitor until it
gives a value. -/
def Engine.findUnit (e : Engine) (sorted : Bool) {m : Type → Type} [Monad m] [MonadLiftT Access m]
    {β : Type} (discard : β → m Unit) (visit : Except Fault OpenUnit → m (Option β)) :
    m (Option β) :=
  (e.names sorted).findDiscarding discard fun octets => do
    visit (← liftM (e.openNamedUnit (Engine.readName octets)))

/-- A record to be opened, with the source file it describes. -/
abbrev RecordName := String × Path

structure RecordCursor where
  unit : OpenUnit
  /-- The records still to open, once they are gathered. -/
  pending : Option (List RecordName) := none

/-- The record a dependency is on; names that are not text are passed over. -/
def Dependency.recordName? (d : Dependency) : Option RecordName :=
  if d.kind == .record then
    (Utf8.decode d.name).toOption.map fun name => (name, ⟨Utf8.lossy d.file⟩)
  else none

namespace RecordCursor

/-- The records still to open, gathered at the first call. -/
def gather (e : Engine) (c : RecordCursor) : Access (List RecordName) :=
  match c.pending with
  | some names => pure names
  | none => do
    let dependencies ← (c.unit.dependencies e).toList
    pure (dependencies.filterMap Dependency.recordName?)

def next (e : Engine) (c : RecordCursor) :
    Access (Option (Except Fault OpenRecord) × RecordCursor) := do
  match ← c.gather e with
  | [] => pure (none, { c with pending := some [] })
  | (name, file) :: rest =>
    pure (some (← e.openRecord name (some file)), { c with pending := some rest })

def pull (e : Engine) (c : RecordCursor) : (limit : Nat) → Access (List (Except Fault OpenRecord))
  | 0 => pure []
  | limit + 1 => do
    let (outcome, c) ← c.next e
    match outcome with
    | none => pure []
    | some outcome => return outcome :: (← c.pull e limit)

end RecordCursor

def Engine.openDependency (e : Engine) (d : Dependency) : Access (Except Fault OpenRecord) := do
  match Engine.readName d.name with
  | .error fault => pure (.error fault)
  | .ok name => e.openRecord name (some ⟨Utf8.lossy d.file⟩)

/-- Opens each record inside the enumeration of the dependencies and shows the outcome to a visitor
until it gives a value. -/
def OpenUnit.findRecord (e : Engine) (u : OpenUnit) {m : Type → Type} [Monad m]
    [MonadLiftT Access m] {β : Type} (discard : β → m Unit)
    (visit : Except Fault OpenRecord → m (Option β)) : m (Option β) :=
  (u.dependencies e).findDiscarding discard fun d => do
    if d.kind == .record then visit (← liftM (e.openDependency d)) else pure none

end CodeIndex
