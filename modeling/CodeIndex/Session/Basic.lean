import CodeIndex.Session.Slots
import CodeIndex.Store.Cursor
/-!
# Sessions

A session holds what is open under names of its own: stores, units, records and cursors. Each thing
remembers what it was got through, and is closed before that is. Opening something under a name in
use closes what had the name.
-/
namespace CodeIndex

structure HeldStore where
  store : Store
  shared : Bool
  deriving DecidableEq, Repr

/-- What a record was got through. -/
inductive Origin where
  | store (slot : String)
  | unit (slot : String)
  deriving DecidableEq, Repr

structure HeldUnit where
  unit : OpenUnit
  store : String

structure HeldRecord where
  record : OpenRecord
  origin : Origin

structure HeldUnitCursor where
  cursor : UnitCursor
  store : String

structure HeldRecordCursor where
  cursor : RecordCursor
  unit : String

structure Session where
  library : Library
  files : Library.Files
  ledger : Ledger := {}
  stores : Slots HeldStore := []
  units : Slots HeldUnit := []
  records : Slots HeldRecord := []
  unitCursors : Slots HeldUnitCursor := []
  recordCursors : Slots HeldRecordCursor := []
  /-- Whether the most units open at one moment is known: several threads make it uncertain. -/
  peakKnown : Bool := true

inductive SessionFault where
  /-- Nothing has the name. -/
  | noSlot
  | alreadyShared
  | store (fault : StoreFault)
  | query (fault : Fault)
  deriving DecidableEq, Repr

abbrev SessionM := StateM Session

namespace Session

def access {α : Type} (work : Access α) : SessionM α := fun s =>
  let (value, ledger) := work s.ledger
  (value, { s with ledger })

def engine : SessionM Engine := return (← get).library.engine

def closeEach {α : Type} (close : α → Access Unit) : List α → Access Unit
  | [] => pure ()
  | opened :: rest => do
    close opened
    closeEach close rest

def closeRecords (gone : HeldRecord → Bool) : SessionM Unit := do
  let e ← engine
  access (closeEach (fun entry => entry.2.record.close e)
    ((← get).records.filter fun entry => gone entry.2))
  modify fun s => { s with records := s.records.without gone }

/-- Closes what was got through a unit. -/
def closeDependentsOfUnit (slot : String) : SessionM Unit := do
  closeRecords (·.origin == .unit slot)
  modify fun s => { s with recordCursors := s.recordCursors.without (·.unit == slot) }

/-- Closes a unit with what was got through it; whether there was one. -/
def closeUnit (slot : String) : SessionM Bool := do
  match (← get).units.get? slot with
  | some held =>
    closeDependentsOfUnit slot
    access (held.unit.close (← engine))
    modify fun s => { s with units := s.units.erase slot }
    pure true
  | none => pure false

def closeRecord (slot : String) : SessionM Bool := do
  match (← get).records.get? slot with
  | some held =>
    access (held.record.close (← engine))
    modify fun s => { s with records := s.records.erase slot }
    pure true
  | none => pure false

def closeUnits : List String → SessionM Unit
  | [] => pure ()
  | slot :: rest => do
    let _ ← closeUnit slot
    closeUnits rest

/-- The slots of the units that were got through a store. -/
def unitsOf (units : Slots HeldUnit) (store : String) : List String :=
  (units.filter fun entry => entry.2.store == store).map Prod.fst

def closeDependentsOfStore (slot : String) : SessionM Unit := do
  closeUnits (unitsOf (← get).units slot)
  closeRecords (·.origin == .store slot)
  modify fun s => { s with unitCursors := s.unitCursors.without (·.store == slot) }

/-- Closes a store with what was got through it; whether there was one. -/
def closeStore (slot : String) : SessionM Bool := do
  match (← get).stores.get? slot with
  | some held =>
    closeDependentsOfStore slot
    access (held.store.close (← engine))
    modify fun s => { s with stores := s.stores.erase slot }
    pure true
  | none => pure false

/-- Opens a store under a name; what had the name is closed first. -/
def openStore (slot : String) (path : Path) : SessionM (Except SessionFault Store) := do
  let _ ← closeStore slot
  let s ← get
  match ← access (Store.openAt s.library s.files path) with
  | .error fault => pure (.error (.store fault))
  | .ok store =>
    modify fun s => { s with stores := s.stores.put slot ⟨store, false⟩ }
    pure (.ok store)

/-- Walks the units once for each of several threads. -/
def walkThreads (e : Engine) : (threads : Nat) → Access (List (Nat × Nat))
  | 0 => pure []
  | threads + 1 => do
    let counts ← e.walkUnits
    return counts :: (← walkThreads e threads)

/-- Shares a store between threads that each walk its units. What was got through the store is
closed first; a store that cannot be shared, or is shared already, is closed. -/
def share (slot : String) (threads : Nat) :
    SessionM (Except SessionFault (Store × List (Nat × Nat))) := do
  match (← get).stores.get? slot with
  | none => pure (.error .noSlot)
  | some held =>
    closeDependentsOfStore slot
    if held.shared then
      let _ ← closeStore slot
      pure (.error .alreadyShared)
    else if !(← get).library.concurrentReads then
      let _ ← closeStore slot
      pure (.error (.store .notShareable))
    else
      modify fun s => { s with
        stores := s.stores.put slot ⟨held.store, true⟩
        peakKnown := s.peakKnown && threads ≤ 1 }
      let counts ← access (walkThreads (← engine) threads)
      pure (.ok (held.store, counts))

/-- Works on the engine if a store is open under a name. -/
def withStore (slot : String) {α : Type} (work : Engine → Access α) :
    SessionM (Except SessionFault α) := do
  match (← get).stores.get? slot with
  | none => pure (.error .noSlot)
  | some _ => return .ok (← access (work (← engine)))

def withUnit (slot : String) {α : Type} (work : Engine → OpenUnit → Access α) :
    SessionM (Except SessionFault α) := do
  match (← get).units.get? slot with
  | none => pure (.error .noSlot)
  | some held => return .ok (← access (work (← engine) held.unit))

def withRecord (slot : String) {α : Type} (work : Engine → OpenRecord → Access α) :
    SessionM (Except SessionFault α) := do
  match (← get).records.get? slot with
  | none => pure (.error .noSlot)
  | some held => return .ok (← access (work (← engine) held.record))

end Session

end CodeIndex
