import CodeIndex.Session.Basic
import CodeIndex.Session.Probe
/-!
# Readers of a session

Units and records are opened into slots, pulled from cursors that stand in slots, or selected inside
an enumeration. A unit closes what its slot held once it is open itself; one that no slot is named
for is closed at once.
-/
namespace CodeIndex

namespace Session

/-- Gives an open unit a name; what had the name is closed. -/
def putUnit (slot store : String) (unit : OpenUnit) : SessionM Unit := do
  let _ ← closeUnit slot
  modify fun s => { s with units := s.units.put slot ⟨unit, store⟩ }

def putRecord (slot : String) (origin : Origin) (record : OpenRecord) : SessionM Unit := do
  let _ ← closeRecord slot
  modify fun s => { s with records := s.records.put slot ⟨record, origin⟩ }

/-- Gives an open unit a name, or closes it for want of one. -/
def keepUnit (slot : Option String) (store : String) (unit : OpenUnit) : SessionM Unit :=
  match slot with
  | some slot => putUnit slot store unit
  | none => do access (unit.close (← engine))

def keepRecord (slot : Option String) (origin : Origin) (record : OpenRecord) : SessionM Unit :=
  match slot with
  | some slot => putRecord slot origin record
  | none => do access (record.close (← engine))

/-- Joins the faults of a session with those of a query. -/
def flatten {α : Type} : Except SessionFault (Except Fault α) → Except SessionFault α
  | .error fault => .error fault
  | .ok (.error fault) => .error (.query fault)
  | .ok (.ok value) => .ok value

def openUnit (store name slot : String) : SessionM (Except SessionFault String) := do
  match flatten (← withStore store fun e => e.openUnit name) with
  | .error fault => pure (.error fault)
  | .ok unit =>
    putUnit slot store unit
    pure (.ok unit.name)

def openRecord (store name slot : String) : SessionM (Except SessionFault String) := do
  match flatten (← withStore store fun e => e.openRecord name none) with
  | .error fault => pure (.error fault)
  | .ok record =>
    putRecord slot (.store store) record
    pure (.ok record.name)

/-- Pulls up to `limit` units, all held together, and closes them; their labels, and the ledger
while they were held. -/
def pullUnits (store : String) (sorted : Bool) (limit : Option Nat) :
    SessionM (Except SessionFault (List (Except Fault String) × Ledger)) :=
  withStore store fun e => do
    let limit := limit.getD ((e.unitNames sorted).length + 1)
    let outcomes ← (UnitCursor.mk sorted none).pull e limit
    let held ← get
    closeEach (OpenUnit.close e) (outcomes.filterMap Except.toOption)
    pure (outcomes.map (·.map OpenUnit.name), held)

def pullRecords (unit : String) (limit : Option Nat) :
    SessionM (Except SessionFault (List (Except Fault (String × Option Path)) × Ledger)) :=
  withUnit unit fun e u => do
    let limit := limit.getD (u.reader.dependencies.length + 1)
    let outcomes ← (RecordCursor.mk u none).pull e limit
    let held ← get
    closeEach (OpenRecord.close e) (outcomes.filterMap Except.toOption)
    pure (outcomes.map (·.map OpenRecord.label), held)

def startUnits (store : String) (sorted : Bool) (slot : String) :
    SessionM (Except SessionFault Unit) := do
  match (← get).stores.get? store with
  | none => pure (.error .noSlot)
  | some _ =>
    modify fun s => { s with unitCursors := s.unitCursors.put slot ⟨⟨sorted, none⟩, store⟩ }
    pure (.ok ())

/-- Pulls the next unit of a cursor, and keeps it under a name or closes it. -/
def nextUnit (slot : String) (keep : Option String) :
    SessionM (Except SessionFault (Option String)) := do
  match (← get).unitCursors.get? slot with
  | none => pure (.error .noSlot)
  | some held =>
    let (outcome, cursor) ← access (held.cursor.next (← engine))
    modify fun s => { s with unitCursors := s.unitCursors.put slot { held with cursor } }
    match outcome with
    | none => pure (.ok none)
    | some (.error fault) => pure (.error (.query fault))
    | some (.ok unit) =>
      keepUnit keep held.store unit
      pure (.ok (some unit.name))

def startRecords (unit slot : String) : SessionM (Except SessionFault Unit) := do
  match (← get).units.get? unit with
  | none => pure (.error .noSlot)
  | some held =>
    modify fun s =>
      { s with recordCursors := s.recordCursors.put slot ⟨⟨held.unit, none⟩, unit⟩ }
    pure (.ok ())

def nextRecord (slot : String) (keep : Option String) :
    SessionM (Except SessionFault (Option (String × Option Path))) := do
  match (← get).recordCursors.get? slot with
  | none => pure (.error .noSlot)
  | some held =>
    let (outcome, cursor) ← access (held.cursor.next (← engine))
    modify fun s => { s with recordCursors := s.recordCursors.put slot { held with cursor } }
    match outcome with
    | none => pure (.ok none)
    | some (.error fault) => pure (.error (.query fault))
    | some (.ok record) =>
      keepRecord keep (.unit held.unit) record
      pure (.ok (some record.label))

/-- Opens units inside their enumeration; the labels seen, and the name of the unit kept. -/
def selectUnit (store : String) (sorted : Bool) (selection : Selection) (keep : Option String) :
    SessionM (Except SessionFault (List (Except Fault String) × Option String)) := do
  match ← withStore store fun e => e.selectUnit sorted selection with
  | .error fault => pure (.error fault)
  | .ok (seen, kept) =>
    if let some unit := kept then keepUnit keep store unit
    pure (.ok (seen, kept.map OpenUnit.name))

def selectRecord (unit : String) (selection : Selection) (keep : Option String) :
    SessionM (Except SessionFault
      (List (Except Fault (String × Option Path)) × Option String)) := do
  match ← withUnit unit fun e u => u.selectRecord e selection with
  | .error fault => pure (.error fault)
  | .ok (seen, kept) =>
    if let some record := kept then keepRecord keep (.unit unit) record
    pure (.ok (seen, kept.map OpenRecord.name))

end Session

end CodeIndex
