import CodeIndex.Store.Cursor
/-!
# Partial walks

Walks over a sequence that stop, search or raise at a chosen item, with the number of times the
visitor was called.
-/
namespace CodeIndex

namespace Lending

variable {α : Type}

/-- Stops with its key at every item from the `first`-th on. -/
def stopFrom (l : Lending α) (key : α → Bytes) (first : Nat) : Access (Option Bytes × Nat) :=
  (l.findMap (m := StateT Nat Access) fun item => do
    let ordinal := (← get) + 1
    set ordinal
    pure (if first ≤ ordinal then some (key item) else none)).run 0

/-- Stops at an item whose key ends with a text; a key that is no text counts as empty. -/
def findSuffix (l : Lending α) (key : α → Bytes) (suffix : String) :
    Access (Option Bytes × Nat) :=
  (l.findMap (m := StateT Nat Access) fun item => do
    modify (· + 1)
    let octets := if (Utf8.decode (key item)).isOk then key item else []
    pure (if (Utf8.encode suffix).isSuffixOf octets then some (key item) else none)).run 0

/-- Raises at the `ordinal`-th call; what was raised, if that call came. -/
def raiseAt (l : Lending α) (ordinal : Nat) : Access (Option String × Nat) := do
  let (result, calls) ← (l.visit (m := StateT Nat Access) (β := Unit) fun _ => do
    let calls := (← get) + 1
    set calls
    pure (if calls = ordinal then .raise s!"visitor failed at {calls}" else .goOn)).run 0
  match result with
  | .ok _ => pure (none, calls)
  | .error payload => pure (some payload, calls)

end Lending

/-- Which of the readers opened inside an enumeration are kept. -/
inductive Selection where
  /-- None. -/
  | none
  /-- The one at each ordinal from this one on, which stops the enumeration. -/
  | fromOrdinal (first : Nat)
  /-- The first whose name begins like this, which stops the enumeration. -/
  | named (beginning : String)
  deriving DecidableEq, Repr

/-- Whether a reader is kept: nothing to go on, else whether there is one to keep. -/
def Selection.pick {α : Type} (s : Selection) (ordinal : Nat) (name : α → String)
    (outcome : Except Fault α) : Option (Option α) :=
  match s, outcome with
  | .none, _ => Option.none
  | .fromOrdinal first, outcome => if first ≤ ordinal then some outcome.toOption else Option.none
  | .named beginning, .ok opened =>
    if beginning.toList.isPrefixOf (name opened).toList then some (some opened) else Option.none
  | .named _, .error _ => Option.none

/-- What a visitor of readers has seen, the last outcome in front. -/
abbrev Seen (α : Type) := StateT (List α) Access

/-- Shows readers to a visitor that keeps what is selected and closes the rest. -/
def selecting {α γ : Type} (s : Selection) (label : α → γ) (name : α → String)
    (close : α → Access Unit) (outcome : Except Fault α) :
    Seen (Except Fault γ) (Option (Option α)) := do
  modify (outcome.map label :: ·)
  match s.pick (← get).length name outcome with
  | some kept => pure (some kept)
  | Option.none =>
    if let .ok opened := outcome then (close opened : Access Unit)
    pure Option.none

/-- Closes a reader that was kept and is replaced. -/
def discarding {α : Type} (close : α → Access Unit) (kept : Option α) : Access Unit := do
  if let some opened := kept then close opened

/-- Opens the units inside their enumeration; the labels seen, and the unit kept. -/
def Engine.selectUnit (e : Engine) (sorted : Bool) (s : Selection) :
    Access (List (Except Fault String) × Option OpenUnit) := do
  let (kept, seen) ← (e.findUnit sorted (m := Seen (Except Fault String))
    (fun kept => (discarding (OpenUnit.close e) kept : Access Unit))
    (selecting s OpenUnit.name OpenUnit.name (OpenUnit.close e))).run []
  pure (seen.reverse, kept.join)

/-- The name of a record and the file it describes. -/
def OpenRecord.label (r : OpenRecord) : String × Option Path := (r.name, r.file)

def OpenUnit.selectRecord (e : Engine) (u : OpenUnit) (s : Selection) :
    Access (List (Except Fault (String × Option Path)) × Option OpenRecord) := do
  let (kept, seen) ← (u.findRecord e (m := Seen (Except Fault (String × Option Path)))
    (fun kept => (discarding (OpenRecord.close e) kept : Access Unit))
    (selecting s OpenRecord.label OpenRecord.name (OpenRecord.close e))).run []
  pure (seen.reverse, kept.join)

end CodeIndex
