/-!
# Traversals

An engine enumerates by calling an applier once for each item; the applier answers whether to go
on. An engine is free in what it does with the answer, so a traversal is the tree of its moves. An
applier may also raise. Plain traversals are left at once then. Shielded ones never see it: every
later call is answered "stop" without reaching the applier, and what was raised is raised again
when the traversal has returned.

`drive` turns a visitor that may stop with a value into an applier. A traversal that goes on after
a stop lets a later stop replace the value.
-/
namespace CodeIndex

variable {α β ε : Type} {m : Type → Type}

/-- The moves of an enumeration. -/
inductive Traversal (α : Type) where
  /-- It returns. -/
  | done (finished : Bool)
  /-- It calls with an item and goes on by the answer. -/
  | offer (item : α) (next : Bool → Traversal α)

namespace Traversal

/-- Offers each item in turn, and ends early on a stop if it heeds answers. -/
def each (heeds : Bool) : List α → Traversal α
  | [] => .done true
  | item :: rest => .offer item fun goOn => if goOn || !heeds then each heeds rest else .done false

/-- Runs a traversal with an applier that never raises. -/
def answer [Monad m] (apply : α → m Bool) : Traversal α → m Bool
  | .done finished => pure finished
  | .offer item next => do answer apply (next (← apply item))

/-- Runs a traversal; what the applier raises leaves it at once. -/
def run [Monad m] (apply : α → m (Except ε Bool)) : Traversal α → m (Except ε Bool)
  | .done finished => pure (.ok finished)
  | .offer item next => do
    match ← apply item with
    | .ok goOn => run apply (next goOn)
    | .error payload => pure (.error payload)

/-- The applier of a shielded traversal: it keeps what was raised and answers "stop" from then
on. -/
def shield [Monad m] (apply : α → m (Except ε Bool)) (item : α) : StateT (Option ε) m Bool := do
  match ← get with
  | some _ => pure false
  | none =>
    match ← (apply item : m (Except ε Bool)) with
    | .ok goOn => pure goOn
    | .error payload => set (some payload); pure false

def runShielded [Monad m] (apply : α → m (Except ε Bool)) (t : Traversal α) :
    m (Except ε Bool) := do
  let (finished, raised) ← (t.answer (shield apply)).run none
  match raised with
  | some payload => pure (.error payload)
  | none => pure (.ok finished)

end Traversal

structure Conduct where
  /-- Whether enumerations end when told to stop. -/
  heedsStop : Bool
  /-- Whether enumerations are shielded from what appliers raise. -/
  shielded : Bool
  deriving DecidableEq, Repr

inductive Reply (ε β : Type) where
  | goOn
  | stop (value : β)
  | raise (payload : ε)

/-- The applier of a visitor: it keeps the value of the last stop and discards the one before. -/
def applier [Monad m] (discard : β → m Unit) (visit : α → m (Reply ε β)) (item : α) :
    StateT (Option β) m (Except ε Bool) := do
  match ← (visit item : m (Reply ε β)) with
  | .goOn => pure (.ok true)
  | .stop value =>
    match ← get with
    | some earlier => (discard earlier : m Unit)
    | none => pure ⟨⟩
    set (some value)
    pure (.ok false)
  | .raise payload => pure (.error payload)

/-- Shows every item of an enumeration to a visitor until it stops. -/
def drive [Monad m] (conduct : Conduct) (discard : β → m Unit) (items : List α)
    (visit : α → m (Reply ε β)) : m (Except ε (Option β)) := do
  let moves := Traversal.each conduct.heedsStop items
  let apply := applier discard visit
  let (result, outcome) ← (if conduct.shielded then moves.runShielded apply
    else moves.run apply).run none
  pure (result.map fun _ => outcome)

end CodeIndex
