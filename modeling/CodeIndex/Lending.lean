import CodeIndex.Engine.Basic
/-!
# Lending sequences

A sequence of items that an engine lends to a visitor one at a time. Each item lent is noted in the
ledger before the visitor sees it. Whatever a visitor does, it does it between two items of one
enumeration; `heedsStop` of the engine decides whether its first or its last stop counts.
-/
namespace CodeIndex

/-- Items an engine lends in order. -/
structure Lending (α : Type) where
  conduct : Conduct
  items : List α

namespace Lending

variable {α β ε : Type} {m : Type → Type} [Monad m] [MonadLiftT Access m]

/-- Notes an item and shows it to a visitor. -/
def lend (visit : α → m β) (item : α) : m β := do
  liftM (Access.note Ledger.lend)
  visit item

/-- Shows the items to a visitor that may stop with a value or raise; a value that a later stop
replaces is discarded. -/
def visitDiscarding (l : Lending α) (discard : β → m Unit) (visit : α → m (Reply ε β)) :
    m (Except ε (Option β)) :=
  drive l.conduct discard l.items (lend visit)

def visit (l : Lending α) (visitor : α → m (Reply ε β)) : m (Except ε (Option β)) :=
  l.visitDiscarding (fun _ => pure ⟨⟩) visitor

/-- Shows the items to a visitor until it gives a value; values that later ones replace are
discarded. -/
def findDiscarding (l : Lending α) (discard : β → m Unit) (f : α → m (Option β)) :
    m (Option β) := do
  let result ← l.visitDiscarding (ε := Empty) discard fun item => do
    match ← f item with
    | none => pure .goOn
    | some value => pure (.stop value)
  match result with
  | .ok outcome => pure outcome

def findMap (l : Lending α) (f : α → m (Option β)) : m (Option β) :=
  l.findDiscarding (fun _ => pure ⟨⟩) f

def forEach (l : Lending α) (f : α → m Unit) : m Unit := do
  let _ ← l.findMap (β := Unit) fun item => do f item; pure none
  pure ⟨⟩

end Lending

namespace Lending

variable {α β : Type}

def mapCollect (l : Lending α) (f : α → Access β) : Access (List β) := do
  let (_, collected) ← (l.forEach (m := StateT (List β) Access) fun item => do
    let image ← (f item : Access β)
    modify (image :: ·)).run []
  pure collected.reverse

def toList (l : Lending α) : Access (List α) := l.mapCollect pure

def count (l : Lending α) : Access Nat := do
  let (_, n) ← (l.forEach (m := StateT Nat Access) fun _ => modify (· + 1)).run 0
  pure n

/-- Whether there is no item; the first one decides. -/
def isEmpty (l : Lending α) : Access Bool := do
  pure (← l.findMap fun _ => pure (some ⟨⟩) : Option Unit).isNone

end Lending

end CodeIndex
