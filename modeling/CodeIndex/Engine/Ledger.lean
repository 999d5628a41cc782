import CodeIndex.Bytes
/-!
# The ledger of an engine

An engine in memory counts what it has handed out and not got back. A native library makes objects,
and each of them is to be given back to it once. The ledger holds the counters of the one and the
objects of the other, and how often visitors were called. Work on an engine is a computation over
this ledger.
-/
namespace CodeIndex

/-- What an engine hands out goes by a handle; zero stands for nothing. -/
abbrev Handle := Nat

structure Counters where
  stores : Nat := 0
  units : Nat := 0
  records : Nat := 0
  /-- The most units that were open at one moment. -/
  peakUnits : Nat := 0
  /-- How often something came back when nothing of its kind was out. -/
  misses : Nat := 0
  deriving DecidableEq, Repr, Inhabited

namespace Counters

/-- One miss if nothing is out. -/
def missing (out : Nat) : Nat := if out = 0 then 1 else 0

def openStore (c : Counters) : Counters := { c with stores := c.stores + 1 }

/-- A store comes back; the count stays at zero. -/
def closeStore (c : Counters) : Counters :=
  { c with stores := c.stores - 1, misses := c.misses + missing c.stores }

def openUnit (c : Counters) : Counters :=
  { c with units := c.units + 1, peakUnits := max c.peakUnits (c.units + 1) }

def closeUnit (c : Counters) : Counters :=
  { c with units := c.units - 1, misses := c.misses + missing c.units }

def openRecord (c : Counters) : Counters := { c with records := c.records + 1 }

def closeRecord (c : Counters) : Counters :=
  { c with records := c.records - 1, misses := c.misses + missing c.records }

end Counters

/-- What can be handed out; errors only by a native library. -/
inductive ResourceKind where
  | store
  | unit
  | record
  | error
  deriving DecidableEq, Repr

structure Resource where
  kind : ResourceKind
  handle : Handle
  deriving DecidableEq, Repr

def countKind (kind : ResourceKind) (resources : List Resource) : Nat :=
  resources.countP (·.kind == kind)

@[simp] theorem countKind_nil (kind : ResourceKind) : countKind kind [] = 0 := rfl

theorem countKind_cons (kind : ResourceKind) (r : Resource) (resources : List Resource) :
    countKind kind (r :: resources) =
      countKind kind resources + if r.kind = kind then 1 else 0 := by
  simp [countKind, List.countP_cons]

theorem countKind_perm (kind : ResourceKind) {resources resources' : List Resource}
    (h : resources.Perm resources') : countKind kind resources = countKind kind resources' :=
  h.countP_eq _

structure Objects where
  /-- All that were made, the latest in front. -/
  made : List Resource := []
  /-- All that were given back, the latest in front. -/
  disposed : List Resource := []
  /-- What the error objects have to say; a description may be missing. -/
  descriptions : List (Handle × Option Bytes) := []
  deriving DecidableEq, Repr, Inhabited

namespace Objects

/-- The objects that were not given back. -/
def out (o : Objects) : List Resource := o.made.filter fun object => object ∉ o.disposed

def countOut (o : Objects) (kind : ResourceKind) : Nat := countKind kind o.out

def next (o : Objects) : Handle := o.made.length + 1

def make (o : Objects) (kind : ResourceKind) : Objects :=
  { o with made := ⟨kind, o.next⟩ :: o.made }

def makeError (o : Objects) (description : Option Bytes) : Objects :=
  { o.make .error with descriptions := (o.next, description) :: o.descriptions }

def dispose (o : Objects) (object : Resource) : Objects :=
  { o with disposed := object :: o.disposed }

def description (o : Objects) (error : Handle) : Option Bytes := (o.descriptions.lookup error).join

end Objects

/-- What an engine has handed out. -/
structure Ledger where
  counters : Counters := {}
  objects : Objects := {}
  /-- Items handed to visitors. -/
  callbacks : Nat := 0
  deriving DecidableEq, Repr, Inhabited

namespace Ledger

def stores (l : Ledger) : Nat := l.counters.stores + l.objects.countOut .store

def units (l : Ledger) : Nat := l.counters.units + l.objects.countOut .unit

def records (l : Ledger) : Nat := l.counters.records + l.objects.countOut .record

def total (l : Ledger) : Nat := l.stores + l.units + l.records

/-- The most units that an engine in memory had out at one moment. -/
def peakUnits (l : Ledger) : Nat := l.counters.peakUnits

def errorsHeld (l : Ledger) : Nat := l.objects.countOut .error

def lend (l : Ledger) : Ledger := { l with callbacks := l.callbacks + 1 }

end Ledger

section Work

variable {σ α β : Type}

@[simp] theorem pure_apply (a : α) (s : σ) : (pure a : StateM σ α) s = (a, s) := rfl

@[simp] theorem bind_apply (x : StateM σ α) (f : α → StateM σ β) (s : σ) :
    (x >>= f) s = f (x s).1 (x s).2 := rfl

@[simp] theorem map_apply (f : α → β) (x : StateM σ α) (s : σ) :
    (f <$> x) s = (f (x s).1, (x s).2) := rfl

@[simp] theorem get_apply (s : σ) : (get : StateM σ σ) s = (s, s) := rfl

@[simp] theorem modify_apply (f : σ → σ) (s : σ) : (modify f : StateM σ PUnit) s = (⟨⟩, f s) := rfl

end Work

abbrev Access := StateM Ledger

namespace Access

def note (change : Ledger → Ledger) : Access Unit := modify change

def count (change : Counters → Counters) : Access Unit :=
  note fun l => { l with counters := change l.counters }

def keep (change : Objects → Objects) : Access Unit :=
  note fun l => { l with objects := change l.objects }

@[simp] theorem note_apply (change : Ledger → Ledger) (l : Ledger) :
    note change l = (⟨⟩, change l) := rfl

@[simp] theorem count_apply (change : Counters → Counters) (l : Ledger) :
    count change l = (⟨⟩, { l with counters := change l.counters }) := rfl

@[simp] theorem keep_apply (change : Objects → Objects) (l : Ledger) :
    keep change l = (⟨⟩, { l with objects := change l.objects }) := rfl

end Access

end CodeIndex
