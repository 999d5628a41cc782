import CodeIndex.Engine.Tables
import CodeIndex.Proofs.Traversals
import CodeIndex.Store.Record
import CodeIndex.Store.Snapshot
import CodeIndex.Store.Unit
/-!
# Calls of a visitor

A lending sequence shows the items of a list to a visitor that has a state of its own. What a visit
comes to is told here by that list alone: which items the visitor was called on, what it was left
with, what the visit gives, and how many items the ledger has noted. An engine that ends an
enumeration when told to stops behind the first item the visitor stops at. One that does not goes
through all items, and the last stop counts.
-/
namespace CodeIndex

def Reply.value? {β : Type} : Reply Empty β → Option β
  | .goOn => none
  | .stop value => some value
  | .raise payload => nomatch payload

structure VisitorCall (α β : Type) where
  item : α
  /-- The value the visitor stopped with, if it did. -/
  stop : Option β
  /-- What the visitor itself added to the count of items lent, by traversals of its own. -/
  nested : Int

section Calls

variable {σ α β : Type}

/-- What some calls have added of their own. -/
def nestedIn : List (VisitorCall α β) → Int
  | [] => 0
  | call :: rest => call.nested + nestedIn rest

/-- The calls of a visitor that is given some items one after the other, whatever it says to them.
Each item is noted before the call, and each call finds the state that the one before has left. -/
def callsOn (visitor : α → StateT σ Access (Reply Empty β)) :
    σ → Ledger → List α → List (VisitorCall α β)
  | _, _, [] => []
  | s, l, item :: rest =>
    let after := (visitor item).run s l.lend
    ⟨item, after.1.1.value?, after.2.callbacks - l.lend.callbacks⟩ ::
      callsOn visitor after.1.2 after.2 rest

def leftBy (visitor : α → StateT σ Access (Reply Empty β)) : σ → Ledger → List α → σ × Ledger
  | s, l, [] => (s, l)
  | s, l, item :: rest =>
    let after := (visitor item).run s l.lend
    leftBy visitor after.1.2 after.2 rest

/-- The items up to the first one the visitor stops at, that one included. -/
def upToStop (calls : List (VisitorCall α β)) (items : List α) : List α :=
  items.take (calls.findIdx (·.stop.isSome) + 1)

def firstStop (calls : List (VisitorCall α β)) : Option β := calls.findSome? (·.stop)

def lastStop (calls : List (VisitorCall α β)) : Option β := (calls.filterMap (·.stop)).getLast?

/-- The items that an engine calls the visitor on, which would be called like this on all. -/
def reached (heeds : Bool) (calls : List (VisitorCall α β)) (items : List α) : List α :=
  if heeds then upToStop calls items else items

def decided (heeds : Bool) (calls : List (VisitorCall α β)) : Option β :=
  if heeds then firstStop calls else lastStop calls

variable (visitor : α → StateT σ Access (Reply Empty β)) (s : σ) (l : Ledger)

theorem item_callsOn (items : List α) : (callsOn visitor s l items).map (·.item) = items := by
  induction items generalizing s l with
  | nil => rfl
  | cons item rest ih => rw [callsOn, List.map_cons, ih]

/-- The ledger notes each call once, and what the visitor itself lends besides. -/
theorem callbacks_leftBy (items : List α) :
    ((leftBy visitor s l items).2.callbacks : Int) =
      l.callbacks + items.length + nestedIn (callsOn visitor s l items) := by
  induction items generalizing s l with
  | nil => simp [leftBy, callsOn, nestedIn]
  | cons item rest ih =>
    have noted : (l.lend.callbacks : Int) = l.callbacks + 1 := by simp [Ledger.lend]
    rw [leftBy, callsOn, ih, nestedIn, List.length_cons]
    dsimp only
    omega

/-- The loop of an engine, where `kept` is what it kept so far. -/
theorem walk_lend (heeds : Bool) (kept : Option β) (items : List α) :
    (walk heeds (fun _ => pure ⟨⟩) (Lending.lend visitor) kept items).run s l =
      let calls := callsOn visitor s l items
      let left := leftBy visitor s l (reached heeds calls items)
      ((.ok ((decided heeds calls).or kept), left.1), left.2) := by
  induction items generalizing s l kept with
  | nil => cases heeds <;> rfl
  | cons item rest ih =>
    rw [walk, StateT.run_bind, bind_apply, callsOn]
    have lent : (Lending.lend visitor item).run s l = (visitor item).run s l.lend := rfl
    rw [lent]
    rcases call : (visitor item).run s l.lend with ⟨⟨reply, s'⟩, l'⟩
    cases reply with
    | goOn =>
      have on := ih s' l' kept
      cases heeds
      · simpa [reached, decided, lastStop, leftBy, call, Reply.value?] using on
      · simpa [reached, decided, firstStop, upToStop, leftBy, call, Reply.value?,
          List.findIdx_cons] using on
    | stop value =>
      -- What was kept makes way for the new value, by a discard that does nothing.
      have on := ih s' l' (some value)
      cases heeds <;> cases kept
      · simpa [reached, decided, lastStop, leftBy, call, Reply.value?, List.getLast?_cons] using on
      · simpa [reached, decided, lastStop, leftBy, call, Reply.value?, List.getLast?_cons] using on
      · simp [reached, decided, firstStop, upToStop, leftBy, call, Reply.value?, List.findIdx_cons]
      · simp [reached, decided, firstStop, upToStop, leftBy, call, Reply.value?, List.findIdx_cons]
    | raise payload => exact payload.elim

end Calls

namespace Lending

variable {σ α β : Type}

/-- A visitor that may give a value, as one that may stop with it. -/
def asking (f : α → StateT σ Access (Option β)) (item : α) : StateT σ Access (Reply Empty β) := do
  match ← f item with
  | none => pure .goOn
  | some value => pure (.stop value)

def passing (f : α → StateT σ Access Unit) (item : α) : StateT σ Access (Reply Empty Unit) :=
  (fun _ => .goOn) <$> f item

/-- A visit goes by the calls on the items. -/
theorem visit_run (l : Lending α) (visitor : α → StateT σ Access (Reply Empty β)) (s : σ)
    (ledger : Ledger) :
    (l.visit visitor).run s ledger =
      let calls := callsOn visitor s ledger l.items
      let left := leftBy visitor s ledger (reached l.conduct.heedsStop calls l.items)
      ((.ok (decided l.conduct.heedsStop calls), left.1), left.2) := by
  rw [visit, visitDiscarding_eq_walk, walk_lend]
  simp

/-- Work that goes on with what other work has come to. -/
theorem run_bind_of {x : StateT σ Access α} {next : α → StateT σ Access β} {a : α} {s s' : σ}
    {ledger ledger' : Ledger} (first : x.run s ledger = ((a, s'), ledger')) :
    (x >>= next).run s ledger = (next a).run s' ledger' := by
  rw [StateT.run_bind, bind_apply, first]

/-- A search is a visit that stops with what is found. -/
theorem findMap_run (l : Lending α) (f : α → StateT σ Access (Option β)) (s : σ)
    (ledger : Ledger) :
    (l.findMap f).run s ledger =
      let calls := callsOn (asking f) s ledger l.items
      let left := leftBy (asking f) s ledger (reached l.conduct.heedsStop calls l.items)
      ((decided l.conduct.heedsStop calls, left.1), left.2) :=
  run_bind_of (l.visit_run (asking f) s ledger)

/-- The plain loop calls the visitor on all items. -/
theorem forEach_run (l : Lending α) (f : α → StateT σ Access Unit) (s : σ) (ledger : Ledger) :
    (l.forEach f).run s ledger =
      let left := leftBy (passing f) s ledger l.items
      (((), left.1), left.2) := by
  rw [forEach_eq_forM]
  induction l.items generalizing s ledger with
  | nil => rfl
  | cons item rest ih =>
    rw [List.forM_cons, StateT.run_bind, bind_apply, leftBy]
    exact ih _ _

theorem count_apply (l : Lending α) (ledger : Ledger) :
    l.count ledger = (l.items.length, ledger.lendMany l.items.length) := by
  have loop (items : List α) (n : Nat) (ledger : Ledger) :
      (forM items (lend fun _ => modify (· + 1) : α → StateT Nat Access Unit)).run n ledger =
        (((), n + items.length), ledger.lendMany items.length) := by
    induction items generalizing n ledger with
    | nil => rfl
    | cons item rest ih =>
      rw [List.forM_cons, StateT.run_bind, bind_apply]
      refine (ih (n + 1) ledger.lend).trans ?_
      rw [List.length_cons, Ledger.lend_lendMany, Nat.add_right_comm, Nat.add_assoc]
  rw [count, forEach_eq_forM, bind_apply, loop, Nat.zero_add]
  rfl

/-- A visitor that stops at every item is called on one, or on all. -/
theorem walk_stopping (heeds : Bool) (kept : Option Unit) (items : List α) (ledger : Ledger) :
    walk (ε := Empty) (m := Access) heeds (fun _ => pure ⟨⟩)
        (lend fun _ => pure (Reply.stop ())) kept items ledger =
      (Except.ok (if items.isEmpty then kept else some ()), ledger.lendMany
        (if heeds then min items.length 1 else items.length)) := by
  induction items generalizing kept ledger with
  | nil => cases heeds <;> rfl
  | cons item rest ih =>
    have on := ih (some ()) ledger.lend
    rw [Ledger.lend_lendMany] at on
    cases heeds
    · cases kept <;> simpa [walk, lend] using on
    · cases kept <;> simp [walk, lend, Ledger.lend, Ledger.lendMany]

/-- The first item decides, but an engine that goes on lends them all. -/
theorem isEmpty_apply (l : Lending α) (ledger : Ledger) :
    l.isEmpty ledger = (l.items.isEmpty, ledger.lendMany
      (if l.conduct.heedsStop then min l.items.length 1 else l.items.length)) := by
  have found : l.findMap (m := Access) (fun _ => pure (some ())) ledger =
      (if l.items.isEmpty then none else some (), ledger.lendMany
        (if l.conduct.heedsStop then min l.items.length 1 else l.items.length)) := by
    simp only [findMap, findDiscarding, visitDiscarding_eq_walk, pure_bind, bind_apply,
      walk_stopping]
    rfl
  rw [isEmpty, bind_apply, found]
  cases l.items <;> rfl

end Lending

/-- A visitor was called on some items in their order and on no others: it is left as these calls
leave it, and the ledger has noted each of them besides what the visitor added itself. -/
structure CalledOn {σ α β γ : Type} (visitor : α → StateT σ Access (Reply Empty β)) (s : σ)
    (before : Ledger) (items : List α) (outcome : γ) (after : (γ × σ) × Ledger) : Prop where
  outcome : after.1.1 = outcome
  left : (after.1.2, after.2) = leftBy visitor s before items
  called : (callsOn visitor s before items).map (·.item) = items
  noted : (after.2.callbacks : Int) =
    before.callbacks + items.length + nestedIn (callsOn visitor s before items)

theorem CalledOn.of_run {σ α β γ : Type} {visitor : α → StateT σ Access (Reply Empty β)} {s : σ}
    {before : Ledger} {items : List α} {outcome : γ} {after : (γ × σ) × Ledger}
    (h : after = ((outcome, (leftBy visitor s before items).1),
      (leftBy visitor s before items).2)) :
    CalledOn visitor s before items outcome after := by
  subst h
  exact ⟨rfl, rfl, item_callsOn visitor s before items, callbacks_leftBy visitor s before items⟩

/-- What a sequence does, told by the list of its items. The calls that count are the calls the
visitor would get on all items: an engine that heeds stops breaks off behind the first that stops,
another makes them all and keeps the last stop. -/
structure ReadsAsList {α : Type} (heeds : Bool) (items : List α) (l : Lending α) : Prop where
  visit {σ β : Type} (visitor : α → StateT σ Access (Reply Empty β)) (s : σ) (ledger : Ledger) :
    let calls := callsOn visitor s ledger items
    CalledOn visitor s ledger (reached heeds calls items)
      (.ok (decided heeds calls)) ((l.visit visitor).run s ledger)
  findMap {σ β : Type} (f : α → StateT σ Access (Option β)) (s : σ) (ledger : Ledger) :
    let calls := callsOn (Lending.asking f) s ledger items
    CalledOn (Lending.asking f) s ledger (reached heeds calls items)
      (decided heeds calls) ((l.findMap f).run s ledger)
  forEach {σ : Type} (f : α → StateT σ Access Unit) (s : σ) (ledger : Ledger) :
    CalledOn (Lending.passing f) s ledger items () ((l.forEach f).run s ledger)
  mapCollect {β : Type} (f : α → β) (ledger : Ledger) :
    l.mapCollect (fun item => pure (f item)) ledger = (items.map f, ledger.lendMany items.length)
  /-- With images that take work of their own. -/
  mapCollectWork {β : Type} (f : α → Access β) :
    l.mapCollect f = items.mapM fun item => do Access.note Ledger.lend; f item
  count (ledger : Ledger) : l.count ledger = (items.length, ledger.lendMany items.length)
  isEmpty (ledger : Ledger) : l.isEmpty ledger =
    (items.isEmpty, ledger.lendMany (if heeds then min items.length 1 else items.length))

theorem Lending.readsAsList {α : Type} (l : Lending α) :
    ReadsAsList l.conduct.heedsStop l.items l where
  visit visitor s ledger := .of_run (l.visit_run visitor s ledger)
  findMap f s ledger := .of_run (l.findMap_run f s ledger)
  forEach f s ledger := .of_run (l.forEach_run f s ledger)
  mapCollect := l.mapCollect_pure
  mapCollectWork := l.mapCollect_eq_mapM
  count := l.count_apply
  isEmpty := l.isEmpty_apply

theorem Lending.readsAsList_of {α : Type} {l : Lending α} {heeds : Bool} {items : List α}
    (conduct : l.conduct.heedsStop = heeds) (lent : l.items = items) :
    ReadsAsList heeds items l := by
  rw [← conduct, ← lent]
  exact l.readsAsList

/-- Copying occurrences lends the relations of each of them on the way. -/
theorem mapCollect_snapshot (e : Engine) (l : Lending Occurrence) (ledger : Ledger) :
    (l.mapCollect (Occurrence.snapshot e) ledger).2 =
      ledger.lendMany (l.items.length + (l.items.flatMap (·.relations)).length) := by
  rw [Lending.mapCollect_eq_mapM]
  induction l.items generalizing ledger with
  | nil => rfl
  | cons o rest ih =>
    have copied : (Lending.lend (Occurrence.snapshot e) o ledger).2 =
        ledger.lend.lendMany o.relations.length := by
      have lent := (o.lendRelations e).mapCollect_pure Relation.snapshot ledger.lend
      simp only [Lending.lend, Occurrence.snapshot, bind_apply]
      exact congrArg Prod.snd lent
    rw [List.mapM_cons, bind_apply, bind_apply, pure_apply, ih, copied]
    simp only [Ledger.lend, Ledger.lendMany, List.length_cons, List.flatMap_cons,
      List.length_append]
    congr 1
    omega

structure SequencesAsLists (e : Engine) : Prop where
  names (sorted : Bool) : ReadsAsList e.conduct.heedsStop (e.unitNames sorted) (e.names sorted)
  includes (u : OpenUnit) :
    ReadsAsList e.conduct.heedsStop u.reader.includes (u.includes e)
  dependencies (u : OpenUnit) :
    ReadsAsList e.conduct.heedsStop u.reader.dependencies (u.dependencies e)
  symbols (r : OpenRecord) :
    ReadsAsList e.conduct.heedsStop r.reader.symbols (r.symbols e)
  occurrences (r : OpenRecord) :
    ReadsAsList e.conduct.heedsStop r.reader.occurrences (r.occurrences e none)
  lines (r : OpenRecord) (start count : UInt32) :
    ReadsAsList e.conduct.heedsStop (r.reader.inLines start count)
      (r.occurrences e (some (start, count)))
  relations (o : Occurrence) :
    ReadsAsList e.conduct.heedsStop o.relations (o.lendRelations e)
  /-- Copies of occurrences note the occurrences and the relations of each. -/
  copies (r : OpenRecord) (lines : Option (UInt32 × UInt32)) (ledger : Ledger) :
    let items := (r.occurrences e lines).items
    ((r.occurrences e lines).mapCollect (Occurrence.snapshot e) ledger).2.callbacks =
      ledger.callbacks + items.length + (items.flatMap (·.relations)).length

/-- Every sequence of every engine does what its list says. The engine in memory ends enumerations
when told to, and within a range of lines it lends those of the record's occurrences that stand on
one of them. -/
theorem sequences_as_lists :
    (∀ e : Engine, SequencesAsLists e) ∧
    ∀ (t : Tables) (settings : MemorySettings),
      (t.engine settings).conduct.heedsStop = true ∧
      ∀ (handle : Handle) (start count : UInt32),
        (t.recordReader handle).inLines start count =
          (t.recordReader handle).occurrences.filter
            fun o => Tables.inLines start count o.line := by
  refine ⟨fun e => ?_, fun t settings => ⟨rfl, fun handle start count => ?_⟩⟩
  · exact {
      names := fun sorted => (e.names sorted).readsAsList
      includes := fun u => (u.includes e).readsAsList
      dependencies := fun u => (u.dependencies e).readsAsList
      symbols := fun r => (r.symbols e).readsAsList
      occurrences := fun r => (r.occurrences e none).readsAsList
      lines := fun r start count => (r.occurrences e (some (start, count))).readsAsList
      relations := fun o => (o.lendRelations e).readsAsList
      copies := fun r lines ledger => by
        simp [mapCollect_snapshot, Ledger.lendMany, Nat.add_assoc] }
  · exact t.inLines_recordReader handle start count

end CodeIndex
