import CodeIndex.Store.Cursor
/-!
# Clients

A client works on one library through calls and visits, in any order and for as long as it likes.
What it opens it holds under a key until it drops it, also past the visit it was opened in. A script
is such a client: each next step depends on the answers so far, and the visitor of a visit is a
script again, which may call, visit, drop what it is given or keep it, and stop the visit with some
of what is held. A visitor is told how many items the run has lent so far, so that it may behave
differently at each item.

The journal of a run has a moment for each value opened or dropped and for each step completed.
-/
namespace CodeIndex

abbrev Key := Nat

inductive Value where
  | store (store : Store)
  | unit (unit : OpenUnit)
  | record (record : OpenRecord)

namespace Value

/-- What the engine handed out for a value. -/
def resource : Value → Resource
  | .store s => ⟨.store, s.handle⟩
  | .unit u => ⟨.unit, u.handle⟩
  | .record r => ⟨.record, r.handle⟩

def close (e : Engine) : Value → Access Unit
  | .store s => s.close e
  | .unit u => u.close e
  | .record r => r.close e

end Value

/-- The ledger at a moment, and what is held. -/
structure Moment where
  ledger : Ledger
  held : List Value

def Moment.resources (m : Moment) : List Resource := m.held.map Value.resource

structure Client where
  library : Library
  ledger : Ledger := {}
  /-- The values held, the latest in front. -/
  holdings : List (Key × Value) := []
  /-- How many keys were given out. -/
  issued : Nat := 0
  /-- The moments of the run, the latest in front. -/
  journal : List Moment := []

abbrev ClientM := StateM Client

namespace Client

def now (c : Client) : Moment := ⟨c.ledger, c.holdings.map Prod.snd⟩

def access {α : Type} (work : Access α) : ClientM α := fun c =>
  let (value, ledger) := work c.ledger
  (value, { c with ledger })

instance : MonadLiftT Access ClientM := ⟨access⟩

def engine : ClientM Engine := return (← get).library.engine

/-- Writes the moment into the journal. -/
def note : ClientM Unit := modify fun c => { c with journal := c.now :: c.journal }

def value? (key : Key) : ClientM (Option Value) := return (← get).holdings.lookup key

def hold (value : Value) : ClientM Key := do
  let key := (← get).issued + 1
  modify fun c => { c with holdings := (key, value) :: c.holdings, issued := key }
  note
  pure key

/-- Holds what was opened. -/
def receive {α ε : Type} (wrap : α → Value) : Except ε α → ClientM (Except ε Key)
  | .ok opened => do
    let key ← hold (wrap opened)
    pure (.ok key)
  | .error fault => pure (.error fault)

/-- Drops the value of a key; whether there was one. -/
def drop (key : Key) : ClientM Bool := do
  match ← value? key with
  | none => pure false
  | some value =>
    modify fun c => { c with holdings := c.holdings.eraseP (·.1 == key) }
    access (value.close (← engine))
    note
    pure true

def dropAll : List Key → ClientM Unit
  | [] => pure ()
  | key :: rest => do
    let _ ← drop key
    dropAll rest

/-- Drops everything, the latest first. -/
def dropEverything : ClientM Unit := do dropAll ((← get).holdings.map Prod.fst)

end Client

inductive Call where
  | openStore (files : FileSystem NativeLibrary) (path : Path)
  | share (store : Key)
  | openUnit (store : Key) (name : String)
  | openRecord (store : Key) (name : String)
  | startUnits (store : Key) (sorted : Bool)
  | startRecords (unit : Key)
  | nextUnit (cursor : UnitCursor)
  | nextRecord (cursor : RecordCursor)
  | unitInstant (store : Key) (name : String)
  | unitForOutput (store : Key) (path : Path)
  | drop (value : Key)

/-- What a client learns from a call. -/
inductive Answer where
  /-- No value of the right kind has the key. -/
  | noValue
  | done
  | opened (key : Key)
  | failed (fault : Fault)
  | units (cursor : UnitCursor)
  | records (cursor : RecordCursor)
  /-- A cursor came to its end. -/
  | finished
  | nextUnit (key : Key) (cursor : UnitCursor)
  | nextRecord (key : Key) (cursor : RecordCursor)
  | failedUnit (fault : Fault) (cursor : UnitCursor)
  | failedRecord (fault : Fault) (cursor : RecordCursor)
  | instant (time : Instant)
  | name (unit : Option String)

def Answer.fault? : Answer → Option Fault
  | .failed fault => some fault
  | .failedUnit fault _ => some fault
  | .failedRecord fault _ => some fault
  | _ => none

namespace Client

variable {α : Type}

/-- Works on the engine if a store has the key. -/
def withStore (key : Key) (otherwise : α) (work : Engine → ClientM α) : ClientM α := do
  match ← value? key with
  | some (.store _) => work (← engine)
  | _ => pure otherwise

def withUnit (key : Key) (otherwise : α) (work : OpenUnit → ClientM α) : ClientM α := do
  match ← value? key with
  | some (.unit u) => work u
  | _ => pure otherwise

def withRecord (key : Key) (otherwise : α) (work : OpenRecord → ClientM α) : ClientM α := do
  match ← value? key with
  | some (.record r) => work r
  | _ => pure otherwise

def opening : Except Fault Key → Answer
  | .ok key => .opened key
  | .error fault => .failed fault

end Client

open Client in
/-- Makes a call. A store that cannot be shared is dropped. -/
def Call.run : Call → ClientM Answer
  | .openStore files path => do
    let opened ← access (Store.openAt (← get).library files path)
    return opening ((← receive .store opened).mapError .store)
  | .share key => withStore key .noValue fun _ => do
    if (← get).library.concurrentReads then pure .done
    else
      let _ ← Client.drop key
      pure (.failed (.store .notShareable))
  | .openUnit key name => withStore key .noValue fun e => do
    return opening (← receive .unit (← access (e.openUnit name)))
  | .openRecord key name => withStore key .noValue fun e => do
    return opening (← receive .record (← access (e.openRecord name none)))
  | .startUnits key sorted => withStore key .noValue fun _ => pure (.units ⟨sorted, none⟩)
  | .startRecords key => withUnit key .noValue fun u => pure (.records ⟨u, none⟩)
  | .nextUnit cursor => do
    let (outcome, cursor) ← access (cursor.next (← engine))
    match outcome with
    | none => pure .finished
    | some outcome => match ← receive .unit outcome with
      | .ok key => pure (.nextUnit key cursor)
      | .error fault => pure (.failedUnit fault cursor)
  | .nextRecord cursor => do
    let (outcome, cursor) ← access (cursor.next (← engine))
    match outcome with
    | none => pure .finished
    | some outcome => match ← receive .record outcome with
      | .ok key => pure (.nextRecord key cursor)
      | .error fault => pure (.failedRecord fault cursor)
  | .unitInstant key name => withStore key .noValue fun e => do
    match ← access (e.unitInstant name) with
    | .ok time => pure (.instant time)
    | .error fault => pure (.failed fault)
  | .unitForOutput key path => withStore key .noValue fun e => do
    match ← access (e.unitForOutput path) with
    | .ok unit => pure (.name unit)
    | .error fault => pure (.failed fault)
  | .drop key => return if ← Client.drop key then .done else .noValue

/-- What is still held once a call failed: a store that cannot be shared is gone. -/
def Call.remaining (holdings : List (Key × Value)) : Call → List (Key × Value)
  | .share key => holdings.eraseP (·.1 == key)
  | _ => holdings

inductive Sequence where
  | names (store : Key) (sorted : Bool)
  | units (store : Key) (sorted : Bool)
  | includes (unit : Key)
  | dependencies (unit : Key)
  | records (unit : Key)
  | symbols (record : Key)
  | occurrences (record : Key) (lines : Option (UInt32 × UInt32))
  | relations (occurrence : Occurrence)

inductive Item where
  | name (octets : Bytes)
  | unit (outcome : Except Fault Key)
  | directive (seen : Include)
  | dependency (seen : Dependency)
  | record (outcome : Except Fault Key)
  | symbol (seen : Symbol)
  | occurrence (seen : Occurrence)
  | relation (seen : Relation)

open Client in
/-- Shows a sequence to a visitor until it stops with some keys. When a later stop replaces an
earlier one, the values of its keys are dropped. What has no value is an empty sequence. -/
def Sequence.visit (visitor : Item → ClientM (Option (List Key))) :
    Sequence → ClientM (Option (List Key))
  | .names key sorted => withStore key none fun e =>
    (e.names sorted).findDiscarding dropAll fun octets => visitor (.name octets)
  | .units key sorted => withStore key none fun e =>
    e.findUnit sorted dropAll fun outcome => do visitor (.unit (← receive .unit outcome))
  | .includes key => withUnit key none fun u => do
    (u.includes (← engine)).findDiscarding dropAll fun i => visitor (.directive i)
  | .dependencies key => withUnit key none fun u => do
    (u.dependencies (← engine)).findDiscarding dropAll fun d => visitor (.dependency d)
  | .records key => withUnit key none fun u => do
    u.findRecord (← engine) dropAll fun outcome => do
      visitor (.record (← receive .record outcome))
  | .symbols key => withRecord key none fun r => do
    (r.symbols (← engine)).findDiscarding dropAll fun s => visitor (.symbol s)
  | .occurrences key lines => withRecord key none fun r => do
    (r.occurrences (← engine) lines).findDiscarding dropAll fun o => visitor (.occurrence o)
  | .relations o => do
    (o.lendRelations (← engine)).findDiscarding dropAll fun r => visitor (.relation r)

/-- A client's script. It ends with some keys when it stops a visit, and with nothing when the visit
goes on. -/
inductive Script where
  | done (reply : Option (List Key))
  | call (call : Call) (next : Answer → Script)
  | visit (sequence : Sequence) (visitor : (lent : Nat) → Item → Script)
    (next : Option (List Key) → Script)

def Script.run : Script → ClientM (Option (List Key))
  | .done reply => pure reply
  | .call c next => do
    let answer ← c.run
    Client.note
    (next answer).run
  | .visit s visitor next => do
    let kept ← s.visit fun item => do (visitor (← get).ledger.callbacks item).run
    Client.note
    (next kept).run

/-- A client after a script on a library of which nothing is open. -/
def Script.after (script : Script) (library : Library) : Client := (script.run { library }).2

section Holdings

open Client

variable {α β ε : Type}

@[simp] theorem access_holdings (work : Access α) (c : Client) :
    (access work c).2.holdings = c.holdings := rfl

/-- Dropping takes the value of the key away, and nothing else. -/
theorem drop_holdings (key : Key) (c : Client) :
    (drop key c).2.holdings = c.holdings.eraseP (·.1 == key) := by
  cases found : c.holdings.lookup key with
  | none =>
    have absent : ∀ entry ∈ c.holdings, ¬ (entry.1 == key) = true := by
      intro entry member same
      have other := List.lookup_eq_none_iff.mp found entry member
      rw [eq_of_beq same, bne_self_eq_false] at other
      exact nomatch other
    rw [List.eraseP_of_forall_not absent]
    simp [drop, value?, found]
  | some v =>
    simp only [drop, value?, bind_apply, get_apply, pure_apply, found]
    rfl

/-- Nothing is held once everything was dropped. -/
theorem dropEverything_holdings (c : Client) : (dropEverything c).2.holdings = [] := by
  have loop (holdings : List (Key × Value)) (c : Client) (same : c.holdings = holdings) :
      (dropAll (holdings.map Prod.fst) c).2.holdings = [] := by
    induction holdings generalizing c with
    | nil => exact same
    | cons entry rest ih =>
      refine ih _ ((drop_holdings entry.1 c).trans ?_)
      rw [same]
      simp
  exact loop c.holdings c rfl

/-- Work that leaves what is held alone when it answers with a fault. -/
def Harmless (work : ClientM Answer) : Prop :=
  ∀ c, (work c).1.fault?.isSome → (work c).2.holdings = c.holdings

theorem harmless_pure (answer : Answer) : Harmless (pure answer) := fun _ _ => rfl

/-- Work that holds nothing new may come first. -/
theorem harmless_bind {work : ClientM α} {next : α → ClientM Answer}
    (same : ∀ c, (work c).2.holdings = c.holdings) (h : ∀ a, Harmless (next a)) :
    Harmless (work >>= next) := by
  intro c failed
  rw [bind_apply, h _ _ failed, same]

theorem harmless_access {work : Access α} {next : α → ClientM Answer}
    (h : ∀ a, Harmless (next a)) : Harmless (access work >>= next) :=
  harmless_bind (access_holdings work) h

theorem harmless_withStore {key : Key} {work : Engine → ClientM Answer}
    (h : ∀ e, Harmless (work e)) : Harmless (withStore key .noValue work) := by
  refine harmless_bind (fun _ => rfl) fun v => ?_
  split
  · exact harmless_bind (fun _ => rfl) h
  · exact harmless_pure _

theorem harmless_withUnit {key : Key} {work : OpenUnit → ClientM Answer}
    (h : ∀ u, Harmless (work u)) : Harmless (withUnit key .noValue work) := by
  refine harmless_bind (fun _ => rfl) fun v => ?_
  split
  · exact h _
  · exact harmless_pure _

/-- A value is held only when it was opened, and then the answer tells of no fault. -/
theorem harmless_receive (wrap : α → Value) (outcome : Except ε α)
    {answer : Except ε Key → ClientM Answer} (fails : ∀ fault, Harmless (answer (.error fault)))
    (opens : ∀ key c, (answer (.ok key) c).1.fault? = none) :
    Harmless (receive wrap outcome >>= answer) := by
  intro c failed
  cases outcome with
  | error fault => exact fails fault c failed
  | ok opened =>
    have fine := opens (hold (wrap opened) c).1 (hold (wrap opened) c).2
    exact absurd failed (by simp [receive, fine])

/-- A store is dropped when it cannot be shared; no other value is. -/
theorem share_holdings (key : Key) (c : Client)
    (failed : ((Call.share key).run c).1.fault?.isSome) :
    ((Call.share key).run c).2.holdings = c.holdings.eraseP (·.1 == key) := by
  cases found : c.holdings.lookup key with
  | none => simp [Call.run, withStore, value?, found, Answer.fault?] at failed
  | some v =>
    cases v with
    | unit u => simp [Call.run, withStore, value?, found, Answer.fault?] at failed
    | record r => simp [Call.run, withStore, value?, found, Answer.fault?] at failed
    | store s =>
      have run : (Call.share key).run c = (do
          if c.library.concurrentReads then pure .done
          else
            let _ ← drop key
            pure (.failed (.store .notShareable)) : ClientM Answer) c := by
        simp only [Call.run, withStore, value?, bind_apply, get_apply, pure_apply, found]
        rfl
      rw [run] at failed ⊢
      split at failed
      · exact nomatch failed
      · rename_i exclusive
        rw [if_neg exclusive]
        exact drop_holdings key c

/-- A call that fails opens nothing: what was held before it is held after it. -/
theorem Call.holdings_of_fault (call : Call) (c : Client) (failed : (call.run c).1.fault?.isSome) :
    (call.run c).2.holdings = call.remaining c.holdings := by
  cases call with
  | openStore files path =>
    refine harmless_bind (fun _ => rfl) (fun _ => harmless_access fun outcome => ?_) c failed
    exact harmless_receive .store outcome (fun _ => harmless_pure _) fun _ _ => rfl
  | share key => exact share_holdings key c failed
  | openUnit key name =>
    refine harmless_withStore (fun _ => harmless_access fun outcome => ?_) c failed
    exact harmless_receive .unit outcome (fun _ => harmless_pure _) fun _ _ => rfl
  | openRecord key name =>
    refine harmless_withStore (fun _ => harmless_access fun outcome => ?_) c failed
    exact harmless_receive .record outcome (fun _ => harmless_pure _) fun _ _ => rfl
  | startUnits key sorted => exact harmless_withStore (fun _ => harmless_pure _) c failed
  | startRecords key => exact harmless_withUnit (fun _ => harmless_pure _) c failed
  | nextUnit cursor =>
    refine harmless_bind (fun _ => rfl) (fun _ => harmless_access fun pulled => ?_) c failed
    obtain ⟨outcome, next⟩ := pulled
    cases outcome with
    | none => exact harmless_pure _
    | some outcome => exact harmless_receive .unit outcome (fun _ => harmless_pure _) fun _ _ => rfl
  | nextRecord cursor =>
    refine harmless_bind (fun _ => rfl) (fun _ => harmless_access fun pulled => ?_) c failed
    obtain ⟨outcome, next⟩ := pulled
    cases outcome with
    | none => exact harmless_pure _
    | some outcome =>
      exact harmless_receive .record outcome (fun _ => harmless_pure _) fun _ _ => rfl
  | unitInstant key name =>
    refine harmless_withStore (fun _ => harmless_access fun outcome => ?_) c failed
    cases outcome <;> exact harmless_pure _
  | unitForOutput key path =>
    refine harmless_withStore (fun _ => harmless_access fun outcome => ?_) c failed
    cases outcome <;> exact harmless_pure _
  | drop key =>
    have never : ((Call.drop key).run c).1.fault? = none := by
      rw [Call.run, bind_apply]
      cases (Client.drop key c).1 <;> rfl
    rw [never] at failed
    exact nomatch failed

end Holdings

end CodeIndex
