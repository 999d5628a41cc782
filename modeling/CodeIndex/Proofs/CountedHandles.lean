import CodeIndex.Engine.Tables
import CodeIndex.Proofs.Custody
/-!
# Counted handles

The engine in memory counts what it hands out. For every run of every client the counts are the
numbers of the values held, at each moment and not only at the end; nothing ever comes back that is
not out, so no count is held at zero by force; and the peak is the most units that were held at one
moment.
-/
namespace CodeIndex

/-- The counters that stand to what is in custody. -/
def countersOf (held : List Resource) (most : Nat) : Counters where
  stores := countKind .store held
  units := countKind .unit held
  records := countKind .record held
  peakUnits := most
  misses := 0

/-- The account of an engine in memory: its counters, and no native object. -/
def Counted : Account := fun l held most => l.counters = countersOf held most ∧ l.objects = {}

/-- Whatever is handed out is counted, if its counter goes up by one and the peak follows. -/
theorem gives_handOut {α : Type} (kind : ResourceKind) (handle : α → Handle)
    {count : Counters → Counters} (answer : Except String α)
    (counts : ∀ {held most} (a : α), countKind .unit held ≤ most →
      count (countersOf held most) = countersOf (⟨kind, handle a⟩ :: held)
        (max most (countKind .unit (⟨kind, handle a⟩ :: held)))) :
    Gives Counted (openedBy fun a => ⟨kind, handle a⟩) (Tables.handOut count answer) := by
  cases answer with
  | error message => exact gives_pure rfl
  | ok found =>
    intro l held most account seen
    refine ⟨?_, account.2⟩
    change count l.counters = _
    rw [account.1]
    exact counts found seen

/-- The engine in memory counts what it hands out and what it gets back. -/
theorem Tables.custody (t : Tables) (settings : MemorySettings) :
    Custody (t.engine settings) Counted where
  reorder := by
    intro l held held' most account same
    refine ⟨?_, account.2⟩
    rw [account.1, countersOf, countersOf]
    simp only [countKind_perm _ same]
  lend := fun account => account
  createStore path := by
    refine gives_handOut .store id _ fun a seen => ?_
    simp [countersOf, Counters.openStore, countKind_cons, seen]
  createUnit name := by
    refine gives_handOut .unit Prod.fst _ fun a seen => ?_
    simp [countersOf, Counters.openUnit, countKind_cons]
  createRecord name := by
    refine gives_handOut .record Prod.fst _ fun a seen => ?_
    simp [countersOf, Counters.openRecord, countKind_cons, seen]
  unitTime name := gives_pure rfl
  dispose := by
    intro l held most v account seen
    cases v with
    | store s =>
      refine ⟨?_, account.2⟩
      change Counters.closeStore l.counters = _
      rw [account.1]
      simp [countersOf, Counters.closeStore, Counters.missing, countKind_cons, Value.resource]
    | unit u =>
      refine ⟨?_, account.2⟩
      change Counters.closeUnit l.counters = _
      rw [account.1]
      simp [countersOf, Counters.closeUnit, Counters.missing, countKind_cons, Value.resource]
    | record r =>
      refine ⟨?_, account.2⟩
      change Counters.closeRecord l.counters = _
      rw [account.1]
      simp [countersOf, Counters.closeRecord, Counters.missing, countKind_cons, Value.resource]

/-- The engine in memory counts exactly the values held at a moment, nothing came back to it that
was not out, and the peak is the most units held so far. -/
structure CountedMoment (m : Moment) (most : Nat) : Prop where
  stores : m.ledger.stores = countKind .store m.resources
  units : m.ledger.units = countKind .unit m.resources
  records : m.ledger.records = countKind .record m.resources
  misses : m.ledger.counters.misses = 0
  peak : m.ledger.peakUnits = most

theorem Counted.moment {m : Moment} {most : Nat} (account : Counted m.ledger m.resources most) :
    CountedMoment m most := by
  obtain ⟨counters, objects⟩ := account
  constructor <;>
    simp [Ledger.stores, Ledger.units, Ledger.records, Ledger.peakUnits, Objects.countOut,
      Objects.out, counters, objects, countersOf]

/-- A client of an engine in memory whose handles are counted: at every moment up to now, after a
call that fails, which leaves no handle behind, and once everything was dropped. -/
structure CountedRun (c : Client) : Prop where
  moments : ∀ m earlier, m :: earlier <:+ c.journal → CountedMoment m (mostUnits (m :: earlier))
  now : CountedMoment c.now (mostUnits c.journal)
  failures : ∀ call : Call, (call.run c).1.fault?.isSome →
    (call.run c).2.holdings = call.remaining c.holdings ∧
      CountedMoment (call.run c).2.now (mostUnits (call.run c).2.journal)
  closing : (Client.dropEverything c).2.holdings = [] ∧ (Client.dropEverything c).2.ledger.total = 0

theorem CountedMoment.total_of_nothing {m : Moment} {most : Nat} (counted : CountedMoment m most)
    (nothing : m.held = []) : m.ledger.total = 0 := by
  have none : m.resources = [] := by rw [Moment.resources, nothing, List.map_nil]
  rw [Ledger.total, counted.stores, counted.units, counted.records, none]
  rfl

/-- Every run of every client of an engine in memory: the counters are the numbers of the values
held, whatever was opened, kept, dropped, broken off or in vain. -/
theorem handles_counted (c : Contents String String) (settings : MemorySettings)
    (script : Script) :
    CountedRun (script.after (.ofEngine ((Tables.ofContents c).engine settings))) := by
  let library := Library.ofEngine ((Tables.ofContents c).engine settings)
  have custody : Custody library.engine Counted := (Tables.ofContents c).custody settings
  have sound : Sound library Counted none (script.after library) :=
    sound_after custody ⟨rfl, rfl⟩ script
  refine ⟨?_, sound.account.moment, ?_, ?_⟩
  · intro m earlier suffix
    exact (sound.past.at suffix).moment
  · intro call failed
    have after := keeps_call custody call sound
    exact ⟨call.holdings_of_fault _ failed, after.account.moment⟩
  · have empty := dropEverything_holdings (script.after library)
    have after := keeps_dropEverything custody sound
    have counted : CountedMoment (Client.dropEverything (script.after library)).2.now _ :=
      after.account.moment
    refine ⟨empty, counted.total_of_nothing ?_⟩
    rw [Client.now, empty, List.map_nil]

end CodeIndex
