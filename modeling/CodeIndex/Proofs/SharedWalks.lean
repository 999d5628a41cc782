import CodeIndex.Proofs.Iterators
import CodeIndex.Proofs.Strands
import CodeIndex.Session.Basic
/-!
# Walks that share a store

Several threads may walk the units of one shared store in memory, each with a cursor of its own. The
counters are changed atomically: opening a unit adds one to the units that are out and then raises
the peak to what it found, closing takes one away. No schedule loses an update. Each thread counts
what it would count alone, and when all are done the counters are what they were, but for the peak.
-/
namespace CodeIndex

namespace Counters

/-- One more unit is out; the peak does not know of it yet. -/
def addUnit (c : Counters) : Counters := { c with units := c.units + 1 }

def raisePeak (seen : Nat) (c : Counters) : Counters :=
  { c with peakUnits := max c.peakUnits seen }

end Counters

namespace Strand

def counting {α : Type} (change : Counters → Counters) (told : Counters → α) : Strand α :=
  .atomic (fun l => { l with counters := change l.counters }) fun found => told found.counters

def lendEach : List Bytes → Strand Unit
  | [] => pure ⟨⟩
  | _ :: rest => do
    .atomic Ledger.lend fun _ => ()
    lendEach rest

def close : Except Fault OpenUnit → Strand Unit
  | .ok _ => counting Counters.closeUnit fun _ => ()
  | .error _ => pure ⟨⟩

end Strand

namespace Tables

variable (t : Tables)

/-- Creates a reader on a unit in two atomic changes: one counts the unit, and one raises the peak
to the count that the first has found. -/
def createStrand (name : String) : Strand (Except String (Handle × UnitReader)) :=
  match t.openUnit name with
  | .error message => pure (.error message)
  | .ok handle => do
    let out ← .counting Counters.addUnit (·.units + 1)
    .counting (Counters.raisePeak out) fun _ => ()
    pure (.ok (handle, t.unitReader handle))

def openStrand : Except Fault String → Strand (Except Fault OpenUnit)
  | .error fault => pure (.error fault)
  | .ok name => do
    if hasNul name then pure (.error (.unitOpen name "unit name contains a NUL byte"))
    else match ← t.createStrand name with
      | .ok (handle, reader) => pure (.ok ⟨name, handle, reader⟩)
      | .error message => pure (.error (.unitOpen name message))

def tryStrand : List (Except Fault String) → Strand (Nat × Nat)
  | [] => pure (0, 0)
  | name :: rest => do
    let outcome ← t.openStrand name
    .close outcome
    let counts ← tryStrand rest
    pure (counts.1 + 1, counts.2 + if outcome.isOk then 1 else 0)

def walkStrand : Strand (Nat × Nat) := do
  .lendEach (t.unitNames false)
  t.tryStrand ((t.unitNames false).map Engine.readName)

section Alone

variable (settings : MemorySettings)

theorem run_createStrand (name : String) :
    (t.createStrand name).run = (t.engine settings).createUnit name := by
  simp only [createStrand, engine]
  cases t.openUnit name <;> rfl

theorem run_openStrand (name : Except Fault String) :
    (t.openStrand name).run = (t.engine settings).openNamedUnit name := by
  cases name with
  | error fault => rfl
  | ok name =>
    simp only [openStrand, Engine.openNamedUnit, Engine.openUnit, ← t.run_createStrand settings]
    split
    · rfl
    · rw [Strand.run_bind]
      congr 1
      funext outcome
      rcases outcome with message | ⟨handle, reader⟩ <;> rfl

theorem run_tryStrand (names : List (Except Fault String)) :
    (t.tryStrand names).run = (t.engine settings).tryUnits names := by
  induction names with
  | nil => rfl
  | cons name rest ih =>
    rw [tryStrand, Engine.tryUnits, Strand.run_bind, t.run_openStrand settings]
    congr 1
    funext outcome
    rw [Strand.run_bind, Strand.run_bind, ih]
    cases outcome <;> rfl

theorem run_lendEach (names : List Bytes) (l : Ledger) :
    (Strand.lendEach names).run l = ((), l.lendMany names.length) := by
  induction names generalizing l with
  | nil => rfl
  | cons name rest ih =>
    rw [List.length_cons, ← Ledger.lend_lendMany, ← ih]
    rfl

/-- A walk alone is the walk of the engine. -/
theorem run_walkStrand : t.walkStrand.run = (t.engine settings).walkUnits := by
  funext l
  rw [walkStrand, Strand.run_bind, bind_apply, run_lendEach, t.run_tryStrand settings,
    Engine.walkUnits, bind_apply, UnitCursor.gather_new]
  rfl

end Alone

/-- What trying some names counts: all of them, and those of which the unit opens. -/
def tryCounts (names : List (Except Fault String)) : Nat × Nat :=
  (names.length, names.countP fun name => (t.openedUnit name).isOk)

def walkCounts : Nat × Nat := t.tryCounts ((t.unitNames false).map Engine.readName)

theorem tryUnits_fst (settings : MemorySettings) (names : List (Except Fault String)) (l : Ledger) :
    ((t.engine settings).tryUnits names l).1 = t.tryCounts names := by
  induction names generalizing l with
  | nil => rfl
  | cons name rest ih =>
    have opened : (t.engine settings).openNamedUnit name l = _ := t.counts_units settings name l
    rw [Engine.tryUnits, bind_apply, opened]
    cases outcome : t.openedUnit name <;>
      simp [tryCounts, outcome, ih, Except.isOk, Except.toBool]

theorem walkUnits_fst (settings : MemorySettings) (l : Ledger) :
    ((t.engine settings).walkUnits l).1 = t.walkCounts := by
  rw [Engine.walkUnits, bind_apply, UnitCursor.gather_new]
  exact t.tryUnits_fst settings _ _

/-- Threads that walk one after the other count alike. -/
theorem walkThreads_fst (settings : MemorySettings) (threads : Nat) (l : Ledger) :
    (Session.walkThreads (t.engine settings) threads l).1 =
      List.replicate threads t.walkCounts := by
  induction threads generalizing l with
  | zero => rfl
  | succ threads ih =>
    rw [Session.walkThreads, bind_apply, bind_apply, pure_apply, ih, t.walkUnits_fst]
    rfl

end Tables

/-- A strand that has `held` units out, goes on to lend `lends` items, and ends with `value` and
`kept` units out. It has at most one unit out and takes one only while fewer than `bound` are out;
what it raises the peak to is within the bound. -/
inductive Strand.Paced {α : Type} (bound : Nat) (value : α) (kept : Nat) :
    (held lends : Nat) → Strand α → Prop
  | done : Paced bound value kept kept 0 (.done value)
  | lend {lends : Nat} {next : Ledger → Strand α}
      (rest : ∀ found, Paced bound value kept 0 lends (next found)) :
      Paced bound value kept 0 (lends + 1) (.step Ledger.lend next)
  | take {lends : Nat} {next : Ledger → Strand α}
      (rest : ∀ found : Ledger, found.counters.units < bound →
        Paced bound value kept 1 lends (next found)) :
      Paced bound value kept 0 lends
        (.step (fun l => { l with counters := l.counters.addUnit }) next)
  | raise {lends seen : Nat} {next : Ledger → Strand α} (within : seen ≤ bound)
      (rest : ∀ found, Paced bound value kept 1 lends (next found)) :
      Paced bound value kept 1 lends
        (.step (fun l => { l with counters := l.counters.raisePeak seen }) next)
  | giveBack {lends : Nat} {next : Ledger → Strand α}
      (rest : ∀ found, Paced bound value kept 0 lends (next found)) :
      Paced bound value kept 1 lends
        (.step (fun l => { l with counters := l.counters.closeUnit }) next)

namespace Strand.Paced

variable {α β : Type} {bound kept kept' held lends lends' : Nat} {value : α} {value' : β}

/-- One strand behind the other keeps the pace. -/
theorem bind {strand : Strand α} {f : α → Strand β}
    (first : Paced bound value kept held lends strand)
    (second : Paced bound value' kept' kept lends' (f value)) :
    Paced bound value' kept' held (lends + lends') (strand >>= f) := by
  induction first with
  | done =>
    rw [Nat.zero_add]
    exact second
  | lend rest ih =>
    rw [Nat.add_right_comm]
    exact .lend ih
  | take rest ih => exact .take ih
  | raise within rest ih => exact .raise within ih
  | giveBack rest ih => exact .giveBack ih

theorem lendEach (names : List Bytes) :
    Paced bound () 0 0 names.length (Strand.lendEach names) := by
  induction names with
  | nil => exact .done
  | cons name rest ih => exact .lend fun _ => ih

/-- Opening takes a unit exactly when it succeeds. -/
theorem openStrand (t : Tables) (name : Except Fault String) :
    Paced bound (t.openedUnit name) (if (t.openedUnit name).isOk then 1 else 0) 0 0
      (t.openStrand name) := by
  cases name with
  | error fault => exact .done
  | ok name =>
    rw [Tables.openStrand, Tables.openedUnit, Tables.createStrand]
    split
    · exact .done
    · cases t.openUnit name with
      | error message => exact .done
      | ok handle => exact .take fun found room => .raise room fun _ => .done

theorem close (outcome : Except Fault OpenUnit) :
    Paced bound () 0 (if outcome.isOk then 1 else 0) 0 (Strand.close outcome) := by
  cases outcome with
  | error fault => exact .done
  | ok u => exact .giveBack fun _ => .done

theorem tryStrand (t : Tables) (names : List (Except Fault String)) :
    Paced bound (t.tryCounts names) 0 0 0 (t.tryStrand names) := by
  induction names with
  | nil => exact .done
  | cons name rest ih =>
    have counts : t.tryCounts (name :: rest) = ((t.tryCounts rest).1 + 1,
        (t.tryCounts rest).2 + if (t.openedUnit name).isOk then 1 else 0) := by
      rw [Tables.tryCounts, List.countP_cons]
      rfl
    rw [counts, Tables.tryStrand]
    change Paced bound _ 0 0 (0 + (0 + (0 + 0))) _
    exact (openStrand t name).bind ((close _).bind (ih.bind .done))

theorem walkStrand (t : Tables) :
    Paced bound t.walkCounts 0 0 (t.unitNames false).length t.walkStrand := by
  rw [Tables.walkStrand]
  change Paced bound _ 0 0 ((t.unitNames false).length + 0) _
  exact (lendEach _).bind (tryStrand t _)

theorem held_le {strand : Strand α} (h : Paced bound value 0 held lends strand) : held ≤ 1 := by
  cases h <;> omega

/-- A strand that is done holds nothing, has nothing to lend, and has the value. -/
theorem of_done {v : α} (h : Paced bound value 0 held lends (.done v)) :
    v = value ∧ held = 0 ∧ lends = 0 := by
  cases h
  exact ⟨rfl, rfl, rfl⟩

end Strand.Paced

/-- Strands that keep the pace, with the units that all of them have out and the items that all of
them will lend. -/
inductive Accounts {α : Type} (bound : Nat) (value : α) :
    (held lends : Nat) → List (Strand α) → Prop
  | nil : Accounts bound value 0 0 []
  | cons {held lends held' lends' : Nat} {strand : Strand α} {rest : List (Strand α)}
      (first : strand.Paced bound value 0 held lends)
      (others : Accounts bound value held' lends' rest) :
      Accounts bound value (held + held') (lends + lends') (strand :: rest)

/-- A ledger on which `held` more units are out and `lent` more items were lent than at the start.
The peak stays within the bound, and nothing else is changed. -/
structure Moved (bound : Nat) (start : Ledger) (held lent : Nat) (l : Ledger) : Prop where
  units : l.counters.units = start.counters.units + held
  stores : l.counters.stores = start.counters.stores
  records : l.counters.records = start.counters.records
  misses : l.counters.misses = start.counters.misses
  above : start.counters.peakUnits ≤ l.counters.peakUnits
  within : l.counters.peakUnits ≤ max start.counters.peakUnits bound
  callbacks : l.callbacks = start.callbacks + lent
  objects : l.objects = start.objects

section Accounts

variable {α : Type} {bound held lends others lent : Nat} {value : α} {start l : Ledger}

theorem Accounts.held_le {strands : List (Strand α)} (h : Accounts bound value held lends strands) :
    held ≤ strands.length := by
  induction h with
  | nil => exact Nat.le_refl 0
  | cons first _ ih =>
    have one := first.held_le
    rw [List.length_cons]
    omega

theorem Accounts.replicate {strand : Strand α} (h : strand.Paced bound value 0 0 lends) (n : Nat) :
    Accounts bound value 0 (n * lends) (List.replicate n strand) := by
  induction n with
  | zero =>
    rw [Nat.zero_mul]
    exact .nil
  | succ n ih =>
    rw [Nat.succ_mul, Nat.add_comm]
    exact .cons h ih

/-- A change of a strand, while `others` units are out besides its own. -/
theorem Moved.step {change : Ledger → Ledger} {next : Ledger → Strand α}
    (paced : Strand.Paced bound value 0 held lends (.step change next))
    (moved : Moved bound start (held + others) lent l)
    (room : start.counters.units + others < bound) :
    ∃ held' lends' lent', (next l).Paced bound value 0 held' lends' ∧
      Moved bound start (held' + others) lent' (change l) ∧ lent' + lends' = lent + lends := by
  obtain ⟨units, stores, records, misses, above, within, callbacks, objects⟩ := moved
  cases paced with
  | lend rest =>
    refine ⟨_, _, lent + 1, rest l,
      ⟨units, stores, records, misses, above, within, ?_, objects⟩, by omega⟩
    rw [Ledger.lend, callbacks, Nat.add_assoc]
  | take rest =>
    refine ⟨_, _, lent, rest l (by omega),
      ⟨?_, stores, records, misses, above, within, callbacks, objects⟩, rfl⟩
    simp only [Counters.addUnit, units]
    omega
  | raise small rest =>
    refine ⟨_, _, lent, rest l,
      ⟨units, stores, records, misses, ?_, ?_, callbacks, objects⟩, rfl⟩ <;>
    · simp only [Counters.raisePeak]
      omega
  | giveBack rest =>
    -- The strand has a unit out, so there is one to give back.
    have out : l.counters.units ≠ 0 := by omega
    refine ⟨_, _, lent, rest l, ⟨?_, stores, records, ?_, above, within, callbacks, objects⟩, rfl⟩
    · simp only [Counters.closeUnit, units]
      omega
    · simp only [Counters.closeUnit, Counters.missing, if_neg out, misses, Nat.add_zero]

/-- A turn keeps the accounts, wherever the strand stands whose turn it is. -/
theorem Accounts.advance {strands : List (Strand α)} (h : Accounts bound value held lends strands)
    (turn : Nat) (moved : Moved bound start (held + others) lent l)
    (room : start.counters.units + others + strands.length ≤ bound) :
    let after := Threads.advance l strands turn
    ∃ held' lends' lent', Accounts bound value held' lends' after.2 ∧
      Moved bound start (held' + others) lent' after.1 ∧ lent' + lends' = lent + lends ∧
      after.2.length = strands.length := by
  induction h generalizing turn others with
  | nil => exact ⟨_, _, _, .nil, moved, rfl, rfl⟩
  | @cons held lends held' lends' strand rest first tail ih =>
    have few := tail.held_le
    rw [List.length_cons] at room
    cases turn with
    | zero =>
      cases strand with
      | done v => exact ⟨_, _, _, .cons first tail, moved, rfl, rfl⟩
      | step change next =>
        rw [Nat.add_assoc] at moved
        obtain ⟨h', d', lent', paced, moved, sum⟩ := moved.step first (by omega)
        rw [← Nat.add_assoc] at moved
        exact ⟨_, _, lent', .cons paced tail, moved, by omega, rfl⟩
    | succ turn =>
      have one := first.held_le
      have moved' : Moved bound start (held' + (held + others)) lent l := by
        rw [← Nat.add_assoc, Nat.add_comm held' held]
        exact moved
      obtain ⟨h', d', lent', accounts, moved, sum, length⟩ := ih turn moved' (by omega)
      have later : Threads.advance l (strand :: rest) (turn + 1) =
          ((Threads.advance l rest turn).1, strand :: (Threads.advance l rest turn).2) := by
        cases strand <;> rfl
      rw [later]
      refine ⟨held + h', lends + d', lent', .cons first accounts, ?_, by omega, by simp [length]⟩
      rw [Nat.add_comm held h', Nat.add_assoc]
      exact moved

/-- So does any schedule. -/
theorem Accounts.run {s : Threads α} (h : Accounts bound value held lends s.strands)
    (moved : Moved bound start held lent s.ledger)
    (room : start.counters.units + s.strands.length ≤ bound) (schedule : List Nat) :
    ∃ held' lends' lent', Accounts bound value held' lends' (s.run schedule).strands ∧
      Moved bound start held' lent' (s.run schedule).ledger ∧ lent' + lends' = lent + lends := by
  induction schedule generalizing s held lends lent with
  | nil => exact ⟨held, lends, lent, h, moved, rfl⟩
  | cons turn schedule ih =>
    have alone : Moved bound start (held + 0) lent s.ledger := moved
    obtain ⟨held', lends', lent', accounts, moved', sum, length⟩ := h.advance turn alone room
    obtain ⟨held'', lends'', lent'', accounts', moved'', sum'⟩ :=
      ih (s := s.turn turn) accounts moved' (by rw [← length] at room; exact room)
    exact ⟨held'', lends'', lent'', accounts', moved'', sum'.trans sum⟩

/-- When all strands are done, they have nothing out and nothing to lend. -/
theorem Accounts.finished {strands : List (Strand α)} (h : Accounts bound value held lends strands)
    (done : ∀ strand ∈ strands, strand.value?.isSome) : held = 0 ∧ lends = 0 := by
  induction h with
  | nil => exact ⟨rfl, rfl⟩
  | @cons held lends held' lends' strand rest first tail ih =>
    obtain ⟨none, empty⟩ := ih fun strand' among => done strand' (List.mem_cons_of_mem _ among)
    cases strand with
    | done v =>
      obtain ⟨-, rfl, rfl⟩ := first.of_done
      exact ⟨by omega, by omega⟩
    | step change next => exact absurd (done _ List.mem_cons_self) (by simp [Strand.value?])

/-- Each strand that is done has the value. -/
theorem Accounts.eq_of_done {strands : List (Strand α)}
    (h : Accounts bound value held lends strands) {strand : Strand α} (among : strand ∈ strands)
    {v : α} (done : strand.value? = some v) :
    v = value := by
  induction h with
  | nil => cases among
  | @cons held lends held' lends' strand' rest first tail ih =>
    rcases List.mem_cons.mp among with rfl | among
    · cases strand with
      | done v' =>
        obtain ⟨rfl, -, -⟩ := first.of_done
        simpa [Strand.value?] using done.symm
      | step change next => cases done
    · exact ih among

end Accounts

/-- Threads in the midst of walking the units of a shared store, `n` of them from the start. -/
structure SharedWalk (t : Tables) (settings : MemorySettings) (n : Nat) (start : Ledger)
    (s : Threads (Nat × Nat)) : Prop where
  /-- Each thread that is done has counted all names, and as a walk alone counts. -/
  counted : ∀ strand ∈ s.strands, ∀ counts, strand.value? = some counts →
    counts.1 = (t.unitNames false).length ∧
      ∀ l, counts = ((t.engine settings).walkUnits l).1
  peak : start.peakUnits ≤ s.ledger.peakUnits ∧
    s.ledger.peakUnits ≤ max start.peakUnits (n + start.counters.units)
  /-- When all are done, nothing more is out than at the start, and each name was lent to each. -/
  finished : s.Finished →
    Moved (n + start.counters.units) start 0 (n * (t.unitNames false).length) s.ledger

theorem sharedWalk (t : Tables) (settings : MemorySettings) (n : Nat) (start : Ledger)
    (schedule : List Nat) : SharedWalk t settings n start
      ((Threads.mk start (List.replicate n t.walkStrand)).run schedule) := by
  have paced : Strand.Paced (n + start.counters.units) t.walkCounts 0 0
      (t.unitNames false).length t.walkStrand := .walkStrand t
  have fresh : Accounts (n + start.counters.units) t.walkCounts 0
      (n * (t.unitNames false).length)
      (Threads.mk start (List.replicate n t.walkStrand)).strands := .replicate paced n
  have still : Moved (n + start.counters.units) start 0 0 start :=
    ⟨rfl, rfl, rfl, rfl, Nat.le_refl _, Nat.le_max_left _ _, rfl, rfl⟩
  have room : start.counters.units +
      (Threads.mk start (List.replicate n t.walkStrand)).strands.length ≤
        n + start.counters.units := by
    simp [Nat.add_comm]
  obtain ⟨held, lends, lent, accounts, moved, sum⟩ := fresh.run still room schedule
  refine ⟨fun strand among counts done => ?_, ⟨moved.above, moved.within⟩, fun finished => ?_⟩
  · have same := accounts.eq_of_done among done
    refine ⟨by simp [same, Tables.walkCounts, Tables.tryCounts], fun l => ?_⟩
    rw [same, Tables.walkUnits_fst]
  · obtain ⟨rfl, rfl⟩ := accounts.finished finished
    have all : lent = n * (t.unitNames false).length := by omega
    rw [← all]
    exact moved

section Sharing

open Session

variable {α β : Type} {t : Tables} {settings : MemorySettings}

structure SameStores (s s' : Session) : Prop where
  library : s'.library = s.library
  stores : s'.stores = s.stores
  count : s'.ledger.counters.stores = s.ledger.counters.stores

/-- Work on a session over an engine in memory that leaves the stores alone. -/
def SparesStores (t : Tables) (settings : MemorySettings) (work : SessionM α) : Prop :=
  ∀ s, s.library.engine = t.engine settings → SameStores s (work s).2

theorem SparesStores.bind {work : SessionM α} {next : α → SessionM β}
    (first : SparesStores t settings work) (second : ∀ a, SparesStores t settings (next a)) :
    SparesStores t settings (work >>= next) := by
  intro s memory
  have before := first s memory
  have after := second (work s).1 (work s).2 (by rw [before.library, memory])
  exact ⟨after.library.trans before.library, after.stores.trans before.stores,
    after.count.trans before.count⟩

theorem sparesStores_pure (a : α) : SparesStores t settings (pure a : SessionM α) :=
  fun _ _ => ⟨rfl, rfl, rfl⟩

theorem sparesStores_get {next : Session → SessionM β}
    (further : ∀ s, SparesStores t settings (next s)) : SparesStores t settings (get >>= next) :=
  fun s memory => further s s memory

theorem sparesStores_engine {next : Engine → SessionM β}
    (further : SparesStores t settings (next (t.engine settings))) :
    SparesStores t settings (engine >>= next) := by
  intro s memory
  rw [← memory] at further
  exact further s memory

theorem sparesStores_access {work : Access α}
    (spares : ∀ l, (work l).2.counters.stores = l.counters.stores) :
    SparesStores t settings (access work) :=
  fun s _ => ⟨rfl, rfl, spares s.ledger⟩

/-- Closing things one by one spares the stores if closing each does. -/
theorem closeEach_stores {close : α → Access Unit}
    (spares : ∀ opened l, (close opened l).2.counters.stores = l.counters.stores)
    (opened : List α) (l : Ledger) :
    (closeEach close opened l).2.counters.stores = l.counters.stores := by
  induction opened generalizing l with
  | nil => rfl
  | cons first rest ih => rw [closeEach, bind_apply, ih, spares]

theorem closeRecords_spares (gone : HeldRecord → Bool) :
    SparesStores t settings (closeRecords gone) := by
  refine sparesStores_engine (sparesStores_get fun s => ?_)
  refine (sparesStores_access (closeEach_stores (fun _ _ => rfl) _)).bind fun _ => ?_
  exact fun _ _ => ⟨rfl, rfl, rfl⟩

theorem closeUnit_spares (slot : String) : SparesStores t settings (Session.closeUnit slot) := by
  refine sparesStores_get fun s => ?_
  cases s.units.get? slot with
  | none => exact sparesStores_pure false
  | some held =>
    refine SparesStores.bind ?_ fun _ => ?_
    · exact (closeRecords_spares _).bind fun _ _ _ => ⟨rfl, rfl, rfl⟩
    · refine sparesStores_engine ((sparesStores_access fun l => rfl).bind fun _ _ _ => ?_)
      exact ⟨rfl, rfl, rfl⟩

theorem closeUnits_spares (slots : List String) :
    SparesStores t settings (closeUnits slots) := by
  induction slots with
  | nil => exact sparesStores_pure _
  | cons slot rest ih => exact (closeUnit_spares slot).bind fun _ => ih

theorem closeDependentsOfStore_spares (slot : String) :
    SparesStores t settings (closeDependentsOfStore slot) := by
  refine sparesStores_get fun s => (closeUnits_spares _).bind fun _ => ?_
  exact (closeRecords_spares _).bind fun _ _ _ => ⟨rfl, rfl, rfl⟩

/-- A store is released when it is closed. -/
theorem closeStore_releases {s : Session} (memory : s.library.engine = t.engine settings)
    {slot : String} {held : HeldStore} (found : s.stores.get? slot = some held) :
    (Session.closeStore slot s).2.stores.get? slot = none ∧
      (Session.closeStore slot s).2.ledger.counters.stores = s.ledger.counters.stores - 1 := by
  have spared := closeDependentsOfStore_spares slot s memory
  have run : (Session.closeStore slot s).2 =
      let s' := (closeDependentsOfStore slot s).2
      { s' with
        ledger := (held.store.close s'.library.engine s'.ledger).2
        stores := s'.stores.erase slot } := by
    simp only [Session.closeStore, bind_apply, get_apply, found]
    rfl
  rw [run]
  refine ⟨Slots.get?_erase _ slot, ?_⟩
  rw [← spared.count]
  simp only [spared.library, memory]
  rfl

/-- What sharing makes of a store of a session that is not shared yet. -/
structure Shares (t : Tables) (s : Session) : Prop where
  /-- Without concurrent reads it fails, and the store is gone and released. -/
  refused : s.library.concurrentReads = false → ∀ {slot : String} {held : HeldStore},
    s.stores.get? slot = some held → held.shared = false → ∀ threads : Nat,
      (share slot threads s).1 = .error (.store .notShareable) ∧
      (share slot threads s).2.stores.get? slot = none ∧
      (share slot threads s).2.ledger.counters.stores = s.ledger.counters.stores - 1
  /-- With them it stays open, and each thread counts like a walk alone. -/
  shared : s.library.concurrentReads = true → ∀ {slot : String} {held : HeldStore},
    s.stores.get? slot = some held → held.shared = false → ∀ threads : Nat,
      (share slot threads s).1 = .ok (held.store, List.replicate threads t.walkCounts) ∧
      (share slot threads s).2.stores.get? slot = some ⟨held.store, true⟩

/-- Sharing a store that is not shared, once what was got through it is closed. -/
theorem share_run {s : Session} {slot : String} {held : HeldStore}
    (found : s.stores.get? slot = some held) (alone : held.shared = false) (threads : Nat) :
    share slot threads s = (do
      if !(← get).library.concurrentReads then
        let _ ← Session.closeStore slot
        pure (.error (.store .notShareable))
      else
        modify fun s => { s with
          stores := s.stores.put slot ⟨held.store, true⟩
          peakKnown := s.peakKnown && threads ≤ 1 }
        let counts ← access (walkThreads (← engine) threads)
        pure (.ok (held.store, counts)) :
        SessionM (Except SessionFault (Store × List (Nat × Nat))))
      (closeDependentsOfStore slot s).2 := by
  simp only [share, bind_apply, get_apply, found, alone]
  rfl

theorem shares {s : Session} (memory : s.library.engine = t.engine settings) : Shares t s := by
  refine ⟨fun exclusive slot held found alone threads => ?_,
    fun concurrent slot held found alone threads => ?_⟩
  · have spared := closeDependentsOfStore_spares slot s memory
    rw [← spared.library] at memory exclusive
    rw [← spared.stores] at found
    have released := closeStore_releases memory found
    rw [share_run (by rw [← spared.stores]; exact found) alone, bind_apply, get_apply, exclusive,
      ← spared.count]
    exact ⟨rfl, released⟩
  · have spared := closeDependentsOfStore_spares slot s memory
    rw [← spared.library] at memory concurrent
    rw [share_run found alone, bind_apply, get_apply, concurrent]
    have counts := t.walkThreads_fst settings threads (closeDependentsOfStore slot s).2.ledger
    rw [← memory] at counts
    refine ⟨?_, Slots.get?_put _ slot _⟩
    rw [← counts]
    rfl

end Sharing

/-- Threads that walk the units of one shared store in memory lose no update under any schedule,
and any schedule can be carried on to the end. The strand of a thread is the walk of the engine, cut
at its atomic changes. A store without concurrent reads is not shared but closed. -/
theorem shared_walks_balanced :
    (∀ (t : Tables) (settings : MemorySettings) (n : Nat) (start : Ledger) (schedule : List Nat),
      let s := (Threads.mk start (List.replicate n t.walkStrand)).run schedule
      SharedWalk t settings n start s ∧ ∃ more, (s.run more).Finished) ∧
    ∀ (t : Tables) (settings : MemorySettings),
      t.walkStrand.run = (t.engine settings).walkUnits ∧
      ∀ (s : Session) (path : Option Path) (concurrentReads : Bool),
        Shares t { s with library := ⟨t.engine settings, path, concurrentReads⟩ } := by
  refine ⟨fun t settings n start schedule => ?_, fun t settings => ?_⟩
  · exact ⟨sharedWalk t settings n start schedule, Threads.finishes _⟩
  · exact ⟨t.run_walkStrand settings, fun s path concurrentReads => shares rfl⟩

end CodeIndex
