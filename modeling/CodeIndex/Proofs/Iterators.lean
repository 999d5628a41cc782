import CodeIndex.Engine.Tables
import CodeIndex.Proofs.Cursors
/-!
# Iterators side by side

Any number of cursors over units and records may be in use at once, pulled in any order and with any
other work on the engine between the pulls. Each is told by itself all the same: what its next pull
does goes by how often it was pulled before. The first pull gathers, each pull opens the one reader
it gives, and once the names are used up a pull does nothing.
-/
namespace CodeIndex

/-- A pull, with the ledger around it. -/
structure Pull (γ : Type) where
  before : Ledger
  outcome : Option γ
  after : Ledger

/-- A cursor with the pulls made so far, the first in front. -/
structure Iterator (κ γ : Type) where
  cursor : κ
  pulls : List (Pull γ) := []

section Kind

variable {κ ν γ : Type}

/-- What a pull does after `pulls` earlier ones: what it gives, and the ledger behind it. -/
def CursorKind.nth (k : CursorKind κ ν γ) (c : κ) (pulls : Nat) (before : Ledger) :
    Option γ × Ledger :=
  let gathered := if pulls = 0 then before.lendMany (k.lent c) else before
  match (k.names c)[pulls]? with
  | none => (none, gathered)
  | some name =>
    let opened := k.attempt name gathered
    (some opened.1, opened.2)

namespace Iterator

def pull (k : CursorKind κ ν γ) (it : Iterator κ γ) (l : Ledger) : Iterator κ γ × Ledger :=
  let after := k.next it.cursor l
  (⟨after.1.2, it.pulls ++ [⟨l, after.1.1, after.2⟩]⟩, after.2)

def pullAt (k : CursorKind κ ν γ) (its : List (Iterator κ γ)) (i : Nat) (l : Ledger) :
    List (Iterator κ γ) × Ledger :=
  match its[i]? with
  | none => (its, l)
  | some it => (its.set i (it.pull k l).1, (it.pull k l).2)

/-- The cursor has still to open what its pulls have left, and each pull did what it does after so
many. -/
structure Regular (k : CursorKind κ ν γ) (it : Iterator κ γ) : Prop where
  pending : k.pending it.cursor =
    if it.pulls.length = 0 then none else some ((k.names it.cursor).drop it.pulls.length)
  pulls : ∀ j p, it.pulls[j]? = some p → (p.outcome, p.after) = k.nth it.cursor j p.before

variable {k : CursorKind κ ν γ} {it : Iterator κ γ}

theorem Regular.left (h : it.Regular k) :
    k.left it.cursor = (k.names it.cursor).drop it.pulls.length := by
  rw [CursorKind.left, h.pending]
  split
  · rename_i none
    rw [none, List.drop_zero]
    rfl
  · rfl

theorem Regular.gathered (h : it.Regular k) (l : Ledger) : k.gathered it.cursor l =
    if it.pulls.length = 0 then l.lendMany (k.lent it.cursor) else l := by
  rw [CursorKind.gathered, h.pending]
  split <;> simp_all

/-- A pull does what is left for it to do. -/
theorem Regular.next (h : it.Regular k) (l : Ledger) :
    k.next it.cursor l =
      let did := k.nth it.cursor it.pulls.length l
      ((did.1, k.keep it.cursor ((k.names it.cursor).drop (it.pulls.length + 1))), did.2) := by
  have left := h.left
  have gathered := h.gathered l
  rw [CursorKind.nth]
  cases found : (k.names it.cursor)[it.pulls.length]? with
  | none =>
    have short := List.getElem?_eq_none_iff.mp found
    rw [List.drop_eq_nil_of_le short] at left
    rw [k.next_nil left, gathered, List.drop_eq_nil_of_le (by omega)]
  | some name =>
    obtain ⟨inside, here⟩ := List.getElem?_eq_some_iff.mp found
    rw [List.drop_eq_getElem_cons inside, here] at left
    rw [k.next_cons left, gathered]

/-- Pulling keeps an iterator regular. -/
theorem Regular.pull (h : it.Regular k) (l : Ledger) : (it.pull k l).1.Regular k := by
  have next := h.next l
  have cursor : (it.pull k l).1.cursor =
      k.keep it.cursor ((k.names it.cursor).drop (it.pulls.length + 1)) := by
    rw [Iterator.pull, next]
  have same (j : Nat) (before : Ledger) :
      k.nth (it.pull k l).1.cursor j before = k.nth it.cursor j before := by
    rw [cursor, CursorKind.nth, CursorKind.nth, k.names_keep, k.lent_keep]
  have pulls : (it.pull k l).1.pulls = it.pulls ++ [⟨l, (k.next it.cursor l).1.1,
      (k.next it.cursor l).2⟩] := rfl
  refine ⟨?_, fun j p found => ?_⟩
  · rw [pulls, cursor, k.pending_keep, k.names_keep]
    simp
  · rw [same]
    rw [pulls] at found
    rcases Nat.lt_trichotomy j it.pulls.length with earlier | rfl | beyond
    · rw [List.getElem?_append_left earlier] at found
      exact h.pulls j p found
    · rw [List.getElem?_concat_length] at found
      cases found
      rw [next]
    · rw [List.getElem?_eq_none (by simp; omega)] at found
      cases found

/-- What an iterator enumerates, how many items that lends, and how often it was pulled. -/
def standing (k : CursorKind κ ν γ) (it : Iterator κ γ) : List ν × Nat × Nat :=
  (k.names it.cursor, k.lent it.cursor, it.pulls.length)

theorem standing_pull (l : Ledger) : (it.pull k l).1.standing k =
    (k.names it.cursor, k.lent it.cursor, it.pulls.length + 1) := by
  have cursor : ∃ rest, (it.pull k l).1.cursor = k.keep it.cursor rest := by
    cases left : k.left it.cursor with
    | nil => exact ⟨[], congrArg (·.1.2) (k.next_nil left l)⟩
    | cons name rest => exact ⟨rest, congrArg (·.1.2) (k.next_cons left l)⟩
  obtain ⟨rest, cursor⟩ := cursor
  rw [standing, cursor, k.names_keep, k.lent_keep]
  simp [Iterator.pull]

/-- More iterators leave those before them alone. -/
theorem standing_append {its : List (Iterator κ γ)} {i : Nat} {stands : List ν × Nat × Nat}
    (found : its[i]?.map (standing k) = some stands) (more : List (Iterator κ γ)) :
    (its ++ more)[i]?.map (standing k) = some stands := by
  cases here : its[i]? with
  | none => simp [here] at found
  | some it =>
    obtain ⟨inside, -⟩ := List.getElem?_eq_some_iff.mp here
    rw [List.getElem?_append_left inside, found]

/-- Pulling one of several iterators leaves the others alone. -/
theorem standing_pullAt {its : List (Iterator κ γ)} {i : Nat} {names : List ν} {lent pulls : Nat}
    (found : its[i]?.map (standing k) = some (names, lent, pulls)) (j : Nat) (l : Ledger) :
    (pullAt k its j l).1[i]?.map (standing k) =
      some (names, lent, pulls + if j = i then 1 else 0) := by
  rw [Iterator.pullAt]
  by_cases same : j = i
  · subst same
    cases here : its[j]? with
    | none => simp [here] at found
    | some it =>
      obtain ⟨inside, -⟩ := List.getElem?_eq_some_iff.mp here
      rw [here, Option.map_some, Option.some.injEq, standing, Prod.mk.injEq,
        Prod.mk.injEq] at found
      obtain ⟨rfl, rfl, rfl⟩ := found
      simp [inside, standing_pull]
  · rw [if_neg same, Nat.add_zero, ← found]
    cases its[j]? with
    | none => rfl
    | some it => simp [List.getElem?_set_ne same]

theorem Regular.pullAt {its : List (Iterator κ γ)} (h : ∀ it ∈ its, it.Regular k) (i : Nat)
    (l : Ledger) : ∀ it ∈ (pullAt k its i l).1, it.Regular k := by
  intro it among
  rw [Iterator.pullAt] at among
  split at among
  · exact h it among
  · rename_i pulled found
    rcases List.mem_or_eq_of_mem_set among with before | rfl
    · exact h it before
    · exact (h pulled (List.mem_of_getElem? found)).pull l

/-- A new iterator is regular. -/
theorem Regular.append {its : List (Iterator κ γ)} (h : ∀ it ∈ its, it.Regular k) {c : κ}
    (fresh : k.pending c = none) : ∀ it ∈ its ++ [⟨c, []⟩], it.Regular k := by
  intro it among
  rcases List.mem_append.mp among with before | new
  · exact h it before
  · rw [List.mem_singleton.mp new]
    exact ⟨fresh, fun _ _ found => by cases found⟩

end Iterator

/-- Openings that always come to the same and do nothing but count what opens. -/
def CursorKind.Counts {ρ : Type} (k : CursorKind κ ν (Except Fault ρ)) (opened : ν → Except Fault ρ)
    (count : Counters → Counters) : Prop :=
  ∀ name l, k.attempt name l =
    (opened name, if (opened name).isOk then { l with counters := count l.counters } else l)

/-- What the pull of an iterator after `pulls` earlier ones does when openings only count. -/
structure Pull.Exact {ρ : Type} (k : CursorKind κ ν (Except Fault ρ)) (opened : ν → Except Fault ρ)
    (count : Counters → Counters) (c : κ) (pulls : Nat) (p : Pull (Except Fault ρ)) : Prop where
  outcome : p.outcome = ((k.names c).map opened)[pulls]?
  callbacks : p.after.callbacks = p.before.callbacks + if pulls = 0 then k.lent c else 0
  counters : p.after.counters = match p.outcome with
    | some (.ok _) => count p.before.counters
    | _ => p.before.counters
  objects : p.after.objects = p.before.objects

theorem Iterator.Regular.exact {ρ : Type} {k : CursorKind κ ν (Except Fault ρ)}
    {opened : ν → Except Fault ρ} {count : Counters → Counters} (counts : k.Counts opened count)
    {it : Iterator κ (Except Fault ρ)} (h : it.Regular k) (j : Nat) (p : Pull (Except Fault ρ))
    (found : it.pulls[j]? = some p) : p.Exact k opened count it.cursor j := by
  have did := h.pulls j p found
  rw [CursorKind.nth] at did
  -- Gathering changes nothing but the items lent.
  have gathered : (if j = 0 then p.before.lendMany (k.lent it.cursor) else p.before) =
      p.before.lendMany (if j = 0 then k.lent it.cursor else 0) := by
    split <;> rfl
  rw [gathered] at did
  cases name : (k.names it.cursor)[j]? with
  | none =>
    simp only [name, Prod.mk.injEq] at did
    obtain ⟨outcome, after⟩ := did
    refine ⟨by simp [outcome, name], ?_, ?_, ?_⟩
    · rw [after]
      rfl
    · rw [after, outcome]
      rfl
    · rw [after]
      rfl
  | some name' =>
    simp only [name, counts name' _, Prod.mk.injEq] at did
    obtain ⟨outcome, after⟩ := did
    refine ⟨by simp [outcome, name], ?_, ?_, ?_⟩
    · rw [after]
      split <;> rfl
    · rw [after, outcome]
      cases opened name' <;> rfl
    · rw [after]
      split <;> rfl

end Kind

structure Reading where
  ledger : Ledger
  units : List (Iterator UnitCursor (Except Fault OpenUnit)) := []
  records : List (Iterator RecordCursor (Except Fault OpenRecord)) := []

inductive Move where
  /-- It makes an iterator over the units. -/
  | units (sorted : Bool)
  /-- It makes an iterator over the records of a unit. -/
  | records (unit : OpenUnit)
  | pullUnits (i : Nat)
  | pullRecords (i : Nat)
  /-- It does anything else with the engine. -/
  | other (work : Access Unit)

def Reading.move (e : Engine) (s : Reading) : Move → Reading
  | .units sorted => { s with units := s.units ++ [⟨⟨sorted, none⟩, []⟩] }
  | .records unit => { s with records := s.records ++ [⟨⟨unit, none⟩, []⟩] }
  | .pullUnits i =>
    let after := Iterator.pullAt e.unitCursors s.units i s.ledger
    { s with units := after.1, ledger := after.2 }
  | .pullRecords i =>
    let after := Iterator.pullAt e.recordCursors s.records i s.ledger
    { s with records := after.1, ledger := after.2 }
  | .other work => { s with ledger := (work s.ledger).2 }

def Reading.run (e : Engine) (s : Reading) (moves : List Move) : Reading :=
  moves.foldl (Reading.move e) s

def Move.pullsUnits (i : Nat) : Move → Bool
  | .pullUnits j => j = i
  | _ => false

def Move.pullsRecords (i : Nat) : Move → Bool
  | .pullRecords j => j = i
  | _ => false

section Standing

variable {e : Engine} {s : Reading} {i lent pulls : Nat}

theorem Reading.units_move {names : List (Except Fault String)}
    (found : s.units[i]?.map (·.standing e.unitCursors) = some (names, lent, pulls)) (m : Move) :
    (s.move e m).units[i]?.map (·.standing e.unitCursors) =
      some (names, lent, pulls + if m.pullsUnits i then 1 else 0) := by
  cases m with
  | units sorted => exact Iterator.standing_append found _
  | pullUnits j => simpa [Reading.move, Move.pullsUnits] using Iterator.standing_pullAt found j _
  | records unit => exact found
  | pullRecords j => exact found
  | other work => exact found

theorem Reading.records_move {names : List RecordName}
    (found : s.records[i]?.map (·.standing e.recordCursors) = some (names, lent, pulls))
    (m : Move) :
    (s.move e m).records[i]?.map (·.standing e.recordCursors) =
      some (names, lent, pulls + if m.pullsRecords i then 1 else 0) := by
  cases m with
  | records unit => exact Iterator.standing_append found _
  | pullRecords j =>
    simpa [Reading.move, Move.pullsRecords] using Iterator.standing_pullAt found j _
  | units sorted => exact found
  | pullUnits j => exact found
  | other work => exact found

/-- What each move adds to the pulls of an iterator, moves add up. -/
theorem Reading.standing_run {ν : Type} {names : List ν}
    (stands : Reading → Option (List ν × Nat × Nat)) {pulled : Move → Bool}
    (step : ∀ {s pulls}, stands s = some (names, lent, pulls) → ∀ m,
      stands (s.move e m) = some (names, lent, pulls + if pulled m then 1 else 0))
    (found : stands s = some (names, lent, pulls)) (moves : List Move) :
    stands (s.run e moves) = some (names, lent, pulls + moves.countP pulled) := by
  induction moves generalizing s pulls with
  | nil => exact found
  | cons m rest ih =>
    rw [List.countP_cons, Nat.add_comm (rest.countP _), ← Nat.add_assoc]
    exact ih (step found m)

/-- An iterator that a move has made is pulled as often as the moves behind it say. -/
theorem Reading.standing_since {ν : Type} {names : List ν}
    (stands : Reading → Option (List ν × Nat × Nat)) {pulled : Move → Bool}
    (step : ∀ {s pulls}, stands s = some (names, lent, pulls) → ∀ m,
      stands (s.move e m) = some (names, lent, pulls + if pulled m then 1 else 0))
    {made : Move} (new : stands (s.move e made) = some (names, lent, 0)) (moves : List Move) :
    stands (s.run e (made :: moves)) = some (names, lent, moves.countP pulled) := by
  have ran := standing_run stands step new moves
  rw [Nat.zero_add] at ran
  exact ran

end Standing

structure Reading.Regular (e : Engine) (s : Reading) : Prop where
  units : ∀ it ∈ s.units, it.Regular e.unitCursors
  records : ∀ it ∈ s.records, it.Regular e.recordCursors

/-- A move keeps all iterators regular. -/
theorem Reading.Regular.move {e : Engine} {s : Reading} (h : s.Regular e) (m : Move) :
    (s.move e m).Regular e := by
  cases m with
  | units sorted => exact ⟨Iterator.Regular.append h.units rfl, h.records⟩
  | records unit => exact ⟨h.units, Iterator.Regular.append h.records rfl⟩
  | pullUnits i => exact ⟨Iterator.Regular.pullAt h.units i s.ledger, h.records⟩
  | pullRecords i => exact ⟨h.units, Iterator.Regular.pullAt h.records i s.ledger⟩
  | other work => exact ⟨h.units, h.records⟩

/-- So do any moves. -/
theorem Reading.Regular.run {e : Engine} {s : Reading} (h : s.Regular e) (moves : List Move) :
    (s.run e moves).Regular e := by
  induction moves generalizing s with
  | nil => exact h
  | cons m rest ih => exact ih (h.move m)

namespace Tables

def openedUnit (t : Tables) : Except Fault String → Except Fault OpenUnit
  | .error fault => .error fault
  | .ok name =>
    if hasNul name then .error (.unitOpen name "unit name contains a NUL byte")
    else match t.openUnit name with
      | .ok handle => .ok ⟨name, handle, t.unitReader handle⟩
      | .error message => .error (.unitOpen name message)

def openedRecord (t : Tables) (record : RecordName) : Except Fault OpenRecord :=
  if hasNul record.1 then .error (.recordOpen record.1 "record name contains a NUL byte")
  else match t.openRecord record.1 with
    | .ok handle => .ok ⟨record.1, handle, some record.2, t.recordReader handle⟩
    | .error message => .error (.recordOpen record.1 message)

variable (t : Tables) (settings : MemorySettings)

theorem counts_units :
    (t.engine settings).unitCursors.Counts t.openedUnit Counters.openUnit := by
  rintro (fault | name) l
  · rfl
  · simp only [Engine.unitCursors, Engine.openNamedUnit, Engine.openUnit, openedUnit]
    split
    · rfl
    · simp only [engine, bind_apply]
      cases t.openUnit name <;> rfl

theorem counts_records :
    (t.engine settings).recordCursors.Counts t.openedRecord Counters.openRecord := by
  rintro ⟨name, file⟩ l
  simp only [Engine.recordCursors, Engine.openRecord, openedRecord]
  split
  · rfl
  · simp only [engine, bind_apply]
    cases t.openRecord name <;> rfl

end Tables

theorem Reading.regular_run (e : Engine) (l : Ledger) (moves : List Move) :
    (Reading.run e ⟨l, [], []⟩ moves).Regular e :=
  Reading.Regular.run ⟨by simp, by simp⟩ moves

/-- Every pull over the engine in memory does exactly what it does after so many earlier ones. -/
structure Reading.Exact (t : Tables) (settings : MemorySettings) (s : Reading) : Prop where
  units : ∀ it ∈ s.units, ∀ (j : Nat) (p : Pull (Except Fault OpenUnit)), it.pulls[j]? = some p →
    p.Exact (t.engine settings).unitCursors t.openedUnit Counters.openUnit it.cursor j
  records : ∀ it ∈ s.records, ∀ (j : Nat) (p : Pull (Except Fault OpenRecord)),
    it.pulls[j]? = some p →
      p.Exact (t.engine settings).recordCursors t.openedRecord Counters.openRecord it.cursor j

/-- An iterator made after some moves enumerates what it was made for, and after any further moves
it was pulled as often as these have pulled it. -/
structure Reading.Followed (e : Engine) (s : Reading) (moves : List Move) : Prop where
  units (sorted : Bool) :
    (s.run e (.units sorted :: moves)).units[s.units.length]?.map (·.standing e.unitCursors) =
      some ((e.unitNames sorted).map Engine.readName, (e.unitNames sorted).length,
        moves.countP (·.pullsUnits s.units.length))
  records (unit : OpenUnit) :
    (s.run e (.records unit :: moves)).records[s.records.length]?.map
        (·.standing e.recordCursors) =
      some (unit.reader.dependencies.filterMap Dependency.recordName?,
        unit.reader.dependencies.length, moves.countP (·.pullsRecords s.records.length))

theorem Reading.followed (e : Engine) (s : Reading) (moves : List Move) : s.Followed e moves where
  units sorted := by
    have new : (s.move e (.units sorted)).units[s.units.length]?.map
        (·.standing e.unitCursors) =
        some ((e.unitNames sorted).map Engine.readName, (e.unitNames sorted).length, 0) := by
      rw [Reading.move, List.getElem?_concat_length]
      rfl
    exact standing_since
      (fun s' => s'.units[s.units.length]?.map (·.standing e.unitCursors)) units_move new moves
  records unit := by
    have new : (s.move e (.records unit)).records[s.records.length]?.map
        (·.standing e.recordCursors) =
        some (unit.reader.dependencies.filterMap Dependency.recordName?,
          unit.reader.dependencies.length, 0) := by
      rw [Reading.move, List.getElem?_concat_length]
      rfl
    exact standing_since
      (fun s' => s'.records[s.records.length]?.map (·.standing e.recordCursors)) records_move new
      moves

/-- Whatever a client does with an engine, every pull of every iterator does what it does after so
many earlier pulls of this one iterator. Over the engine in memory it gives the item in this place
of the iterator's own enumeration, lends only at the first pull, and counts only what it opens. -/
theorem iterators_independent :
    (∀ (e : Engine) (l : Ledger) (moves : List Move),
      let s := Reading.run e ⟨l, [], []⟩ moves
      s.Regular e ∧ ∀ further : List Move, s.Followed e further) ∧
    ∀ (t : Tables) (settings : MemorySettings) (l : Ledger) (moves : List Move),
      (Reading.run (t.engine settings) ⟨l, [], []⟩ moves).Exact t settings := by
  refine ⟨fun e l moves => ⟨Reading.regular_run e l moves, Reading.followed e _⟩,
    fun t settings l moves => ?_⟩
  have regular := Reading.regular_run (t.engine settings) l moves
  exact {
    units := fun it among => (regular.units it among).exact (t.counts_units settings)
    records := fun it among => (regular.records it among).exact (t.counts_records settings) }

end CodeIndex
