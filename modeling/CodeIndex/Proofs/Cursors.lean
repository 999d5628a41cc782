import CodeIndex.Proofs.Traversals
import CodeIndex.Store.Cursor
/-!
# What a pull does

Cursors over units and over records work alike: the first pull gathers all names with one full
enumeration, and each pull opens what the next name stands for. A kind of cursor says what is
gathered and how a name is opened, and carries the law that a pull does this and nothing else.
-/
namespace CodeIndex

structure CursorKind (κ ν γ : Type) where
  next : κ → Access (Option γ × κ)
  /-- The names still to open, once they are gathered. -/
  pending : κ → Option (List ν)
  /-- The names that the first pull gathers. -/
  names : κ → List ν
  /-- How many items are lent to gather them. -/
  lent : κ → Nat
  /-- Opens what a name stands for. -/
  attempt : ν → Access γ
  /-- The cursor when these names are still to open. -/
  keep : κ → List ν → κ
  pending_keep : ∀ c left, pending (keep c left) = some left
  names_keep : ∀ c left, names (keep c left) = names c
  lent_keep : ∀ c left, lent (keep c left) = lent c
  next_apply : ∀ c l, next c l =
    let gathered := if (pending c).isNone then l.lendMany (lent c) else l
    match (pending c).getD (names c) with
    | [] => ((none, keep c []), gathered)
    | name :: rest =>
      let opened := attempt name gathered
      ((some opened.1, keep c rest), opened.2)

namespace CursorKind

variable {κ ν γ : Type} (k : CursorKind κ ν γ)

/-- The names that a cursor has still to open, gathered or not. -/
def left (c : κ) : List ν := (k.pending c).getD (k.names c)

def gathered (c : κ) (l : Ledger) : Ledger :=
  if (k.pending c).isNone then l.lendMany (k.lent c) else l

@[simp] theorem left_keep (c : κ) (names : List ν) : k.left (k.keep c names) = names := by
  simp [left, k.pending_keep]

/-- A pull when nothing is left. -/
theorem next_nil {c : κ} (h : k.left c = []) (l : Ledger) :
    k.next c l = ((none, k.keep c []), k.gathered c l) := by
  rw [left] at h
  rw [k.next_apply, h]
  rfl

/-- A pull opens the next name. -/
theorem next_cons {c : κ} {name : ν} {rest : List ν} (h : k.left c = name :: rest) (l : Ledger) :
    k.next c l = ((some (k.attempt name (k.gathered c l)).1, k.keep c rest),
      (k.attempt name (k.gathered c l)).2) := by
  rw [left] at h
  rw [k.next_apply, h]
  rfl

section Draining

variable {σ δ : Type} {seen : γ → δ} {outcome : ν → δ}

/-- Pulls a cursor until it gives nothing, at most `limit` times, with some work on each outcome
before the next pull: the outcomes, and whether it came to the end. -/
def drain (work : γ → StateT σ Access Unit) : (limit : Nat) → κ → StateT σ Access (List γ × Bool)
  | 0, _ => pure ([], false)
  | limit + 1, c => do
    let (pulled, c) ← k.next c
    match pulled with
    | none => pure ([], true)
    | some pulled => do
      work pulled
      let (rest, ended) ← drain work limit c
      pure (pulled :: rest, ended)

/-- A pull and what follows it, with the state beside. -/
theorem run_next {α : Type} (c : κ) (f : Option γ × κ → StateT σ Access α) (s : σ) (l : Ledger) :
    ((liftM (k.next c) : StateT σ Access _) >>= f).run s l =
      (f (k.next c l).1).run s (k.next c l).2 := rfl

/-- When openings always come to the same, draining gives what is left, whatever work lies
between. -/
theorem drain_outcomes (steady : ∀ name l, seen (k.attempt name l).1 = outcome name)
    (work : γ → StateT σ Access Unit) (limit : Nat) (c : κ) (s : σ) (l : Ledger) :
    let drained := ((k.drain work limit c).run s l).1.1
    drained.1.map seen = ((k.left c).map outcome).take limit ∧
      drained.2 = decide ((k.left c).length < limit) := by
  induction limit generalizing c s l with
  | zero => exact ⟨rfl, rfl⟩
  | succ limit ih =>
    rw [drain, run_next]
    cases left : k.left c with
    | nil => simp [k.next_nil left]
    | cons name rest =>
      rw [k.next_cons left]
      have opened := steady name (k.gathered c l)
      generalize k.attempt name (k.gathered c l) = attempt at opened
      rcases worked : (work attempt.1).run s attempt.2 with ⟨⟨⟨⟩, s'⟩, l'⟩
      obtain ⟨outcomes, ended⟩ := ih (k.keep c rest) s' l'
      rw [k.left_keep] at outcomes ended
      simp only [StateT.run_bind, bind_apply, worked, StateT.run_pure, pure_apply]
      simp [opened, outcomes, ended]

end Draining

end CursorKind

/-- The first gathering takes all names with one enumeration. -/
theorem UnitCursor.gather_new (e : Engine) (sorted : Bool) (l : Ledger) :
    (UnitCursor.mk sorted none).gather e l =
      ((e.unitNames sorted).map Engine.readName, l.lendMany (e.unitNames sorted).length) :=
  (e.names sorted).mapCollect_pure Engine.readName l

/-- The first gathering walks all dependencies and keeps those on records. -/
theorem RecordCursor.gather_new (e : Engine) (unit : OpenUnit) (l : Ledger) :
    (RecordCursor.mk unit none).gather e l =
      (unit.reader.dependencies.filterMap Dependency.recordName?,
        l.lendMany unit.reader.dependencies.length) := by
  simp only [RecordCursor.gather, bind_apply, Lending.toList_apply]
  rfl

def Engine.unitCursors (e : Engine) :
    CursorKind UnitCursor (Except Fault String) (Except Fault OpenUnit) where
  next := UnitCursor.next e
  pending := UnitCursor.pending
  names c := (e.unitNames c.sorted).map Engine.readName
  lent c := (e.unitNames c.sorted).length
  attempt := e.openNamedUnit
  keep c left := { c with pending := some left }
  pending_keep _ _ := rfl
  names_keep _ _ := rfl
  lent_keep _ _ := rfl
  next_apply c l := by
    rcases c with ⟨sorted, _ | names⟩
    · rw [UnitCursor.next, bind_apply, UnitCursor.gather_new]
      cases (e.unitNames sorted).map Engine.readName <;> rfl
    · cases names <;> rfl

def Engine.recordCursors (e : Engine) :
    CursorKind RecordCursor RecordName (Except Fault OpenRecord) where
  next := RecordCursor.next e
  pending := RecordCursor.pending
  names c := c.unit.reader.dependencies.filterMap Dependency.recordName?
  lent c := c.unit.reader.dependencies.length
  attempt record := e.openRecord record.1 (some record.2)
  keep c left := { c with pending := some left }
  pending_keep _ _ := rfl
  names_keep _ _ := rfl
  lent_keep _ _ := rfl
  next_apply c l := by
    rcases c with ⟨unit, _ | names⟩
    · rw [RecordCursor.next, bind_apply, RecordCursor.gather_new]
      cases unit.reader.dependencies.filterMap Dependency.recordName? <;> rfl
    · cases names <;> rfl

end CodeIndex
