import CodeIndex.Engine.Ledger
/-!
# Strands

Several threads may work on one engine at once. The work of a thread is a strand: it is cut at the
atomic changes of the ledger, and between two of its own changes the other threads may make any
number of theirs. A schedule says whose turn it is. Every schedule can be carried on until all
threads are done, and a strand alone is plain work on the engine.
-/
namespace CodeIndex

inductive Strand (α : Type) where
  | done (value : α)
  /-- An atomic change of the ledger; the strand goes on by what it found there. -/
  | step (change : Ledger → Ledger) (next : Ledger → Strand α)

namespace Strand

variable {α β : Type}

/-- One strand behind the other. -/
def bind : Strand α → (α → Strand β) → Strand β
  | .done value, f => f value
  | .step change next, f => .step change fun found => (next found).bind f

instance : Monad Strand where
  pure := .done
  bind := .bind

/-- A single change, and what is told of the ledger it found. -/
def atomic (change : Ledger → Ledger) (told : Ledger → α) : Strand α :=
  .step change fun found => .done (told found)

def value? : Strand α → Option α
  | .done value => some value
  | .step _ _ => none

def run : Strand α → Access α
  | .done value => pure value
  | .step change next => fun l => (next l).run (change l)

@[simp] theorem run_pure (value : α) : (pure value : Strand α).run = pure value := rfl

@[simp] theorem run_bind (strand : Strand α) (f : α → Strand β) :
    (strand >>= f).run = strand.run >>= fun value => (f value).run := by
  induction strand with
  | done value => rfl
  | step change next ih =>
    funext l
    exact congrFun (ih l) (change l)

end Strand

structure Threads (α : Type) where
  ledger : Ledger
  strands : List (Strand α)

namespace Threads

variable {α : Type}

/-- One more change of the strand in a place of a list, if it is not done. -/
def advance (l : Ledger) : List (Strand α) → (turn : Nat) → Ledger × List (Strand α)
  | [], _ => (l, [])
  | .done value :: rest, 0 => (l, .done value :: rest)
  | .step change next :: rest, 0 => (change l, next l :: rest)
  | strand :: rest, turn + 1 =>
    let after := advance l rest turn
    (after.1, strand :: after.2)

def turn (s : Threads α) (turn : Nat) : Threads α :=
  let after := advance s.ledger s.strands turn
  ⟨after.1, after.2⟩

def run (s : Threads α) (schedule : List Nat) : Threads α := schedule.foldl Threads.turn s

def Finished (s : Threads α) : Prop := ∀ strand ∈ s.strands, strand.value?.isSome

theorem run_append (s : Threads α) (schedule more : List Nat) :
    s.run (schedule ++ more) = (s.run schedule).run more :=
  List.foldl_append

/-- The turns of all but the first thread leave the first alone. -/
theorem run_later (l : Ledger) (strand : Strand α) (rest : List (Strand α)) (schedule : List Nat) :
    (Threads.mk l (strand :: rest)).run (schedule.map (· + 1)) =
      let after := (Threads.mk l rest).run schedule
      ⟨after.ledger, strand :: after.strands⟩ := by
  induction schedule generalizing l rest with
  | nil => rfl
  | cons i schedule ih =>
    have first : (Threads.mk l (strand :: rest)).turn (i + 1) =
        ⟨(advance l rest i).1, strand :: (advance l rest i).2⟩ := by
      cases strand <;> rfl
    rw [List.map_cons, run, List.foldl_cons, first]
    exact ih _ _

/-- A thread that always has its turn comes to what its strand alone comes to. -/
theorem run_first (strand : Strand α) (rest : List (Strand α)) (l : Ledger) : ∃ turns,
    (Threads.mk l (strand :: rest)).run (List.replicate turns 0) =
      ⟨(strand.run l).2, .done (strand.run l).1 :: rest⟩ := by
  induction strand generalizing l with
  | done value => exact ⟨0, rfl⟩
  | step change next ih =>
    obtain ⟨turns, done⟩ := ih l (change l)
    exact ⟨turns + 1, done⟩

/-- Threads can always come to an end. -/
theorem finishes (s : Threads α) : ∃ schedule, (s.run schedule).Finished := by
  obtain ⟨l, strands⟩ := s
  induction strands generalizing l with
  | nil => exact ⟨[], by simp [Finished, run]⟩
  | cons strand rest ih =>
    obtain ⟨turns, first⟩ := run_first strand rest l
    obtain ⟨schedule, finished⟩ := ih (strand.run l).2
    refine ⟨List.replicate turns 0 ++ schedule.map (· + 1), ?_⟩
    rw [run_append, first, run_later]
    intro strand' among
    rcases List.mem_cons.mp among with rfl | among
    · rfl
    · exact finished strand' among

end Threads

end CodeIndex
