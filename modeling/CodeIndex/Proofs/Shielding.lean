import CodeIndex.Engine.Binding
import CodeIndex.Proofs.VisitorCalls
/-!
# Shielding

A native library must not see an applier raise. What an applier raises is kept, the traversal is
told to stop then and at each later call, whatever it makes of that, and the applier is left in
peace. When the traversal has returned on its own, what was kept is raised. Nothing of this is left
behind: what was walked over is open as before, and the next walk begins afresh.
-/
namespace CodeIndex

variable {α β ε σ : Type}

/-- A run of a traversal to its return: the items it offered with the answers to them, and what it
returned. -/
inductive Traversal.Runs : Traversal α → List (α × Bool) → Bool → Prop
  | done {finished : Bool} : Runs (.done finished) [] finished
  | offer {item : α} {next : Bool → Traversal α} {answer : Bool} {steps : List (α × Bool)}
      {finished : Bool} : Runs (next answer) steps finished →
      Runs (.offer item next) ((item, answer) :: steps) finished

/-- An applier that also notes the items it is called on, with what it says to them. -/
def recording (apply : α → StateM σ (Except ε Bool)) (item : α) :
    StateM (List (α × Except ε Bool) × σ) (Except ε Bool) := fun (calls, s) =>
  let (said, s') := apply item s
  (said, (calls ++ [(item, said)], s'))

/-- The answers of a shielded applier that is called on some items one after the other, with what it
keeps and the state it has come to. -/
inductive Answered (apply : α → StateM σ (Except ε Bool)) (start : σ) :
    List (α × Bool) → Option ε → σ → Prop
  | none : Answered apply start [] none start
  | next {steps : List (α × Bool)} {raised raised' : Option ε} {s s' : σ} {item : α}
      {answer : Bool} : Answered apply start steps raised s →
      (Traversal.shield apply item).run raised s = ((answer, raised'), s') →
      Answered apply start (steps ++ [(item, answer)]) raised' s'

def ownAnswer (step : α × Bool) : α × Except ε Bool := (step.1, .ok step.2)

/-- What a traversal is told, what its applier was called on and said, and what comes of it. Either
nothing was raised, and the traversal is told what the applier said. Or the last call of the applier
raised, and the traversal is told to stop from there on. -/
inductive Shielded : List (α × Bool) → List (α × Except ε Bool) → Option ε → Prop
  | plain (steps : List (α × Bool)) : Shielded steps (steps.map ownAnswer) none
  | raised (before : List (α × Bool)) (item : α) (payload : ε) {later : List (α × Bool)} :
      (∀ step ∈ later, step.2 = false) →
      Shielded (before ++ (item, false) :: later)
        (before.map ownAnswer ++ [(item, .error payload)]) (some payload)

section Trampoline

variable {apply : α → StateM σ (Except ε Bool)} {item : α} {s s' : σ}

/-- Once something is kept, the answer is to stop, and the applier is not called. -/
theorem shield_raised (payload : ε) (s : σ) :
    (Traversal.shield apply item).run (some payload) s = ((false, some payload), s) := rfl

theorem shield_none (apply : α → StateM σ (Except ε Bool)) (item : α) (s : σ) :
    (Traversal.shield apply item).run none s =
      (match (apply item s).1 with
      | .ok goOn => pure goOn
      | .error payload => do
        set (some payload)
        pure false : StateT (Option ε) (StateM σ) Bool).run none (apply item s).2 := rfl

theorem shield_ok {goOn : Bool} (said : apply item s = (.ok goOn, s')) :
    (Traversal.shield apply item).run none s = ((goOn, none), s') := by
  rw [shield_none, said]
  rfl

theorem shield_error {payload : ε} (said : apply item s = (.error payload, s')) :
    (Traversal.shield apply item).run none s = ((false, some payload), s') := by
  rw [shield_none, said]
  rfl

theorem recording_apply {said : Except ε Bool} (answered : apply item s = (said, s'))
    (calls : List (α × Except ε Bool)) :
    recording apply item (calls, s) = (said, (calls ++ [(item, said)], s')) := by
  rw [recording, answered]

end Trampoline

namespace Shielded

variable {steps : List (α × Bool)} {calls : List (α × Except ε Bool)}

/-- An answer that the applier gives goes to the traversal. -/
theorem ok (h : Shielded steps calls (none : Option ε)) (item : α) (goOn : Bool) :
    Shielded (steps ++ [(item, goOn)]) (calls ++ [(item, .ok goOn)]) (none : Option ε) := by
  cases h
  have plain := Shielded.plain (ε := ε) (steps ++ [(item, goOn)])
  rwa [List.map_append, List.map_singleton] at plain

/-- What the applier raises is kept. -/
theorem error (h : Shielded steps calls (none : Option ε)) (item : α) (payload : ε) :
    Shielded (steps ++ [(item, false)]) (calls ++ [(item, .error payload)]) (some payload) := by
  cases h
  exact .raised steps item payload (List.forall_mem_nil _)

/-- After that the traversal is told to stop, and the applier is not called. -/
theorem stop {payload : ε} (h : Shielded steps calls (some payload)) (item : α) :
    Shielded (steps ++ [(item, false)]) calls (some payload) := by
  cases h with
  | raised before first _ told =>
    rw [List.append_assoc, List.cons_append]
    refine .raised before first payload fun step among => ?_
    rcases List.mem_append.mp among with earlier | last
    · exact told step earlier
    · rw [List.mem_singleton.mp last]

end Shielded

section Runs

variable {apply : α → StateM σ (Except ε Bool)} {start s : σ} {steps : List (α × Bool)}
  {raised : Option ε}

/-- At each answer it fits together what the traversal was told, what the applier was called on, and
what is kept. -/
theorem Answered.shielded {calls : List (α × Except ε Bool)}
    (answers : Answered (recording apply) ([], start) steps raised (calls, s)) :
    Shielded steps calls raised := by
  generalize last : (calls, s) = state at answers
  induction answers generalizing calls s with
  | none =>
    cases last
    exact .plain []
  | @next steps raised _ state _ item _ _ answered ih =>
    obtain ⟨earlier, s₁⟩ := state
    have so := ih rfl
    cases raised with
    | some payload =>
      rw [shield_raised] at answered
      cases answered
      cases last
      exact so.stop item
    | none =>
      rcases said : apply item s₁ with ⟨payload | goOn, s₂⟩
      · rw [shield_error (recording_apply said earlier)] at answered
        cases answered
        cases last
        exact so.error item payload
      · rw [shield_ok (recording_apply said earlier)] at answered
        cases answered
        cases last
        exact so.ok item _

/-- A traversal that goes on from some answers runs to its return, and is told what the shielded
applier answers. -/
theorem Answered.answer (answers : Answered apply start steps raised s) (t : Traversal α) :
    ∃ more finished raised' s', t.Runs more finished ∧
      Answered apply start (steps ++ more) raised' s' ∧
      (t.answer (Traversal.shield apply)).run raised s = ((finished, raised'), s') := by
  induction t generalizing steps raised s with
  | done finished => exact ⟨[], finished, raised, s, .done, by rwa [List.append_nil], rfl⟩
  | offer item next ih =>
    rcases answered : (Traversal.shield apply item).run raised s with ⟨⟨answer, raised'⟩, s'⟩
    obtain ⟨more, finished, last, left, runs, further, ended⟩ :=
      ih answer (answers.next answered)
    refine ⟨(item, answer) :: more, finished, last, left, .offer runs, ?_, ?_⟩
    · rwa [List.append_cons]
    · rw [Traversal.answer, StateT.run_bind, bind_apply, answered]
      exact ended

theorem runShielded_of_answer {t : Traversal α} {finished : Bool} {s' : σ}
    (ended : (t.answer (Traversal.shield apply)).run none s = ((finished, raised), s')) :
    t.runShielded apply s = (raised.elim (.ok finished) .error, s') := by
  rw [Traversal.runShielded, bind_apply, ended]
  cases raised <;> rfl

variable (apply) in
/-- Notes make no difference to what is noted. -/
theorem shield_recording (item : α) (raised : Option ε) (calls : List (α × Except ε Bool)) (s : σ) :
    ∃ calls', (Traversal.shield (recording apply) item).run raised (calls, s) =
      (((Traversal.shield apply item).run raised s).1,
        (calls', ((Traversal.shield apply item).run raised s).2)) := by
  cases raised with
  | some payload => exact ⟨calls, rfl⟩
  | none =>
    rcases said : apply item s with ⟨payload | goOn, s'⟩
    · rw [shield_error said, shield_error (recording_apply said calls)]
      exact ⟨_, rfl⟩
    · rw [shield_ok said, shield_ok (recording_apply said calls)]
      exact ⟨_, rfl⟩

variable (apply) in
theorem answer_recording (t : Traversal α) (raised : Option ε) (calls : List (α × Except ε Bool))
    (s : σ) : ∃ calls', (t.answer (Traversal.shield (recording apply))).run raised (calls, s) =
      (((t.answer (Traversal.shield apply)).run raised s).1,
        (calls', ((t.answer (Traversal.shield apply)).run raised s).2)) := by
  induction t generalizing raised calls s with
  | done finished => exact ⟨calls, rfl⟩
  | offer item next ih =>
    obtain ⟨calls', step⟩ := shield_recording apply item raised calls s
    simp only [Traversal.answer, StateT.run_bind, bind_apply, step]
    exact ih _ _ _ _

end Runs

section Visits

abbrev plainWalk (heeds : Bool) (visitor : α → StateT σ Access (Reply ε β)) (kept : Option β)
    (items : List α) : StateT σ Access (Except ε (Option β)) :=
  walk heeds (fun _ => pure ⟨⟩) visitor kept items

variable {visitor : α → StateT σ Access (Reply ε β)} {items : List α}

theorem plainWalk_cons (heeds : Bool) (kept : Option β) (item : α) (s : σ) (ledger : Ledger) :
    (plainWalk heeds visitor kept (item :: items)).run s ledger =
      match (visitor item).run s ledger with
      | ((.goOn, s'), ledger') => (plainWalk heeds visitor kept items).run s' ledger'
      | ((.stop value, s'), ledger') =>
        if heeds then ((.ok (some value), s'), ledger')
        else (plainWalk heeds visitor (some value) items).run s' ledger'
      | ((.raise payload, s'), ledger') => ((.error payload, s'), ledger') := by
  rw [plainWalk, walk, StateT.run_bind, bind_apply]
  rcases (visitor item).run s ledger with ⟨⟨reply, s'⟩, ledger'⟩
  cases reply with
  | goOn => rfl
  | raise payload => rfl
  | stop value => cases kept <;> cases heeds <;> rfl

/-- What holds before a visit and is kept by its visitor holds after it, also if the visitor
raises. -/
theorem plainWalk_keeps {fine : Ledger → Prop}
    (keeps : ∀ item s ledger, fine ledger → fine ((visitor item).run s ledger).2) (heeds : Bool)
    (kept : Option β) (s : σ) {ledger : Ledger} (before : fine ledger) :
    fine ((plainWalk heeds visitor kept items).run s ledger).2 := by
  induction items generalizing kept s ledger with
  | nil => exact before
  | cons item rest ih =>
    have after := keeps item s ledger before
    rw [plainWalk_cons]
    rcases called : (visitor item).run s ledger with ⟨⟨goOn | value | payload, s'⟩, ledger'⟩ <;>
      rw [called] at after
    · exact ih kept s' after
    · cases heeds
      · exact ih (some value) s' after
      · exact after
    · exact after

/-- What a visit raises was raised by a call of the visitor, and nothing was done after that. -/
theorem plainWalk_raised {payload : ε} {heeds : Bool} {kept : Option β} {s left : σ}
    {ledger ledger' : Ledger}
    (raised : (plainWalk heeds visitor kept items).run s ledger =
      ((.error payload, left), ledger')) :
    ∃ item ∈ items, ∃ s₁ ledger₁,
      (visitor item).run s₁ ledger₁ = ((.raise payload, left), ledger') := by
  induction items generalizing kept s ledger with
  | nil => cases raised
  | cons item rest ih =>
    have later {kept : Option β} {s : σ} {ledger : Ledger}
        (raised : (plainWalk heeds visitor kept rest).run s ledger =
          ((.error payload, left), ledger')) :
        ∃ next ∈ item :: rest, ∃ s₁ ledger₁,
          (visitor next).run s₁ ledger₁ = ((.raise payload, left), ledger') := by
      obtain ⟨next, among, call⟩ := ih raised
      exact ⟨next, List.mem_cons_of_mem item among, call⟩
    rw [plainWalk_cons] at raised
    rcases called : (visitor item).run s ledger with ⟨⟨goOn | value | payload, s'⟩, l'⟩ <;>
      rw [called] at raised
    · exact later raised
    · cases heeds
      · exact later raised
      · cases raised
    · cases raised
      exact ⟨item, List.mem_cons_self, s, ledger, called⟩

/-- What a sequence was read from comes to no harm by a visitor that raises: it is still out, what
is raised was raised by the visitor, and the next visit goes by the list as any visit does. -/
structure Unharmed (heeds : Bool) (items : List α) (l : Lending α) : Prop where
  out {σ ε β : Type} (visitor : α → StateT σ Access (Reply ε β)) (s : σ) (ledger : Ledger)
    {r : Resource} :
    (∀ item s ledger, r ∈ ledger.objects.out → r ∈ ((visitor item).run s ledger).2.objects.out) →
      r ∈ ledger.objects.out → r ∈ ((l.visit visitor).run s ledger).2.objects.out
  raised {σ ε β : Type} (visitor : α → StateT σ Access (Reply ε β)) {s left : σ}
    {ledger after : Ledger} {payload : ε} :
    (l.visit visitor).run s ledger = ((.error payload, left), after) →
      ∃ item ∈ items, ∃ s₁ ledger₁,
        (visitor item).run s₁ ledger₁ = ((.raise payload, left), after)
  again : ReadsAsList heeds items l

theorem Lending.unharmed (l : Lending α) : Unharmed l.conduct.heedsStop l.items l where
  out visitor s ledger r keeps isOut := by
    rw [visit, visitDiscarding_eq_walk]
    -- That an item is noted before it is shown leaves the objects alone.
    let fine : Ledger → Prop := fun ledger => r ∈ ledger.objects.out
    exact @plainWalk_keeps _ _ _ _ _ l.items fine
      (fun item s ledger => keeps item s ledger.lend) _ none s ledger isOut
  raised visitor s left ledger after payload raised := by
    rw [visit, visitDiscarding_eq_walk] at raised
    obtain ⟨item, among, s₁, ledger₁, call⟩ := plainWalk_raised raised
    exact ⟨item, among, s₁, ledger₁.lend, call⟩
  again := l.readsAsList

structure SequencesUnharmed (e : Engine) : Prop where
  names (sorted : Bool) : Unharmed e.conduct.heedsStop (e.unitNames sorted) (e.names sorted)
  includes (u : OpenUnit) : Unharmed e.conduct.heedsStop u.reader.includes (u.includes e)
  dependencies (u : OpenUnit) :
    Unharmed e.conduct.heedsStop u.reader.dependencies (u.dependencies e)
  symbols (r : OpenRecord) : Unharmed e.conduct.heedsStop r.reader.symbols (r.symbols e)
  occurrences (r : OpenRecord) :
    Unharmed e.conduct.heedsStop r.reader.occurrences (r.occurrences e none)
  lines (r : OpenRecord) (start count : UInt32) :
    Unharmed e.conduct.heedsStop (r.reader.inLines start count)
      (r.occurrences e (some (start, count)))
  relations (o : Occurrence) : Unharmed e.conduct.heedsStop o.relations (o.lendRelations e)

theorem Engine.sequencesUnharmed (e : Engine) : SequencesUnharmed e where
  names sorted := (e.names sorted).unharmed
  includes u := (u.includes e).unharmed
  dependencies u := (u.dependencies e).unharmed
  symbols r := (r.symbols e).unharmed
  occurrences r := (r.occurrences e none).unharmed
  lines r start count := (r.occurrences e (some (start, count))).unharmed
  relations o := (o.lendRelations e).unharmed

end Visits

/-- A run of a traversal whose applier is shielded. The traversal runs to a return of its own, on
the answers that the shielded applier gives one after the other. These and the calls of the applier
fit together, and what was kept is raised then, in place of what the traversal returned. -/
structure ShieldedRun (apply : α → StateM σ (Except ε Bool)) (t : Traversal α) (s : σ)
    (outcome : Except ε Bool × σ) : Prop where
  answered : ∃ steps finished calls raised left,
    t.Runs steps finished ∧
    Answered (recording apply) ([], s) steps raised (calls, left) ∧
    Shielded steps calls raised ∧
    outcome = (raised.elim (.ok finished) .error, left)

theorem Traversal.shieldedRun (apply : α → StateM σ (Except ε Bool)) (t : Traversal α) (s : σ) :
    ShieldedRun apply t s (t.runShielded apply s) := by
  obtain ⟨steps, finished, raised, ⟨calls, left⟩, runs, answers, ended⟩ :=
    (Answered.none : Answered (recording apply) ([], s) [] none ([], s)).answer t
  obtain ⟨calls', unnoted⟩ := answer_recording apply t none [] s
  rw [ended] at unnoted
  injection unnoted with told left_eq
  injection left_eq with _ left_eq
  refine ⟨steps, finished, calls, raised, left, runs, answers, answers.shielded, ?_⟩
  exact runShielded_of_answer (Prod.ext told.symm left_eq.symm)

/-- What an applier raises never reaches a traversal and is never lost, whatever the traversal and
the applier do. The engine bound to native functions shields all its enumerations, and what they
enumerate comes to no harm. -/
theorem raises_shielded :
    (∀ (α ε σ : Type) (apply : α → StateM σ (Except ε Bool)) (t : Traversal α) (s : σ),
      ShieldedRun apply t s (t.runShielded apply s)) ∧
    ∀ (P : Pointee → Type) (f : NativeFunctions P),
      f.engine.conduct.shielded = true ∧ SequencesUnharmed f.engine :=
  ⟨fun _ _ _ apply t s => t.shieldedRun apply s, fun _ f => ⟨rfl, f.engine.sequencesUnharmed⟩⟩

end CodeIndex
