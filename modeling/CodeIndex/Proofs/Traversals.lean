import CodeIndex.Lending
/-!
# Traversals as loops

A traversal driven by a visitor is one plain loop over the items. Shielding does not show: what a
visitor raises ends the loop either way, after the same calls. A sequence whose visitor always goes
on is a fold, and collecting one gives exactly its items.
-/
namespace CodeIndex

section Loop

variable {α β ε : Type} {m : Type → Type} [Monad m]

/-- Shows items to a visitor; `kept` is the value of the last stop. -/
def walk (heeds : Bool) (discard : β → m Unit) (visit : α → m (Reply ε β)) :
    Option β → List α → m (Except ε (Option β))
  | kept, [] => pure (.ok kept)
  | kept, item :: rest => do
    match ← visit item with
    | .goOn => walk heeds discard visit kept rest
    | .stop value =>
      match kept with
      | some earlier => discard earlier
      | none => pure ⟨⟩
      if heeds then pure (.ok (some value)) else walk heeds discard visit (some value) rest
    | .raise payload => pure (.error payload)

variable [LawfulMonad m]

/-- An unshielded traversal is the loop, with the value kept in the applier's state. -/
theorem run_each (heeds : Bool) (discard : β → m Unit) (visit : α → m (Reply ε β))
    (items : List α) (kept : Option β) :
    (fun p => p.1.map fun _ => p.2) <$>
        ((Traversal.each heeds items).run (applier discard visit)).run kept =
      walk heeds discard visit kept items := by
  induction items generalizing kept with
  | nil =>
    rw [Traversal.each, Traversal.run, walk, StateT.run_pure, map_pure]
    rfl
  | cons item rest ih =>
    simp only [Traversal.each, Traversal.run, walk, applier, StateT.run_bind, bind_assoc, map_bind]
    rw [StateT.run_monadLift]
    simp only [monadLift_self, bind_assoc, pure_bind]
    apply bind_congr
    intro reply
    cases reply with
    | goOn => simpa using ih kept
    | raise payload => simp [Except.map]
    | stop value =>
      have further := ih (some value)
      cases kept with
      | none =>
        cases heeds
        · simpa [Traversal.run] using further
        · simp [Traversal.run, Except.map]
      | some earlier =>
        cases heeds
        · simp only [StateT.run_bind, StateT.run_get, StateT.run_monadLift, StateT.run_set,
            monadLift_self, bind_assoc, pure_bind]
          apply bind_congr
          intro _
          simpa using further
        · simp [Traversal.run, Except.map]

/-- Once something was raised, no later item reaches the applier. -/
theorem answer_raised (heeds : Bool) (apply : α → m (Except ε Bool)) (items : List α)
    (payload : ε) : ∃ finished,
    ((Traversal.each heeds items).answer (Traversal.shield apply)).run (some payload) =
      pure (finished, some payload) := by
  induction items with
  | nil => exact ⟨true, by simp [Traversal.each, Traversal.answer]⟩
  | cons item rest ih =>
    obtain ⟨finished, h⟩ := ih
    cases heeds with
    | true => exact ⟨false, by simp [Traversal.each, Traversal.answer, Traversal.shield]⟩
    | false =>
      refine ⟨finished, ?_⟩
      simpa [Traversal.each, Traversal.answer, Traversal.shield] using h

/-- Shielding changes neither the calls nor what is raised. -/
theorem runShielded_each (heeds : Bool) (apply : α → m (Except ε Bool)) (items : List α) :
    Except.map (fun _ => ()) <$> (Traversal.each heeds items).runShielded apply =
      Except.map (fun _ => ()) <$> (Traversal.each heeds items).run apply := by
  induction items with
  | nil => simp [Traversal.each, Traversal.runShielded, Traversal.answer, Traversal.run]
  | cons item rest ih =>
    simp only [Traversal.each, Traversal.runShielded, Traversal.answer, Traversal.run,
      Traversal.shield, StateT.run_bind, StateT.run_get, StateT.run_monadLift, monadLift_self,
      bind_assoc, pure_bind, map_bind]
    apply bind_congr
    intro reply
    cases reply with
    | ok goOn =>
      cases goOn with
      | true => simpa [Traversal.runShielded] using ih
      | false =>
        cases heeds with
        | true => simp [Traversal.answer, Traversal.run]
        | false => simpa [Traversal.runShielded] using ih
    | error payload =>
      cases heeds
      · obtain ⟨finished, h⟩ := answer_raised false apply rest payload
        simp [h]
      · simp [Traversal.answer]

/-- What a run came to, with the value kept: only whether it raised matters of its result. -/
theorem outcome_congr {β : Type} {x y : StateT (Option β) m (Except ε Bool)}
    (h : Except.map (fun _ => ()) <$> x = Except.map (fun _ => ()) <$> y) (kept : Option β) :
    (fun p => p.1.map fun _ => p.2) <$> x.run kept =
      (fun p => p.1.map fun _ => p.2) <$> y.run kept := by
  have split (z : StateT (Option β) m (Except ε Bool)) :
      (fun p => p.1.map fun _ => p.2) <$> z.run kept =
        (fun p => p.1.map fun _ => p.2) <$> (Except.map (fun _ => ()) <$> z).run kept := by
    rw [StateT.run_map, Functor.map_map]
    congr 1
    funext p
    cases p.1 <;> rfl
  rw [split x, h, ← split y]

/-- Driving a visitor is the loop, whatever the conduct but for heeding stops. -/
theorem drive_eq_walk (conduct : Conduct) (discard : β → m Unit) (items : List α)
    (visit : α → m (Reply ε β)) :
    drive conduct discard items visit = walk conduct.heedsStop discard visit none items := by
  have h := run_each conduct.heedsStop discard visit items none
  cases hs : conduct.shielded with
  | false => simpa [drive, hs] using h
  | true =>
    rw [← outcome_congr (runShielded_each _ _ items) none] at h
    simpa [drive, hs] using h

/-- A visitor that always goes on sees every item. -/
theorem walk_goOn (heeds : Bool) (discard : β → m Unit) {visit : α → m (Reply ε β)}
    {f : α → m Unit} (h : ∀ item, visit item = (fun _ => .goOn) <$> f item) (kept : Option β)
    (items : List α) :
    walk heeds discard visit kept items = (fun _ => .ok kept) <$> forM items f := by
  induction items with
  | nil => simp [walk]
  | cons item rest ih => simp [walk, h, ih]

end Loop

namespace Ledger

def lendMany (l : Ledger) (count : Nat) : Ledger := { l with callbacks := l.callbacks + count }

@[simp] theorem lendMany_zero (l : Ledger) : l.lendMany 0 = l := rfl

@[simp] theorem lend_lendMany (l : Ledger) (count : Nat) :
    l.lend.lendMany count = l.lendMany (count + 1) := by
  simp [lend, lendMany, Nat.add_comm, Nat.add_left_comm]

end Ledger

namespace Lending

section Any

variable {α β ε : Type} {m : Type → Type} [Monad m] [LawfulMonad m] [MonadLiftT Access m]

theorem visitDiscarding_eq_walk (l : Lending α) (discard : β → m Unit)
    (visit : α → m (Reply ε β)) :
    l.visitDiscarding discard visit = walk l.conduct.heedsStop discard (lend visit) none l.items :=
  drive_eq_walk l.conduct discard l.items (lend visit)

/-- A search that finds nothing is a loop over the items, whatever the conduct. -/
theorem findDiscarding_none (l : Lending α) (discard : β → m Unit) (f : α → m Unit) :
    l.findDiscarding discard (fun item => do f item; pure none) =
      (fun _ => none) <$> forM l.items (lend f) := by
  rw [findDiscarding, visitDiscarding_eq_walk, walk_goOn]
  case f => exact lend f
  · simp
  · intro item
    simp [lend]

/-- Showing every item to a visitor is a loop over the items, whatever the conduct. -/
theorem forEach_eq_forM (l : Lending α) (f : α → m Unit) :
    l.forEach f = forM l.items (lend f) := by
  rw [forEach, findMap, findDiscarding_none]
  simp

end Any

section Noting

variable {σ α γ δ : Type} {seen : γ → δ} {belongs : α → List δ}

/-- A visit of every item that notes what belongs to each, whatever else it does. -/
theorem forM_noted {f : α → StateT (List γ) (StateT σ Access) Unit}
    (adds : ∀ item shown s l, (((f item).run shown).run s l).1.1.2.map seen =
      shown.map seen ++ belongs item) (items : List α) (shown : List γ) (s : σ) (l : Ledger) :
    (((forM items (lend f)).run shown).run s l).1.1.2.map seen =
      shown.map seen ++ items.flatMap belongs := by
  induction items generalizing shown s l with
  | nil => simp
  | cons item rest ih =>
    have added := adds item shown s l.lend
    have step : ((lend f item).run shown).run s l = ((f item).run shown).run s l.lend := rfl
    rw [List.forM_cons, StateT.run_bind, StateT.run_bind, bind_apply, step, List.flatMap_cons,
      ← List.append_assoc, ← added]
    exact ih _ _ _

end Noting

section Exact

variable {α β : Type}

/-- Collecting images works on each item in turn. -/
theorem mapCollect_eq_mapM (l : Lending α) (f : α → Access β) :
    l.mapCollect f = l.items.mapM (lend f) := by
  have loop (items : List α) (images : List β) :
      (forM items (lend fun item => do
        let image ← (f item : Access β)
        modify (image :: ·) : α → StateT (List β) Access Unit)).run images =
      (fun added => ((), added.reverse ++ images)) <$> items.mapM (lend f) := by
    induction items generalizing images with
    | nil => simp
    | cons item rest ih => simp [lend, ih]
  rw [mapCollect, forEach_eq_forM, loop]
  simp

/-- Collecting gives the image of every item and notes as many calls. -/
theorem mapCollect_pure (l : Lending α) (f : α → β) (ledger : Ledger) :
    l.mapCollect (fun item => pure (f item)) ledger =
      (l.items.map f, ledger.lendMany l.items.length) := by
  rw [mapCollect_eq_mapM]
  induction l.items generalizing ledger with
  | nil => rfl
  | cons item rest ih =>
    rw [List.mapM_cons, bind_apply]
    simp [lend, ih]

theorem toList_apply (l : Lending α) (ledger : Ledger) :
    l.toList ledger = (l.items, ledger.lendMany l.items.length) := by
  rw [toList]
  simpa using mapCollect_pure l id ledger

end Exact

end Lending

end CodeIndex
