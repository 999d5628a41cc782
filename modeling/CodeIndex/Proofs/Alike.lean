import CodeIndex.Proofs.Traversals
/-!
# Works alike

Works on two engines are alike when they have the same answer, whatever was handed out before. The
handles an engine picks and the counts it keeps may differ, and so may the conduct of its
enumerations but for heeding stops.
-/
namespace CodeIndex

/-- Two works with the same answer, whatever was handed out before. -/
def Access.Alike {α : Type} (work work' : Access α) : Prop := ∀ l l', (work l).1 = (work' l').1

/-- Two sequences that every visitor is shown alike. -/
def Lending.SameVisits {α : Type} (s s' : Lending α) : Prop :=
  ∀ {m : Type → Type} [Monad m] [LawfulMonad m] [MonadLiftT Access m] {β ε : Type}
    (discard : β → m Unit) (visit : α → m (Reply ε β)),
    s.visitDiscarding discard visit = s'.visitDiscarding discard visit

/-- Work on a state of a visitor, which leaves the engine alone. -/
def aside {σ α : Type} (work : StateM σ α) : StateT σ Access α := fun s => pure (work s)

section Alike

variable {α β σ : Type}

theorem Access.Alike.map {work work' : Access α} (h : work.Alike work') (f : α → β) :
    Access.Alike (f <$> work) (f <$> work') :=
  fun l l' => congrArg f (h l l')

/-- Works that go on from the same answer. -/
theorem Access.Alike.bind {work work' : Access α} (h : work.Alike work')
    {next next' : α → Access β} (hn : ∀ a, (next a).Alike (next' a)) :
    Access.Alike (work >>= next) (work' >>= next') := by
  intro l l'
  rw [bind_apply, bind_apply, h l l']
  exact hn _ _ _

/-- Works that go on from answers that are told the same. -/
theorem Access.Alike.bind_told {δ : Type} {work work' : Access α} {tell : α → δ}
    (h : Access.Alike (tell <$> work) (tell <$> work')) {next next' : α → Access β}
    (hn : ∀ a a', tell a = tell a' → (next a).Alike (next' a')) :
    Access.Alike (work >>= next) (work' >>= next') := by
  intro l l'
  rw [bind_apply, bind_apply]
  exact hn _ _ (h l l') _ _

/-- A list that begins with what is told the same and goes on alike. -/
theorem Access.Alike.cons {tell : α → β} {a a' : α} (first : tell a = tell a')
    {work work' : Access (List α)}
    (h : Access.Alike (List.map tell <$> work) (List.map tell <$> work')) :
    Access.Alike (List.map tell <$> (work >>= fun rest => pure (a :: rest)))
      (List.map tell <$> (work' >>= fun rest => pure (a' :: rest))) := by
  intro l l'
  exact List.cons_eq_cons.mpr ⟨first, h l l'⟩

theorem sameVisits {s s' : Lending α} (items : s.items = s'.items)
    (heeds : s.conduct.heedsStop = s'.conduct.heedsStop) : s.SameVisits s' := by
  intro m _ _ _ γ ε discard visit
  rw [Lending.visitDiscarding_eq_walk, Lending.visitDiscarding_eq_walk, items, heeds]

/-- Collecting from the same items has the same answer. -/
theorem toList_alike {s s' : Lending α} (items : s.items = s'.items) :
    Access.Alike s.toList s'.toList := by
  intro l l'
  rw [Lending.toList_apply, Lending.toList_apply, items]

theorem mapCollect_alike {s s' : Lending α} (items : s.items = s'.items) (f : α → β) :
    Access.Alike (s.mapCollect fun item => pure (f item))
      (s'.mapCollect fun item => pure (f item)) := by
  intro l l'
  rw [Lending.mapCollect_pure, Lending.mapCollect_pure, items]

/-- Works with a state of their own that have the same answer and leave the same state. -/
def Beside (work work' : StateT σ Access α) : Prop := ∀ s, (work.run s).Alike (work'.run s)

theorem Beside.refl_pure (a : α) : Beside (pure a : StateT σ Access α) (pure a) := fun _ _ _ => rfl

theorem beside_aside (work : StateM σ α) : Beside (aside work) (aside work) := fun _ _ _ => rfl

theorem Beside.bind {work work' : StateT σ Access α} (h : Beside work work')
    {next next' : α → StateT σ Access β} (hn : ∀ a, Beside (next a) (next' a)) :
    Beside (work >>= next) (work' >>= next') := by
  intro s
  rw [StateT.run_bind, StateT.run_bind]
  exact (h s).bind fun p => hn p.1 p.2

/-- Loops whose visitors have the same answers have the same answer. -/
theorem beside_walk {ε : Type} (heeds : Bool) (discard : β → StateM σ Unit)
    {visit visit' : α → StateT σ Access (Reply ε β)} (h : ∀ item, Beside (visit item) (visit' item))
    (kept : Option β) (items : List α) :
    Beside (walk heeds (fun value => aside (discard value)) visit kept items)
      (walk heeds (fun value => aside (discard value)) visit' kept items) := by
  induction items generalizing kept with
  | nil => exact .refl_pure _
  | cons item rest ih =>
    refine (h item).bind fun reply => ?_
    cases reply with
    | goOn => exact ih kept
    | raise payload => exact .refl_pure _
    | stop value =>
      have after : Beside
          (if heeds then pure (.ok (some value))
            else walk heeds (fun value => aside (discard value)) visit (some value) rest)
          (if heeds then pure (.ok (some value))
            else walk heeds (fun value => aside (discard value)) visit' (some value) rest) := by
        split
        · exact .refl_pure _
        · exact ih _
      cases kept with
      | none => exact after
      | some earlier => exact (beside_aside (discard earlier)).bind fun _ => after

theorem beside_lend {visit visit' : α → StateT σ Access β} {item : α}
    (h : Beside (visit item) (visit' item)) :
    Beside (Lending.lend visit item) (Lending.lend visit' item) := by
  have note : Beside (liftM (Access.note Ledger.lend) : StateT σ Access Unit)
      (liftM (Access.note Ledger.lend)) := fun _ _ _ => rfl
  exact note.bind fun _ => h

/-- Searches among the same items whose visitors have the same answers have the same answer. -/
theorem beside_find {l l' : Lending α} (items : l.items = l'.items)
    (heeds : l.conduct.heedsStop = l'.conduct.heedsStop) (discard : β → StateM σ Unit)
    {f f' : α → StateT σ Access (Option β)} (h : ∀ item, Beside (f item) (f' item)) :
    Beside (l.findDiscarding (fun value => aside (discard value)) f)
      (l'.findDiscarding (fun value => aside (discard value)) f') := by
  rw [Lending.findDiscarding, Lending.findDiscarding, Lending.visitDiscarding_eq_walk,
    Lending.visitDiscarding_eq_walk, items, heeds]
  refine (beside_walk _ discard (fun item => ?_) _ _).bind fun result => ?_
  · refine beside_lend ((h item).bind fun value => ?_)
    cases value <;> exact .refl_pure _
  · cases result with
    | ok outcome => exact .refl_pure _
    | error payload => exact payload.elim

/-- A visitor that is told the same goes on in the same way. -/
theorem beside_told {γ δ : Type} {work work' : Access γ} {tell : γ → δ}
    (h : (tell <$> work).Alike (tell <$> work')) (visit : δ → StateM σ α) :
    Beside (liftM work >>= fun a => aside (visit (tell a)))
      (liftM work' >>= fun a => aside (visit (tell a))) := by
  intro s l l'
  have same : tell (work l).1 = tell (work' l').1 := h l l'
  change visit (tell (work l).1) s = visit (tell (work' l').1) s
  rw [same]

end Alike

end CodeIndex
