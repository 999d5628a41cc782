import CodeIndex.Proofs.Client
import CodeIndex.Proofs.Traversals
/-!
# Custody

What an engine hands out is in custody until it is given back. An account says how the ledger of an
engine stands to the resources in custody, and to the most units that were in custody at one moment.
When the calls of an engine keep an account, every client keeps it: at every moment of every run the
ledger stands in that way to exactly the values the client holds.
-/
namespace CodeIndex

/-- How a ledger stands to the resources in custody and to the most units there at one moment. -/
abbrev Account := Ledger → List Resource → Nat → Prop

/-- The most units held at one of some moments. -/
def mostUnits : List Moment → Nat
  | [] => 0
  | m :: earlier => max (mostUnits earlier) (countKind .unit m.resources)

/-- Whether an account was in order at each of some moments. -/
def Kept (R : Account) : List Moment → Prop
  | [] => True
  | m :: earlier => R m.ledger m.resources (mostUnits (m :: earlier)) ∧ Kept R earlier

theorem Kept.at {R : Account} {journal earlier : List Moment} {m : Moment} (h : Kept R journal)
    (hs : m :: earlier <:+ journal) : R m.ledger m.resources (mostUnits (m :: earlier)) := by
  induction journal with
  | nil => simp at hs
  | cons n rest ih =>
    rcases List.suffix_cons_iff.mp hs with same | further
    · cases same
      exact h.1
    · exact ih h.2 further

/-- Gathering names only lends them. -/
theorem UnitCursor.gather_lends (c : UnitCursor) (e : Engine) (l : Ledger) :
    ∃ count, (c.gather e l).2 = l.lendMany count := by
  cases hp : c.pending with
  | some names => exact ⟨0, by simp [UnitCursor.gather, hp]⟩
  | none =>
    refine ⟨(e.names c.sorted).items.length, ?_⟩
    rw [UnitCursor.gather, hp]
    exact congrArg Prod.snd (Lending.mapCollect_pure _ _ l)

/-- Gathering names only lends dependencies. -/
theorem RecordCursor.gather_lends (c : RecordCursor) (e : Engine) (l : Ledger) :
    ∃ count, (c.gather e l).2 = l.lendMany count := by
  cases hp : c.pending with
  | some names => exact ⟨0, by simp [RecordCursor.gather, hp]⟩
  | none =>
    refine ⟨(c.unit.dependencies e).items.length, ?_⟩
    rw [RecordCursor.gather, hp]
    exact congrArg Prod.snd (Lending.mapCollect_pure _ id l)

section Engine

/-- Work that may take a resource into custody keeps an account. -/
def Gives {α : Type} (R : Account) (opened : α → Option Resource) (work : Access α) : Prop :=
  ∀ ⦃l held most⦄, R l held most → countKind .unit held ≤ most →
    R (work l).2 ((opened (work l).1).toList ++ held)
      (max most (countKind .unit ((opened (work l).1).toList ++ held)))

def openedBy {α ε : Type} (resource : α → Resource) : Except ε α → Option Resource
  | .ok opened => some (resource opened)
  | .error _ => none

/-- The calls of an engine keep an account. -/
structure Custody (e : Engine) (R : Account) : Prop where
  reorder : ∀ {l held held' most}, R l held most → held.Perm held' → R l held' most
  lend : ∀ {l held most}, R l held most → R l.lend held most
  createStore : ∀ path, Gives R (openedBy fun h => ⟨.store, h⟩) (e.createStore path)
  createUnit : ∀ name, Gives R (openedBy fun p => ⟨.unit, p.1⟩) (e.createUnit name)
  createRecord : ∀ name, Gives R (openedBy fun p => ⟨.record, p.1⟩) (e.createRecord name)
  unitTime : ∀ name, Gives R (fun _ => none) (e.unitTime name)
  dispose : ∀ {l held most} (v : Value), R l (v.resource :: held) most →
    countKind .unit (v.resource :: held) ≤ most → R (v.close e l).2 held most

variable {e : Engine} {R : Account} {α β : Type}

/-- Work that takes nothing into custody and leaves the ledger alone. -/
theorem gives_none {opened : α → Option Resource} {work : Access α}
    (h : ∀ {l held most}, R l held most → opened (work l).1 = none ∧ R (work l).2 held most) :
    Gives R opened work := by
  intro l held most hr seen
  obtain ⟨nothing, kept⟩ := h hr
  rw [nothing]
  simpa [seen] using kept

/-- Work whose outcome is then put in other words. -/
theorem Gives.bind {opened : α → Option Resource} {opened' : β → Option Resource}
    {work : Access α} {next : α → Access β} (h : Gives R opened work)
    (same : ∀ a l, opened' (next a l).1 = opened a ∧ (next a l).2 = l) :
    Gives R opened' (work >>= next) := by
  intro l held most hr seen
  obtain ⟨opens, keeps⟩ := same (work l).1 (work l).2
  rw [bind_apply, opens, keeps]
  exact h hr seen

theorem gives_pure {opened : α → Option Resource} {a : α} (h : opened a = none) :
    Gives R opened (pure a) :=
  gives_none fun hr => ⟨h, hr⟩

variable (h : Custody e R)
include h

theorem Custody.lendMany {l : Ledger} {held : List Resource} {most : Nat} (hr : R l held most)
    (count : Nat) : R (l.lendMany count) held most := by
  induction count generalizing l with
  | zero => exact hr
  | succ count ih =>
    rw [← Ledger.lend_lendMany]
    exact ih (h.lend hr)

/-- Work that first only lends. -/
theorem Custody.lends_bind {opened : β → Option Resource} {work : Access α} {next : α → Access β}
    (lends : ∀ l, ∃ count, (work l).2 = l.lendMany count) (hn : ∀ a, Gives R opened (next a)) :
    Gives R opened (work >>= next) := by
  intro l held most hr seen
  obtain ⟨count, same⟩ := lends l
  rw [bind_apply, same]
  exact hn _ (h.lendMany hr count) seen

theorem gives_openStore {lib : Library} (he : lib.engine = e)
    (files : FileSystem NativeLibrary) (path : Path) :
    Gives R (openedBy fun s => (Value.store s).resource) (Store.openAt lib files path) := by
  unfold Store.openAt
  split
  · exact gives_pure rfl
  · split
    · exact gives_pure rfl
    · rw [he]
      refine (h.createStore path.text).bind ?_
      intro outcome l
      cases outcome <;> exact ⟨rfl, rfl⟩

theorem gives_openUnit (name : String) :
    Gives R (openedBy fun u => (Value.unit u).resource) (e.openUnit name) := by
  unfold Engine.openUnit
  split
  · exact gives_pure rfl
  · refine (h.createUnit name).bind ?_
    intro outcome l
    cases outcome <;> exact ⟨rfl, rfl⟩

theorem gives_openNamedUnit (name : Except Fault String) :
    Gives R (openedBy fun u => (Value.unit u).resource) (e.openNamedUnit name) := by
  cases name with
  | error fault => exact gives_pure rfl
  | ok name => exact gives_openUnit h name

theorem gives_openRecord (name : String) (file : Option Path) :
    Gives R (openedBy fun r => (Value.record r).resource) (e.openRecord name file) := by
  unfold Engine.openRecord
  split
  · exact gives_pure rfl
  · refine (h.createRecord name).bind ?_
    intro outcome l
    cases outcome <;> exact ⟨rfl, rfl⟩

theorem gives_openDependency (d : Dependency) :
    Gives R (openedBy fun r => (Value.record r).resource) (e.openDependency d) := by
  unfold Engine.openDependency
  split
  · exact gives_pure rfl
  · exact gives_openRecord h _ _

theorem gives_unitInstant (name : String) : Gives R (fun _ => none) (e.unitInstant name) := by
  unfold Engine.unitInstant
  split
  · exact gives_pure rfl
  · refine (h.unitTime name).bind ?_
    intro outcome l
    cases outcome <;> exact ⟨rfl, rfl⟩

theorem gives_unitForOutput (path : Path) : Gives R (fun _ => none) (e.unitForOutput path) := by
  unfold Engine.unitForOutput
  split
  · exact gives_pure rfl
  · dsimp only
    split
    · exact gives_pure rfl
    · split
      · exact gives_pure rfl
      · refine (gives_unitInstant h _).bind ?_
        intro outcome l
        cases outcome <;> exact ⟨rfl, rfl⟩

theorem gives_nextUnit (c : UnitCursor) :
    Gives R (fun p => p.1.bind (openedBy fun u => (Value.unit u).resource)) (c.next e) := by
  refine h.lends_bind (c.gather_lends e) ?_
  intro names
  cases names with
  | nil => exact gives_pure rfl
  | cons name rest => exact (gives_openNamedUnit h name).bind fun _ _ => ⟨rfl, rfl⟩

theorem gives_nextRecord (c : RecordCursor) :
    Gives R (fun p => p.1.bind (openedBy fun r => (Value.record r).resource)) (c.next e) := by
  refine h.lends_bind (c.gather_lends e) ?_
  intro names
  cases names with
  | nil => exact gives_pure rfl
  | cons entry rest => exact (gives_openRecord h _ _).bind fun _ _ => ⟨rfl, rfl⟩

end Engine

section Client

open Client

/-- A client in order: the ledger stands to the values held, with a resource that was opened and
has yet to be held, and so it was at every moment before. -/
structure Sound (library : Library) (R : Account) (pending : Option Resource) (c : Client) :
    Prop where
  library : c.library = library
  now : R c.ledger (pending.toList ++ c.now.resources)
    (max (mostUnits c.journal) (countKind .unit (pending.toList ++ c.now.resources)))
  seen : countKind .unit c.now.resources ≤ mostUnits c.journal
  past : Kept R c.journal

/-- Work of a client that brings it in order once `pending` was opened. -/
def Settles {α : Type} (library : Library) (R : Account) (pending : Option Resource)
    (work : ClientM α) : Prop :=
  ∀ ⦃c⦄, Sound library R pending c → Sound library R none (work c).2

/-- Work of a client that leaves it in order. -/
abbrev Keeps {α : Type} (library : Library) (R : Account) (work : ClientM α) : Prop :=
  Settles library R none work

variable {library : Library} {R : Account} {α β : Type} {c : Client}

theorem Sound.account (s : Sound library R none c) :
    R c.ledger c.now.resources (mostUnits c.journal) := by
  have now := s.now
  simp only [Option.toList_none, List.nil_append] at now
  rwa [Nat.max_eq_left s.seen] at now

theorem Sound.of_account (same : c.library = library)
    (account : R c.ledger c.now.resources (mostUnits c.journal))
    (seen : countKind .unit c.now.resources ≤ mostUnits c.journal) (past : Kept R c.journal) :
    Sound library R none c where
  library := same
  now := by
    simp only [Option.toList_none, List.nil_append]
    rwa [Nat.max_eq_left seen]
  seen := seen
  past := past

/-- The moment is written down once the account of it is in order. -/
theorem sound_note (same : c.library = library)
    (account : R c.ledger c.now.resources
      (max (mostUnits c.journal) (countKind .unit c.now.resources)))
    (past : Kept R c.journal) : Sound library R none (note c).2 :=
  .of_account same account (Nat.le_max_right _ _) ⟨account, past⟩

/-- Work on the engine; what it opened is still to be held. -/
theorem Sound.access {opened : α → Option Resource} {work : Access α} (h : Gives R opened work)
    (s : Sound library R none c) :
    Sound library R (opened (work c.ledger).1) (access work c).2 where
  library := s.library
  now := h s.account s.seen
  seen := s.seen
  past := s.past

/-- What was opened is held. -/
theorem Sound.hold {v : Value} (s : Sound library R (some v.resource) c) :
    Sound library R none (hold v c).2 :=
  sound_note (c := { c with holdings := (c.issued + 1, v) :: c.holdings, issued := c.issued + 1 })
    s.library s.now s.past

theorem keeps_pure (a : α) : Keeps library R (pure a : ClientM α) := fun _ s => s

theorem Settles.bind {pending : Option Resource} {work : ClientM α} {next : α → ClientM β}
    (h : Settles library R pending work) (hn : ∀ a, Keeps library R (next a)) :
    Settles library R pending (work >>= next) :=
  fun _ s => hn _ (h s)

/-- What was opened is held before anything else is done. -/
theorem settles_receive {ε : Type} (wrap : α → Value) (outcome : Except ε α) :
    Settles library R (openedBy (fun a => (wrap a).resource) outcome) (receive wrap outcome) := by
  intro c s
  cases outcome with
  | error fault => exact s
  | ok opened => exact s.hold

/-- Reading the client changes nothing. -/
theorem keeps_get {next : Client → ClientM β}
    (hn : ∀ c, c.library = library → Keeps library R (next c)) :
    Keeps library R (get >>= next) :=
  fun c s => hn c s.library s

theorem keeps_engine {next : Engine → ClientM β} (hn : Keeps library R (next library.engine)) :
    Keeps library R (engine >>= next) := by
  intro c s
  have same : (engine c).1 = library.engine := congrArg Library.engine s.library
  rw [bind_apply, same]
  exact hn s

theorem keeps_note : Keeps library R note := fun c s =>
  sound_note s.library (by rw [Nat.max_eq_left s.seen]; exact s.account) s.past

/-- Work on the engine, and what is done with what it opened. -/
theorem keeps_open {opened : α → Option Resource} {work : Access α} {next : α → ClientM β}
    (h : Gives R opened work) (hn : ∀ a, Settles library R (opened a) (next a)) :
    Keeps library R (access work >>= next) :=
  fun _ s => hn _ (s.access h)

/-- What is held under a key stands in front of the rest, but for the order. -/
theorem perm_of_lookup {holdings : List (Key × Value)} {key : Key} {v : Value}
    (found : holdings.lookup key = some v) :
    holdings.Perm ((key, v) :: holdings.eraseP (·.1 == key)) := by
  induction holdings with
  | nil => simp at found
  | cons entry rest ih =>
    obtain ⟨k, w⟩ := entry
    by_cases same : k = key
    · subst same
      simp only [List.lookup_cons_self, Option.some.injEq] at found
      simp [found]
    · have other : (key == k) = false := by simpa using fun hk => same hk.symm
      simp only [List.lookup_cons, other] at found
      rw [List.eraseP_cons_of_neg (by simpa using same)]
      exact ((ih found).cons _).trans (.swap _ _ _)

/-- Looking for a value changes nothing. -/
theorem keeps_value (key : Key) {next : Option Value → ClientM β}
    (hn : ∀ v, Keeps library R (next v)) : Keeps library R (value? key >>= next) :=
  fun _ s => hn _ s

theorem keeps_withStore {key : Key} {otherwise : α} {work : Engine → ClientM α}
    (hw : Keeps library R (work library.engine)) :
    Keeps library R (withStore key otherwise work) := by
  refine keeps_value key fun v => ?_
  split
  · exact keeps_engine hw
  · exact keeps_pure _

theorem keeps_withUnit {key : Key} {otherwise : α} {work : OpenUnit → ClientM α}
    (hw : ∀ u, Keeps library R (work u)) : Keeps library R (withUnit key otherwise work) := by
  refine keeps_value key fun v => ?_
  split
  · exact hw _
  · exact keeps_pure _

theorem keeps_withRecord {key : Key} {otherwise : α} {work : OpenRecord → ClientM α}
    (hw : ∀ r, Keeps library R (work r)) : Keeps library R (withRecord key otherwise work) := by
  refine keeps_value key fun v => ?_
  split
  · exact hw _
  · exact keeps_pure _

/-- A loop keeps what its visitor and its discarding keep. -/
theorem keeps_walk {ε : Type} (heeds : Bool) {discard : β → ClientM Unit}
    {visit : α → ClientM (Reply ε β)} (hd : ∀ value, Keeps library R (discard value))
    (hv : ∀ item, Keeps library R (visit item)) (kept : Option β) (items : List α) :
    Keeps library R (walk heeds discard visit kept items) := by
  induction items generalizing kept with
  | nil => exact keeps_pure _
  | cons item rest ih =>
    refine (hv item).bind fun reply => ?_
    cases reply with
    | goOn => exact ih kept
    | raise payload => exact keeps_pure _
    | stop value =>
      have after : Keeps library R
          (if heeds then pure (.ok (some value))
            else walk heeds discard visit (some value) rest) := by
        split
        · exact keeps_pure _
        · exact ih _
      cases kept with
      | none => exact after
      | some earlier => exact (hd earlier).bind fun _ => after

variable (h : Custody library.engine R)
include h

theorem keeps_drop (key : Key) : Keeps library R (drop key) := by
  intro c s
  cases found : c.holdings.lookup key with
  | none =>
    have unchanged : drop key c = (false, c) := by simp [drop, value?, found]
    rw [unchanged]
    exact s
  | some v =>
    let rest := c.holdings.eraseP (·.1 == key)
    have front : c.now.resources.Perm (v.resource :: (rest.map Prod.snd).map Value.resource) :=
      ((perm_of_lookup found).map Prod.snd).map Value.resource
    have dropped : (drop key c).2 =
        (note { c with holdings := rest, ledger := (v.close c.library.engine c.ledger).2 }).2 := by
      simp only [drop, value?, bind_apply, get_apply, pure_apply, found]
      rfl
    have account := h.reorder s.account front
    have seen : countKind .unit (v.resource :: (rest.map Prod.snd).map Value.resource) ≤
        mostUnits c.journal := countKind_perm _ front ▸ s.seen
    have closed := h.dispose v account seen
    have fewer : countKind .unit ((rest.map Prod.snd).map Value.resource) ≤
        mostUnits c.journal := by
      rw [countKind_cons] at seen
      omega
    rw [dropped]
    refine keeps_note (.of_account s.library ?_ fewer s.past)
    rw [s.library]
    exact closed

theorem keeps_dropAll (keys : List Key) : Keeps library R (dropAll keys) := by
  induction keys with
  | nil => exact keeps_pure _
  | cons key rest ih => exact (keeps_drop h key).bind fun _ => ih

theorem keeps_dropEverything : Keeps library R dropEverything :=
  keeps_get fun _ _ => keeps_dropAll h _

/-- A visit keeps what its visitor keeps. -/
theorem keeps_find (l : Lending α) {f : α → ClientM (Option (List Key))}
    (hf : ∀ item, Keeps library R (f item)) : Keeps library R (l.findDiscarding dropAll f) := by
  have lend : Gives R (fun _ => none) (Access.note Ledger.lend) :=
    gives_none fun account => ⟨rfl, h.lend account⟩
  rw [Lending.findDiscarding, Lending.visitDiscarding_eq_walk]
  refine (keeps_walk _ (keeps_dropAll h) ?_ _ _).bind fun result => ?_
  · intro item
    refine keeps_open lend fun _ => (hf item).bind fun value => ?_
    cases value <;> exact keeps_pure _
  · cases result with
    | ok outcome => exact keeps_pure _
    | error payload => exact payload.elim

theorem keeps_call (call : Call) : Keeps library R call.run := by
  cases call with
  | openStore files path =>
    refine keeps_get fun c same => keeps_open (gives_openStore h (by rw [same]) files path) ?_
    exact fun opened => (settles_receive .store opened).bind fun _ => keeps_pure _
  | share key =>
    refine keeps_withStore (keeps_get fun c same => ?_)
    split
    · exact keeps_pure _
    · exact (keeps_drop h key).bind fun _ => keeps_pure _
  | openUnit key name =>
    refine keeps_withStore (keeps_open (gives_openUnit h name) ?_)
    exact fun opened => (settles_receive .unit opened).bind fun _ => keeps_pure _
  | openRecord key name =>
    refine keeps_withStore (keeps_open (gives_openRecord h name none) ?_)
    exact fun opened => (settles_receive .record opened).bind fun _ => keeps_pure _
  | startUnits key sorted => exact keeps_withStore (keeps_pure _)
  | startRecords key => exact keeps_withUnit fun u => keeps_pure _
  | nextUnit cursor =>
    refine keeps_engine (keeps_open (gives_nextUnit h cursor) ?_)
    rintro ⟨outcome, next⟩
    cases outcome with
    | none => exact keeps_pure _
    | some opened =>
      refine (settles_receive .unit opened).bind fun key => ?_
      cases key <;> exact keeps_pure _
  | nextRecord cursor =>
    refine keeps_engine (keeps_open (gives_nextRecord h cursor) ?_)
    rintro ⟨outcome, next⟩
    cases outcome with
    | none => exact keeps_pure _
    | some opened =>
      refine (settles_receive .record opened).bind fun key => ?_
      cases key <;> exact keeps_pure _
  | unitInstant key name =>
    refine keeps_withStore (keeps_open (gives_unitInstant h name) fun outcome => ?_)
    cases outcome <;> exact keeps_pure _
  | unitForOutput key path =>
    refine keeps_withStore (keeps_open (gives_unitForOutput h path) fun outcome => ?_)
    cases outcome <;> exact keeps_pure _
  | drop key => exact (keeps_drop h key).bind fun _ => keeps_pure _

/-- Opening inside an enumeration of names. -/
theorem keeps_findUnit (sorted : Bool) {visit : Except Fault OpenUnit → ClientM (Option (List Key))}
    (hv : ∀ outcome, Settles library R
      (openedBy (fun u => (Value.unit u).resource) outcome) (visit outcome)) :
    Keeps library R (library.engine.findUnit sorted dropAll visit) :=
  keeps_find h _ fun _ => keeps_open (gives_openNamedUnit h _) hv

/-- Opening inside a walk over dependencies. -/
theorem keeps_findRecord (u : OpenUnit)
    {visit : Except Fault OpenRecord → ClientM (Option (List Key))}
    (hv : ∀ outcome, Settles library R
      (openedBy (fun r => (Value.record r).resource) outcome) (visit outcome)) :
    Keeps library R (u.findRecord library.engine dropAll visit) := by
  refine keeps_find h _ fun d => ?_
  split
  · exact keeps_open (gives_openDependency h d) hv
  · exact keeps_pure _

theorem keeps_visit (sequence : Sequence) {visitor : Item → ClientM (Option (List Key))}
    (hv : ∀ item, Keeps library R (visitor item)) : Keeps library R (sequence.visit visitor) := by
  cases sequence with
  | names key sorted => exact keeps_withStore (keeps_find h _ fun octets => hv _)
  | units key sorted =>
    refine keeps_withStore (keeps_findUnit h sorted fun opened => ?_)
    exact (settles_receive .unit opened).bind fun outcome => hv _
  | includes key =>
    exact keeps_withUnit fun u => keeps_engine (keeps_find h _ fun i => hv _)
  | dependencies key =>
    exact keeps_withUnit fun u => keeps_engine (keeps_find h _ fun d => hv _)
  | records key =>
    refine keeps_withUnit fun u => keeps_engine (keeps_findRecord h u fun opened => ?_)
    exact (settles_receive .record opened).bind fun outcome => hv _
  | symbols key =>
    exact keeps_withRecord fun r => keeps_engine (keeps_find h _ fun s => hv _)
  | occurrences key lines =>
    exact keeps_withRecord fun r => keeps_engine (keeps_find h _ fun o => hv _)
  | relations o => exact keeps_engine (keeps_find h _ fun r => hv _)

/-- A script keeps an account that the calls of the engine keep. The induction is on the script, so
a visitor may be used as a script of its own inside a visit. -/
theorem keeps_script (script : Script) : Keeps library R script.run := by
  induction script with
  | done reply => exact keeps_pure _
  | call call next ih =>
    exact (keeps_call h call).bind fun answer => keeps_note.bind fun _ => ih answer
  | visit sequence visitor next visits ih =>
    refine (keeps_visit h sequence fun item => ?_).bind fun kept =>
      keeps_note.bind fun _ => ih kept
    exact keeps_get fun c same => visits _ item

theorem sound_after (account : R {} [] 0) (script : Script) :
    Sound library R none (script.after library) :=
  keeps_script h script (.of_account rfl account (Nat.le_refl 0) trivial)

end Client

end CodeIndex
