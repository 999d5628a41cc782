import CodeIndex.Proofs.Cursors
import CodeIndex.Proofs.ReadBack
import CodeIndex.Proofs.TextReading
/-!
# The first of a name

Several units or records may be declared under one name, and any of them may be one that cannot be
opened. A name is looked up when a unit or a record is opened by it, at each step of an enumeration,
and when the time of a unit is asked for. All of these come to the row that is declared first under
the name. When that one cannot be opened its reason is reported, and no later one takes its place.
-/
namespace CodeIndex

/-- The first of some items that bears a name, and its row. -/
structure FirstNamed {α : Type} (nameOf : α → String) (items : List α) (name : String) (row : Nat)
    (item : α) : Prop where
  stands : items[row]? = some item
  bears : nameOf item = name
  earliest : ∀ earlier < row, ∀ other, items[earlier]? = some other → nameOf other ≠ name

theorem firstNamed_iff {α : Type} {nameOf : α → String} {items : List α} {name : String}
    {row : Nat} {item : α} : FirstNamed nameOf items name row item ↔
      items.findIdx? (nameOf · == name) = some row ∧ items[row]? = some item := by
  constructor
  · rintro ⟨stands, bears, earliest⟩
    obtain ⟨inside, rfl⟩ := List.getElem?_eq_some_iff.mp stands
    refine ⟨List.findIdx?_eq_some_iff_getElem.mpr ⟨inside, by simpa using bears, ?_⟩, stands⟩
    intro earlier before bears'
    have there := List.getElem?_eq_getElem (Nat.lt_trans before inside)
    exact earliest earlier before _ there (by simpa using bears')
  · rintro ⟨found, stands⟩
    obtain ⟨inside, bears, earliest⟩ := List.findIdx?_eq_some_iff_getElem.mp found
    obtain ⟨_, rfl⟩ := List.getElem?_eq_some_iff.mp stands
    refine ⟨stands, by simpa using bears, fun earlier before other there bears' => ?_⟩
    obtain ⟨_, rfl⟩ := List.getElem?_eq_some_iff.mp there
    exact earliest earlier before (by simpa using bears')

/-- Items that are declared in order and opened by name. -/
structure Catalogue (α ω : Type) where
  items : List α
  nameOf : α → String
  /-- Why an item cannot be opened. -/
  failure : α → Option String
  fault : (name message : String) → Fault
  /-- The message for a name with a zero octet in it. -/
  unfit : String
  /-- The message for a name that no item bears. -/
  absent : (name : String) → String
  /-- What is open under a name when it came to a row. -/
  opened : (name : String) → (row : Nat) → ω

namespace Catalogue

variable {α ω : Type}

/-- What a name comes to: the first item that bears it, or why there is nothing to open. -/
inductive ComesTo (k : Catalogue α ω) (name : String) : Except Fault ω → Prop
  | unfit (nul : hasNul name = true) : ComesTo k name (.error (k.fault name k.unfit))
  | absent (whole : hasNul name = false) (none : ∀ item ∈ k.items, k.nameOf item ≠ name) :
    ComesTo k name (.error (k.fault name (k.absent name)))
  | unreadable {row : Nat} {item : α} {message : String} (whole : hasNul name = false)
      (first : FirstNamed k.nameOf k.items name row item)
      (failed : k.failure item = some message) : ComesTo k name (.error (k.fault name message))
  | opens {row : Nat} {item : α} (whole : hasNul name = false)
      (first : FirstNamed k.nameOf k.items name row item) (sound : k.failure item = none) :
    ComesTo k name (.ok (k.opened name row))

def outcome (k : Catalogue α ω) (name : String) : Except Fault ω :=
  if hasNul name then .error (k.fault name k.unfit)
  else match k.items.findIdx? (k.nameOf · == name) with
    | none => .error (k.fault name (k.absent name))
    | some row => match (k.items[row]?).bind k.failure with
      | some message => .error (k.fault name message)
      | none => .ok (k.opened name row)

variable {k : Catalogue α ω} {name : String}

theorem comesTo_outcome (k : Catalogue α ω) (name : String) : k.ComesTo name (k.outcome name) := by
  rw [outcome]
  split
  case isTrue nul => exact .unfit nul
  case isFalse fit =>
    have whole : hasNul name = false := by simpa using fit
    split
    case h_1 found =>
      refine .absent whole fun item among bears => ?_
      have other := List.findIdx?_eq_none_iff.mp found item among
      rw [beq_eq_false_iff_ne] at other
      exact other bears
    case h_2 row found =>
      obtain ⟨item, stands, _⟩ := getElem?_of_findIdx? found
      have first := firstNamed_iff.mpr ⟨found, stands⟩
      rw [stands, Option.bind_some]
      cases failure : k.failure item with
      | some message => exact .unreadable whole first failure
      | none => exact .opens whole first failure

/-- A name comes to one outcome. -/
theorem comesTo_iff {result : Except Fault ω} :
    k.ComesTo name result ↔ k.outcome name = result := by
  constructor
  · intro comes
    rw [outcome]
    cases comes with
    | unfit nul => rw [if_pos nul]
    | absent whole none =>
      have found : k.items.findIdx? (k.nameOf · == name) = Option.none := by
        simpa [List.findIdx?_eq_none_iff] using none
      simp [whole, found]
    | unreadable whole first failed =>
      obtain ⟨found, stands⟩ := firstNamed_iff.mp first
      simp [whole, found, stands, failed]
    | opens whole first sound =>
      obtain ⟨found, stands⟩ := firstNamed_iff.mp first
      simp [whole, found, stands, sound]
  · rintro rfl
    exact comesTo_outcome k name

/-- A name opens when it is fit and the first item that bears it can be opened. -/
theorem outcome_eq_ok_iff {found : ω} : k.outcome name = .ok found ↔ hasNul name = false ∧
    ∃ row item, FirstNamed k.nameOf k.items name row item ∧ k.failure item = none ∧
      found = k.opened name row := by
  rw [← comesTo_iff]
  constructor
  · rintro (_ | _ | _ | ⟨whole, first, sound⟩)
    exact ⟨whole, _, _, first, sound, rfl⟩
  · rintro ⟨whole, row, item, first, sound, rfl⟩
    exact .opens whole first sound

theorem exists_outcome_eq_ok_iff : (∃ found, k.outcome name = .ok found) ↔ hasNul name = false ∧
    ∃ row item, FirstNamed k.nameOf k.items name row item ∧ k.failure item = none := by
  simp only [outcome_eq_ok_iff]
  constructor
  · rintro ⟨_, whole, row, item, first, sound, _⟩
    exact ⟨whole, row, item, first, sound⟩
  · rintro ⟨whole, row, item, first, sound⟩
    exact ⟨_, whole, row, item, first, sound, rfl⟩

end Catalogue

namespace Contents

variable (c : Contents String String)

/-- The declared units, as a name opens them in memory. -/
def unitCatalogue : Catalogue (UnitEntry String String) OpenUnit where
  items := c.units
  nameOf := (·.name)
  failure := (·.failure)
  fault := .unitOpen
  unfit := "unit name contains a NUL byte"
  absent := Tables.noUnit
  opened name row := ⟨name, token row, (Tables.ofContents c).unitReader (token row)⟩

def recordCatalogue (file : Option Path) : Catalogue (RecordEntry String String) OpenRecord where
  items := c.records
  nameOf := (·.name)
  failure := (·.failure)
  fault := .recordOpen
  unfit := "record name contains a NUL byte"
  absent := Tables.noRecord
  opened name row := ⟨name, token row, file, (Tables.ofContents c).recordReader (token row)⟩

/-- The names of the declared units, as they are declared or sorted by their octets. -/
def declaredNames (sorted : Bool) : List String :=
  let names := c.units.map (·.name)
  if sorted then names.mergeSort fun a b => Bytes.le (Utf8.encode a) (Utf8.encode b) else names

end Contents

def UnitEntry.recordDependencies (u : UnitEntry String String) : List (DependencyEntry String) :=
  u.dependencies.filter fun d => DependencyKind.ofRaw d.kind == .record

section Showing

variable {σ α β γ : Type}

/-- A visitor of which the outcomes it is shown are noted. -/
def noted (visitor : γ → StateT σ Access (Option β)) (outcome : γ) :
    StateT (List γ) (StateT σ Access) (Option β) := do
  modify (· ++ [outcome])
  (visitor outcome : StateT σ Access (Option β))

/-- Shows the units of a store to a visitor until it gives a value: this value, and the outcomes the
visitor was shown. -/
def Engine.searchUnits (e : Engine) (sorted : Bool) (discard : β → StateT σ Access Unit)
    (visitor : Except Fault OpenUnit → StateT σ Access (Option β)) :
    StateT σ Access (Option β × List (Except Fault OpenUnit)) :=
  (e.findUnit (m := StateT (List (Except Fault OpenUnit)) (StateT σ Access)) sorted
    (fun value => (discard value : StateT σ Access Unit)) (noted visitor)).run []

def OpenUnit.searchRecords (e : Engine) (u : OpenUnit) (discard : β → StateT σ Access Unit)
    (visitor : Except Fault OpenRecord → StateT σ Access (Option β)) :
    StateT σ Access (Option β × List (Except Fault OpenRecord)) :=
  (u.findRecord e (m := StateT (List (Except Fault OpenRecord)) (StateT σ Access))
    (fun value => (discard value : StateT σ Access Unit)) (noted visitor)).run []

/-- What a search has noted: the outcomes up to where it found something, or all of them. -/
def Noted (outcomes : List γ) (found : Option β × List γ) : Prop :=
  found.2 <+: outcomes ∧ (found.1 = none → found.2 = outcomes)

end Showing

section Searching

variable {σ α β γ : Type} {belongs : α → List γ}

/-- A visitor that may give a value, as one that may stop with it. -/
def replying {m : Type → Type} [Monad m] (f : α → m (Option β)) (item : α) :
    m (Reply Empty β) := do
  match ← f item with
  | none => pure .goOn
  | some value => pure (.stop value)

/-- A walk that ends at the first stop notes what belongs to the items it came to. -/
theorem walk_noted {visit : α → StateT (List γ) (StateT σ Access) (Reply Empty β)}
    (adds : ∀ item shown s l,
      (((visit item).run shown).run s l).1.1.2 = shown ++ belongs item)
    (discard : β → StateT (List γ) (StateT σ Access) Unit) (items : List α) (shown : List γ) (s : σ)
    (l : Ledger) : ∃ more,
      (((walk true discard visit none items).run shown).run s l).1.1.2 = shown ++ more ∧
      more <+: items.flatMap belongs ∧
      ((((walk true discard visit none items).run shown).run s l).1.1.1 = .ok none →
        more = items.flatMap belongs) := by
  induction items generalizing shown s l with
  | nil => exact ⟨[], (List.append_nil shown).symm, List.prefix_rfl, fun _ => rfl⟩
  | cons item rest ih =>
    have added := adds item shown s l
    rw [walk, StateT.run_bind, StateT.run_bind, bind_apply, List.flatMap_cons]
    rcases called : ((visit item).run shown).run s l with ⟨⟨⟨reply, shown'⟩, s'⟩, l'⟩
    rw [called] at added
    subst added
    cases reply with
    | goOn =>
      obtain ⟨more, noted, reached, whole⟩ := ih (shown ++ belongs item) s' l'
      refine ⟨belongs item ++ more, ?_, (List.prefix_append_right_inj _).mpr reached,
        fun none => congrArg _ (whole none)⟩
      rw [← List.append_assoc]
      exact noted
    | stop value =>
      -- Nothing was kept before the first stop, so nothing is discarded.
      refine ⟨belongs item, rfl, List.prefix_append _ _, fun nothing => ?_⟩
      exact absurd (Except.ok.inj nothing) (Option.some_ne_none value)
    | raise payload => exact payload.elim

/-- A search of an engine that ends when told to, where each call of the visitor notes what belongs
to its item. -/
theorem findDiscarding_noted {f : α → StateT (List γ) (StateT σ Access) (Option β)}
    (adds : ∀ item shown s l, (((f item).run shown).run s l).1.1.2 = shown ++ belongs item)
    (discard : β → StateT (List γ) (StateT σ Access) Unit) {lending : Lending α}
    (heeds : lending.conduct.heedsStop = true) (s : σ) (l : Ledger) :
    Noted (lending.items.flatMap belongs)
      (((lending.findDiscarding discard f).run []).run s l).1.1 := by
  have lent (item : α) (shown : List γ) (s : σ) (l : Ledger) :
      (((Lending.lend (replying f) item).run shown).run s l).1.1.2 = shown ++ belongs item := by
    have added := adds item shown s l.lend
    have step : ((Lending.lend (replying f) item).run shown).run s l =
        ((replying f item).run shown).run s l.lend := rfl
    rw [step, replying, StateT.run_bind, StateT.run_bind, bind_apply]
    rcases called : ((f item).run shown).run s l.lend with ⟨⟨⟨reply, shown'⟩, s'⟩, l'⟩
    rw [called] at added
    cases reply <;> exact added
  obtain ⟨more, noted, reached, whole⟩ := walk_noted lent discard lending.items [] s l
  rw [Lending.findDiscarding]
  change Noted _ (((lending.visitDiscarding discard (replying f) >>= _).run []).run s l).1.1
  rw [Lending.visitDiscarding_eq_walk, heeds, StateT.run_bind, StateT.run_bind, bind_apply]
  rcases walked :
    ((walk true discard (Lending.lend (replying f)) none lending.items).run []).run s l
    with ⟨⟨⟨fault | found, shown⟩, s'⟩, l'⟩
  · exact fault.elim
  · rw [walked] at noted whole
    obtain rfl : shown = more := noted
    exact ⟨reached, fun nothing => whole (congrArg Except.ok nothing)⟩

end Searching

section Memory

variable (c : Contents String String) (settings : MemorySettings)

theorem openUnit_outcome (name : String) (l : Ledger) :
    (((Tables.ofContents c).engine settings).openUnit name l).1 = c.unitCatalogue.outcome name := by
  rw [Engine.openUnit, Catalogue.outcome]
  cases nul : hasNul name with
  | true => rfl
  | false =>
    have answer := (Tables.ofContents_holds c).openUnit name
    simp only [Bool.false_eq_true, if_false, bind_apply, Tables.createUnit_fst, answer,
      Contents.unitCatalogue]
    cases c.units.findIdx? (·.name == name) with
    | none => rfl
    | some row =>
      dsimp only
      cases (c.units[row]?).bind (·.failure) <;> rfl

theorem openRecord_outcome (name : String) (file : Option Path) (l : Ledger) :
    (((Tables.ofContents c).engine settings).openRecord name file l).1 =
      (c.recordCatalogue file).outcome name := by
  rw [Engine.openRecord, Catalogue.outcome]
  cases nul : hasNul name with
  | true => rfl
  | false =>
    have answer := (Tables.ofContents_holds c).openRecord name
    simp only [Bool.false_eq_true, if_false, bind_apply, Tables.createRecord_fst, answer,
      Contents.recordCatalogue]
    cases c.records.findIdx? (·.name == name) with
    | none => rfl
    | some row =>
      dsimp only
      cases (c.records[row]?).bind (·.failure) <;> rfl

/-- The time of a name is that of the first unit of the name, which need not open. -/
theorem unitInstant_eq_ok_iff {name : String} {l : Ledger} {instant : Instant} :
    (((Tables.ofContents c).engine settings).unitInstant name l).1 = .ok instant ↔
      hasNul name = false ∧ ∃ row u, FirstNamed (·.name) c.units name row u ∧
        instant = u.modified.toInstant := by
  have holds := Tables.ofContents_holds c
  have asked : ((Tables.ofContents c).engine settings).unitTime name l =
      ((Tables.ofContents c).unitTime name, l) := rfl
  rw [Engine.unitInstant]
  cases nul : hasNul name with
  | true => simp
  | false =>
    simp only [Bool.false_eq_true, if_false, bind_apply, asked, true_and]
    rw [Tables.unitTime, holds.unit?]
    simp only [firstNamed_iff]
    cases found : c.units.findIdx? (·.name == name) with
    | none => simp
    | some row =>
      obtain ⟨u, declared, _⟩ := getElem?_of_findIdx? found
      have view := holds.unitReader declared
      simp [declared, view, UnitEntry.reader, eq_comm]

theorem unitNames_ofContents (sorted : Bool) :
    (Tables.ofContents c).unitNames sorted = (c.declaredNames sorted).map Utf8.encode := by
  have names : (Tables.ofContents c).units.map (fun row => Utf8.encode row.entry.name) =
      (c.units.map (·.name)).map Utf8.encode := by
    rw [(Tables.ofContents_holds c).entries, List.map_map, List.map_map]
    rfl
  rw [Tables.unitNames, Contents.declaredNames, names]
  cases sorted with
  | false => rfl
  | true => exact (List.map_mergeSort (f := Utf8.encode) fun _ _ _ _ => rfl).symm

theorem readName_encode (name : String) : Engine.readName (Utf8.encode name) = .ok name := by
  rw [Engine.readName, Utf8.decode_encode]
  rfl

/-- What opening a record comes to does not depend on what was handed out. -/
theorem openRecord_steady (name : String) (file : Option Path) (l l' : Ledger) :
    (((Tables.ofContents c).engine settings).openRecord name file l).1 =
      (((Tables.ofContents c).engine settings).openRecord name file l').1 := by
  rw [openRecord_outcome, openRecord_outcome]

/-- What an enumerated name comes to does not depend on what was handed out. -/
theorem openNamedUnit_steady (name : Except Fault String) (l l' : Ledger) :
    (((Tables.ofContents c).engine settings).openNamedUnit name l).1 =
      (((Tables.ofContents c).engine settings).openNamedUnit name l').1 := by
  cases name with
  | error fault => rfl
  | ok name =>
    have outcome := openUnit_outcome c settings name
    exact (outcome l).trans (outcome l').symm

/-- Units that are pulled are those that open by their names. -/
theorem drain_unitsByName {σ : Type} (sorted : Bool)
    (work : Except Fault OpenUnit → StateT σ Access Unit) (limit : Nat) (s : σ) (l l' : Ledger) :
    let e := (Tables.ofContents c).engine settings
    ((e.unitCursors.drain work limit ⟨sorted, none⟩).run s l).1.1.1 =
      ((c.declaredNames sorted).take limit).map fun name => (e.openUnit name l').1 := by
  intro e
  have left : e.unitCursors.left ⟨sorted, none⟩ = (c.declaredNames sorted).map .ok := by
    have names : e.unitNames sorted = (c.declaredNames sorted).map Utf8.encode :=
      unitNames_ofContents c sorted
    change (e.unitNames sorted).map Engine.readName = _
    rw [names, List.map_map]
    exact List.map_congr_left fun name _ => readName_encode name
  have steady (name : Except Fault String) (l : Ledger) :
      id (e.unitCursors.attempt name l).1 = (e.openNamedUnit name l').1 :=
    openNamedUnit_steady c settings name l l'
  have drained := (e.unitCursors.drain_outcomes steady work limit ⟨sorted, none⟩ s l).1
  rw [left, List.map_map, ← List.map_take, List.map_id] at drained
  exact drained

/-- Units that a visitor is shown are those that open by their names. -/
theorem searchUnits_byName {σ β : Type} (sorted : Bool) (discard : β → StateT σ Access Unit)
    (visitor : Except Fault OpenUnit → StateT σ Access (Option β)) (s : σ) (l l' : Ledger) :
    let e := (Tables.ofContents c).engine settings
    Noted ((c.declaredNames sorted).map fun name => (e.openUnit name l').1)
      ((e.searchUnits sorted discard visitor).run s l).1.1 := by
  intro e
  let belongs (octets : Bytes) := [(e.openNamedUnit (Engine.readName octets) l').1]
  have outcomes : (e.names sorted).items.flatMap belongs =
      (c.declaredNames sorted).map fun name => (e.openUnit name l').1 := by
    have names : (e.names sorted).items = (c.declaredNames sorted).map Utf8.encode :=
      unitNames_ofContents c sorted
    rw [names, ← List.map_eq_flatMap, List.map_map]
    refine List.map_congr_left fun name _ => ?_
    rw [Function.comp_apply, readName_encode]
    rfl
  rw [← outcomes]
  refine findDiscarding_noted (fun octets shown s l => ?_) _ rfl s l
  have opened := openNamedUnit_steady c settings (Engine.readName octets) l l'
  exact congrArg (fun outcome => shown ++ [outcome]) opened

/-- The records to be opened for a unit are its declared dependencies on records. -/
theorem recordNames_reader (u : UnitEntry String String) :
    u.reader.dependencies.filterMap Dependency.recordName? =
      u.recordDependencies.map fun d => (d.name, ⟨d.file⟩) := by
  have name (d : DependencyEntry String) : (d.view Utf8.encode).recordName? =
      if DependencyKind.ofRaw d.kind == .record then some (d.name, ⟨d.file⟩) else none := by
    rw [Dependency.recordName?, DependencyEntry.view, Utf8.decode_encode, Utf8.lossy_encode]
    rfl
  change (u.dependencies.map _).filterMap _ = _
  rw [UnitEntry.recordDependencies]
  induction u.dependencies with
  | nil => rfl
  | cons d rest ih =>
    rw [List.map_cons, List.filterMap_cons, name, List.filter_cons, ih]
    cases DependencyKind.ofRaw d.kind == .record <;> rfl

/-- Records that are pulled for a unit are those that open by their names. -/
theorem drain_recordsByName {σ : Type} (u : UnitEntry String String) (name : String)
    (handle : Handle) (work : Except Fault OpenRecord → StateT σ Access Unit) (limit : Nat) (s : σ)
    (l l' : Ledger) :
    let e := (Tables.ofContents c).engine settings
    ((e.recordCursors.drain work limit ⟨⟨name, handle, u.reader⟩, none⟩).run s l).1.1.1 =
      (u.recordDependencies.take limit).map fun d =>
        (e.openRecord d.name (some ⟨d.file⟩) l').1 := by
  intro e
  have left : e.recordCursors.left ⟨⟨name, handle, u.reader⟩, none⟩ =
      u.recordDependencies.map fun d => (d.name, ⟨d.file⟩) := recordNames_reader u
  have steady (record : RecordName) (l : Ledger) : id (e.recordCursors.attempt record l).1 =
      (e.openRecord record.1 (some record.2) l').1 :=
    openRecord_steady c settings record.1 (some record.2) l l'
  have drained :=
    (e.recordCursors.drain_outcomes steady work limit ⟨⟨name, handle, u.reader⟩, none⟩ s l).1
  rw [left, List.map_map, ← List.map_take, List.map_id] at drained
  exact drained

/-- A declared dependency opens the record that has its name. -/
theorem openDependency_view (e : Engine) (d : DependencyEntry String) :
    e.openDependency (d.view Utf8.encode) = e.openRecord d.name (some ⟨d.file⟩) := by
  rw [Engine.openDependency, DependencyEntry.view, readName_encode, Utf8.lossy_encode]

theorem openDependency_steady (d : Dependency) (l l' : Ledger) :
    (((Tables.ofContents c).engine settings).openDependency d l).1 =
      (((Tables.ofContents c).engine settings).openDependency d l').1 := by
  rw [Engine.openDependency]
  cases Engine.readName d.name with
  | error fault => rfl
  | ok name => exact openRecord_steady c settings name _ l l'

/-- Records that a visitor of a unit is shown are those that open by their names. -/
theorem searchRecords_byName {σ β : Type} (u : UnitEntry String String) (name : String)
    (handle : Handle) (discard : β → StateT σ Access Unit)
    (visitor : Except Fault OpenRecord → StateT σ Access (Option β)) (s : σ) (l l' : Ledger) :
    let e := (Tables.ofContents c).engine settings
    Noted (u.recordDependencies.map fun d => (e.openRecord d.name (some ⟨d.file⟩) l').1)
      (((OpenUnit.mk name handle u.reader).searchRecords e discard visitor).run s l).1.1 := by
  intro e
  let belongs (d : Dependency) := if d.kind == .record then [(e.openDependency d l').1] else []
  have outcomes : ((OpenUnit.mk name handle u.reader).dependencies e).items.flatMap belongs =
      u.recordDependencies.map fun d => (e.openRecord d.name (some ⟨d.file⟩) l').1 := by
    change (u.dependencies.map _).flatMap _ = _
    rw [UnitEntry.recordDependencies]
    induction u.dependencies with
    | nil => rfl
    | cons d rest ih =>
      have single : belongs (d.view Utf8.encode) = if DependencyKind.ofRaw d.kind == .record then
          [(e.openRecord d.name (some ⟨d.file⟩) l').1] else [] := by
        dsimp only [belongs]
        rw [openDependency_view]
        rfl
      rw [List.map_cons, List.flatMap_cons, single, List.filter_cons, ih]
      cases DependencyKind.ofRaw d.kind == .record <;> rfl
  rw [← outcomes]
  refine findDiscarding_noted (fun d shown s l => ?_) _ rfl s l
  have opened := openDependency_steady c settings d l l'
  dsimp only [belongs]
  split
  · exact congrArg (fun outcome => shown ++ [outcome]) opened
  · exact (List.append_nil shown).symm

/-- An open unit reads the first unit that is declared under its name. -/
theorem openUnit_reads {name : String} {l : Ledger} {opened : OpenUnit}
    (opens : (((Tables.ofContents c).engine settings).openUnit name l).1 = .ok opened) :
    ∃ row u, FirstNamed (·.name) c.units name row u ∧ u.failure = none ∧ opened.name = name ∧
      opened.handle = token row ∧ ShowsUnit ((Tables.ofContents c).engine settings) opened u := by
  rw [openUnit_outcome, Catalogue.outcome_eq_ok_iff] at opens
  obtain ⟨_, row, u, first, sound, rfl⟩ := opens
  have reader := (Tables.ofContents_holds c).unitReader first.stands
  exact ⟨row, u, first, sound, rfl, rfl, showsUnit_of_reader _ reader⟩

/-- An open record reads the first record that is declared under its name. -/
theorem openRecord_reads {name : String} {file : Option Path} {l : Ledger} {opened : OpenRecord}
    (opens : (((Tables.ofContents c).engine settings).openRecord name file l).1 = .ok opened) :
    ∃ row r, FirstNamed (·.name) c.records name row r ∧ r.failure = none ∧ opened.name = name ∧
      opened.handle = token row ∧ opened.file = file ∧
      opened.reader.symbols = r.symbols.map (·.view Utf8.encode) ∧
      (r.InRange → ShowsRecord ((Tables.ofContents c).engine settings) opened r) := by
  rw [openRecord_outcome, Catalogue.outcome_eq_ok_iff] at opens
  obtain ⟨_, row, r, first, sound, rfl⟩ := opens
  have holds := Tables.ofContents_holds c
  refine ⟨row, r, first, sound, rfl, rfl, rfl, ?_, fun inRange => ?_⟩
  · obtain ⟨held, found, holdsRecord⟩ := holds.lookUp_record first.stands
    exact holdsRecord.reader_symbols found
  · exact showsRecord_of_reader _ (holds.recordReader first.stands inRange) inRange

end Memory

/-- An engine where every way to a name comes to the row that is declared first under it. -/
structure ResolvesAlike (c : Contents String String) (e : Engine) : Prop where
  /-- What opening a unit comes to, in any case. -/
  unit : ∀ name l outcome,
    (e.openUnit name l).1 = outcome ↔ c.unitCatalogue.ComesTo name outcome
  unit_opens : ∀ name l, (∃ opened, (e.openUnit name l).1 = .ok opened) ↔
    hasNul name = false ∧ ∃ row u, FirstNamed (·.name) c.units name row u ∧ u.failure = none
  unit_reads : ∀ name l opened, (e.openUnit name l).1 = .ok opened →
    ∃ row u, FirstNamed (·.name) c.units name row u ∧ u.failure = none ∧ opened.name = name ∧
      opened.handle = token row ∧ ShowsUnit e opened u
  /-- The first unit of a name has a time, whether or not it can be opened. -/
  time : ∀ name l instant, (e.unitInstant name l).1 = .ok instant ↔
    hasNul name = false ∧ ∃ row u, FirstNamed (·.name) c.units name row u ∧
      instant = u.modified.toInstant
  time_written : ∀ name l l' opened, (e.openUnit name l).1 = .ok opened →
    (e.unitInstant name l').1 = .ok opened.written
  units_pulled {σ : Type} : ∀ sorted (work : Except Fault OpenUnit → StateT σ Access Unit) limit s
    l l', ((e.unitCursors.drain work limit ⟨sorted, none⟩).run s l).1.1.1 =
      ((c.declaredNames sorted).take limit).map fun name => (e.openUnit name l').1
  units_shown {σ β : Type} : ∀ sorted (discard : β → StateT σ Access Unit)
    (visitor : Except Fault OpenUnit → StateT σ Access (Option β)) s l l',
    Noted ((c.declaredNames sorted).map fun name => (e.openUnit name l').1)
      ((e.searchUnits sorted discard visitor).run s l).1.1
  /-- What opening a record comes to, in any case. -/
  record : ∀ name file l outcome,
    (e.openRecord name file l).1 = outcome ↔ (c.recordCatalogue file).ComesTo name outcome
  record_opens : ∀ name file l, (∃ opened, (e.openRecord name file l).1 = .ok opened) ↔
    hasNul name = false ∧ ∃ row r, FirstNamed (·.name) c.records name row r ∧ r.failure = none
  record_reads : ∀ name file l opened, (e.openRecord name file l).1 = .ok opened →
    ∃ row r, FirstNamed (·.name) c.records name row r ∧ r.failure = none ∧ opened.name = name ∧
      opened.handle = token row ∧ opened.file = file ∧
      opened.reader.symbols = r.symbols.map (·.view Utf8.encode) ∧
      (r.InRange → ShowsRecord e opened r)
  records_pulled {σ : Type} : ∀ opened u, ShowsUnit e opened u →
    ∀ (work : Except Fault OpenRecord → StateT σ Access Unit) limit s l l',
    ((e.recordCursors.drain work limit ⟨opened, none⟩).run s l).1.1.1 =
      (u.recordDependencies.take limit).map fun d => (e.openRecord d.name (some ⟨d.file⟩) l').1
  records_shown {σ β : Type} : ∀ opened u, ShowsUnit e opened u →
    ∀ (discard : β → StateT σ Access Unit)
    (visitor : Except Fault OpenRecord → StateT σ Access (Option β)) s l l',
    Noted (u.recordDependencies.map fun d => (e.openRecord d.name (some ⟨d.file⟩) l').1)
      ((opened.searchRecords e discard visitor).run s l).1.1

/-- In memory every way to a name comes to the row that is declared first under it. -/
theorem names_resolve_alike (c : Contents String String) (settings : MemorySettings) :
    ResolvesAlike c ((Tables.ofContents c).engine settings) where
  unit name l outcome := by rw [openUnit_outcome, Catalogue.comesTo_iff]
  unit_opens name l := by
    rw [openUnit_outcome, Catalogue.exists_outcome_eq_ok_iff]
    rfl
  unit_reads _ _ _ := openUnit_reads c settings
  time _ _ _ := unitInstant_eq_ok_iff c settings
  time_written name l l' opened opens := by
    rw [openUnit_outcome, Catalogue.outcome_eq_ok_iff] at opens
    obtain ⟨whole, row, u, first, _, rfl⟩ := opens
    have reader := (Tables.ofContents_holds c).unitReader first.stands
    refine (unitInstant_eq_ok_iff c settings).mpr ⟨whole, row, u, first, ?_⟩
    exact congrArg (fun reader => reader.modified.toInstant) reader
  units_pulled := drain_unitsByName c settings
  units_shown := searchUnits_byName c settings
  record name file l outcome := by rw [openRecord_outcome, Catalogue.comesTo_iff]
  record_opens name file l := by
    rw [openRecord_outcome, Catalogue.exists_outcome_eq_ok_iff]
    rfl
  record_reads _ _ _ _ := openRecord_reads c settings
  records_pulled := by
    rintro σ ⟨name, handle, reader⟩ u shows
    obtain rfl : reader = u.reader := shows.reader
    exact drain_recordsByName c settings u name handle
  records_shown := by
    rintro σ β ⟨name, handle, reader⟩ u shows
    obtain rfl : reader = u.reader := shows.reader
    exact searchRecords_byName c settings u name handle

/-- A name that is declared twice, first for a unit that cannot be opened. -/
example :
    let torn := { UnitEntry.bare "a" "a.o" with failure := some "torn" }
    (((Tables.ofContents ⟨[torn, UnitEntry.bare "a" "b.o"], []⟩).engine {}).openUnit "a" {}).1 =
      .error (.unitOpen "a" "torn") := rfl

end CodeIndex
