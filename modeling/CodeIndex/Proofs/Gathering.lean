import CodeIndex.Command.Run
import CodeIndex.Proofs.UnitOutcomes
import CodeIndex.Proofs.VisitorCalls
/-!
# Reports on all units

A report on all units is put together from the reports on single units: those on the units that
open, in the order of their names. A unit that does not open is passed over there, while the report
on it alone fails. What goes wrong with a unit that opened ends both.

This holds although a report on all units is one run in which each opening finds the ledger that the
others have left: how a unit opens, and what is reported of it, depends on what can be seen of it.
-/
namespace CodeIndex

open Report

def nameText? (octets : Bytes) : Option String := (Utf8.decode octets).toOption

/-- The names, as text, of the units that open. -/
def Engine.openable (e : Engine) (sorted : Bool) (l : Ledger) : List String :=
  ((e.unitNames sorted).filterMap nameText?).filter fun name => (e.openUnit name l).1.isOk

section Outcomes

variable {α β γ ε : Type} {f : α → Except ε β}

/-- What fails first ends a run through a list. -/
theorem mapM_cons_error {x : α} {fault : ε} (h : f x = .error fault) (xs : List α) :
    (x :: xs).mapM f = .error fault := by
  rw [List.mapM_cons, h]
  rfl

theorem mapM_cons_ok {x : α} {y : β} (h : f x = .ok y) (xs : List α) :
    (x :: xs).mapM f = (xs.mapM f).map (y :: ·) := by
  rw [List.mapM_cons, h]
  cases xs.mapM f <;> rfl

/-- What never fails gives an image of every item. -/
theorem mapM_ok {g : α → β} (h : ∀ x, f x = .ok (g x)) (xs : List α) :
    xs.mapM f = .ok (xs.map g) := by
  induction xs with
  | nil => rfl
  | cons x rest ih =>
    rw [mapM_cons_ok (h x), ih]
    rfl

/-- Lists that are put together come to the same as their items in one list. -/
theorem mapM_flatten {f : α → Except ε (Option β)} {g : γ → Except ε (List β)} {key : α → γ}
    {xs : List α} (same : ∀ x ∈ xs, g (key x) = (f x).map Option.toList) :
    ((xs.map key).mapM g).map List.flatten = (xs.mapM f).map (·.flatMap Option.toList) := by
  induction xs with
  | nil => rfl
  | cons x rest ih =>
    have further := ih fun y member => same y (List.mem_cons_of_mem _ member)
    have first := same x List.mem_cons_self
    rw [List.map_cons]
    cases found : f x with
    | error fault =>
      rw [found] at first
      rw [mapM_cons_error found, mapM_cons_error first]
      rfl
    | ok y =>
      rw [found] at first
      rw [mapM_cons_ok found, mapM_cons_ok first]
      calc (((rest.map key).mapM g).map (y.toList :: ·)).map List.flatten
          = (((rest.map key).mapM g).map List.flatten).map (y.toList ++ ·) := by
            cases (rest.map key).mapM g <;> rfl
        _ = ((rest.mapM f).map (·.flatMap Option.toList)).map (y.toList ++ ·) := by rw [further]
        _ = ((rest.mapM f).map (y :: ·)).map (·.flatMap Option.toList) := by
            cases rest.mapM f <;> rfl

/-- Items left out one by one are left out of what is put together. -/
theorem mapM_filter {f g : α → Except ε (Option β)} {kept : β → Bool}
    (same : ∀ x, g x = (f x).map (Option.filter kept)) (xs : List α) :
    (xs.mapM g).map (·.flatMap Option.toList) =
      ((xs.mapM f).map (·.flatMap Option.toList)).map (List.filter kept) := by
  induction xs with
  | nil => rfl
  | cons x rest ih =>
    have first := same x
    cases found : f x with
    | error fault =>
      rw [found] at first
      rw [mapM_cons_error found, mapM_cons_error first]
      rfl
    | ok y =>
      rw [found] at first
      have parted (ys : List β) : (y.toList ++ ys).filter kept =
          (y.filter kept).toList ++ ys.filter kept := by
        rw [List.filter_append, Option.toList_filter]
      rw [mapM_cons_ok found, mapM_cons_ok first]
      calc ((rest.mapM g).map (y.filter kept :: ·)).map (·.flatMap Option.toList)
          = ((rest.mapM g).map (·.flatMap Option.toList)).map ((y.filter kept).toList ++ ·) := by
            cases rest.mapM g <;> rfl
        _ = (((rest.mapM f).map (·.flatMap Option.toList)).map (List.filter kept)).map
              ((y.filter kept).toList ++ ·) := by rw [ih]
        _ = (((rest.mapM f).map (y :: ·)).map (·.flatMap Option.toList)).map
              (List.filter kept) := by
            cases rest.mapM f with
            | error fault => rfl
            | ok ys => exact congrArg Except.ok (parted _).symm

end Outcomes

section Seen

variable {α : Type}

/-- Work on a unit comes to what can be seen of the unit, whatever its handle and the ledger. -/
def BySight (entry : OpenUnit → Access α) : Prop :=
  ∀ u u' l l', u.seen = u'.seen → (entry u l).1 = (entry u' l').1

/-- What work on a unit comes to, by what is seen of the unit. -/
def entryOf (entry : OpenUnit → Access α) (seen : String × UnitReader) : α :=
  (entry ⟨seen.1, 0, seen.2⟩ {}).1

theorem BySight.apply {entry : OpenUnit → Access α} (h : BySight entry) (u : OpenUnit)
    (l : Ledger) : (entry u l).1 = entryOf entry u.seen :=
  h _ _ _ _ rfl

variable (e : Engine)

theorem includesEntry_fst (mainFile : Option String) (u : OpenUnit) (l : Ledger) :
    (includesEntry e mainFile u l).1 =
      .ok (if mainFile.all (endsWith u.reader.mainFile)
        then some ⟨u.name, u.reader.includes.map Include.snapshot⟩ else none) := by
  have copied := (u.includes e).mapCollect_pure Include.snapshot l
  unfold includesEntry
  split
  · rw [bind_apply, copied]
    rfl
  · rfl

theorem includesEntry_bySight (mainFile : Option String) : BySight (includesEntry e mainFile) := by
  intro u u' l l' same
  obtain ⟨names, readers⟩ := Prod.mk.inj same
  rw [includesEntry_fst, includesEntry_fst, names, readers]

/-- Inputs are told by the reader. -/
theorem inputFiles_bySight : BySight (OpenUnit.inputFiles e) := by
  intro u u' l l' same
  obtain ⟨-, readers⟩ := Prod.mk.inj same
  have dependencies : (u.dependencies e).items = (u'.dependencies e).items :=
    congrArg UnitReader.dependencies readers
  have met : u.metInputs = u'.metInputs := by
    unfold OpenUnit.metInputs OpenUnit.mainInput
    rw [readers]
  simp only [OpenUnit.inputFiles, bind_apply, pure_apply, Lending.toList_apply]
  rw [dependencies, met]

theorem staleness_bySight (files : FileSystem NativeLibrary) :
    BySight fun u => OpenUnit.staleness e files u := by
  intro u u' l l' same
  obtain ⟨-, readers⟩ := Prod.mk.inj same
  have written : u.written = u'.written := congrArg (·.modified.toInstant) readers
  have inputs := inputFiles_bySight e u u' l l' same
  simp only [OpenUnit.staleness, bind_apply]
  rw [inputs, written]
  cases OpenUnit.judge files u'.written (u'.inputFiles e l').1 <;> rfl

/-- A state is left out if it is asked to be and nothing changed. -/
def keepStale (onlyStale : Bool) (name : String) (staleness : Staleness) : Option UnitStaleness :=
  if onlyStale && staleness.isUpToDate then none else some ⟨name, staleness⟩

theorem staleEntry_fst (files : FileSystem NativeLibrary) (onlyStale : Bool) (u : OpenUnit)
    (l : Ledger) :
    (staleEntry e files onlyStale u l).1 =
      (u.staleness e files l).1.map (keepStale onlyStale u.name) := by
  simp only [staleEntry, bind_apply]
  cases (u.staleness e files l).1 with
  | error fault => rfl
  | ok staleness =>
    simp only [Except.map, keepStale]
    split <;> rfl

theorem staleEntry_bySight (files : FileSystem NativeLibrary) (onlyStale : Bool) :
    BySight (staleEntry e files onlyStale) := by
  intro u u' l l' same
  obtain ⟨names, -⟩ := Prod.mk.inj same
  have states := staleness_bySight e files u u' l l' same
  simp only [staleEntry_fst]
  rw [states, names]

end Seen

section Gathering

variable {e : Engine} {answer : String → Except String UnitReader} {α : Type}
  {entry : OpenUnit → Access (Except Fault (Option α))}

def seenUnits (answer : String → Except String UnitReader) (names : List (Except Fault String)) :
    List (String × UnitReader) :=
  names.filterMap fun name => (name.bind (namedOutcome answer)).toOption

/-- An opening and what follows it, by what is seen of the unit. -/
theorem openUnit_cases (h : e.AnswersUnits answer) (name : Except Fault String) (l : Ledger) :
    (∃ fault, (e.openNamedUnit name l).1 = .error fault ∧
      name.bind (namedOutcome answer) = .error fault) ∨
    (∃ u, (e.openNamedUnit name l).1 = .ok u ∧ name.bind (namedOutcome answer) = .ok u.seen) := by
  have seen := openNamedUnit_seen h name l
  cases opened : (e.openNamedUnit name l).1 with
  | error fault =>
    rw [opened] at seen
    exact .inl ⟨fault, rfl, seen.symm⟩
  | ok u =>
    rw [opened] at seen
    exact .inr ⟨u, rfl, seen.symm⟩

theorem withUnit_fst (h : e.AnswersUnits answer) (sight : BySight entry) (name : String)
    (l : Ledger) :
    (withUnit e name entry l).1 = (namedOutcome answer name).bind (entryOf entry) := by
  rw [withUnit, bind_apply]
  obtain ⟨fault, opened, outcome⟩ | ⟨u, opened, outcome⟩ := openUnit_cases h (.ok name) l
  · simp only [Engine.openNamedUnit] at opened
    simp only [Except.bind] at outcome
    rw [opened, outcome]
    rfl
  · simp only [Engine.openNamedUnit] at opened
    simp only [Except.bind] at outcome
    rw [opened, outcome]
    exact sight.apply u _

theorem seenUnits_cons_error {name : Except Fault String} {fault : Fault}
    (outcome : name.bind (namedOutcome answer) = .error fault) (rest : List (Except Fault String)) :
    seenUnits answer (name :: rest) = seenUnits answer rest := by
  rw [seenUnits, List.filterMap_cons, outcome]
  rfl

theorem seenUnits_cons_ok {name : Except Fault String} {seen : String × UnitReader}
    (outcome : name.bind (namedOutcome answer) = .ok seen) (rest : List (Except Fault String)) :
    seenUnits answer (name :: rest) = seen :: seenUnits answer rest := by
  rw [seenUnits, List.filterMap_cons, outcome]
  rfl

theorem namedOutcome_fst {name : String} {seen : String × UnitReader}
    (opens : namedOutcome answer name = .ok seen) : seen.1 = name := by
  unfold namedOutcome at opens
  split at opens
  · nomatch opens
  · split at opens
    · cases opens
      rfl
    · nomatch opens

/-- Names are gathered as if each unit were asked on its own; the first that fails ends it. -/
theorem overNames_fst (h : e.AnswersUnits answer) (sight : BySight entry)
    (names : List (Except Fault String)) (l : Ledger) :
    (overNames e entry names l).1 =
      ((seenUnits answer names).mapM (entryOf entry)).map (·.flatMap Option.toList) := by
  induction names generalizing l with
  | nil => rfl
  | cons name rest ih =>
    rw [overNames, bind_apply]
    obtain ⟨fault, opened, outcome⟩ | ⟨u, opened, outcome⟩ := openUnit_cases h name l
    · rw [opened, seenUnits_cons_error outcome]
      exact ih _
    · have value := sight.apply u (e.openNamedUnit name l).2
      rw [opened, seenUnits_cons_ok outcome]
      simp only [bind_apply, value]
      cases found : entryOf entry u.seen with
      | error fault => rw [mapM_cons_error found]; rfl
      | ok gathered =>
        rw [mapM_cons_ok found]
        simp only [bind_apply, pure_apply, ih]
        cases (seenUnits answer rest).mapM (entryOf entry) <;> rfl

theorem gather_none_fst (h : e.AnswersUnits answer) (sight : BySight entry) (sorted : Bool)
    (l : Ledger) :
    (gather e none sorted entry l).1 =
      ((seenUnits answer ((e.unitNames sorted).map Engine.readName)).mapM (entryOf entry)).map
        (·.flatMap Option.toList) := by
  rw [gather, bind_apply, UnitCursor.gather_new]
  exact overNames_fst h sight _ _

theorem gather_some_fst (h : e.AnswersUnits answer) (sight : BySight entry) (sorted : Bool)
    (name : String) (l : Ledger) :
    (gather e (some name) sorted entry l).1 =
      ((namedOutcome answer name).bind (entryOf entry)).map Option.toList := by
  rw [gather, bind_apply, withUnit_fst h sight]
  rfl

theorem openUnit_seen (h : e.AnswersUnits answer) (name : String) (l : Ledger) :
    (e.openUnit name l).1.map OpenUnit.seen = namedOutcome answer name :=
  openNamedUnit_seen h (.ok name) l

theorem openUnit_isOk (h : e.AnswersUnits answer) (name : String) (l : Ledger) :
    (e.openUnit name l).1.isOk = (namedOutcome answer name).isOk := by
  rw [← openUnit_seen h name l]
  cases (e.openUnit name l).1 <;> rfl

/-- Of names, those that are text are asked for. -/
theorem seenUnits_readName (names : List Bytes) :
    seenUnits answer (names.map Engine.readName) =
      (names.filterMap nameText?).filterMap fun name => (namedOutcome answer name).toOption := by
  rw [seenUnits, List.filterMap_map, List.filterMap_filterMap]
  refine List.filterMap_congr fun octets _ => ?_
  rw [Function.comp_apply, Engine.readName, nameText?]
  cases Utf8.decode octets <;> rfl

/-- The names of units that are seen are the names that open. -/
theorem map_fst_seen (names : List String) :
    (names.filterMap fun name => (namedOutcome answer name).toOption).map Prod.fst =
      names.filter fun name => (namedOutcome answer name).isOk := by
  induction names with
  | nil => rfl
  | cons name rest ih =>
    rw [List.filterMap_cons, List.filter_cons]
    cases named : namedOutcome answer name with
    | error fault => exact ih
    | ok seen =>
      rw [← ih]
      exact congrArg (· :: _) (namedOutcome_fst named)

theorem openable_eq (h : e.AnswersUnits answer) (sorted : Bool) (l : Ledger) :
    e.openable sorted l =
      (seenUnits answer ((e.unitNames sorted).map Engine.readName)).map Prod.fst := by
  simp only [Engine.openable, openUnit_isOk h]
  rw [seenUnits_readName, map_fst_seen]

theorem seenUnits_open {names : List (Except Fault String)} :
    ∀ seen ∈ seenUnits answer names, namedOutcome answer seen.1 = .ok seen := by
  intro seen member
  obtain ⟨name, -, found⟩ := List.mem_filterMap.mp member
  cases name with
  | error fault => nomatch found
  | ok name =>
    cases named : namedOutcome answer name with
    | error fault => simp [Except.bind, named, Except.toOption] at found
    | ok other =>
      have same : other = seen := by simpa [Except.bind, named, Except.toOption] using found
      rw [← same, namedOutcome_fst named, named]

/-- A report on one unit that opens is its entry. -/
theorem gather_opened (h : e.AnswersUnits answer) (sight : BySight entry) (sorted : Bool)
    {name : String} {u : OpenUnit} {l : Ledger} (opened : (e.openUnit name l).1 = .ok u)
    (l' l'' : Ledger) :
    u.name = name ∧
      (gather e (some name) sorted entry l').1 = (entry u l'').1.map Option.toList := by
  have named := openUnit_seen h name l
  rw [opened] at named
  refine ⟨namedOutcome_fst named.symm, ?_⟩
  rw [gather_some_fst h sight, ← named, sight.apply u l'']
  rfl

end Gathering

/-- A report on all units is put together from the reports on those that open, in the order of
their names; the first of these that fails ends it. On a unit that does not open a report fails. -/
structure Concatenates (e : Engine) {α : Type}
    (report : Option String → Access (Except Fault (List α))) : Prop where
  all (l l' : Ledger) (after : String → Ledger) : (report none l).1 =
    ((e.openable true l').mapM fun name => (report (some name) (after name)).1).map List.flatten
  unopened (name : String) (fault : Fault) (l l' : Ledger) : (e.openUnit name l).1 = .error fault →
    (report (some name) l').1 = .error fault

theorem gather_concatenates {e : Engine} {answer : String → Except String UnitReader} {α : Type}
    {entry : OpenUnit → Access (Except Fault (Option α))} (h : e.AnswersUnits answer)
    (sight : BySight entry) : Concatenates e fun unit => gather e unit true entry where
  all l l' after := by
    rw [gather_none_fst h sight, openable_eq h]
    refine (mapM_flatten fun seen member => ?_).symm
    rw [gather_some_fst h sight, seenUnits_open seen member]
    rfl
  unopened name fault l l' unopened := by
    have named := openUnit_seen h name l
    rw [unopened] at named
    rw [gather_some_fst h sight, ← named]
    rfl

structure ReportsConcatenate (e : Engine) : Prop where
  includes (mainFile : Option String) :
    Concatenates e fun unit => includesEntries e unit mainFile
  includesAll (mainFile : Option String) (l : Ledger) :
    ∃ entries, (includesEntries e none mainFile l).1 = .ok entries
  /-- Nothing goes wrong with the directives of a unit that opened. -/
  includesOne (mainFile : Option String) (name : String) (u : OpenUnit) (l l' : Ledger) :
    (e.openUnit name l).1 = .ok u → (includesEntries e (some name) mainFile l').1 =
      .ok (if mainFile.all (endsWith u.reader.mainFile)
        then [⟨name, u.reader.includes.map Include.snapshot⟩] else [])
  stale (files : FileSystem NativeLibrary) (onlyStale : Bool) :
    Concatenates e fun unit => staleEntries e files unit onlyStale
  /-- What goes wrong with a unit that opened goes wrong with its inputs. -/
  staleOne (files : FileSystem NativeLibrary) (onlyStale : Bool) (name : String) (u : OpenUnit)
    (l l' l'' : Ledger) : (e.openUnit name l).1 = .ok u →
    (staleEntries e files (some name) onlyStale l').1 =
      (u.staleness e files l'').1.map fun staleness => (keepStale onlyStale name staleness).toList
  /-- Leaving out what is up to date neither adds nor hides a fault, and changes no order. -/
  onlyStale (files : FileSystem NativeLibrary) (unit : Option String) (l l' : Ledger) :
    (staleEntries e files unit true l).1 = (staleEntries e files unit false l').1.map
      (List.filter fun entry => !entry.staleness.isUpToDate)
  onlyStaleFails (files : FileSystem NativeLibrary) (clock clock' : Instant) (json json' : Bool)
    (unit : Option String) (l l' : Ledger) (fault : ReportFault) :
    ((Command.stale unit true).run e files clock json l).1 = .error fault ↔
      ((Command.stale unit false).run e files clock' json' l').1 = .error fault

section Reports

variable {e : Engine} {answer : String → Except String UnitReader}

theorem onlyStale_filter (h : e.AnswersUnits answer) (files : FileSystem NativeLibrary)
    (unit : Option String) (l l' : Ledger) :
    (staleEntries e files unit true l).1 = (staleEntries e files unit false l').1.map
      (List.filter fun entry => !entry.staleness.isUpToDate) := by
  have entries (seen : String × UnitReader) : entryOf (staleEntry e files true) seen =
      (entryOf (staleEntry e files false) seen).map
        (Option.filter fun entry => !entry.staleness.isUpToDate) := by
    simp only [entryOf, staleEntry_fst]
    cases (OpenUnit.staleness e files ⟨seen.1, 0, seen.2⟩ {}).1 with
    | error fault => rfl
    | ok staleness => cases staleness <;> rfl
  cases unit with
  | none =>
    rw [staleEntries, staleEntries, gather_none_fst h (staleEntry_bySight e files true),
      gather_none_fst h (staleEntry_bySight e files false)]
    exact mapM_filter entries _
  | some name =>
    rw [staleEntries, staleEntries, gather_some_fst h (staleEntry_bySight e files true),
      gather_some_fst h (staleEntry_bySight e files false)]
    cases namedOutcome answer name with
    | error fault => rfl
    | ok seen =>
      simp only [Except.bind, entries]
      cases entryOf (staleEntry e files false) seen with
      | error fault => rfl
      | ok found => exact congrArg Except.ok Option.toList_filter

/-- A report on staleness fails as its entries do. -/
theorem stale_error (e : Engine) (files : FileSystem NativeLibrary) (unit : Option String)
    (onlyStale json : Bool) (l : Ledger) (fault : ReportFault) :
    (stale e files unit onlyStale json l).1 = .error fault ↔
      ∃ query, (staleEntries e files unit onlyStale l).1 = .error query ∧ fault = .query query := by
  rw [stale, bind_apply]
  cases (staleEntries e files unit onlyStale l).1 with
  | error query => simp [eq_comm]
  | ok entries => simp

theorem reportsConcatenate_of_answers (h : e.AnswersUnits answer) : ReportsConcatenate e where
  includes mainFile := gather_concatenates h (includesEntry_bySight e mainFile)
  includesAll mainFile l := by
    have entries (seen : String × UnitReader) :
        entryOf (includesEntry e mainFile) seen = .ok _ := includesEntry_fst e mainFile _ {}
    rw [includesEntries, gather_none_fst h (includesEntry_bySight e mainFile), mapM_ok entries]
    exact ⟨_, rfl⟩
  includesOne mainFile name u l l' opened := by
    obtain ⟨called, gathered⟩ :=
      gather_opened h (includesEntry_bySight e mainFile) true opened l' l'
    rw [includesEntries, gathered, includesEntry_fst, called]
    split <;> rfl
  stale files onlyStale := gather_concatenates h (staleEntry_bySight e files onlyStale)
  staleOne files onlyStale name u l l' l'' opened := by
    obtain ⟨called, gathered⟩ :=
      gather_opened h (staleEntry_bySight e files onlyStale) true opened l' l''
    rw [staleEntries, gathered, staleEntry_fst, called]
    cases (u.staleness e files l'').1 <;> rfl
  onlyStale := onlyStale_filter h
  onlyStaleFails files clock clock' json json' unit l l' fault := by
    rw [Command.run, Command.run, stale_error, stale_error, onlyStale_filter h files unit l l']
    cases (staleEntries e files unit false l').1 <;> simp [Except.map]

end Reports

theorem Tables.answersUnits (t : Tables) (settings : MemorySettings) :
    (t.engine settings).AnswersUnits fun name => (t.openUnit name).map t.unitReader := by
  intro name l
  rw [Tables.createUnit_fst]
  dsimp only
  cases t.openUnit name <;> rfl

theorem NativeFunctions.answersUnits {P : Pointee → Type} (f : NativeFunctions P) :
    f.engine.AnswersUnits fun name => (f.openUnit name).mapError NativeFailure.report :=
  fun name l => Native.created_snd .unit (f.openUnit name) l

theorem perm_nativeNames (lib : NativeLibrary) :
    (lib.engine.unitNames true).Perm (lib.engine.unitNames false) := by
  rw [lib.engine_unitNames, lib.engine_unitNames]
  exact List.mergeSort_perm _ _

theorem pairwise_nativeNames (lib : NativeLibrary) :
    (lib.engine.unitNames true).Pairwise fun a b => Bytes.le a b := by
  rw [lib.engine_unitNames]
  exact @List.pairwise_mergeSort _ Bytes.le (fun _ _ _ => Bytes.le_trans) Bytes.le_total _

/-- Reports on all units are put together from reports on single units, with every engine that
answers alike when asked again; the names come in the order of their octets, each as often as it
stands in the store. -/
theorem reports_concatenate :
    (∀ (t : Tables) (settings : MemorySettings), ReportsConcatenate (t.engine settings) ∧
      (t.unitNames true).Perm (t.unitNames false) ∧
      (t.unitNames true).Pairwise fun a b => Bytes.le a b) ∧
    (∀ (P : Pointee → Type) (f : NativeFunctions P), ReportsConcatenate f.engine) ∧
    ∀ lib : NativeLibrary, (lib.engine.unitNames true).Perm (lib.engine.unitNames false) ∧
      (lib.engine.unitNames true).Pairwise fun a b => Bytes.le a b :=
  ⟨fun t settings => ⟨reportsConcatenate_of_answers (t.answersUnits settings), perm_unitNames t,
      pairwise_unitNames t⟩,
    fun _ f => reportsConcatenate_of_answers f.answersUnits,
    fun lib => ⟨perm_nativeNames lib, pairwise_nativeNames lib⟩⟩

end CodeIndex
