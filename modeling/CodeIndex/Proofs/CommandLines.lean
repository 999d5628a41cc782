import CodeIndex.Command.Run
import CodeIndex.Proofs.CommandWordings
/-!
# Bounds and places of options

Two things hold of every command line that is accepted. The bounds of a range of lines are given
both or not at all, so that no bound is dropped where a range is made of them. And an option that
holds for all commands may be given behind the command as well as before it.
-/
namespace CodeIndex.Command

open CodeIndex.Command.Reading

section Lookups

variable {said : List Said} {s : Said} {name : String}

theorem value?_heard_cons (s : Said) (said : List Said) (name : String) :
    (heard (s :: said)).value? name =
      if name = s.name then some s.value else (heard said).value? name := by
  by_cases same : name = s.name
  · simp [heard, value?, same]
  · simp [heard, value?, same, List.lookup_cons, beq_false_of_ne same]

theorem has_heard_cons (s : Said) (said : List Said) (name : String) :
    (heard (s :: said)).has name = (s.name == name || (heard said).has name) := rfl

/-- The value that is taken down for a name is the one that was said. -/
theorem value?_heard (once : (names said).Nodup) {value : String} :
    (heard said).value? name = some value ↔ ∃ s ∈ said, s.name = name ∧ s.value = value := by
  induction said with
  | nil => exact ⟨nofun, fun ⟨_, mem, _⟩ => (nomatch mem)⟩
  | cons t said ih =>
    obtain ⟨new, once⟩ := List.nodup_cons.mp once
    simp only [value?_heard_cons, List.mem_cons, exists_eq_or_imp, ← ih once]
    by_cases same : name = t.name
    · have missing : (heard said).value? name ≠ some value := fun found => by
        obtain ⟨s, mem, named, -⟩ := (ih once).mp found
        exact new (mem_names.mpr ⟨s, mem, by rw [named, same]⟩)
      subst same
      simp only [if_true, missing, or_false, true_and, Option.some.injEq]
    · simp only [if_neg same, Ne.symm same, false_and, false_or]

end Lookups

section Origins

variable {level : Level} {said : List Said}

/-- What is said is said by an option or in a place of the level. -/
def Level.Knows (level : Level) (s : Said) : Prop :=
  (∃ o ∈ level.options, s = o.saying s.value) ∨ ∃ place ∈ level.places, s = place.saying s.value

theorem Letters.known {letters : List Char} {last : Option Named}
    (h : Letters level letters said last) :
    (∀ s ∈ said, level.Knows s) ∧ ∀ o, last = some o → o ∈ level.options := by
  induction h with
  | none => exact ⟨nofun, nofun⟩
  | flag mem _ _ _ ih => exact ⟨List.forall_mem_cons.mpr ⟨.inl ⟨_, mem, rfl⟩, ih.1⟩, ih.2⟩
  | waiting mem => exact ⟨nofun, fun _ same => Option.some.inj same ▸ mem⟩
  | attached mem | joined mem =>
    exact ⟨List.forall_mem_singleton.mpr (.inl ⟨_, mem, rfl⟩), nofun⟩

theorem Opens.known {argument : String} {last : Option Named}
    (h : Opens level argument said last) :
    (∀ s ∈ said, level.Knows s) ∧ ∀ o, last = some o → o ∈ level.options := by
  cases h with
  | flag mem | attached mem =>
    exact ⟨List.forall_mem_singleton.mpr (.inl ⟨_, mem, rfl⟩), nofun⟩
  | waiting mem => exact ⟨nofun, fun _ same => Option.some.inj same ▸ mem⟩
  | letters spelled => exact spelled.known

theorem Says.known {places left : List Place} {arguments : List String}
    (h : Says level places arguments said left)
    (places_known : ∀ place ∈ places, place ∈ level.places) :
    (∀ s ∈ said, level.Knows s) ∧ ∀ place ∈ left, place ∈ level.places := by
  induction h with
  | nothing => exact ⟨nofun, places_known⟩
  | option opens _ ih =>
    obtain ⟨more, rest⟩ := ih places_known
    exact ⟨List.forall_mem_append.mpr ⟨opens.known.1, more⟩, rest⟩
  | optionWithValue opens _ _ ih =>
    obtain ⟨more, rest⟩ := ih places_known
    obtain ⟨first, last⟩ := opens.known
    exact ⟨List.forall_mem_append.mpr ⟨first,
      List.forall_mem_cons.mpr ⟨.inl ⟨_, last _ rfl, rfl⟩, more⟩⟩, rest⟩
  | place _ _ _ ih =>
    obtain ⟨first, rest⟩ := List.forall_mem_cons.mp places_known
    exact ⟨List.forall_mem_cons.mpr ⟨.inr ⟨_, first, rfl⟩, (ih rest).1⟩, (ih rest).2⟩

theorem known_values {left : List Place} (h : ∀ place ∈ left, place ∈ level.places)
    (values : List String) : ∀ s ∈ List.zipWith Place.saying left values, level.Knows s := by
  induction left generalizing values with
  | nil => exact nofun
  | cons place left ih =>
    obtain ⟨first, rest⟩ := List.forall_mem_cons.mp h
    cases values with
    | nil => exact nofun
    | cons value values => exact List.forall_mem_cons.mpr ⟨.inr ⟨_, first, rfl⟩, ih rest values⟩

theorem SaysAll.known {arguments : List String} (h : SaysAll level arguments said) :
    ∀ s ∈ said, level.Knows s := by
  cases h with
  | plainly worded => exact (worded.known fun _ => id).1
  | @dashed _ values _ left worded =>
    obtain ⟨first, rest⟩ := worded.known fun _ => id
    exact List.forall_mem_append.mpr ⟨first, known_values rest values⟩

end Origins

section Bounds

variable {level : Level} {said : List Said} {libraryPath : Option String}

/-- The number that is read for an option. -/
def bound (said : List Said) (name : String) : Option UInt32 :=
  ((heard said).value? name).bind number?

theorem bound_eq_some (once : (names said).Nodup) {name : String} {n : UInt32} :
    bound said name = some n ↔ ∃ s ∈ said, s.name = name ∧ number? s.value = some n := by
  rw [bound, Option.bind_eq_some_iff]
  constructor
  · rintro ⟨value, found, read⟩
    obtain ⟨s, mem, named, rfl⟩ := (value?_heard once).mp found
    exact ⟨s, mem, named, read⟩
  · rintro ⟨s, mem, named, read⟩
    exact ⟨s.value, (value?_heard once).mpr ⟨s, mem, named, rfl⟩, read⟩

/-- An option of a level wants a number and needs another one. -/
structure Level.Bound (level : Level) (name other : String) : Prop where
  option : ∃ o ∈ level.options, o.long = name ∧ o.needs = some other
  wants : ∀ o ∈ level.options, o.long = name → o.wants = .number
  places : ∀ place ∈ level.places, place.name ≠ name

variable {name other : String}

/-- The checks let a bound through only as a number: one is read exactly if it was said. -/
theorem bound_isSome (sound : Sound said) (known : ∀ s ∈ said, level.Knows s)
    (h : level.Bound name other) : (bound said name).isSome ↔ name ∈ names said := by
  rw [Option.isSome_iff_exists]
  simp only [bound_eq_some sound.once, mem_names]
  constructor
  · rintro ⟨n, s, mem, named, -⟩
    exact ⟨s, mem, named⟩
  · rintro ⟨s, mem, rfl⟩
    have wants : s.wants = .number := by
      obtain ⟨o, optional, same⟩ | ⟨place, placed, same⟩ := known s mem
      · rw [same]
        exact h.wants o optional (by rw [same]; rfl)
      · exact absurd (by rw [same]; rfl) (h.places place placed)
    have checked := sound.checked s mem
    rw [wants, check] at checked
    split at checked
    · cases checked
    · rename_i number
      obtain ⟨n, read⟩ := Option.ne_none_iff_exists'.mp (by simpa using number)
      exact ⟨n, s, mem, rfl, read⟩

/-- What needs another is said with it. -/
theorem other_said (accepted : Acceptable level libraryPath said) (h : level.Bound name other)
    (given : name ∈ names said) : other ∈ names said := by
  obtain ⟨o, mem, rfl, needs⟩ := h.option
  exact accepted.needs o mem given other needs

end Bounds

section Pairs

/-- The command that lists occurrences knows two bounds, each of which needs the other. -/
theorem occurrences_bounds : ∀ entry ∈ commandLevels, entry.1 = "occurrences" →
    entry.2.Bound "line-start" "line-count" ∧ entry.2.Bound "line-count" "line-start" := by
  intro entry mem named
  simp only [commandLevels, List.mem_cons, List.not_mem_nil, or_false] at mem
  rcases mem with rfl | rfl | rfl | rfl | rfl <;>
    first
    | exact absurd named (by decide)
    | exact ⟨by constructor <;> decide, by constructor <;> decide⟩

/-- What the bounds read from a command line are: the numbers said for them, both or none, and the
range that is listed is made of them. -/
structure Wording.Bounded (w : Wording) (record : String) (usr : Option String)
    (start count : Option UInt32) : Prop where
  named : w.name = "occurrences"
  startRead : ∀ n, start = some n ↔
    ∃ s ∈ w.inner, s.name = "line-start" ∧ number? s.value = some n
  countRead : ∀ n, count = some n ↔
    ∃ s ∈ w.inner, s.name = "line-count" ∧ number? s.value = some n
  startSaid : start.isSome ↔ "line-start" ∈ names w.inner
  countSaid : count.isSome ↔ "line-count" ∈ names w.inner
  paired : start.isSome ↔ count.isSome
  listed : ∃ range : Option (UInt32 × UInt32),
    (range.isSome ↔ "line-start" ∈ names w.inner ∧ "line-count" ∈ names w.inner) ∧
    (∀ first lines, range = some (first, lines) ↔ start = some first ∧ count = some lines) ∧
    ∀ (e : Engine) (files : FileSystem NativeLibrary) (clock : Instant) (json : Bool),
      Command.run e files clock json (.occurrences record usr start count) =
        Report.occurrences e record usr range json

/-- A range is made of two bounds. -/
theorem lines_eq_some {start count : Option UInt32} {first lines : UInt32} :
    Command.lines start count = some (first, lines) ↔ start = some first ∧ count = some lines := by
  cases start <;> cases count <;> simp [Command.lines]

theorem lines_isSome {start count : Option UInt32} :
    (Command.lines start count).isSome ↔ start.isSome ∧ count.isSome := by
  cases start <;> cases count <;> simp [Command.lines]

theorem occurrences_of_ofReading {name record : String} {r : Reading} {usr : Option String}
    {start count : Option UInt32} (h : ofReading name r = .occurrences record usr start count) :
    name = "occurrences" ∧ start = (r.value? "line-start").bind number? ∧
      count = (r.value? "line-count").bind number? := by
  unfold ofReading at h
  split at h
  · cases h
  split at h
  · cases h
  split at h
  · cases h
  split at h
  · rename_i named
    cases h
    exact ⟨named, rfl, rfl⟩
  · cases h

theorem bounded_of_accepted {w : Wording} {libraryPath : Option String} {record : String}
    {usr : Option String} {start count : Option UInt32} (accepted : w.Accepted libraryPath)
    (h : ofReading w.name (heard w.inner) = .occurrences record usr start count) :
    w.Bounded record usr start count := by
  obtain ⟨named, rfl, rfl⟩ := occurrences_of_ofReading h
  obtain ⟨starts, counts⟩ := occurrences_bounds _ w.known named
  have sound := accepted.inner.toSound
  have startSaid := bound_isSome sound w.closes.known starts
  have countSaid := bound_isSome sound w.closes.known counts
  have together : "line-start" ∈ names w.inner ↔ "line-count" ∈ names w.inner :=
    ⟨other_said accepted.inner starts, other_said accepted.inner counts⟩
  exact {
    named
    startRead := fun _ => bound_eq_some sound.once
    countRead := fun _ => bound_eq_some sound.once
    startSaid
    countSaid
    paired := startSaid.trans (together.trans countSaid.symm)
    listed := ⟨_, lines_isSome.trans (and_congr startSaid countSaid),
      fun _ _ => lines_eq_some, fun _ _ _ _ => rfl⟩ }

end Pairs

section Moving

variable {level : Level} {libraryPath : Option String}

/-- An argument that gives an option of all commands, with its value. -/
inductive Movable : String → Said → Prop
  | library (path : String) : Movable ("--library=" ++ path) ⟨"library", .path, path⟩
  | store (path : String) : Movable ("--store=" ++ path) ⟨"store", .path, path⟩
  | json : Movable "--json" ⟨"json", .nothing, ""⟩
  | verbose : Movable "--verbose" ⟨"verbose", .nothing, ""⟩

/-- An option of all commands is known before the command and behind it, and it needs no other. -/
theorem shared_known : ∀ o ∈ sharedOptions, o ∈ topLevel.options ∧
    ∀ entry ∈ commandLevels, o ∈ entry.2.options ∧
      ∀ other ∈ entry.2.options, other.long = o.long → other.needs = none := by
  decide +kernel

/-- A movable argument is the long name of an option, with the value attached if it wants one. -/
theorem Movable.spelled {argument : String} {s : Said} (h : Movable argument s) :
    ∃ o ∈ sharedOptions, s = o.saying s.value ∧
      (o.wants = .nothing ∧ s.value = "" ∧ argument = "--" ++ o.long ∨
        o.wants.value ∧ argument = "--" ++ o.long ++ "=" ++ s.value) := by
  cases h with
  | library path =>
    exact ⟨libraryOption, by decide, rfl, .inr ⟨rfl, congrArg (· ++ path) (by decide)⟩⟩
  | store path =>
    exact ⟨{ long := "store", short := some 's', wants := .path }, by decide, rfl,
      .inr ⟨rfl, congrArg (· ++ path) (by decide)⟩⟩
  | json =>
    exact ⟨{ long := "json", wants := .nothing }, by decide, rfl, .inl ⟨rfl, rfl, by decide⟩⟩
  | verbose =>
    exact ⟨{ long := "verbose", short := some 'v', wants := .nothing }, by decide, rfl,
      .inl ⟨rfl, rfl, by decide⟩⟩

/-- An argument with two dashes names one option, with the value attached to it if there is one. -/
theorem Opens.long (distinct : level.Distinct) {argument : String} {text : List Char}
    {said : List Said} {last : Option Named} (h : Opens level argument said last)
    (spelled : argument.toList = '-' :: '-' :: text) :
    ∃ o ∈ level.options, ∃ value, splitEquals text = (o.long.toList, value) ∧
      match value with
      | some value => o.wants.value ∧ said = [o.saying (String.ofList value)] ∧ last = none
      | none => o.wants = .nothing ∧ said = [o.saying ""] ∧ last = none ∨
          o.wants.value ∧ said = [] ∧ last = some o := by
  cases h with
  | @flag o mem flag =>
    have same : text = o.long.toList := by simpa using spelled.symm
    exact ⟨o, mem, none, by rw [same, splitEquals_plain (distinct.spelled o mem).2.1],
      .inl ⟨flag, rfl, rfl⟩⟩
  | @waiting o mem wants =>
    have same : text = o.long.toList := by simpa using spelled.symm
    exact ⟨o, mem, none, by rw [same, splitEquals_plain (distinct.spelled o mem).2.1],
      .inr ⟨wants, rfl, rfl⟩⟩
  | @attached o value mem wants =>
    have same : text = o.long.toList ++ '=' :: value.toList := by simpa using spelled.symm
    refine ⟨o, mem, some value.toList, ?_, wants, by rw [String.ofList_toList], rfl⟩
    rw [same, splitEquals_attached (distinct.spelled o mem).2.1]
  | letters letters =>
    rw [String.toList_ofList] at spelled
    obtain rfl : _ = '-' := by simpa using And.left (List.cons.inj (List.cons.inj spelled).2)
    exact absurd rfl (letters.head distinct)

/-- A movable argument says the option and nothing else, wherever the option is known. -/
theorem Movable.opens {argument : String} {s : Said} (h : Movable argument s)
    (distinct : level.Distinct) (knows : ∀ o ∈ sharedOptions, o ∈ level.options) :
    Opens level argument [s] none ∧
      ∀ said last, Opens level argument said last → said = [s] ∧ last = none := by
  obtain ⟨o, shared, same, words⟩ := h.spelled
  have mem := knows o shared
  have noEquals := (distinct.spelled o mem).2.1
  have unique : ∀ other ∈ level.options, o.long.toList = other.long.toList → o = other :=
    fun other known names => distinct.longs o mem other known (String.toList_inj.mp names)
  generalize s.value = value at same words
  subst same
  obtain ⟨flag, rfl, rfl⟩ | ⟨wants, rfl⟩ := words
  · have spelled : ("--" ++ o.long).toList = '-' :: '-' :: o.long.toList := by simp
    refine ⟨.flag mem flag, fun said last opens => ?_⟩
    obtain ⟨other, known, attached, split, rest⟩ := opens.long distinct spelled
    rw [splitEquals_plain noEquals] at split
    obtain ⟨names, rfl⟩ := Prod.mk.inj split
    obtain rfl := unique other known names
    obtain ⟨-, said, last⟩ | ⟨wants, -⟩ := rest
    · exact ⟨said, last⟩
    · rw [flag] at wants; cases wants
  · have spelled : ("--" ++ o.long ++ "=" ++ value).toList =
        '-' :: '-' :: (o.long.toList ++ '=' :: value.toList) := by simp
    refine ⟨.attached mem wants, fun said last opens => ?_⟩
    obtain ⟨other, known, attached, split, rest⟩ := opens.long distinct spelled
    rw [splitEquals_attached noEquals] at split
    obtain ⟨names, rfl⟩ := Prod.mk.inj split
    obtain rfl := unique other known names
    obtain ⟨-, said, last⟩ := rest
    exact ⟨by rw [said, String.ofList_toList], last⟩

/-- An argument that is an option by itself can be left out with what it says. -/
theorem Says.remove {argument : String} {s : Said}
    (alone : ∀ said last, Opens level argument said last → said = [s] ∧ last = none)
    (notPlain : ¬ Plain argument) {places left : List Place} {front back arguments : List String}
    {said : List Said} (h : Says level places arguments said left)
    (whole : arguments = front ++ argument :: back) :
    ∃ earlier later, said = earlier ++ s :: later ∧
      Says level places (front ++ back) (earlier ++ later) left := by
  induction h generalizing front with
  | nothing => simp at whole
  | option opens rest ih =>
    cases front with
    | nil =>
      obtain ⟨rfl, rfl⟩ := List.cons.inj whole
      obtain ⟨rfl, -⟩ := alone _ _ opens
      exact ⟨[], _, rfl, rest⟩
    | cons first front =>
      obtain ⟨rfl, rfl⟩ := List.cons.inj whole
      obtain ⟨earlier, later, rfl, worded⟩ := ih rfl
      refine ⟨_ ++ earlier, later, (List.append_assoc ..).symm, ?_⟩
      rw [List.append_assoc]
      exact .option opens worded
  | optionWithValue opens plain rest ih =>
    -- The argument is neither an option that waits nor the value of one.
    match front with
    | [] =>
      obtain ⟨rfl, -⟩ := List.cons.inj whole
      obtain ⟨-, waits⟩ := alone _ _ opens
      cases waits
    | [first] =>
      obtain ⟨rfl, rest⟩ := List.cons.inj whole
      obtain ⟨rfl, -⟩ := List.cons.inj rest
      exact absurd plain notPlain
    | first :: second :: front =>
      obtain ⟨rfl, rest⟩ := List.cons.inj whole
      obtain ⟨rfl, rfl⟩ := List.cons.inj rest
      obtain ⟨earlier, later, rfl, worded⟩ := ih rfl
      refine ⟨_ ++ _ :: earlier, later, by rw [List.append_assoc]; rfl, ?_⟩
      rw [List.append_assoc]
      exact .optionWithValue opens plain worded
  | place plain free rest ih =>
    cases front with
    | nil =>
      obtain ⟨rfl, -⟩ := List.cons.inj whole
      exact absurd plain notPlain
    | cons first front =>
      obtain ⟨rfl, rfl⟩ := List.cons.inj whole
      obtain ⟨earlier, later, rfl, worded⟩ := ih rfl
      exact ⟨_ :: earlier, later, rfl, .place plain free worded⟩

/-- An argument that is an option by itself can be put before the arguments of a level. -/
theorem SaysAll.cons {argument : String} {s : Said} {arguments : List String} {said : List Said}
    (opens : Opens level argument [s] none) (h : SaysAll level arguments said) :
    SaysAll level (argument :: arguments) (s :: said) := by
  cases h with
  | plainly worded => exact .plainly (.option opens worded)
  | dashed worded fits => exact .dashed (.option opens worded) fits

section Same

variable {s : Said} {earlier later inner : List Said}

theorem sublist_without : (earlier ++ later).Sublist (earlier ++ s :: later) :=
  (List.Sublist.refl earlier).append (List.sublist_cons_self s later)

/-- Leaving one option out is all right, unless the library that the environment names was hidden
by it. -/
theorem acceptable_without (h : Acceptable topLevel libraryPath (earlier ++ s :: later))
    (library : s.name = libraryOption.long → ∀ path, libraryPath = some path → path ≠ "") :
    Acceptable topLevel libraryPath (earlier ++ later) where
  once := h.once.sublist (sublist_without.map Said.name)
  checked t mem := h.checked t (sublist_without.subset mem)
  library path holds := by
    by_cases same : s.name = libraryOption.long
    · exact .inr (library same path holds)
    · refine (h.library path holds).imp_left fun mem => ?_
      simpa [names, Ne.symm same] using mem
  places := nofun
  needs o mem _ other needs := by
    rw [topLevel_needs o mem] at needs
    cases needs

/-- An option that was not said and needs no other may be said too. -/
theorem acceptable_with (h : Acceptable level libraryPath inner) (new : s.name ∉ names inner)
    (checked : check s.wants s.value = .ok ())
    (needless : ∀ o ∈ level.options, o.long = s.name → o.needs = none) :
    Acceptable level libraryPath (s :: inner) where
  toSound := sound_cons.mpr ⟨checked, new, h.toSound⟩
  library path holds := (h.library path holds).imp_left (List.mem_cons_of_mem _)
  places place mem required := List.mem_cons_of_mem _ (h.places place mem required)
  needs o mem given other needs := by
    obtain same | given := List.mem_cons.mp given
    · rw [needless o mem same] at needs
      cases needs
    · exact List.mem_cons_of_mem _ (h.needs o mem given other needs)

theorem shared_eq (top inner : Reading) (name : String) :
    CommandLine.shared top inner name = (inner.value? name).or (top.value? name) := by
  unfold CommandLine.shared
  cases inner.value? name <;> rfl

theorem value?_heard_append (said more : List Said) (name : String) :
    (heard (said ++ more)).value? name =
      ((heard said).value? name).or ((heard more).value? name) := by
  simp only [heard, value?, List.map_append]
  exact List.lookup_append

theorem has_heard_append (said more : List Said) (name : String) :
    (heard (said ++ more)).has name = ((heard said).has name || (heard more).has name) := by
  simp [heard, has]

theorem value?_heard_none {said : List Said} {name : String} (h : name ∉ names said) :
    (heard said).value? name = none := by
  rw [value?, List.lookup_eq_none_iff]
  rintro _ given
  obtain ⟨t, mem, rfl⟩ := List.mem_map.mp given
  rw [bne_iff_ne]
  exact fun same => h (mem_names.mpr ⟨t, mem, same.symm⟩)

/-- The value of an option is the same at either level if it is given once. -/
theorem shared_moved (apart : s.name ∉ names earlier) (new : s.name ∉ names inner)
    (name : String) :
    CommandLine.shared (heard (earlier ++ later)) (heard (s :: inner)) name =
      CommandLine.shared (heard (earlier ++ s :: later)) (heard inner) name := by
  simp only [shared_eq, value?_heard_append, value?_heard_cons]
  split
  · rename_i same
    rw [same, value?_heard_none apart, value?_heard_none new]
    rfl
  · rfl

/-- An option counts as given at either level. -/
theorem has_moved (name : String) :
    ((heard (earlier ++ later)).has name || (heard (s :: inner)).has name) =
      ((heard (earlier ++ s :: later)).has name || (heard inner).has name) := by
  simp only [has_heard_append, has_heard_cons]
  ac_rfl

/-- The command does not depend on the options that hold for all of them. -/
theorem ofReading_moved {argument : String} (h : Movable argument s) (name : String)
    (said : List Said) : ofReading name (heard (s :: said)) = ofReading name (heard said) := by
  cases h <;> simp [ofReading, value?_heard_cons, has_heard_cons]

end Same

/-- The same wording with an argument moved from before the command to right behind it. -/
theorem exists_moved (w : Wording) {front back : List String} {argument : String} {s : Said}
    (before : w.before = front ++ argument :: back) (movable : Movable argument s)
    (once : (names (w.outer ++ w.inner)).count s.name = 1) (accepted : w.Accepted libraryPath) :
    ∃ moved : Wording, moved.arguments = front ++ back ++ w.name :: argument :: w.behind ∧
      moved.Accepted libraryPath ∧ moved.line libraryPath = w.line libraryPath := by
  obtain ⟨-, alone⟩ := movable.opens topLevel_distinct fun o mem => (shared_known o mem).1
  obtain ⟨opens, -⟩ := movable.opens (commandLevels_distinct _ w.known) fun o mem =>
    ((shared_known o mem).2 _ w.known).1
  obtain ⟨earlier, later, outer, worded⟩ := w.opens.remove alone opens.not_plain before
  obtain ⟨apart, new⟩ : s.name ∉ names earlier ∧ s.name ∉ names w.inner := by
    simp only [outer, names, List.map_append, List.map_cons, List.count_append,
      List.count_cons_self] at once ⊢
    exact ⟨List.count_eq_zero.mp (by omega), List.count_eq_zero.mp (by omega)⟩
  have before_accepted := outer ▸ accepted.outer
  have needless : ∀ o ∈ w.level.options, o.long = s.name → o.needs = none := by
    obtain ⟨o, shared, worded, -⟩ := movable.spelled
    intro other mem same
    exact ((shared_known o shared).2 _ w.known).2 other mem (by rw [same, worded]; rfl)
  refine ⟨⟨front ++ back, earlier ++ later, w.name, w.level, argument :: w.behind, s :: w.inner,
    worded, w.known, w.closes.cons opens⟩, rfl, ⟨?_, ?_⟩, ?_⟩
  · refine acceptable_without before_accepted fun same path holds => ?_
    exact (accepted.inner.library path holds).resolve_left (same ▸ new)
  · exact acceptable_with accepted.inner new (before_accepted.checked s (by simp)) needless
  · simp only [Wording.line, lineOf, outer, shared_moved apart new, has_moved,
      ofReading_moved movable]

end Moving

/-- **A command line that is accepted is told apart, and in one way. If it lists occurrences, the
bounds of their lines are given both or not at all, and the range that is listed is made of them. An
argument before the command that gives an option of all commands, and is the only one to give it,
may be moved to right behind the command: what is read stays the same.** -/
theorem bounds_paired_and_options_movable (libraryPath : Option String) (arguments : List String)
    (line : CommandLine) (accepted : CommandLine.parse libraryPath arguments = .ok line) :
    (∃ w : Wording, w.arguments = arguments) ∧
    ∀ w : Wording, w.arguments = arguments →
      (∀ other : Wording, other.arguments = arguments →
        other.before = w.before ∧ other.name = w.name ∧ other.behind = w.behind) ∧
      (∀ record usr start count, line.command = .occurrences record usr start count →
        w.Bounded record usr start count) ∧
      ∀ front back argument s, w.before = front ++ argument :: back → Movable argument s →
        (names (w.outer ++ w.inner)).count s.name = 1 →
        CommandLine.parse libraryPath (front ++ back ++ w.name :: argument :: w.behind) =
          .ok line := by
  refine ⟨exists_wording accepted, ?_⟩
  rintro w rfl
  obtain ⟨levels, rfl⟩ := (parse_wording w).mp accepted
  refine ⟨fun other => wording_unique levels, fun record usr start count =>
    bounded_of_accepted levels, fun front back argument s before movable once => ?_⟩
  obtain ⟨moved, same, moved_accepted, line⟩ := exists_moved w before movable once levels
  rw [← same, ← line]
  exact (parse_wording moved).mpr ⟨moved_accepted, rfl⟩

/-- Both bounds are given, and `--json` moves over the store and the command. -/
theorem bounds_paired_and_options_movable_json :
    ∃ w : Wording,
      w.arguments = ["--json", "-ss", "occurrences", "r", "--line-start=2", "--line-count", "3"] ∧
      w.Bounded "r" none (some 2) (some 3) ∧
      CommandLine.parse none w.arguments = .ok
        ⟨none, ⟨"s"⟩, true, false, .occurrences "r" none (some 2) (some 3)⟩ ∧
      CommandLine.parse none
          ["-ss", "occurrences", "--json", "r", "--line-start=2", "--line-count", "3"] = .ok
        ⟨none, ⟨"s"⟩, true, false, .occurrences "r" none (some 2) (some 3)⟩ := by
  have json := (Movable.json.opens topLevel_distinct fun o mem => (shared_known o mem).1).1
  have store : Opens topLevel "-ss" [⟨"store", .path, "s"⟩] none :=
    .letters (.joined (o := { long := "store", short := some 's', wants := .path })
      (by decide) rfl rfl nofun (by decide))
  have start : Opens commandLevels[3].2 ("--" ++ "line-start" ++ "=" ++ "2")
      [⟨"line-start", .number, "2"⟩] none :=
    .attached (o := { long := "line-start", wants := .number, needs := some "line-count" })
      (by decide) rfl
  have count : Opens commandLevels[3].2 ("--" ++ "line-count") [] _ :=
    .waiting (o := { long := "line-count", wants := .number, needs := some "line-start" })
      (by decide) rfl
  let w : Wording := {
    before := ["--json", "-ss"]
    outer := [⟨"json", .nothing, ""⟩, ⟨"store", .path, "s"⟩]
    name := "occurrences"
    level := commandLevels[3].2
    behind := ["r", "--line-start=2", "--line-count", "3"]
    inner := [⟨"RECORD", .text, "r"⟩, ⟨"line-start", .number, "2"⟩, ⟨"line-count", .number, "3"⟩]
    opens := .option json (.option store .nothing)
    known := by decide
    closes := .plainly (.place (by decide) (by decide)
      (.option start (.optionWithValue count (by decide) .nothing))) }
  have accepted : CommandLine.parse none w.arguments = .ok
      ⟨none, ⟨"s"⟩, true, false, .occurrences "r" none (some 2) (some 3)⟩ := rfl
  obtain ⟨-, bounded, moves⟩ :=
    (bounds_paired_and_options_movable none w.arguments _ accepted).2 w rfl
  exact ⟨w, rfl, bounded _ _ _ _ rfl, accepted,
    moves [] ["-ss"] "--json" _ rfl .json rfl⟩

end CodeIndex.Command
