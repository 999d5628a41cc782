import CodeIndex.Proofs.TakingDown
/-!
# Accepted command lines

A command line that is accepted can be told apart: options with their values, a command, and what is
said to that command. Every command line told apart so is accepted exactly if nothing is said twice,
every value passes its check and everything required is there, and then what is read is what was
said.
-/
namespace CodeIndex.Command

namespace Reading

variable {r : Reading} {level : Level} {closed : Bool} {places : List Place}

/-! ### What is accepted is said -/

theorem splitEquals_eq {text name : List Char} {value : Option (List Char)}
    (h : splitEquals text = (name, value)) :
    text = name ++ (value.map ('=' :: ·)).getD [] := by
  induction text generalizing name value with
  | nil => cases h; rfl
  | cons c rest ih =>
    rw [splitEquals] at h
    split at h
    · rename_i equals
      cases h
      simp [equals]
    · cases h
      simpa using ih rfl

/-- An option that is read wants a value, or it wants nothing and has nothing attached. -/
theorem of_readOption {o : Named} {attached : Option String} {after : Reading}
    (h : r.readOption o attached = .ok after) :
    (∃ settled, r.settle = .ok settled) ∧
      (o.wants.value ∨ o.wants = .nothing ∧ attached = none) := by
  have settles : ∀ {next : Reading → Except UsageFault Reading},
      (r.settle >>= next) = .ok after → ∃ settled, r.settle = .ok settled :=
    fun result => (bind_eq_ok result).imp fun _ => And.left
  unfold readOption at h
  split at h
  · rename_i wants
    exact ⟨settles h, .inl wants⟩
  · rename_i noValue
    split at h
    · cases h
    · refine ⟨settles h, .inr ⟨?_, rfl⟩⟩
      obtain ⟨settled, result⟩ := settles h
      rw [bind_of_ok result] at h
      cases wants : o.wants with
      | nothing => rfl
      | text | path | number => exact absurd (by rw [wants]; rfl) noValue
      | help | version => rw [wants] at h; cases h

/-- Letters that are read are spelled as options. -/
theorem letters_of_readShort {letters : List Char} {after : Reading}
    (h : r.readShort level letters = .ok after) : ∃ said last, Letters level letters said last := by
  induction letters generalizing r with
  | nil => exact ⟨[], none, .none⟩
  | cons c rest ih =>
    rw [readShort] at h
    split at h
    · cases h
    · rename_i o found
      have mem := List.mem_of_find?_eq_some found
      have short : o.short = some c := by simpa using List.find?_some found
      split at h
      · rename_i wants
        cases rest with
        | nil => exact ⟨_, _, .waiting mem short wants⟩
        | cons d value =>
          by_cases equals : d = '='
          · rw [equals]
            exact ⟨_, _, .attached mem short wants⟩
          · exact ⟨_, _, .joined mem short wants (by simp) (by simpa using equals)⟩
      · rename_i noValue
        obtain ⟨next, read, h⟩ := bind_eq_ok h
        obtain ⟨said, last, spelled⟩ := ih h
        obtain wants | ⟨wants, -⟩ := (of_readOption read).2
        · exact absurd wants noValue
        · exact ⟨_, _, .flag mem short wants spelled⟩

/-- Letters are read when what is pending passes its check. -/
theorem settles_of_readShort {c : Char} {letters : List Char} {after : Reading}
    (h : r.readShort level (c :: letters) = .ok after) : ∃ settled, r.settle = .ok settled := by
  rw [readShort] at h
  split at h
  · cases h
  · split at h
    · split at h
      · exact (of_readOption h).1
      · exact (of_readOption h).1
      · exact (of_readOption h).1
    · obtain ⟨next, read, -⟩ := bind_eq_ok h
      exact (of_readOption read).1

/-- A long name that is read is the name of an option. -/
theorem opens_of_readLong {text : List Char} {after : Reading}
    (h : r.readLong level text = .ok after) :
    (∃ settled, r.settle = .ok settled) ∧
      ∃ said last, Opens level (String.ofList ('-' :: '-' :: text)) said last := by
  rw [readLong] at h
  generalize split : splitEquals text = parts at h
  obtain ⟨name, value⟩ := parts
  simp only at h
  split at h
  · cases h
  · rename_i o found
    have mem := List.mem_of_find?_eq_some found
    have long : o.long = String.ofList name := by simpa using List.find?_some found
    have whole := splitEquals_eq split
    obtain ⟨settles, wants⟩ := of_readOption h
    refine ⟨settles, ?_⟩
    cases value with
    | none =>
      have spelled : String.ofList ('-' :: '-' :: text) = "--" ++ o.long :=
        String.toList_inj.mp (by simp [whole, long])
      rw [spelled]
      obtain wants | ⟨wants, -⟩ := wants
      · exact ⟨_, _, .waiting mem wants⟩
      · exact ⟨_, _, .flag mem wants⟩
    | some value =>
      have spelled : String.ofList ('-' :: '-' :: text) =
          "--" ++ o.long ++ "=" ++ String.ofList value :=
        String.toList_inj.mp (by simp [whole, long])
      rw [spelled]
      obtain wants | ⟨-, attached⟩ := wants
      · exact ⟨_, _, .attached mem wants⟩
      · cases attached

theorem plain_of_spelling {argument : String}
    (h : ∀ c text, argument.toList ≠ '-' :: c :: text) : Plain argument := by
  cases spelled : argument.toList with
  | nil => exact .inr (by simp [spelled])
  | cons c text =>
    by_cases dash : c = '-'
    · cases text with
      | nil => exact .inl (String.toList_inj.mp (by rw [spelled, dash]; rfl))
      | cons d text => exact absurd (by rw [spelled, dash]) (h d text)
    · exact .inr (by simpa [spelled] using dash)

/-- An argument that is read is two dashes, a value or an option. -/
theorem of_readArgument {argument : String} {after : Reading} (hr : r.valuesOnly = false)
    (h : r.readArgument level argument = .ok after) :
    argument = "--" ∨ Plain argument ∨
      (∃ settled, r.settle = .ok settled) ∧ ∃ said last, Opens level argument said last := by
  have back : String.ofList argument.toList = argument := String.ofList_toList
  rw [readArgument, hr] at h
  simp only [Bool.false_eq_true, if_false] at h
  split at h
  · rename_i spelled
    exact .inl (by rw [← back, spelled])
  · rename_i spelled
    rw [← back, spelled]
    exact .inr (.inr (opens_of_readLong h))
  · rename_i spelled
    obtain ⟨said, last, letters⟩ := letters_of_readShort h
    rw [← back, spelled]
    exact .inr (.inr ⟨settles_of_readShort h, said, last, .letters letters⟩)
  · rename_i other
    exact .inr (.inl (plain_of_spelling fun c text => other c text))

/-- A value that is read has a place. -/
theorem of_readValue {value : String} {after : Reading}
    (h : r.readValue level value = .ok after) :
    (∃ settled, r.settle = .ok settled) ∧ ∃ place, level.places[r.taken]? = some place := by
  rw [readValue] at h
  split at h
  · rename_i place next
    obtain ⟨settled, result, -⟩ := bind_eq_ok h
    exact ⟨⟨settled, result⟩, place, next⟩
  · split at h
    · cases h
    · split at h <;> cases h

theorem At.cons {place : Place} (hr : At level closed places none r)
    (next : level.places[r.taken]? = some place) : places = place :: places.tail := by
  cases places with
  | nil =>
    have kept := congrArg (·[0]?) hr.left
    simp [next] at kept
  | cons other rest =>
    have kept := congrArg (·[0]?) hr.left
    have same : place = other := by simpa [next] using kept
    rw [same]; rfl

/-- What an option that waits for its value leaves pending fails its check. -/
theorem At.not_settled {o : Named} (hr : At level closed places (some o) r) (after : Reading) :
    r.settle ≠ .ok after := by
  rw [settle, hr.pending_eq]
  intro h
  cases h

/-- How the arguments of a level end: they are over, values follow two dashes, or a command
starts. -/
inductive Ending (level : Level) (left : List Place) :
    List String → Option (String × List String) → Prop
  | ended : Ending level left [] none
  | dashed {values : List String} :
      values.length ≤ left.length → Ending level left ("--" :: values) none
  | command {name : String} {behind : List String} :
      name ∈ level.commands → Ending level left (name :: behind) (some (name, behind))

/-- Behind two dashes no more values are read than there are places. -/
theorem values_of_readAll {values : List String} {after : Reading}
    {command : Option (String × List String)} (hr : At level true places none r)
    (h : readAll level r values = .ok (after, command)) :
    command = none ∧ values.length ≤ places.length := by
  induction values generalizing r places with
  | nil => cases h; exact ⟨rfl, Nat.zero_le _⟩
  | cons value rest ih =>
    rw [readAll_cons (by simp [startsCommand, hr.valuesOnly]),
      readArgument_closed hr.valuesOnly] at h
    obtain ⟨next, result, h⟩ := bind_eq_ok h
    obtain ⟨-, place, found⟩ := of_readValue result
    have taken := hr.cons found
    rw [taken] at hr ⊢
    obtain ⟨ended, fits⟩ := ih ((takes_place hr).lands next result) h
    exact ⟨ended, Nat.succ_le_succ fits⟩

/-- Behind two dashes an option still waits for its value. -/
theorem waits_of_readAll {o : Named} {values : List String} {after : Reading}
    {command : Option (String × List String)} (hr : At level true places (some o) r)
    (h : readAll level r values = .ok (after, command)) : after = r := by
  cases values with
  | nil => cases h; rfl
  | cons value rest =>
    rw [readAll_cons (by simp [startsCommand, hr.valuesOnly]),
      readArgument_closed hr.valuesOnly] at h
    obtain ⟨next, result, -⟩ := bind_eq_ok h
    obtain ⟨⟨settled, checked⟩, -⟩ := of_readValue result
    exact absurd checked (hr.not_settled settled)

/-- The argument behind an option that waits is its value, or nothing is accepted. -/
theorem value_of_readAll {o : Named} {arguments : List String} {after settled : Reading}
    {command : Option (String × List String)} (hr : At level false places (some o) r)
    (h : readAll level r arguments = .ok (after, command)) (checked : after.settle = .ok settled) :
    ∃ value rest, arguments = value :: rest ∧ Plain value ∧
      ∃ next, r.readArgument level value = .ok next ∧
        readAll level next rest = .ok (after, command) := by
  cases arguments with
  | nil => cases h; exact absurd checked (hr.not_settled settled)
  | cons value rest =>
    rw [readAll_cons (by simp [startsCommand, hr.waiting])] at h
    obtain ⟨next, result, h⟩ := bind_eq_ok h
    obtain rfl | plain | ⟨⟨early, failed⟩, -⟩ := of_readArgument hr.valuesOnly result
    · rw [readArgument_dashes hr.valuesOnly] at result
      cases result
      rw [waits_of_readAll (hr.of_dashes) h] at checked
      exact absurd checked (hr.of_dashes.not_settled settled)
    · exact ⟨value, rest, rfl, plain, next, result, h⟩
    · exact absurd failed (hr.not_settled early)

/-- **Arguments that are accepted say something, up to where they end.** -/
theorem worded_of_readAll (distinct : level.Distinct) {after settled : Reading}
    {command : Option (String × List String)} (checked : after.settle = .ok settled) :
    (arguments : List String) → {r : Reading} → {places : List Place} →
    At level false places none r → readAll level r arguments = .ok (after, command) →
    ∃ before said left tail, arguments = before ++ tail ∧
      Says level places before said left ∧ Ending level left tail command
  | [], r, places, hr, h => by
    cases h
    exact ⟨[], [], places, [], rfl, .nothing, .ended⟩
  | argument :: rest, r, places, hr, h => by
    cases starts : r.startsCommand level argument with
    | true =>
      rw [readAll, if_pos starts] at h
      cases h
      have mem : argument ∈ level.commands := by
        have := starts
        simp only [startsCommand, Bool.and_eq_true, List.contains_iff_mem] at this
        exact this.2
      exact ⟨[], [], places, _, rfl, .nothing, .command mem⟩
    | false =>
      rw [readAll_cons starts] at h
      obtain ⟨next, result, h⟩ := bind_eq_ok h
      obtain rfl | plain | ⟨-, said, last, opens⟩ := of_readArgument hr.valuesOnly result
      · rw [readArgument_dashes hr.valuesOnly] at result
        cases result
        obtain ⟨rfl, fits⟩ := values_of_readAll hr.of_dashes h
        exact ⟨[], [], places, _, rfl, .nothing, .dashed fits⟩
      · have free : argument ∉ level.commands := by
          simpa [startsCommand, hr.valuesOnly, hr.waiting] using starts
        rw [readArgument_placed plain hr] at result
        obtain ⟨-, place, found⟩ := of_readValue result
        have taken := hr.cons found
        rw [taken] at hr ⊢
        obtain ⟨before, more, left, tail, rfl, worded, ending⟩ :=
          worded_of_readAll distinct checked rest ((takes_place hr).lands next result) h
        exact ⟨_, _, left, tail, rfl, .place plain free worded, ending⟩
      · have lands := (takes_option distinct opens hr).lands next result
        cases last with
        | none =>
          obtain ⟨before, more, left, tail, rfl, worded, ending⟩ :=
            worded_of_readAll distinct checked rest lands h
          exact ⟨_, _, left, tail, rfl, .option opens worded, ending⟩
        | some o =>
          -- The value goes with its option: two arguments at once, so the recursion is on length.
          obtain ⟨value, behind, rfl, plain, last, result, h⟩ := value_of_readAll lands h checked
          have taken := (takes_value plain lands).lands last result
          obtain ⟨before, more, left, tail, rfl, worded, ending⟩ :=
            worded_of_readAll distinct checked behind taken h
          exact ⟨_, _, left, tail, rfl, .optionWithValue opens plain worded, ending⟩
  termination_by arguments => arguments.length

end Reading

/-- What is taken down of what is said. -/
def heard (said : List Said) : Reading := { given := said.map fun s => (s.name, s.value) }

section Levels

open CodeIndex.Command.Reading

variable {level : Level} {arguments : List String} {said : List Said} {r : Reading}
variable {libraryPath : Option String}

/-- Reading the arguments takes down what is said, up to the command if there is one. -/
def Hears (level : Level) (arguments : List String) (said : List Said)
    (command : Option (String × List String)) : Prop :=
  ∃ outcome, ({} : Reading).readAll level arguments = outcome.map (·, command) ∧
    Takes Rests {} said outcome

theorem hears_all (distinct : level.Distinct) (h : SaysAll level arguments said) :
    Hears level arguments said none := by
  cases h with
  | plainly worded =>
    have taken := takes_worded distinct worded (at_start level)
    refine ⟨readEach level {} arguments, ?_, ⟨fun r h => (taken.lands r h).rests, taken.stands⟩⟩
    have read := readAll_worded distinct worded (at_start level) []
    rw [List.append_nil] at read
    rw [read]
    cases readEach level {} arguments <;> rfl
  | @dashed before values said left worded fits =>
    have first := takes_worded distinct worded (at_start level)
    have last : ∀ r, At level false left none r → _ := fun r hr =>
      takes_values level fits hr.of_dashes
    have dashes : ∀ r, At level false left none r → readAll level r ("--" :: values) =
        (readEach level { r with valuesOnly := true } values).map (·, none) := fun r hr => by
      rw [readAll_cons (startsCommand_dashes distinct r), readArgument_dashes hr.valuesOnly,
        bind_of_ok rfl, (last r hr).2]
    refine ⟨readEach level {} before >>= fun r =>
      readEach level { r with valuesOnly := true } values, ?_, first.bind fun r hr => ?_⟩
    · rw [readAll_worded distinct worded (at_start level),
        bind_congr_of_ok fun after result => dashes after (first.lands after result)]
      cases readEach level {} before <;> rfl
    · exact (Takes.move hr.of_dashes (standing_dashes r)).bind fun r hr =>
        (takes_values level fits hr).1

theorem hears_command (distinct : level.Distinct) {left : List Place} {name : String}
    {behind : List String} (h : Says level level.places arguments said left)
    (mem : name ∈ level.commands) :
    Hears level (arguments ++ name :: behind) said (some (name, behind)) := by
  have taken := takes_worded distinct h (at_start level)
  refine ⟨readEach level {} arguments, ?_, ⟨fun r h => (taken.lands r h).rests, taken.stands⟩⟩
  have starts : ∀ r, At level false left none r →
      readAll level r (name :: behind) = .ok (r, some (name, behind)) := fun r hr => by
    rw [readAll, if_pos (by simp [startsCommand, hr.valuesOnly, hr.waiting, mem])]
  rw [readAll_worded distinct h (at_start level),
    bind_congr_of_ok fun after result => starts after (taken.lands after result)]
  cases readEach level {} arguments <;> rfl

namespace Hears

variable {command : Option (String × List String)}

/-- A reading ends where it is said to end, and it takes down what is said. -/
theorem ends (h : Hears level arguments said command) {other : Option (String × List String)}
    (read : ({} : Reading).readAll level arguments = .ok (r, other)) :
    other = command ∧ Takes Rests {} said (.ok r) := by
  obtain ⟨outcome, result, taken⟩ := h
  rw [result] at read
  cases outcome with
  | error => cases read
  | ok after => cases read; exact ⟨rfl, taken⟩

/-- What is accepted is sound, and nothing else is taken down. -/
theorem sound (h : Hears level arguments said command) {other : Option (String × List String)}
    {settled : Reading} (read : ({} : Reading).readAll level arguments = .ok (r, other))
    (checked : r.settle = .ok settled) : Sound said ∧ settled.bare = heard said := by
  obtain ⟨-, taken⟩ := h.ends read
  have stands := taken.stands
  rw [bind_of_ok rfl, standing_of_rests (taken.lands r rfl), checked] at stands
  exact (acceptAll_eq_ok.mp stands.symm).2

/-- What is sound is accepted. -/
theorem accepted (h : Hears level arguments said command) (sound : Sound said) :
    ∃ r settled, ({} : Reading).readAll level arguments = .ok (r, command) ∧
      r.settle = .ok settled ∧ settled.bare = heard said := by
  obtain ⟨outcome, result, taken⟩ := h
  have stands : (outcome >>= standing) = .ok (heard said) := by
    rw [taken.stands]
    exact acceptAll_eq_ok.mpr ⟨fun _ _ => rfl, sound, rfl⟩
  obtain ⟨r, rfl, stood⟩ := bind_eq_ok stands
  rw [standing_of_rests (taken.lands r rfl)] at stood
  cases checked : r.settle with
  | error => rw [checked] at stood; cases stood
  | ok settled =>
    rw [checked] at stood
    exact ⟨r, settled, result, checked, Except.ok.inj stood⟩

end Hears

/-- Something was given if it was said. -/
theorem has_iff (h : r.bare = heard said) {name : String} : r.has name ↔ name ∈ names said := by
  change r.bare.has name ↔ _
  rw [h]
  simp [heard, has]

theorem checkFallback_iff (h : r.bare = heard said) :
    r.checkFallback libraryOption libraryPath = .ok () ↔
      ∀ path, libraryPath = some path → libraryOption.long ∈ names said ∨ path ≠ "" := by
  cases libraryPath with
  | none => exact ⟨fun _ _ same => (nomatch same), fun _ => rfl⟩
  | some path =>
    simp only [checkFallback, Option.some.injEq, forall_eq', ← has_iff h]
    split
    · rename_i given
      exact ⟨fun _ => .inl given, fun _ => rfl⟩
    · rename_i free
      have checks : check libraryOption.wants path = .ok () ↔ path ≠ "" := by
        simp [check, libraryOption]
      rw [checks, or_iff_right free]

theorem complete_eq_ok (h : r.bare = heard said) {after : Reading} :
    r.complete level = .ok after ↔
      after = r ∧ (∀ place ∈ level.places, place.required → place.name ∈ names said) ∧
        ∀ o ∈ level.options, o.long ∈ names said → ∀ other, o.needs = some other →
          other ∈ names said := by
  have whole : ((level.places.all fun place => !place.required || r.has place.name) &&
      (level.options.all fun o => !r.has o.long || o.needs.all r.has)) = true ↔
      (∀ place ∈ level.places, place.required → r.has place.name) ∧
        ∀ o ∈ level.options, r.has o.long → ∀ other, o.needs = some other → r.has other := by
    simp only [Bool.and_eq_true, List.all_eq_true, Bool.or_eq_true, Bool.not_eq_true',
      Option.all_eq_true, ← Bool.not_eq_true, ← Decidable.imp_iff_not_or]
  rw [complete]
  simp only [← has_iff h]
  split
  · rename_i fits
    exact ⟨fun same => ⟨(Except.ok.inj same).symm, whole.mp fits⟩, fun given => by rw [given.1]⟩
  · rename_i misses
    exact ⟨fun same => (nomatch same), fun given => absurd (whole.mpr given.2) misses⟩

/-- **A level is read exactly if what is said at it is acceptable.** -/
theorem readLevel_eq_ok (distinct : level.Distinct) (h : SaysAll level arguments said)
    {x : Reading} :
    (∃ r, readLevel level libraryPath arguments = .ok r ∧ r.bare = x) ↔
      Acceptable level libraryPath said ∧ x = heard said := by
  constructor
  · rintro ⟨after, read, rfl⟩
    obtain ⟨⟨r, command⟩, result, read⟩ := bind_eq_ok read
    obtain ⟨settled, checked, read⟩ := bind_eq_ok read
    obtain ⟨⟨⟩, fallback, read⟩ := bind_eq_ok read
    obtain ⟨sound, same⟩ := (hears_all distinct h).sound result checked
    obtain ⟨rfl, places, needs⟩ := (complete_eq_ok same).mp read
    exact ⟨⟨sound, (checkFallback_iff same).mp fallback, places, needs⟩, same⟩
  · rintro ⟨acceptable, rfl⟩
    obtain ⟨r, settled, result, checked, same⟩ := (hears_all distinct h).accepted acceptable.toSound
    refine ⟨settled, ?_, same⟩
    rw [readLevel, bind_of_ok result]
    simp only
    rw [bind_of_ok checked, bind_of_ok ((checkFallback_iff same).mpr acceptable.library)]
    exact (complete_eq_ok same).mpr ⟨rfl, acceptable.places, acceptable.needs⟩

/-- What is accepted at a level without commands is said. -/
theorem saysAll_of_readLevel (distinct : level.Distinct) (noCommands : level.commands = [])
    (h : readLevel level libraryPath arguments = .ok r) : ∃ said, SaysAll level arguments said := by
  obtain ⟨⟨after, command⟩, result, h⟩ := bind_eq_ok h
  obtain ⟨settled, checked, -⟩ := bind_eq_ok h
  obtain ⟨before, said, left, tail, rfl, worded, ending⟩ :=
    worded_of_readAll distinct checked arguments (at_start level) result
  cases ending with
  | ended =>
    rw [List.append_nil]
    exact ⟨said, .plainly worded⟩
  | dashed fits => exact ⟨_, .dashed worded fits⟩
  | command mem => rw [noCommands] at mem; cases mem

end Levels

def lineOf (libraryPath : Option String) (top : Reading) (name : String) (inner : Reading) :
    CommandLine where
  library := ((CommandLine.shared top inner libraryOption.long).or libraryPath).map Path.mk
  store := ⟨(CommandLine.shared top inner "store").getD "."⟩
  json := top.has "json" || inner.has "json"
  verbose := top.has "verbose" || inner.has "verbose"
  command := ofReading name inner

theorem lineOf_bare (libraryPath : Option String) (top : Reading) (name : String)
    (inner : Reading) :
    lineOf libraryPath top name inner = lineOf libraryPath top.bare name inner.bare := rfl

/-- A command line told apart: what is said before the command, and what is said to it. -/
structure Wording where
  before : List String
  outer : List Said
  name : String
  level : Level
  behind : List String
  inner : List Said
  opens : Says topLevel [] before outer []
  known : (name, level) ∈ commandLevels
  closes : SaysAll level behind inner

namespace Wording

def arguments (w : Wording) : List String := w.before ++ w.name :: w.behind

structure Accepted (w : Wording) (libraryPath : Option String) : Prop where
  outer : Acceptable topLevel libraryPath w.outer
  inner : Acceptable w.level libraryPath w.inner

def line (w : Wording) (libraryPath : Option String) : CommandLine :=
  lineOf libraryPath (heard w.outer) w.name (heard w.inner)

end Wording

section Lines

open CodeIndex.Command.Reading CommandLine

variable {libraryPath : Option String} {arguments : List String} {line : CommandLine}

theorem lookup_of_known : ∀ entry ∈ commandLevels,
    commandLevels.lookup entry.1 = some entry.2 ∧ entry.1 ≠ helpCommand ∧
      entry.1 ∈ topLevel.commands ∧ entry.2.commands = [] := by
  decide +kernel

theorem topLevel_needs : ∀ o ∈ topLevel.options, o.needs = none := by
  decide

/-- Both levels are read before the checks at the first. -/
theorem parse_of_command {top : Reading} {name : String} {behind : List String} {level : Level}
    (read : ({} : Reading).readAll topLevel arguments = .ok (top, some (name, behind)))
    (known : (name, level) ∈ commandLevels) :
    parse libraryPath arguments = readLevel level libraryPath behind >>= fun inner =>
      top.settle >>= fun top => top.checkFallback libraryOption libraryPath >>= fun _ =>
        .ok (lineOf libraryPath top name inner) := by
  obtain ⟨found, apart, -⟩ := lookup_of_known _ known
  rw [parse, bind_of_ok read]
  simp only [if_neg apart, found]
  rfl

/-- A reading before the command takes down what is said there. -/
theorem Wording.hears (w : Wording) :
    Hears topLevel w.arguments w.outer (some (w.name, w.behind)) :=
  hears_command topLevel_distinct w.opens (lookup_of_known _ w.known).2.2.1

/-- **A command line that is told apart is accepted exactly if both of its levels are, and then what
is read is what is said.** -/
theorem parse_wording (w : Wording) :
    parse libraryPath w.arguments = .ok line ↔
      w.Accepted libraryPath ∧ line = w.line libraryPath := by
  have distinct := commandLevels_distinct _ w.known
  constructor
  · intro h
    obtain ⟨⟨top, command⟩, read, -⟩ := bind_eq_ok h
    obtain ⟨rfl, -⟩ := w.hears.ends read
    rw [parse_of_command read w.known] at h
    obtain ⟨inner, readInner, h⟩ := bind_eq_ok h
    obtain ⟨settled, checked, h⟩ := bind_eq_ok h
    obtain ⟨⟨⟩, fallback, h⟩ := bind_eq_ok h
    obtain ⟨sound, same⟩ := w.hears.sound read checked
    obtain ⟨accepted, same_inner⟩ := (readLevel_eq_ok distinct w.closes).mp ⟨inner, readInner, rfl⟩
    refine ⟨⟨⟨sound, (checkFallback_iff same).mp fallback, nofun, fun o mem _ other needs => ?_⟩,
      accepted⟩, ?_⟩
    · rw [topLevel_needs o mem] at needs
      cases needs
    · rw [← Except.ok.inj h, lineOf_bare, same, same_inner, Wording.line]
  · rintro ⟨accepted, rfl⟩
    obtain ⟨top, settled, read, checked, same⟩ := w.hears.accepted accepted.outer.toSound
    obtain ⟨inner, readInner, same_inner⟩ :=
      (readLevel_eq_ok distinct w.closes).mpr ⟨accepted.inner, rfl⟩
    rw [parse_of_command read w.known, bind_of_ok readInner, bind_of_ok checked,
      bind_of_ok ((checkFallback_iff same).mpr accepted.outer.library), lineOf_bare, same,
      same_inner, Wording.line]

/-- Where no places are open, none are left. -/
theorem Says.left_nil {level : Level} {places left : List Place} {said : List Said}
    (h : Says level places arguments said left) (closed : places = []) : left = [] := by
  induction h with
  | nothing => exact closed
  | option _ _ ih | optionWithValue _ _ _ ih => exact ih closed
  | place => cases closed

/-- **A command line that is accepted can be told apart.** -/
theorem exists_wording (h : parse libraryPath arguments = .ok line) :
    ∃ w : Wording, w.arguments = arguments := by
  obtain ⟨⟨top, command⟩, read, h⟩ := bind_eq_ok h
  cases command with
  | none =>
    obtain ⟨settled, -, h⟩ := bind_eq_ok h
    obtain ⟨⟨⟩, -, h⟩ := bind_eq_ok h
    split at h <;> cases h
  | some command =>
    obtain ⟨name, behind⟩ := command
    simp only at h
    split at h
    · cases h
    split at h
    · cases h
    rename_i level found
    have known : (name, level) ∈ commandLevels := by
      obtain ⟨_, _, whole, -⟩ := List.lookup_eq_some_iff.mp found
      simp [whole]
    obtain ⟨inner, readInner, h⟩ := bind_eq_ok h
    obtain ⟨settled, checked, -⟩ := bind_eq_ok h
    obtain ⟨before, outer, left, tail, rfl, opens, ending⟩ :=
      worded_of_readAll topLevel_distinct checked arguments (at_start topLevel) read
    obtain ⟨-, -, -, noCommands⟩ := lookup_of_known _ known
    obtain ⟨said, closes⟩ :=
      saysAll_of_readLevel (commandLevels_distinct _ known) noCommands readInner
    obtain rfl := opens.left_nil rfl
    cases ending with
    | command => exact ⟨⟨before, outer, name, level, behind, said, opens, known, closes⟩, rfl⟩

/-- A command line that is accepted is told apart in one way. -/
theorem wording_unique {w other : Wording} (accepted : w.Accepted libraryPath)
    (same : other.arguments = w.arguments) :
    other.before = w.before ∧ other.name = w.name ∧ other.behind = w.behind := by
  obtain ⟨top, -, read, -⟩ := w.hears.accepted accepted.outer.toSound
  rw [← same] at read
  obtain ⟨command, -⟩ := other.hears.ends read
  obtain ⟨name, behind⟩ := Prod.mk.inj (Option.some.inj command)
  rw [Wording.arguments, Wording.arguments, name, behind] at same
  exact ⟨List.append_cancel_right same, name.symm, behind.symm⟩

end Lines

end CodeIndex.Command
