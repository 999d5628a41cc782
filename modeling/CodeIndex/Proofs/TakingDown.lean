import CodeIndex.Proofs.Wordings
/-!
# Taking down what is said

A reader goes through the arguments from left to right and checks what is pending only when the next
argument is recognized. Each of its steps takes down what the argument says, as far as that counts
for sure; so does a reading of many arguments, whether or not it is accepted.
-/
namespace CodeIndex.Command

/-! ### What is given for sure -/

theorem bind_of_ok {α β : Type} {step : Except UsageFault α} {a : α} (h : step = .ok a)
    {next : α → Except UsageFault β} : (step >>= next) = next a := by
  rw [h]; rfl

theorem bind_eq_ok {α β : Type} {step : Except UsageFault α} {next : α → Except UsageFault β}
    {b : β} (h : (step >>= next) = .ok b) : ∃ a, step = .ok a ∧ next a = .ok b := by
  cases step with
  | error => cases h
  | ok a => exact ⟨a, rfl, h⟩

namespace Reading

def bare (r : Reading) : Reading := { given := r.given }

/-- What is given for sure: what is pending is checked first. An option that waits for its value is
left out. -/
def standing (r : Reading) : Except UsageFault Reading :=
  match r.pending with
  | some (_, _, none) => .ok r.bare
  | _ => r.settle.map bare

def acceptAll (said : List Said) (r : Reading) : Except UsageFault Reading :=
  said.foldlM (fun r s => r.accept s.name s.wants s.value) r

theorem acceptAll_append (said more : List Said) (r : Reading) :
    r.acceptAll (said ++ more) = r.acceptAll said >>= (acceptAll more ·) :=
  List.foldlM_append ..

/-- What is accepted is new and passes its check. -/
theorem accept_eq_ok {r after : Reading} {name : String} {wants : Wants} {value : String} :
    r.accept name wants value = .ok after ↔
      r.has name = false ∧ check wants value = .ok () ∧
        after = { r with given := r.given ++ [(name, value)] } := by
  unfold accept
  cases r.has name with
  | true => simp
  | false =>
    cases checked : check wants value with
    | error fault => simp [bind, Except.bind]
    | ok => simp [bind, Except.bind, eq_comm]

theorem has_append (r : Reading) (name value other : String) :
    ({ r with given := r.given ++ [(name, value)] } : Reading).has other =
      (r.has other || name == other) := by
  simp [has]

/-- All of it is accepted if it is said once, was not given before and passes its checks. -/
theorem acceptAll_eq_ok {r after : Reading} {said : List Said} :
    r.acceptAll said = .ok after ↔
      (∀ s ∈ said, r.has s.name = false) ∧ Sound said ∧
        after = { r with given := r.given ++ said.map fun s => (s.name, s.value) } := by
  induction said generalizing r with
  | nil =>
    constructor
    · intro h
      cases h
      exact ⟨fun _ h => (nomatch h), .nil, by simp⟩
    · rintro ⟨-, -, rfl⟩
      rw [List.map_nil, List.append_nil]
      rfl
  | cons s more ih =>
    have step : r.acceptAll (s :: more) =
        r.accept s.name s.wants s.value >>= acceptAll more := rfl
    rw [step, List.forall_mem_cons, sound_cons]
    constructor
    · intro h
      obtain ⟨next, accepted, h⟩ := bind_eq_ok h
      obtain ⟨new, checked, rfl⟩ := accept_eq_ok.mp accepted
      obtain ⟨news, sound, rfl⟩ := ih.mp h
      simp only [has_append, Bool.or_eq_false_iff, beq_eq_false_iff_ne] at news
      refine ⟨⟨new, fun t mem => (news t mem).1⟩, ⟨checked, ?_, sound⟩, by simp⟩
      exact fun mem => by
        obtain ⟨t, mem, same⟩ := mem_names.mp mem
        exact (news t mem).2 same.symm
    · rintro ⟨⟨new, news⟩, ⟨checked, apart, sound⟩, rfl⟩
      rw [bind_of_ok (accept_eq_ok.mpr ⟨new, checked, rfl⟩)]
      refine ih.mpr ⟨fun t mem => ?_, sound, by simp⟩
      rw [has_append, news t mem, Bool.false_or, beq_eq_false_iff_ne]
      exact fun same => apart (mem_names.mpr ⟨t, mem, same.symm⟩)

/-- Only what is given decides whether more is accepted. -/
theorem bare_accept (r : Reading) (name : String) (wants : Wants) (value : String) :
    r.bare.accept name wants value = (r.accept name wants value).map bare := by
  unfold accept
  have same : r.bare.has name = r.has name := rfl
  rw [same]
  split
  · rfl
  · cases check wants value <;> rfl

/-- Checking what is pending changes nothing but what is given. -/
theorem settle_eq_ok {r after : Reading} (h : r.settle = .ok after) :
    after = { r with given := after.given, pending := none } := by
  unfold settle at h
  split at h
  case h_1 empty => cases h; rw [← empty]
  case h_2 => cases h
  case h_3 =>
    obtain ⟨-, -, rfl⟩ := accept_eq_ok.mp h
    rfl

def Rests (r : Reading) : Prop := r.pending.filter (·.2.2.isNone) = none

theorem rests_of_empty {r : Reading} (h : r.pending = none) : r.Rests := by
  simp [Rests, h]

theorem standing_of_rests {r : Reading} (h : r.Rests) : r.standing = r.settle.map bare := by
  unfold standing
  split
  · rename_i pending
    simp [Rests, pending] at h
  · rfl

theorem standing_of_empty {r : Reading} (h : r.pending = none) : r.standing = .ok r.bare := by
  rw [standing_of_rests (rests_of_empty h), settle, h]; rfl

theorem standing_of_waiting {r : Reading} {name : String} {wants : Wants}
    (h : r.pending = some (name, wants, none)) : r.standing = .ok r.bare := by
  rw [standing, h]

theorem standing_of_pending {r : Reading} {name value : String} {wants : Wants}
    (h : r.pending = some (name, wants, some value)) :
    r.standing = r.bare.accept name wants value := by
  have settled : r.settle = { r with pending := none }.accept name wants value := by rw [settle, h]
  rw [standing_of_rests (by simp [Rests, h]), settled, ← bare_accept]
  rfl

/-- Whether only values follow does not bear on what counts. -/
theorem standing_dashes (r : Reading) : { r with valuesOnly := true }.standing = r.standing := by
  cases h : r.pending with
  | none => exact (standing_of_empty rfl).trans (standing_of_empty h).symm
  | some pending =>
    obtain ⟨name, wants, _ | value⟩ := pending
    · exact (standing_of_waiting rfl).trans (standing_of_waiting h).symm
    · exact (standing_of_pending rfl).trans (standing_of_pending h).symm

/-! ### Steps of the reader -/

/-- A step takes down what was said, as far as it counts for sure, and lands as promised. -/
structure Takes (P : Reading → Prop) (r : Reading) (said : List Said)
    (outcome : Except UsageFault Reading) : Prop where
  lands : ∀ after, outcome = .ok after → P after
  stands : (outcome >>= standing) = r.standing >>= acceptAll said

variable {P Q : Reading → Prop} {r : Reading} {said more : List Said}

theorem Takes.nothing (h : P r) : Takes P r [] (.ok r) where
  lands _ same := by cases same; exact h
  stands := (bind_pure r.standing).symm

/-- Steps follow one another. -/
theorem Takes.bind {outcome : Except UsageFault Reading} (first : Takes P r said outcome)
    {next : Reading → Except UsageFault Reading} (second : ∀ r, P r → Takes Q r more (next r)) :
    Takes Q r (said ++ more) (outcome >>= next) := by
  have joined : (r.standing >>= acceptAll (said ++ more)) =
      outcome >>= standing >>= acceptAll more := by
    rw [first.stands, bind_assoc]
    exact bind_congr fun _ => acceptAll_append ..
  -- A first step that fails has failed for what it took down, and so has the rest of it.
  cases result : outcome with
  | error fault =>
    exact ⟨fun _ h => (nomatch h), by rw [joined, result]; rfl⟩
  | ok after =>
    have step := second after (first.lands after result)
    refine ⟨step.lands, ?_⟩
    rw [joined, result, bind_of_ok rfl, step.stands, bind_of_ok rfl]

/-- What is pending is checked before the step. -/
theorem Takes.settle (rests : r.Rests) {next : Reading → Except UsageFault Reading}
    (second : ∀ after, r.settle = .ok after → Takes P after said (next after)) :
    Takes P r said (r.settle >>= next) := by
  cases settled : r.settle with
  | error fault =>
    refine ⟨fun _ h => (nomatch h), ?_⟩
    rw [standing_of_rests rests, settled]; rfl
  | ok after =>
    have empty : after.pending = none := by rw [settle_eq_ok settled]
    have step := second after settled
    refine ⟨step.lands, ?_⟩
    rw [bind_of_ok rfl, step.stands, standing_of_empty empty, standing_of_rests rests, settled]
    rfl

/-- With nothing pending, a value that is accepted counts at once. -/
theorem Takes.accept (empty : r.pending = none) {o : Named} {value : String}
    (h : P { r with given := r.given ++ [(o.long, value)], waiting := false }) :
    Takes P r [o.saying value]
      (r.accept o.long o.wants value >>= fun r => .ok { r with waiting := false }) := by
  have stood : (r.standing >>= acceptAll [o.saying value]) =
      (r.accept o.long o.wants value).map bare := by
    rw [standing_of_empty empty, bind_of_ok rfl, ← bare_accept]
    exact bind_pure (r.bare.accept o.long o.wants value)
  cases accepted : r.accept o.long o.wants value with
  | error fault => exact ⟨fun _ h => (nomatch h), by rw [stood, accepted]; rfl⟩
  | ok after =>
    obtain ⟨-, -, rfl⟩ := accept_eq_ok.mp accepted
    refine ⟨fun _ same => by cases same; exact h, ?_⟩
    rw [stood, accepted, bind_of_ok rfl, bind_of_ok rfl]
    exact standing_of_empty empty

/-- A step that takes nothing down leaves what counts for sure. -/
theorem Takes.move {after : Reading} (h : P after) (same : after.standing = r.standing) :
    Takes P r [] (.ok after) where
  lands _ result := by cases result; exact h
  stands := by rw [bind_of_ok rfl, same]; exact (bind_pure r.standing).symm

/-- A step that leaves a value pending takes it down. -/
theorem Takes.hold {s : Said} {after : Reading} (stood : r.standing = .ok r.bare) (h : P after)
    (pending : after.pending = some (s.name, s.wants, some s.value))
    (given : after.given = r.given) : Takes P r [s] (.ok after) where
  lands _ result := by cases result; exact h
  stands := by
    have same : after.bare = r.bare := by rw [bare, given]; rfl
    rw [bind_of_ok rfl, standing_of_pending pending, stood, bind_of_ok rfl, same]
    exact (bind_pure (r.bare.accept s.name s.wants s.value)).symm

/-- Where a reading stands at a level: which places are left, whether only values follow, and which
option waits for its value. -/
structure At (level : Level) (closed : Bool) (places : List Place) (last : Option Named)
    (r : Reading) : Prop where
  left : level.places.drop r.taken = places
  valuesOnly : r.valuesOnly = closed
  waiting : r.waiting = last.isSome
  pending : r.pending.filter (·.2.2.isNone) = last.map fun o => (o.long, o.wants, none)

variable {level : Level} {closed : Bool} {places left : List Place}

theorem At.rests (h : At level closed places none r) : r.Rests := h.pending

theorem at_start (level : Level) : At level false level.places none {} := ⟨rfl, rfl, rfl, rfl⟩

/-- The option that waits is the one pending. -/
theorem At.pending_eq {o : Named} (h : At level closed places (some o) r) :
    r.pending = some (o.long, o.wants, none) := by
  have kept := h.pending
  rw [Option.map_some, Option.filter_eq_some_iff] at kept
  exact kept.1

theorem At.of_settle {after : Reading} (h : At level closed places none r)
    (settled : r.settle = .ok after) :
    At level closed places none after ∧ after.pending = none := by
  rw [settle_eq_ok settled]
  exact ⟨⟨h.left, h.valuesOnly, h.waiting, rfl⟩, rfl⟩

section Options

variable {o : Named}

theorem takes_checked (h : At level closed places none r) (value : String) :
    Takes (At level closed places none) r [o.saying value] (r.settle >>= fun r =>
      r.accept o.long o.wants value >>= fun r => .ok { r with waiting := false }) := by
  refine .settle h.rests fun after settled => ?_
  obtain ⟨after_at, empty⟩ := h.of_settle settled
  exact .accept empty ⟨after_at.left, after_at.valuesOnly, rfl, by simp [empty]⟩

theorem takes_flag (h : At level closed places none r) (flag : o.wants = .nothing) :
    Takes (At level closed places none) r [o.saying ""] (r.readOption o none) := by
  have read : r.readOption o none = r.settle >>= fun r =>
      r.accept o.long o.wants "" >>= fun r => .ok { r with waiting := false } := by
    simp only [readOption, flag, Wants.value, Bool.false_eq_true, if_false]
    rfl
  rw [read]
  exact takes_checked h ""

theorem takes_attached (h : At level closed places none r) (wants : o.wants.value)
    (value : String) :
    Takes (At level closed places none) r [o.saying value] (r.readOption o (some value)) := by
  have read : r.readOption o (some value) = r.settle >>= fun r =>
      r.accept o.long o.wants value >>= fun r => .ok { r with waiting := false } := by
    simp only [readOption, wants, if_true]
    rfl
  rw [read]
  exact takes_checked h value

theorem takes_waiting (h : At level closed places none r) (wants : o.wants.value) :
    Takes (At level closed places (some o)) r [] (r.readOption o none) := by
  have read : r.readOption o none = r.settle >>= fun r =>
      .ok { r with pending := some (o.long, o.wants, none), waiting := true } := by
    simp only [readOption, wants, if_true]
    rfl
  rw [read]
  refine .settle h.rests fun after settled => ?_
  obtain ⟨after_at, empty⟩ := h.of_settle settled
  refine .move ⟨after_at.left, after_at.valuesOnly, rfl, rfl⟩ ?_
  rw [standing_of_waiting rfl, standing_of_empty empty]
  rfl

end Options

/-- Letters behind a dash are taken one after another. -/
theorem takes_letters (distinct : level.Distinct) {letters : List Char} {last : Option Named}
    (h : Letters level letters said last) (hr : At level closed places none r) :
    Takes (At level closed places last) r said (r.readShort level letters) := by
  induction h generalizing r with
  | none => exact .nothing hr
  | @flag o _ _ _ _ mem short flag _ ih =>
    have step : o.wants.value = false := by rw [flag]; rfl
    rw [readShort, distinct.find?_short mem short]
    simp only [step, Bool.false_eq_true, if_false]
    exact (takes_flag hr flag).bind fun r hr => ih hr
  | waiting mem short wants =>
    rw [readShort, distinct.find?_short mem short]
    simp only [wants, if_true]
    exact takes_waiting hr wants
  | attached mem short wants =>
    rw [readShort, distinct.find?_short mem short]
    simp only [wants, if_true]
    exact takes_attached hr wants _
  | @joined o c value mem short wants filled notEquals =>
    rw [readShort, distinct.find?_short mem short]
    simp only [wants, if_true]
    split
    · exact absurd rfl filled
    · exact absurd rfl notEquals
    · exact takes_attached hr wants _

/-! ### Arguments -/

theorem splitEquals_plain {name : List Char} (h : '=' ∉ name) :
    splitEquals name = (name, none) := by
  induction name with
  | nil => rfl
  | cons c rest ih =>
    have h : '=' ≠ c ∧ '=' ∉ rest := by simpa using h
    rw [splitEquals, if_neg h.1.symm, ih h.2]

theorem splitEquals_attached {name : List Char} (h : '=' ∉ name) (value : List Char) :
    splitEquals (name ++ '=' :: value) = (name, some value) := by
  induction name with
  | nil => rfl
  | cons c rest ih =>
    have h : '=' ≠ c ∧ '=' ∉ rest := by simpa using h
    rw [List.cons_append, splitEquals, if_neg h.1.symm, ih h.2]

theorem readArgument_long (hr : r.valuesOnly = false) {argument : String} {text : List Char}
    (spelled : argument.toList = '-' :: '-' :: text) (filled : text ≠ []) :
    r.readArgument level argument = r.readLong level text := by
  rw [readArgument, hr, spelled]
  cases text with
  | nil => exact absurd rfl filled
  | cons => rfl

theorem readArgument_short (hr : r.valuesOnly = false) {argument : String} {c : Char}
    {text : List Char} (spelled : argument.toList = '-' :: c :: text) (dash : c ≠ '-') :
    r.readArgument level argument = r.readShort level (c :: text) := by
  rw [readArgument, hr, spelled]
  simp only [Bool.false_eq_true, if_false]
  split
  · rename_i same
    cases same
    exact absurd rfl dash
  · rename_i same
    cases same
    exact absurd rfl dash
  · rename_i same
    cases same
    rfl
  · rename_i other
    exact absurd rfl (other c text)

theorem readLong_eq (distinct : level.Distinct) {o : Named} (mem : o ∈ level.options)
    {text : List Char} {value : Option (List Char)}
    (split : splitEquals text = (o.long.toList, value)) :
    r.readLong level text = r.readOption o (value.map String.ofList) := by
  rw [readLong, split]
  simp only [String.ofList_toList, distinct.find?_long mem]

/-- The long name of an option alone. -/
theorem readArgument_name (distinct : level.Distinct) {o : Named} (mem : o ∈ level.options)
    (hr : r.valuesOnly = false) :
    r.readArgument level ("--" ++ o.long) = r.readOption o none := by
  obtain ⟨named, noEquals, -⟩ := distinct.spelled o mem
  have spelled : ("--" ++ o.long).toList = '-' :: '-' :: o.long.toList := by simp
  rw [readArgument_long hr spelled (by simpa using named),
    readLong_eq distinct mem (splitEquals_plain noEquals)]
  rfl

/-- The long name of an option with a value. -/
theorem readArgument_nameWithValue (distinct : level.Distinct) {o : Named}
    (mem : o ∈ level.options) (hr : r.valuesOnly = false) (value : String) :
    r.readArgument level ("--" ++ o.long ++ "=" ++ value) = r.readOption o (some value) := by
  obtain ⟨-, noEquals, -⟩ := distinct.spelled o mem
  have spelled : ("--" ++ o.long ++ "=" ++ value).toList =
      '-' :: '-' :: (o.long.toList ++ '=' :: value.toList) := by simp
  rw [readArgument_long hr spelled (by simp),
    readLong_eq distinct mem (splitEquals_attached noEquals _), Option.map_some,
    String.ofList_toList]

/-- An option is taken in, with the value attached to it. -/
theorem takes_option (distinct : level.Distinct) {argument : String} {last : Option Named}
    (h : Opens level argument said last) (hr : At level false places none r) :
    Takes (At level false places last) r said (r.readArgument level argument) := by
  cases h with
  | flag mem flag =>
    rw [readArgument_name distinct mem hr.valuesOnly]
    exact takes_flag hr flag
  | waiting mem wants =>
    rw [readArgument_name distinct mem hr.valuesOnly]
    exact takes_waiting hr wants
  | attached mem wants =>
    rw [readArgument_nameWithValue distinct mem hr.valuesOnly]
    exact takes_attached hr wants _
  | letters spelled =>
    rw [readArgument_short hr.valuesOnly String.toList_ofList (Letters.head distinct spelled)]
    exact takes_letters distinct spelled hr

/-- Two dashes say nothing; only values follow. -/
theorem readArgument_dashes (hr : r.valuesOnly = false) :
    r.readArgument level "--" = .ok { r with valuesOnly := true } := by
  have spelled : "--".toList = ['-', '-'] := rfl
  rw [readArgument, hr, spelled]
  rfl

theorem At.of_dashes {last : Option Named} (hr : At level false places last r) :
    At level true places last { r with valuesOnly := true } :=
  ⟨hr.left, rfl, hr.waiting, hr.pending⟩

/-- Behind two dashes every argument is a value. -/
theorem readArgument_closed (hr : r.valuesOnly = true) (argument : String) :
    r.readArgument level argument = r.readValue level argument := by
  rw [readArgument, hr]
  rfl

/-- A plain argument is a value: of the option that waits for one, or else in its place. -/
theorem readArgument_plain {argument : String} (plain : Plain argument)
    (hr : r.valuesOnly = false) :
    r.readArgument level argument =
      match r.waiting, r.pending with
      | true, some (name, wants, _) =>
        .ok { r with pending := some (name, wants, some argument), waiting := false }
      | _, _ => r.readValue level argument := by
  rw [readArgument, hr]
  simp only [Bool.false_eq_true, if_false]
  split
  · rename_i spelled
    exact (plain.not_dashed _ _ spelled).elim
  · rename_i spelled
    exact (plain.not_dashed _ _ spelled).elim
  · rename_i spelled
    exact (plain.not_dashed _ _ spelled).elim
  · rfl

/-- Where no option waits, a plain argument is a value in its place. -/
theorem readArgument_placed {argument : String} (plain : Plain argument)
    (hr : At level false places none r) :
    r.readArgument level argument = r.readValue level argument := by
  rw [readArgument_plain plain hr.valuesOnly, hr.waiting]
  rfl

/-- The option that waits takes a plain argument for its value. -/
theorem takes_value {o : Named} {value : String} (plain : Plain value)
    (hr : At level false places (some o) r) :
    Takes (At level false places none) r [o.saying value] (r.readArgument level value) := by
  rw [readArgument_plain plain hr.valuesOnly, hr.waiting, hr.pending_eq]
  exact .hold (standing_of_waiting hr.pending_eq) ⟨hr.left, hr.valuesOnly, rfl, rfl⟩ rfl rfl

/-- A value takes the next place. -/
theorem takes_place {place : Place} {value : String}
    (hr : At level closed (place :: places) none r) :
    Takes (At level closed places none) r [place.saying value] (r.readValue level value) := by
  have next : level.places[r.taken]? = some place := by
    have kept := congrArg (·[0]?) hr.left
    simpa using kept
  have read : r.readValue level value = r.settle >>= fun s =>
      .ok { s with pending := some (place.name, .text, some value), taken := s.taken + 1 } := by
    rw [readValue, next]
    rfl
  rw [read]
  refine .settle hr.rests fun after settled => ?_
  obtain ⟨after_at, empty⟩ := hr.of_settle settled
  have tail : level.places.drop (after.taken + 1) = places := by
    simpa using congrArg List.tail after_at.left
  exact .hold (standing_of_empty empty) ⟨tail, after_at.valuesOnly, after_at.waiting, rfl⟩ rfl rfl

/-! ### Lists of arguments -/

/-- Reads arguments of a level, none of which starts a command. -/
def readEach (level : Level) (r : Reading) (arguments : List String) :
    Except UsageFault Reading :=
  arguments.foldlM (readArgument level) r

theorem readEach_cons (level : Level) (r : Reading) (argument : String) (rest : List String) :
    readEach level r (argument :: rest) =
      r.readArgument level argument >>= (readEach level · rest) := rfl

theorem readAll_cons {argument : String} {rest : List String}
    (h : r.startsCommand level argument = false) :
    readAll level r (argument :: rest) =
      r.readArgument level argument >>= (readAll level · rest) := by
  rw [readAll, h]; rfl

theorem bind_congr_of_ok {α β : Type} {step : Except UsageFault α}
    {f g : α → Except UsageFault β} (h : ∀ a, step = .ok a → f a = g a) :
    (step >>= f) = step >>= g := by
  cases step with
  | error => rfl
  | ok a => exact h a rfl

theorem startsCommand_dashes (distinct : level.Distinct) (r : Reading) :
    r.startsCommand level "--" = false := by
  have apart : "--" ∉ level.commands := fun mem =>
    (distinct.commands _ mem).not_dashed '-' [] rfl
  simp [startsCommand, apart]

/-- An option starts no command. -/
theorem startsCommand_of_opens (distinct : level.Distinct) {argument : String} {last : Option Named}
    (h : Opens level argument said last) : r.startsCommand level argument = false := by
  have apart : argument ∉ level.commands := fun mem => h.not_plain (distinct.commands _ mem)
  simp [startsCommand, apart]

/-- **Arguments are taken in one by one, and what they say is taken down.** -/
theorem takes_worded (distinct : level.Distinct) {arguments : List String}
    (h : Says level places arguments said left) (hr : At level false places none r) :
    Takes (At level false left none) r said (readEach level r arguments) := by
  induction h generalizing r with
  | nothing => exact .nothing hr
  | option opens _ ih =>
    rw [readEach_cons]
    exact (takes_option distinct opens hr).bind fun r hr => ih hr
  | optionWithValue opens plain _ ih =>
    rw [readEach_cons]
    refine (takes_option distinct opens hr).bind fun r hr => ?_
    rw [readEach_cons]
    exact (takes_value plain hr).bind fun r hr => ih hr
  | place plain _ _ ih =>
    rw [readEach_cons, readArgument_placed plain hr]
    exact (takes_place hr).bind fun r hr => ih hr

/-- None of the arguments starts a command, so what follows them is read from where they end. -/
theorem readAll_worded (distinct : level.Distinct) {arguments : List String}
    (h : Says level places arguments said left) (hr : At level false places none r)
    (tail : List String) :
    readAll level r (arguments ++ tail) =
      readEach level r arguments >>= (readAll level · tail) := by
  induction h generalizing r with
  | nothing => rfl
  | option opens _ ih =>
    rw [List.cons_append, readAll_cons (startsCommand_of_opens distinct opens), readEach_cons,
      bind_assoc]
    exact bind_congr_of_ok fun after result =>
      ih ((takes_option distinct opens hr).lands after result)
  | optionWithValue opens plain _ ih =>
    rw [List.cons_append, readAll_cons (startsCommand_of_opens distinct opens), readEach_cons,
      bind_assoc]
    refine bind_congr_of_ok fun after result => ?_
    have waits := (takes_option distinct opens hr).lands after result
    rw [List.cons_append, readAll_cons (by simp [startsCommand, waits.waiting]), readEach_cons,
      bind_assoc]
    exact bind_congr_of_ok fun last result => ih ((takes_value plain waits).lands last result)
  | @place _ _ _ value _ _ plain free _ ih =>
    rw [List.cons_append, readAll_cons (by simp [startsCommand, free]), readEach_cons, bind_assoc,
      readArgument_placed plain hr]
    exact bind_congr_of_ok fun after result => ih ((takes_place hr).lands after result)

/-- Behind two dashes the values take the places left. -/
theorem takes_values (level : Level) {values : List String} (fits : values.length ≤ places.length)
    (hr : At level true places none r) :
    Takes Rests r (List.zipWith Place.saying places values) (readEach level r values) ∧
      readAll level r values = (readEach level r values).map (·, none) := by
  induction values generalizing r places with
  | nil =>
    rw [List.zipWith_nil_right]
    exact ⟨.nothing hr.rests, rfl⟩
  | cons value rest ih =>
    cases places with
    | nil => cases fits
    | cons place places =>
      have first : Takes (At level true places none) r [place.saying value]
          (r.readValue level value) := takes_place hr
      have next : ∀ after, At level true places none after → _ := fun after h =>
        ih (Nat.le_of_succ_le_succ fits) h
      rw [readAll_cons (by simp [startsCommand, hr.valuesOnly]), readEach_cons,
        readArgument_closed hr.valuesOnly]
      refine ⟨first.bind fun after h => (next after h).1, ?_⟩
      rw [bind_congr_of_ok fun after result => (next after (first.lands after result)).2]
      cases r.readValue level value <;> rfl

end Reading

end CodeIndex.Command
