import CodeIndex.Command.Line
/-!
# Wordings

What a list of arguments says is told here apart from how it is read: an argument is an option, the
value of the option before it, or a value in its place. A reader that goes from left to right and
checks late takes down exactly what the arguments say, and it accepts no others.
-/
namespace CodeIndex.Command

structure Said where
  name : String
  wants : Wants
  value : String
  deriving DecidableEq, Repr

def Named.saying (o : Named) (value : String) : Said := ⟨o.long, o.wants, value⟩

def Place.saying (place : Place) (value : String) : Said := ⟨place.name, .text, value⟩

@[simp] theorem Named.saying_name (o : Named) (value : String) :
    (o.saying value).name = o.long := rfl

@[simp] theorem Place.saying_name (place : Place) (value : String) :
    (place.saying value).name = place.name := rfl

/-- An argument that can be a value: it does not look like an option. -/
def Plain (argument : String) : Prop := argument = "-" ∨ argument.toList.head? ≠ some '-'

instance (argument : String) : Decidable (Plain argument) :=
  inferInstanceAs (Decidable (_ ∨ _))

/-- A plain argument has no dash before another character. -/
theorem Plain.not_dashed {argument : String} (h : Plain argument) (c : Char) (text : List Char) :
    argument.toList ≠ '-' :: c :: text := by
  intro spelled
  obtain rfl | head := h
  · have single : "-".toList = ['-'] := rfl
    rw [single] at spelled
    cases spelled
  · exact head (by rw [spelled]; rfl)

/-- The letters behind a dash, what they say, and the option that they leave without its value. -/
inductive Letters (level : Level) : List Char → List Said → Option Named → Prop
  | none : Letters level [] [] none
  | flag {o : Named} {c : Char} {rest : List Char} {said : List Said} {last : Option Named} :
      o ∈ level.options → o.short = some c → o.wants = .nothing →
      Letters level rest said last → Letters level (c :: rest) (o.saying "" :: said) last
  | waiting {o : Named} {c : Char} :
      o ∈ level.options → o.short = some c → o.wants.value → Letters level [c] [] (some o)
  | attached {o : Named} {c : Char} {value : List Char} :
      o ∈ level.options → o.short = some c → o.wants.value →
      Letters level (c :: '=' :: value) [o.saying (String.ofList value)] none
  | joined {o : Named} {c : Char} {value : List Char} :
      o ∈ level.options → o.short = some c → o.wants.value →
      value ≠ [] → value.head? ≠ some '=' →
      Letters level (c :: value) [o.saying (String.ofList value)] none

/-- An argument that is an option or several, what it says, and the option that it leaves without
its value. -/
inductive Opens (level : Level) : String → List Said → Option Named → Prop
  | flag {o : Named} :
      o ∈ level.options → o.wants = .nothing → Opens level ("--" ++ o.long) [o.saying ""] none
  | waiting {o : Named} :
      o ∈ level.options → o.wants.value → Opens level ("--" ++ o.long) [] (some o)
  | attached {o : Named} {value : String} :
      o ∈ level.options → o.wants.value →
      Opens level ("--" ++ o.long ++ "=" ++ value) [o.saying value] none
  | letters {c : Char} {rest : List Char} {said : List Said} {last : Option Named} :
      Letters level (c :: rest) said last →
      Opens level (String.ofList ('-' :: c :: rest)) said last

/-- Arguments of a level, the places open to them, what they say, and the places they leave. -/
inductive Says (level : Level) : List Place → List String → List Said → List Place → Prop
  | nothing {places : List Place} : Says level places [] [] places
  | option {places left : List Place} {argument : String} {rest : List String}
      {said more : List Said} :
      Opens level argument said none → Says level places rest more left →
      Says level places (argument :: rest) (said ++ more) left
  | optionWithValue {places left : List Place} {o : Named} {argument value : String}
      {rest : List String} {said more : List Said} :
      Opens level argument said (some o) → Plain value → Says level places rest more left →
      Says level places (argument :: value :: rest) (said ++ o.saying value :: more) left
  | place {place : Place} {places left : List Place} {value : String} {rest : List String}
      {more : List Said} :
      Plain value → value ∉ level.commands → Says level places rest more left →
      Says level (place :: places) (value :: rest) (place.saying value :: more) left

/-- All arguments of a level and what they say; behind two dashes stand values only. -/
inductive SaysAll (level : Level) : List String → List Said → Prop
  | plainly {arguments : List String} {said : List Said} {left : List Place} :
      Says level level.places arguments said left → SaysAll level arguments said
  | dashed {arguments values : List String} {said : List Said} {left : List Place} :
      Says level level.places arguments said left → values.length ≤ left.length →
      SaysAll level (arguments ++ "--" :: values) (said ++ List.zipWith Place.saying left values)

def names (said : List Said) : List String := said.map Said.name

@[simp] theorem mem_names {said : List Said} {name : String} :
    name ∈ names said ↔ ∃ s ∈ said, s.name = name := List.mem_map

/-- Everything is said once and passes its check. -/
structure Sound (said : List Said) : Prop where
  once : (names said).Nodup
  checked : ∀ s ∈ said, check s.wants s.value = .ok ()

theorem Sound.nil : Sound [] := ⟨List.nodup_nil, fun _ h => nomatch h⟩

theorem sound_cons {s : Said} {said : List Said} :
    Sound (s :: said) ↔
      check s.wants s.value = .ok () ∧ s.name ∉ names said ∧ Sound said := by
  constructor
  · rintro ⟨once, checked⟩
    obtain ⟨new, once⟩ := List.nodup_cons.mp once
    obtain ⟨first, checked⟩ := List.forall_mem_cons.mp checked
    exact ⟨first, new, once, checked⟩
  · rintro ⟨first, new, once, checked⟩
    exact ⟨List.nodup_cons.mpr ⟨new, once⟩, List.forall_mem_cons.mpr ⟨first, checked⟩⟩

/-- What is said at a level is all right: the library that the environment names is too, if none is
said, and nothing required is missing. -/
structure Acceptable (level : Level) (libraryPath : Option String) (said : List Said) : Prop
    extends Sound said where
  library : ∀ path, libraryPath = some path → libraryOption.long ∈ names said ∨ path ≠ ""
  places : ∀ place ∈ level.places, place.required → place.name ∈ names said
  needs : ∀ o ∈ level.options, o.long ∈ names said → ∀ other, o.needs = some other →
    other ∈ names said

/-- What keeps the options of a level apart from each other and from its commands. -/
structure Level.Distinct (level : Level) : Prop where
  longs : ∀ a ∈ level.options, ∀ b ∈ level.options, a.long = b.long → a = b
  shorts : ∀ a ∈ level.options, ∀ b ∈ level.options, a.short.isSome → a.short = b.short → a = b
  spelled : ∀ o ∈ level.options, o.long ≠ "" ∧ '=' ∉ o.long.toList ∧ o.short ≠ some '-'
  commands : ∀ name ∈ level.commands, Plain name

theorem topLevel_distinct : topLevel.Distinct := by
  constructor <;> decide +kernel

theorem commandLevels_distinct : ∀ entry ∈ commandLevels, entry.2.Distinct := by
  intro entry h
  simp only [commandLevels, List.mem_cons, List.not_mem_nil, or_false] at h
  rcases h with rfl | rfl | rfl | rfl | rfl <;> constructor <;> decide +kernel

namespace Level

variable {level : Level}

theorem find?_of_unique {options : List Named} {o : Named} {p : Named → Bool} (h : o ∈ options)
    (hp : p o) (unique : ∀ other ∈ options, p other → other = o) : options.find? p = some o := by
  cases found : options.find? p with
  | none => exact absurd hp (List.find?_eq_none.mp found o h)
  | some other =>
    rw [unique other (List.mem_of_find?_eq_some found) (List.find?_some found)]

theorem Distinct.find?_long (h : level.Distinct) {o : Named} (ho : o ∈ level.options) :
    level.options.find? (·.long == o.long) = some o :=
  find?_of_unique ho (by simp) fun other hother same =>
    h.longs other hother o ho (by simpa using same)

theorem Distinct.find?_short (h : level.Distinct) {o : Named} {c : Char}
    (ho : o ∈ level.options) (hc : o.short = some c) :
    level.options.find? (·.short == some c) = some o :=
  find?_of_unique ho (by simp [hc]) fun other hother same => by
    have same : other.short = some c := by simpa using same
    exact h.shorts other hother o ho (by simp [same]) (by rw [same, hc])

end Level

/-- The first of some letters is not a dash. -/
theorem Letters.head {level : Level} (distinct : level.Distinct) {c : Char} {letters : List Char}
    {said : List Said} {last : Option Named}
    (h : Letters level (c :: letters) said last) : c ≠ '-' := by
  have apart : ∀ o ∈ level.options, o.short = some c → c ≠ '-' := by
    rintro o mem short rfl
    exact (distinct.spelled o mem).2.2 short
  cases h with
  | flag mem short | waiting mem short | attached mem short | joined mem short =>
    exact apart _ mem short

/-- An option starts with a dash. -/
theorem Opens.dashed {level : Level} {argument : String} {said : List Said}
    {last : Option Named} (h : Opens level argument said last) :
    ∃ c text, argument.toList = '-' :: c :: text := by
  cases h with
  | @flag o | @waiting o => exact ⟨'-', o.long.toList, by simp⟩
  | @attached o value => exact ⟨'-', o.long.toList ++ '=' :: value.toList, by simp⟩
  | letters => exact ⟨_, _, String.toList_ofList⟩

/-- An option is no value. -/
theorem Opens.not_plain {level : Level} {argument : String} {said : List Said}
    {last : Option Named} (h : Opens level argument said last) : ¬ Plain argument := by
  obtain ⟨c, text, spelled⟩ := h.dashed
  exact fun plain => plain.not_dashed c text spelled

end CodeIndex.Command
