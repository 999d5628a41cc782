import CodeIndex.Proofs.InputOrder
/-!
# Whether a unit still fits its inputs

The inputs of a unit are looked at in path order, and each can turn out in one of four ways: it is
there and was not modified since, it was modified since, it is missing, or it cannot be looked at.
The first that cannot be looked at decides, whatever the others are. Otherwise those that are
missing count before those that were modified. Each outcome has exactly one reason.
-/
namespace CodeIndex

namespace FileSystem

variable {ι : Type} (files : FileSystem ι)

def isMissing (p : Path) : Bool :=
  match files.metadata p with
  | .error .notFound => true
  | _ => false

def isNewer (written : Instant) (p : Path) : Bool :=
  match files.metadata p with
  | .ok node => decide (written.nanos < node.modified.nanos)
  | .error _ => false

/-- Why a path cannot be looked at, unless it leads to nothing. -/
def obstacle? (p : Path) : Option IoFault :=
  match files.metadata p with
  | .ok _ => none
  | .error .notFound => none
  | .error fault => some fault

def Clear (p : Path) : Prop :=
  (∃ node, files.metadata p = .ok node) ∨ files.metadata p = .error .notFound

variable {files} {p : Path}

theorem isMissing_iff : files.isMissing p = true ↔ files.metadata p = .error .notFound := by
  rw [isMissing]
  rcases files.metadata p with fault | node
  · cases fault <;> simp
  · simp

theorem isNewer_iff {written : Instant} : files.isNewer written p = true ↔
    ∃ node, files.metadata p = .ok node ∧ written.nanos < node.modified.nanos := by
  rw [isNewer]
  cases files.metadata p <;> simp

theorem obstacle?_eq_some_iff {fault : IoFault} :
    files.obstacle? p = some fault ↔ files.metadata p = .error fault ∧ fault ≠ .notFound := by
  rw [obstacle?]
  rcases files.metadata p with other | node
  · cases other <;> cases fault <;> simp
  · simp

theorem obstacle?_eq_none_iff : files.obstacle? p = none ↔ files.Clear p := by
  rw [obstacle?, Clear]
  rcases files.metadata p with fault | node
  · cases fault <;> simp
  · simp

theorem not_isMissing_iff (h : files.Clear p) :
    files.isMissing p = false ↔ ∃ node, files.metadata p = .ok node := by
  rw [Bool.eq_false_iff, Ne, isMissing_iff]
  rcases h with ⟨node, found⟩ | missing
  · simp [found]
  · simp [missing]

end FileSystem

/-- What the state of a unit tells about its inputs, and when each state comes about. -/
structure TellsInputs (files : FileSystem NativeLibrary) (written : Instant) (inputs : List Path)
    (outcome : Except Fault Staleness) : Prop where
  /-- The first input that cannot be looked at, if there is one, is what goes wrong. -/
  fails : ∀ fault, outcome = .error fault ↔ ∃ before p after io, inputs = before ++ p :: after ∧
    (∀ q ∈ before, files.Clear q) ∧ files.metadata p = .error io ∧ io ≠ .notFound ∧ fault = .io io
  /-- Otherwise the inputs that are missing are told, all of them and in order. -/
  missing : ∀ paths, outcome = .ok (.missing paths) ↔ (∀ p ∈ inputs, files.Clear p) ∧
    paths = inputs.filter files.isMissing ∧ paths ≠ []
  /-- Otherwise those that were modified after the unit was written. -/
  stale : ∀ newer, outcome = .ok (.stale newer) ↔
    (∀ p ∈ inputs, ∃ node, files.metadata p = .ok node) ∧
    newer = inputs.filter (files.isNewer written) ∧ newer ≠ []
  upToDate : outcome = .ok .upToDate ↔
    ∀ p ∈ inputs, ∃ node, files.metadata p = .ok node ∧ node.modified.nanos ≤ written.nanos
  /-- No input that is there is told as missing. -/
  gone : ∀ paths, outcome = .ok (.missing paths) → ∀ p ∈ paths, ∀ node, files.metadata p ≠ .ok node
  /-- No input that was modified when the unit was written is told as newer. -/
  later : ∀ newer, outcome = .ok (.stale newer) →
    ∀ p ∈ newer, ∀ node, files.metadata p = .ok node → node.modified ≠ written
  /-- No input is told twice, in whatever spelling. -/
  once : ∀ paths, outcome = .ok (.missing paths) ∨ outcome = .ok (.stale paths) →
    paths.Pairwise fun p q => p.same q = false

namespace OpenUnit

variable (files : FileSystem NativeLibrary) (written : Instant)

/-- What the inputs say, all in all. -/
theorem judge_eq (inputs : List Path) :
    judge files written inputs = match inputs.findSome? files.obstacle? with
      | some fault => .error fault
      | none => .ok (inputs.filter (files.isNewer written), inputs.filter files.isMissing) := by
  induction inputs with
  | nil => rfl
  | cons p rest ih =>
    rw [judge, List.findSome?_cons, List.filter_cons, List.filter_cons, ih]
    cases found : files.metadata p with
    | ok node =>
      have clear : files.obstacle? p = none := by rw [FileSystem.obstacle?, found]
      have there : files.isMissing p = false := by rw [FileSystem.isMissing, found]
      have newer : files.isNewer written p = node.modified.isAfter written := by
        rw [FileSystem.isNewer, found]
        rfl
      rw [clear, there, newer]
      cases rest.findSome? files.obstacle? <;> rfl
    | error fault =>
      have old : files.isNewer written p = false := by rw [FileSystem.isNewer, found]
      rw [old]
      cases fault with
      | notFound =>
        have clear : files.obstacle? p = none := by rw [FileSystem.obstacle?, found]
        have gone : files.isMissing p = true := by rw [FileSystem.isMissing, found]
        rw [clear, gone]
        cases rest.findSome? files.obstacle? <;> rfl
      | _ =>
        have stuck := FileSystem.obstacle?_eq_some_iff.mpr ⟨found, nofun⟩
        rw [stuck]

theorem verdict_eq_missing_iff {newer missing paths : List Path} :
    verdict newer missing = .missing paths ↔ paths = missing ∧ paths ≠ [] := by
  cases missing with
  | nil => cases newer <;> simp [verdict]
  | cons p rest =>
    have told : verdict newer (p :: rest) = .missing (p :: rest) := rfl
    rw [told, Staleness.missing.injEq]
    constructor
    · rintro rfl
      exact ⟨rfl, nofun⟩
    · rintro ⟨rfl, -⟩
      rfl

theorem verdict_eq_stale_iff {newer missing paths : List Path} :
    verdict newer missing = .stale paths ↔ missing = [] ∧ paths = newer ∧ paths ≠ [] := by
  cases missing with
  | cons p rest => simp [verdict]
  | nil =>
    cases newer with
    | nil => simp [verdict]
    | cons p rest =>
      have told : verdict (p :: rest) [] = .stale (p :: rest) := rfl
      rw [told, Staleness.stale.injEq]
      constructor
      · rintro rfl
        exact ⟨rfl, rfl, nofun⟩
      · rintro ⟨-, rfl, -⟩
        rfl

theorem verdict_eq_upToDate_iff {newer missing : List Path} :
    verdict newer missing = .upToDate ↔ missing = [] ∧ newer = [] := by
  cases missing <;> cases newer <;> simp [verdict]

section Outcomes

variable {files written} {e : Engine} {u : OpenUnit} {l : Ledger}

theorem staleness_eq_error_iff {fault : Fault} : (u.staleness e files l).1 = .error fault ↔
    ∃ io, (u.inputFiles e l).1.findSome? files.obstacle? = some io ∧ fault = .io io := by
  rw [staleness, bind_apply, judge_eq]
  cases (u.inputFiles e l).1.findSome? files.obstacle? <;> simp [eq_comm]

theorem staleness_eq_ok_iff {state : Staleness} : (u.staleness e files l).1 = .ok state ↔
    (∀ p ∈ (u.inputFiles e l).1, files.Clear p) ∧
      verdict ((u.inputFiles e l).1.filter (files.isNewer u.written))
        ((u.inputFiles e l).1.filter files.isMissing) = state := by
  have clear : (u.inputFiles e l).1.findSome? files.obstacle? = none ↔
      ∀ p ∈ (u.inputFiles e l).1, files.Clear p := by
    simp only [List.findSome?_eq_none_iff, FileSystem.obstacle?_eq_none_iff]
  rw [← clear, staleness, bind_apply, judge_eq]
  cases (u.inputFiles e l).1.findSome? files.obstacle? <;> simp

end Outcomes

variable {files written} {inputs : List Path}

/-- Inputs of which none is an obstacle and none is missing are all there. -/
theorem clear_and_none_missing :
    ((∀ p ∈ inputs, files.Clear p) ∧ inputs.filter files.isMissing = []) ↔
      ∀ p ∈ inputs, ∃ node, files.metadata p = .ok node := by
  simp only [List.filter_eq_nil_iff, Bool.not_eq_true]
  constructor
  · rintro ⟨clear, there⟩ p among
    exact (FileSystem.not_isMissing_iff (clear p among)).mp (there p among)
  · intro found
    have clear : ∀ p ∈ inputs, files.Clear p := fun p among => .inl (found p among)
    exact ⟨clear, fun p among => (FileSystem.not_isMissing_iff (clear p among)).mpr (found p among)⟩

/-- Inputs that are all there, of which none is newer. -/
theorem found_and_none_newer :
    ((∀ p ∈ inputs, ∃ node, files.metadata p = .ok node) ∧
      inputs.filter (files.isNewer written) = []) ↔
    ∀ p ∈ inputs, ∃ node, files.metadata p = .ok node ∧ node.modified.nanos ≤ written.nanos := by
  rw [List.filter_eq_nil_iff, ← forall₂_and]
  refine forall₂_congr fun p _ => ?_
  rw [FileSystem.isNewer_iff]
  constructor
  · rintro ⟨⟨node, found⟩, old⟩
    exact ⟨node, found, Int.not_lt.mp fun newer => old ⟨node, found, newer⟩⟩
  · rintro ⟨node, found, old⟩
    refine ⟨⟨node, found⟩, ?_⟩
    rintro ⟨other, found', newer⟩
    rw [found, Except.ok.injEq] at found'
    subst found'
    exact Int.not_lt.mpr old newer

end OpenUnit

/-- The state of a unit tells exactly what its inputs are like, or what is wrong with the first that
cannot be looked at. -/
theorem staleness_tells_inputs (e : Engine) (files : FileSystem NativeLibrary) (u : OpenUnit)
    (l : Ledger) :
    TellsInputs files u.reader.modified.toInstant (u.inputFiles e l).1
      (u.staleness e files l).1 := by
  have missing (paths : List Path) : (u.staleness e files l).1 = .ok (.missing paths) ↔
      (∀ p ∈ (u.inputFiles e l).1, files.Clear p) ∧
        paths = (u.inputFiles e l).1.filter files.isMissing ∧ paths ≠ [] := by
    rw [OpenUnit.staleness_eq_ok_iff, OpenUnit.verdict_eq_missing_iff]
  have stale (newer : List Path) : (u.staleness e files l).1 = .ok (.stale newer) ↔
      (∀ p ∈ (u.inputFiles e l).1, ∃ node, files.metadata p = .ok node) ∧
        newer = (u.inputFiles e l).1.filter (files.isNewer u.written) ∧ newer ≠ [] := by
    rw [OpenUnit.staleness_eq_ok_iff, OpenUnit.verdict_eq_stale_iff, ← and_assoc,
      OpenUnit.clear_and_none_missing]
  refine ⟨fun fault => ?_, missing, stale, ?_, fun paths told p among => ?_,
    fun newer told p among node found => ?_, fun paths told => ?_⟩
  · rw [OpenUnit.staleness_eq_error_iff]
    simp only [List.findSome?_eq_some_iff, FileSystem.obstacle?_eq_some_iff,
      FileSystem.obstacle?_eq_none_iff]
    constructor
    · rintro ⟨io, ⟨before, p, after, inputs, ⟨stuck, other⟩, clear⟩, rfl⟩
      exact ⟨before, p, after, io, inputs, clear, stuck, other, rfl⟩
    · rintro ⟨before, p, after, io, inputs, clear, stuck, other, rfl⟩
      exact ⟨io, ⟨before, p, after, inputs, ⟨stuck, other⟩, clear⟩, rfl⟩
  · rw [OpenUnit.staleness_eq_ok_iff, OpenUnit.verdict_eq_upToDate_iff, ← and_assoc,
      OpenUnit.clear_and_none_missing, OpenUnit.found_and_none_newer]
    rfl
  · obtain ⟨-, rfl, -⟩ := (missing paths).mp told
    have gone := FileSystem.isMissing_iff.mp (List.mem_filter.mp among).2
    rw [gone]
    exact nofun
  · obtain ⟨-, rfl, -⟩ := (stale newer).mp told
    obtain ⟨other, found', later⟩ := FileSystem.isNewer_iff.mp (List.mem_filter.mp among).2
    rw [found, Except.ok.injEq] at found'
    subst found'
    intro same
    rw [OpenUnit.written, ← same] at later
    exact Int.lt_irrefl _ later
  · have apart := (u.inputFiles_listed e l).increasing.imp Path.not_same_of_lt
    rcases told with told | told
    · obtain ⟨-, rfl, -⟩ := (missing paths).mp told
      exact apart.filter _
    · obtain ⟨-, rfl, -⟩ := (stale paths).mp told
      exact apart.filter _

end CodeIndex
