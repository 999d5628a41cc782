import CodeIndex.Engine.Tables
import CodeIndex.Proofs.PathComponents
import CodeIndex.Proofs.PathOrder
import CodeIndex.Proofs.Traversals
/-!
# The inputs of a unit in order

A unit names its inputs as it likes: in any order, more than once and in several spellings. They are
listed in path order, each path once, in the spelling that was met first. Which paths are listed is
told by the names alone, and not by the order the dependencies stand in.
-/
namespace CodeIndex

namespace OpenUnit

/-- The files that a unit names as its inputs, as they are met: the main file, if the unit says it
has one, and then the files of its dependencies on records and on files. An empty name is none. -/
def inputNames (u : OpenUnit) : List Bytes :=
  ((if u.reader.hasMainFile then [u.reader.mainFile] else []) ++
    (u.reader.dependencies.filter fun d => d.kind = .record ∨ d.kind = .file).map (·.file)).filter
      (· ≠ [])

def named (name : Bytes) : Path := ⟨Utf8.lossy name⟩

/-- A named file as it is spelled when it is seen from the working directory. -/
def spelled (u : OpenUnit) (name : Bytes) : Path :=
  (named u.reader.workingDirectory).join (named name)

/-- The steps to a named file: its own, if it is absolute or there is no working directory, and
otherwise those to the working directory and then its own, where a leading `.` is no step. -/
def stepsTo (u : OpenUnit) (name : Bytes) : List Component :=
  if (named name).isAbsolute ∨ u.reader.workingDirectory = [] then (named name).components
  else (named u.reader.workingDirectory).components ++ (named name).components.filter (· ≠ .here)

def rearranged (u : OpenUnit) (dependencies : List Dependency) : OpenUnit :=
  { u with reader := { u.reader with dependencies } }

end OpenUnit

structure ListsInputs (u : OpenUnit) (paths : List Path) : Prop where
  increasing : paths.Pairwise fun p q => p.compare q = .lt
  /-- They lead to the named files and nowhere else. -/
  leads : ∀ steps,
    (∃ p ∈ paths, p.components = steps) ↔ ∃ name ∈ u.inputNames, u.stepsTo name = steps
  /-- Each is spelled as the first name that leads there. -/
  spelling : ∀ p, p ∈ paths ↔ (u.inputNames.map u.spelled).find? (·.same p) = some p
  /-- An absolute name is spelled as it stands, and so is any name if there is no working
  directory. -/
  itself : ∀ name, (OpenUnit.named name).isAbsolute ∨ u.reader.workingDirectory = [] →
    u.spelled name = OpenUnit.named name

theorem Utf8.lossy_eq_empty {octets : Bytes} : lossy octets = "" ↔ octets = [] := by
  constructor
  · intro nothing
    have none : readLossy octets = [] := by
      simpa [lossy] using nothing
    cases octets with
    | nil => rfl
    | cons b more =>
      rw [readLossy] at none
      split at none <;> exact absurd none (List.cons_ne_nil _ _)
  · rintro rfl
    rw [lossy, readLossy]

namespace OpenUnit

variable (u : OpenUnit)

theorem mainInput_eq : u.mainInput.toList =
    ((if u.reader.hasMainFile then [u.reader.mainFile] else []).filter (· ≠ [])).map named := by
  rw [mainInput]
  cases u.reader.hasMainFile <;> cases u.reader.mainFile <;> rfl

theorem filterMap_inputOf (dependencies : List Dependency) : dependencies.filterMap inputOf =
    (((dependencies.filter fun d => d.kind = .record ∨ d.kind = .file).map (·.file)).filter
      (· ≠ [])).map named := by
  induction dependencies with
  | nil => rfl
  | cons d rest ih =>
    by_cases kind : d.kind = .record ∨ d.kind = .file
    · rw [List.filterMap_cons, List.filter_cons_of_pos (by simpa using kind), List.map_cons]
      cases file : d.file with
      | nil => simpa [inputOf, file] using ih
      | cons b more => simpa [inputOf, kind, file, named] using ih
    · have other : inputOf d = none := by simp [inputOf, kind]
      rw [List.filterMap_cons_none other, List.filter_cons_of_neg (by simpa using kind), ih]

theorem metInputs_eq : u.metInputs u.reader.dependencies = u.inputNames.map u.spelled := by
  rw [metInputs, mainInput_eq, filterMap_inputOf, ← List.map_append, ← List.filter_append,
    List.map_map]
  rfl

theorem inputFiles_fst (e : Engine) (l : Ledger) :
    (u.inputFiles e l).1 = Path.inOrder (u.inputNames.map u.spelled) := by
  simp only [inputFiles, bind_apply, pure_apply, Lending.toList_apply]
  rw [← metInputs_eq]
  rfl

theorem components_spelled (name : Bytes) : (u.spelled name).components = u.stepsTo name := by
  rw [spelled, Path.components_join, stepsTo]
  exact if_congr (or_congr_right Utf8.lossy_eq_empty) rfl rfl

theorem components_inputNames : (u.inputNames.map u.spelled).map Path.components =
    u.inputNames.map u.stepsTo := by
  rw [List.map_map]
  exact List.map_congr_left fun name _ => u.components_spelled name

theorem inputFiles_listed (e : Engine) (l : Ledger) : ListsInputs u (u.inputFiles e l).1 := by
  rw [inputFiles_fst]
  refine ⟨Path.increasing_inOrder _, fun steps => ?_, fun p => Path.mem_inOrder,
    fun name itself => ?_⟩
  · rw [← List.mem_map, Path.mem_components_inOrder, components_inputNames, List.mem_map]
  · rw [spelled, Path.join, if_pos]
    have empty : (named u.reader.workingDirectory).text.isEmpty = true ↔
        u.reader.workingDirectory = [] := by
      rw [String.isEmpty_iff, named, Utf8.lossy_eq_empty]
    rwa [Bool.or_eq_true, empty]

/-- Dependencies in another order name the same files. -/
theorem mem_inputNames_rearranged {dependencies : List Dependency}
    (h : dependencies.Perm u.reader.dependencies) (name : Bytes) :
    name ∈ (u.rearranged dependencies).inputNames ↔ name ∈ u.inputNames :=
  ((((h.filter _).map _).append_left _).filter _).mem_iff

end OpenUnit

/-- The inputs of a unit are listed in path order. The order of its dependencies decides about
spellings alone. -/
theorem inputs_in_path_order (e : Engine) (u : OpenUnit) (l : Ledger) :
    ListsInputs u (u.inputFiles e l).1 ∧
    ∀ dependencies, dependencies.Perm u.reader.dependencies → ∀ (e' : Engine) (l' : Ledger),
      ((u.rearranged dependencies).inputFiles e' l').1.map Path.components =
        (u.inputFiles e l).1.map Path.components := by
  have listed := u.inputFiles_listed e l
  refine ⟨listed, fun dependencies moved e' l' => ?_⟩
  have listed' := (u.rearranged dependencies).inputFiles_listed e' l'
  refine Path.Increasing.components_eq listed'.increasing listed.increasing fun steps => ?_
  rw [List.mem_map, List.mem_map, listed'.leads, listed.leads]
  exact exists_congr fun name => and_congr_left' (u.mem_inputNames_rearranged moved name)

/-- A unit that names an input in two spellings, and other things besides. -/
def OpenUnit.respelling : OpenUnit where
  name := "u"
  handle := token 0
  reader := { UnitReader.empty with
    workingDirectory := Utf8.encode "w/"
    hasMainFile := true
    mainFile := Utf8.encode "a//b"
    dependencies := [
      ⟨.file, [], Utf8.encode "a-b", [], false⟩,
      ⟨.record, Utf8.encode "r", Utf8.encode "./a/b/", [], false⟩,
      ⟨.unit, Utf8.encode "m", Utf8.encode "m.o", [], false⟩,
      ⟨.file, [], Utf8.encode "/w", [], true⟩,
      ⟨.file, [], [], [], true⟩] }

theorem inputs_in_path_order_respelled :
    let u := OpenUnit.respelling
    let e := Tables.engine {} {}
    u.reader.dependencies.reverse.Perm u.reader.dependencies ∧
    ListsInputs u (u.inputFiles e {}).1 ∧
    (u.inputFiles e {}).1.map Path.text = ["/w", "w/a//b", "w/a-b"] ∧
    ((u.rearranged u.reader.dependencies.reverse).inputFiles e {}).1.map Path.components =
      (u.inputFiles e {}).1.map Path.components := by
  have listed := inputs_in_path_order (Tables.engine {} {}) OpenUnit.respelling {}
  exact ⟨List.reverse_perm _, listed.1, by decide +kernel, listed.2 _ (List.reverse_perm _) _ _⟩

end CodeIndex
