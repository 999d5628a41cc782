import CodeIndex.Discovery
import CodeIndex.Proofs.Loading
import CodeIndex.Proofs.PathOrder
import CodeIndex.Proofs.PathParents
/-!
# Discovering libraries

The candidates are told by the search path and by what stands on the host: for each compiler the
first directory that has it counts, and a candidate lies in `lib` beside the directory that the
compiler is in, seen from where it was found and from where that leads. No two candidates are the
same path. What the environment names comes before any candidate, and one path at most is tried.
-/
namespace CodeIndex

/-- A path leads to a file on a host, all links followed. -/
def Host.HasFile (host : Host) (p : Path) : Prop :=
  ∃ node, host.metadata p = .ok node ∧ node.isFile = true

theorem Host.isFile_iff {host : Host} {p : Path} : host.isFile p = true ↔ host.HasFile p := by
  rw [isFile, HasFile]
  cases host.metadata p <;> simp

theorem Host.find?_isFile_eq_none_iff {host : Host} {paths : List Path} :
    paths.find? host.isFile = none ↔ ∀ p ∈ paths, ¬ host.HasFile p := by
  simp only [List.find?_eq_none, isFile_iff]

theorem Host.find?_isFile_eq_some_iff {host : Host} {paths : List Path} {p : Path} :
    paths.find? host.isFile = some p ↔ host.HasFile p ∧ ∃ before after,
      paths = before ++ p :: after ∧ ∀ q ∈ before, ¬ host.HasFile q := by
  simp only [List.find?_eq_some_iff_append, ← isFile_iff, Bool.not_eq_true', Bool.not_eq_true]

def Environment.NamesLibrary (env : Environment) (text : String) : Prop :=
  env.libraryPath = some text ∧ text ≠ ""

/-- The directories of the search path are the texts between its colons, empty ones included. -/
def Environment.Searches (env : Environment) (directories : List Path) : Prop :=
  match env.searchPath with
  | none => directories = []
  | some text => directories ≠ [] ∧ (∀ d ∈ directories, ':' ∉ d.text.toList) ∧
    [':'].intercalate (directories.map fun d => d.text.toList) = text.toList

namespace Discovery

variable {host : Host} {env : Environment}

theorem searches_iff {directories : List Path} :
    env.Searches directories ↔ directories = searchDirectories env := by
  unfold Environment.Searches searchDirectories
  cases env.searchPath with
  | none => rfl
  | some text =>
    have spelled (pieces : List (List Char)) :
        (pieces.map fun piece => Path.mk (String.ofList piece)).map (fun d => d.text.toList) =
          pieces := by
      simp [Function.comp_def]
    constructor
    · rintro ⟨some, free, joined⟩
      dsimp only
      rw [← joined, Text.pieces_eq_splitOn, List.splitOn_intercalate ':'
        (by simpa using free) (by simpa using some), List.map_map]
      simp [Function.comp_def]
    · rintro rfl
      refine ⟨by simpa using Text.pieces_ne_nil ':' text.toList, ?_, ?_⟩
      · intro d among
        obtain ⟨piece, cut, rfl⟩ := List.mem_map.mp among
        simpa using Text.not_mem_of_mem_pieces cut
      · rw [spelled, Text.intercalate_pieces]

/-- What is found of a tool: the first place on the way where a file of its name stands. -/
inductive Found (host : Host) (directories : List Path) (name : String) : Option Path → Prop
  | nowhere : (∀ d ∈ directories, ¬ host.HasFile (d.join ⟨name⟩)) → Found host directories name none
  | first {before after : List Path} {directory : Path} :
      directories = before ++ directory :: after →
      (∀ d ∈ before, ¬ host.HasFile (d.join ⟨name⟩)) → host.HasFile (directory.join ⟨name⟩) →
      Found host directories name (some (directory.join ⟨name⟩))

theorem found_findTool (name : String) :
    Found host (searchDirectories env) name (findTool host env name) := by
  cases found : findTool host env name with
  | none =>
    rw [findTool, Host.find?_isFile_eq_none_iff] at found
    exact .nowhere fun d among => found _ (List.mem_map_of_mem among)
  | some tool =>
    rw [findTool, Host.find?_isFile_eq_some_iff] at found
    obtain ⟨is, before, after, places, earlier⟩ := found
    obtain ⟨front, behind, directories, rfl, joined⟩ := List.map_eq_append_iff.mp places
    obtain ⟨directory, rest, rfl, rfl, -⟩ := List.map_eq_cons_iff.mp joined
    exact .first directories (fun d among => earlier _ (List.mem_map_of_mem among)) is

/-- A toolchain's library, seen from a tool: two components make way for `lib` and the library's
name. It is spelled as the tool is, up to where the toolchain's directory ends. -/
inductive LiesBeside (tool : Path) : Path → Prop
  | intro {toolchain : Path} {bin name : Component} :
      toolchain.text.toList <+: tool.text.toList →
      tool.components = toolchain.components ++ [bin, name] → bin ≠ .root →
      ((toolchain.join ⟨"lib"⟩).join ⟨"libIndexStore.so"⟩).components =
        toolchain.components ++ [.named "lib", .named "libIndexStore.so"] →
      LiesBeside tool ((toolchain.join ⟨"lib"⟩).join ⟨"libIndexStore.so"⟩)

/-- A path has no directory above the one it is in. -/
def Topmost (tool : Path) : Prop :=
  ∀ above bin name, tool.components = above ++ [bin, name] → bin = .root

/-- The components of a name seen from a directory. -/
theorem components_join_named {p q : Path} {name : String} (relative : q.isAbsolute = false)
    (named : q.components = [.named name]) :
    (p.join q).components = p.components ++ [.named name] := by
  rw [Path.components_join, named]
  by_cases empty : p.text = ""
  · have nothing : p.components = [] := by
      have : p = ⟨""⟩ := congrArg Path.mk empty
      rw [this]
      decide
    rw [if_pos (.inr empty), nothing, List.nil_append]
  · rw [if_neg (by simp [relative, empty])]
    rfl

theorem liesBeside_of_libraryNextTo {tool library : Path} (h : libraryNextTo tool = some library) :
    LiesBeside tool library := by
  cases inBin : tool.parent? with
  | none => simp [libraryNextTo, inBin] at h
  | some bin =>
    cases inToolchain : bin.parent? with
    | none => simp [libraryNextTo, inBin, inToolchain] at h
    | some toolchain =>
      obtain ⟨begins, name, -, steps⟩ := Path.of_parent? inBin
      obtain ⟨begins', last, inner, steps'⟩ := Path.of_parent? inToolchain
      have spelled : (toolchain.join ⟨"lib"⟩).join ⟨libraryFileName⟩ = library := by
        simpa [libraryNextTo, inBin, inToolchain] using h
      subst spelled
      refine .intro (begins'.trans begins) (by rw [steps, steps', List.append_assoc]; rfl) inner ?_
      have lib : Path.components ⟨"lib"⟩ = [.named "lib"] := by decide
      have file : Path.components ⟨"libIndexStore.so"⟩ = [.named "libIndexStore.so"] := by decide
      rw [components_join_named (by decide) file, components_join_named (by decide) lib,
        List.append_assoc]
      rfl

theorem topmost_of_libraryNextTo {tool : Path} (h : libraryNextTo tool = none) : Topmost tool := by
  intro above bin name steps
  cases inBin : tool.parent? with
  | none =>
    rcases Path.parent?_eq_none_iff.mp inBin with few | few <;> rw [few] at steps <;>
      simpa using congrArg List.length steps
  | some parent =>
    obtain ⟨-, last, -, steps'⟩ := Path.of_parent? inBin
    have split : parent.components = above ++ [bin] := by
      have both : parent.components ++ [last] = (above ++ [bin]) ++ [name] := by
        rw [← steps', steps, List.append_assoc]
        rfl
      exact (List.append_inj' both rfl).1
    cases inToolchain : parent.parent? with
    | none =>
      rcases Path.parent?_eq_none_iff.mp inToolchain with few | few <;> rw [few] at split
      · simp at split
      · have same := congrArg List.getLast? split
        rw [List.getLast?_append] at same
        exact (Option.some.inj same).symm
    | some toolchain => simp [libraryNextTo, inBin, inToolchain] at h

/-- The libraries that lie beside some tools, those left out that lie beside nothing. -/
inductive Libraries : List Path → List Path → Prop
  | none : Libraries [] []
  | without {tool : Path} {tools libraries : List Path} : Topmost tool →
      Libraries tools libraries → Libraries (tool :: tools) libraries
  | beside {tool library : Path} {tools libraries : List Path} : LiesBeside tool library →
      Libraries tools libraries → Libraries (tool :: tools) (library :: libraries)

theorem libraries_filterMap (tools : List Path) :
    Libraries tools (tools.filterMap libraryNextTo) := by
  induction tools with
  | nil => exact .none
  | cons tool tools ih =>
    cases next : libraryNextTo tool with
    | none =>
      rw [List.filterMap_cons_none next]
      exact .without (topmost_of_libraryNextTo next) ih
    | some library =>
      rw [List.filterMap_cons_some next]
      exact .beside (liesBeside_of_libraryNextTo next) ih

def Apart (paths : List Path) : Prop := paths.Pairwise fun p q => p.components ≠ q.components

theorem Apart.addNew {paths : List Path} (apart : Apart paths) (p : Path) :
    Apart (addNew paths p) := by
  unfold Discovery.addNew
  split
  · exact apart
  · rename_i new
    refine List.pairwise_append.mpr ⟨apart, List.pairwise_singleton _ _, ?_⟩
    intro q among _ single same
    rw [List.mem_singleton.mp single] at same
    exact new (List.any_eq_true.mpr ⟨q, among, Path.same_iff.mpr same.symm⟩)

theorem Apart.foldl_addNew {paths : List Path} (apart : Apart paths) (offered : List Path) :
    Apart (offered.foldl Discovery.addNew paths) := by
  induction offered generalizing paths with
  | nil => exact apart
  | cons p offered ih => exact ih (apart.addNew p)

/-- Paths that are added one by one are left without later repeats. -/
theorem foldl_addNew (offered : List Path) :
    offered.foldl addNew [] = offered.eraseDupsBy Path.same := by
  have loop (offered shown : List Path) :
      offered.foldl addNew shown.reverse = List.eraseDupsBy.loop Path.same offered shown := by
    induction offered generalizing shown with
    | nil => rfl
    | cons p offered ih =>
      rw [List.foldl_cons, addNew, List.any_reverse, List.eraseDupsBy.loop]
      cases shown.any p.same
      · have further := ih (p :: shown)
        rw [List.reverse_cons] at further
        exact further
      · exact ih shown
  exact loop offered []

/-- The ways to the compilers that the search path has: each as it is found, then where it leads. -/
inductive Tools (host : Host) (env : Environment) : List Path → Prop
  | intro {directories : List Path} {clang swiftc : Option Path} : env.Searches directories →
      Found host directories "clang" clang → Found host directories "swiftc" swiftc →
      Tools host env ((clang.toList ++ swiftc.toList).flatMap fun tool =>
        tool :: (host.canonical? tool).toList)

theorem tools_ways (host : Host) (env : Environment) :
    Tools host env ((tools.filterMap (findTool host env)).flatMap (ways host)) := by
  have both : Tools host env (((findTool host env "clang").toList ++
      (findTool host env "swiftc").toList).flatMap fun tool =>
        tool :: (host.canonical? tool).toList) :=
    .intro (searches_iff.mpr rfl) (found_findTool "clang") (found_findTool "swiftc")
  have found : tools.filterMap (findTool host env) =
      (findTool host env "clang").toList ++ (findTool host env "swiftc").toList := by
    rw [tools, List.filterMap_cons, List.filterMap_cons, List.filterMap_nil]
    cases findTool host env "clang" <;> cases findTool host env "swiftc" <;> rfl
  rw [found]
  exact both

/-- The candidates are the libraries beside the compilers that the search path has, without later
repeats. -/
structure ListsCandidates (host : Host) (env : Environment) (paths : List Path) : Prop where
  listed : ∃ tools libraries, Tools host env tools ∧ Libraries tools libraries ∧
    paths = libraries.eraseDupsBy Path.same
  apart : Apart paths

theorem listsCandidates (host : Host) (env : Environment) :
    ListsCandidates host env (candidates host env) where
  listed := ⟨_, _, tools_ways host env, libraries_filterMap _, foldl_addNew _⟩
  apart := Apart.foldl_addNew .nil _

theorem libraryPath_named {text : String} (named : env.NamesLibrary text) :
    libraryPathFromEnvironment env = some ⟨text⟩ := by
  obtain ⟨is, some⟩ := named
  simp [libraryPathFromEnvironment, is, some]

theorem libraryPath_unnamed (unnamed : ∀ text, ¬ env.NamesLibrary text) :
    libraryPathFromEnvironment env = none := by
  unfold libraryPathFromEnvironment
  cases is : env.libraryPath with
  | none => rfl
  | some text =>
    have empty : text = "" := Classical.not_not.mp fun some => unnamed text ⟨is, some⟩
    simp [empty]

section Binding

variable {m : Type → Type} [Pure m] (bind : Path → m (Except LoadFault Library))

/-- The library that the environment names is bound, wherever its path leads. -/
theorem discoverBy_named {text : String} (named : env.NamesLibrary text) :
    discoverBy host env bind = bind ⟨text⟩ := by
  rw [discoverBy, libraryPath_named named]

/-- Otherwise it is the first candidate that is a file, whatever comes of it. -/
theorem discoverBy_first (unnamed : ∀ text, ¬ env.NamesLibrary text) {before after : List Path}
    {path : Path} (listed : candidates host env = before ++ path :: after)
    (earlier : ∀ p ∈ before, ¬ host.HasFile p) (is : host.HasFile path) :
    discoverBy host env bind = bind path := by
  have first : (candidates host env).find? host.isFile = some path :=
    Host.find?_isFile_eq_some_iff.mpr ⟨is, before, after, listed, earlier⟩
  rw [discoverBy, libraryPath_unnamed unnamed]
  simp only [first]

/-- Where no candidate is a file, nothing is bound. -/
theorem discoverBy_none (unnamed : ∀ text, ¬ env.NamesLibrary text)
    (nowhere : ∀ p ∈ candidates host env, ¬ host.HasFile p) :
    discoverBy host env bind = pure (.error (.notDiscovered (candidates host env))) := by
  have none : (candidates host env).find? host.isFile = none :=
    Host.find?_isFile_eq_none_iff.mpr nowhere
  rw [discoverBy, libraryPath_unnamed unnamed]
  simp only [none]

end Binding

/-- Loading from a path does not say that nothing was discovered. -/
theorem load_ne_notDiscovered (path : Path) (options : LoadOptions) (searched : List Path) :
    Library.load host path options ≠ .error (.notDiscovered searched) := by
  intro same
  cases Library.load_eq_iff.mp same

theorem discover_eq_notDiscovered_iff {options : LoadOptions} {searched : List Path} :
    discover host env options = .error (.notDiscovered searched) ↔
      (∀ text, ¬ env.NamesLibrary text) ∧ (∀ p ∈ candidates host env, ¬ host.HasFile p) ∧
        searched = candidates host env := by
  let bind : Path → Id (Except LoadFault Library) := fun path => Library.load host path options
  have discovered : discover host env options = discoverBy (m := Id) host env bind := rfl
  rw [discovered]
  constructor
  · intro same
    have unnamed : ∀ text, ¬ env.NamesLibrary text := fun text named => by
      rw [discoverBy_named bind named] at same
      exact load_ne_notDiscovered _ _ _ same
    have nowhere : ∀ p ∈ candidates host env, ¬ host.HasFile p := by
      cases first : (candidates host env).find? host.isFile with
      | none => exact Host.find?_isFile_eq_none_iff.mp first
      | some path =>
        obtain ⟨is, before, after, listed, earlier⟩ := Host.find?_isFile_eq_some_iff.mp first
        rw [discoverBy_first bind unnamed listed earlier is] at same
        exact absurd same (load_ne_notDiscovered _ _ _)
    rw [discoverBy_none bind unnamed nowhere] at same
    cases same
    exact ⟨unnamed, nowhere, rfl⟩
  · rintro ⟨unnamed, nowhere, rfl⟩
    exact discoverBy_none bind unnamed nowhere

/-- One path at most is tried: the one that the environment names, or else the first candidate that
is a file. What comes of it is the outcome. -/
structure TriesOne (host : Host) (env : Environment) : Prop where
  discovers (options : LoadOptions) : discover host env options =
    discoverBy (m := Id) host env fun path => Library.load host path options
  named {m : Type → Type} [Pure m] (bind : Path → m (Except LoadFault Library)) {text : String} :
    env.NamesLibrary text → discoverBy host env bind = bind ⟨text⟩
  first {m : Type → Type} [Pure m] (bind : Path → m (Except LoadFault Library))
    {before after : List Path} {path : Path} : (∀ text, ¬ env.NamesLibrary text) →
      candidates host env = before ++ path :: after → (∀ p ∈ before, ¬ host.HasFile p) →
      host.HasFile path → discoverBy host env bind = bind path
  nowhere {m : Type → Type} [Pure m] (bind : Path → m (Except LoadFault Library)) :
    (∀ text, ¬ env.NamesLibrary text) → (∀ p ∈ candidates host env, ¬ host.HasFile p) →
      discoverBy host env bind = pure (.error (.notDiscovered (candidates host env)))
  notDiscovered (options : LoadOptions) (searched : List Path) :
    discover host env options = .error (.notDiscovered searched) ↔
      (∀ text, ¬ env.NamesLibrary text) ∧ (∀ p ∈ candidates host env, ¬ host.HasFile p) ∧
        searched = candidates host env

theorem triesOne (host : Host) (env : Environment) : TriesOne host env where
  discovers _ := rfl
  named bind _ := discoverBy_named bind
  first bind _ _ _ unnamed := discoverBy_first bind unnamed
  nowhere bind := discoverBy_none bind
  notDiscovered _ _ := discover_eq_notDiscovered_iff

/-- The candidates are listed in a fixed order, each once, and a library is discovered by trying
one path at most. -/
theorem libraries_discovered (host : Host) (env : Environment) :
    ListsCandidates host env (candidates host env) ∧ TriesOne host env :=
  ⟨listsCandidates host env, triesOne host env⟩

end Discovery

end CodeIndex
