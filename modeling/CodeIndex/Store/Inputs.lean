import CodeIndex.Store.Unit
/-!
# Inputs and staleness

The inputs of a unit are its main file and the files behind its record and file dependencies, each
seen from the unit's working directory. They are listed in path order, each path once, in the
spelling that came first. A unit is stale when an input was modified after the unit was written.
-/
namespace CodeIndex

/-- Whether a unit still fits its inputs. -/
inductive Staleness where
  | upToDate
  /-- Inputs modified after the unit was written. -/
  | stale (newer : List Path)
  /-- Inputs that are not there. -/
  | missing (paths : List Path)
  deriving DecidableEq, Repr

namespace Staleness

def isUpToDate : Staleness → Bool
  | .upToDate => true
  | _ => false

def pathsJson (paths : List Path) : Json := .array (paths.map fun p => .string p.text)

def members : Staleness → List (String × Json)
  | .upToDate => [("state", .string "up_to_date")]
  | .stale newer => [("state", .string "stale"), ("newer", pathsJson newer)]
  | .missing paths => [("state", .string "missing"), ("paths", pathsJson paths)]

end Staleness

/-- Puts a path at its place in an ordered list, unless the same path is there. -/
def Path.insertOrdered (p : Path) : List Path → List Path
  | [] => [p]
  | q :: rest => match p.compare q with
    | .lt => p :: q :: rest
    | .eq => q :: rest
    | .gt => q :: p.insertOrdered rest

namespace OpenUnit

/-- The file behind a dependency, if it has one that counts as an input. -/
def inputOf (d : Dependency) : Option Path :=
  if (d.kind == .record || d.kind == .file) && !d.file.isEmpty then some ⟨Utf8.lossy d.file⟩
  else none

def mainInput (u : OpenUnit) : Option Path :=
  if u.reader.hasMainFile && !u.reader.mainFile.isEmpty then some ⟨Utf8.lossy u.reader.mainFile⟩
  else none

/-- The inputs as they are met: the main file, then the dependencies. -/
def metInputs (u : OpenUnit) (dependencies : List Dependency) : List Path :=
  (u.mainInput.toList ++ dependencies.filterMap inputOf).map
    (Path.join ⟨Utf8.lossy u.reader.workingDirectory⟩)

def inputFiles (e : Engine) (u : OpenUnit) : Access (List Path) := do
  let dependencies ← (u.dependencies e).toList
  pure ((u.metInputs dependencies).foldl (fun ordered p => p.insertOrdered ordered) [])

/-- What inputs say, those newer and those missing so far in front. -/
def judge (files : FileSystem NativeLibrary) (written : Instant) :
    List Path → Except IoFault (List Path × List Path)
  | [] => .ok ([], [])
  | p :: rest => match files.metadata p with
    | .ok node => do
      let (newer, missing) ← judge files written rest
      pure (if node.modified.isAfter written then p :: newer else newer, missing)
    | .error .notFound => do
      let (newer, missing) ← judge files written rest
      pure (newer, p :: missing)
    | .error fault => .error fault

/-- Missing inputs count before newer ones. -/
def verdict (newer missing : List Path) : Staleness :=
  if !missing.isEmpty then .missing missing
  else if !newer.isEmpty then .stale newer
  else .upToDate

def staleness (e : Engine) (files : FileSystem NativeLibrary) (u : OpenUnit) :
    Access (Except Fault Staleness) := do
  match judge files u.written (← u.inputFiles e) with
  | .ok (newer, missing) => pure (.ok (verdict newer missing))
  | .error fault => pure (.error (.io fault))

end OpenUnit

end CodeIndex
