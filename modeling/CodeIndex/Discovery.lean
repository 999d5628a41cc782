import CodeIndex.Library
/-!
# Discovery

Where a library may be: at the path the environment names, or beside a compiler found on the search
path. A compiler reached through a link counts twice, once for the link and once for where it leads.
-/
namespace CodeIndex

structure Environment where
  /-- The search path, directories between colons. -/
  searchPath : Option String := none
  /-- An explicit library. -/
  libraryPath : Option String := none
  /-- The home directory the user asks for. -/
  home : Option String := none
  /-- The home directory of the user's account. -/
  accountHome : Option String := none

namespace Discovery

def libraryFileName : String := "libIndexStore.so"

/-- The compilers that come with the library. -/
def tools : List String := ["clang", "swiftc"]

/-- The library the environment names; an empty value names none. -/
def libraryPathFromEnvironment (env : Environment) : Option Path :=
  match env.libraryPath with
  | some text => if text.isEmpty then none else some ⟨text⟩
  | none => none

/-- The directories of the search path; an empty one is the working directory. -/
def searchDirectories (env : Environment) : List Path :=
  match env.searchPath with
  | some text => (Text.pieces ':' text.toList).map fun entry => ⟨String.ofList entry⟩
  | none => []

def findTool (host : Host) (env : Environment) (name : String) : Option Path :=
  ((searchDirectories env).map fun directory => directory.join ⟨name⟩).find? host.isFile

/-- Where the library of a toolchain is, seen from one of its tools. -/
def libraryNextTo (tool : Path) : Option Path := do
  let bin ← tool.parent?
  let toolchain ← bin.parent?
  return (toolchain.join ⟨"lib"⟩).join ⟨libraryFileName⟩

/-- The ways to a tool: as found, and with links followed. -/
def ways (host : Host) (tool : Path) : List Path :=
  tool :: (host.canonical? tool).toList

/-- Adds a path unless the same path is there. -/
def addNew (paths : List Path) (p : Path) : List Path :=
  if paths.any p.same then paths else paths ++ [p]

/-- Every place the library may be, in the order they are tried. -/
def candidates (host : Host) (env : Environment) : List Path :=
  let found := tools.filterMap (findTool host env)
  ((found.flatMap (ways host)).filterMap libraryNextTo).foldl addNew []

/-- Binds the library that the environment names, or the first candidate that is a file. How a
library is bound is left open, so that what is tried can be told. -/
def discoverBy {m : Type → Type} [Pure m] (host : Host) (env : Environment)
    (bind : Path → m (Except LoadFault Library)) : m (Except LoadFault Library) :=
  match libraryPathFromEnvironment env with
  | some path => bind path
  | none =>
    let searched := candidates host env
    match searched.find? host.isFile with
    | some path => bind path
    | none => pure (.error (.notDiscovered searched))

def discover (host : Host) (env : Environment) (options : LoadOptions := {}) :
    Except LoadFault Library :=
  discoverBy (m := Id) host env fun path => Library.load host path options

/-- The home directory; an empty value of the variable counts as none. -/
def homeDirectory (env : Environment) : Option Path :=
  match env.home with
  | some text => if text.isEmpty then env.accountHome.map Path.mk else some ⟨text⟩
  | none => env.accountHome.map Path.mk

/-- Where logs go: below the home directory, or below the working directory without one. -/
def logDirectory (env : Environment) : Path :=
  (((homeDirectory env).getD ⟨"."⟩).join ⟨".indexstore"⟩).join ⟨"logs"⟩

end Discovery

end CodeIndex
