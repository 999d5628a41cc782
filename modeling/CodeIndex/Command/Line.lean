import CodeIndex.Command.Grammar
import CodeIndex.Path
/-!
# Command lines

`units`, `includes`, `records`, `occurrences` and `stale` report on a store. The options for the
library, the store and the form of the output may stand before or after the command; what stands
after it counts more.
-/
namespace CodeIndex

inductive Command where
  | units (sorted : Bool)
  | includes (unit mainFile : Option String)
  | records (unit : String)
  | occurrences (record : String) (usr : Option String) (lineStart lineCount : Option UInt32)
  | stale (unit : Option String) (onlyStale : Bool)
  deriving DecidableEq, Repr

/-- A command with the options that hold for all of them. -/
structure CommandLine where
  library : Option Path
  store : Path
  json : Bool
  verbose : Bool
  command : Command
  deriving DecidableEq, Repr

namespace Command

def libraryOption : Named := { long := "library", wants := .path }

/-- The options that may stand at both levels. -/
def sharedOptions : List Named :=
  [libraryOption,
   { long := "store", short := some 's', wants := .path },
   { long := "json", wants := .nothing },
   { long := "verbose", short := some 'v', wants := .nothing },
   { long := "help", short := some 'h', wants := .help }]

def commandLevels : List (String × Level) :=
  [("units", { options := { long := "sorted", wants := .nothing } :: sharedOptions }),
   ("includes",
     { options := { long := "main-file", wants := .text } :: sharedOptions
       places := [⟨"UNIT", false⟩] }),
   ("records", { options := sharedOptions, places := [⟨"UNIT", true⟩] }),
   ("occurrences",
     { options :=
         { long := "usr", wants := .text } ::
         { long := "line-start", wants := .number, needs := some "line-count" } ::
         { long := "line-count", wants := .number, needs := some "line-start" } :: sharedOptions
       places := [⟨"RECORD", true⟩] }),
   ("stale",
     { options := { long := "only-stale", wants := .nothing } :: sharedOptions
       places := [⟨"UNIT", false⟩] })]

def helpCommand : String := "help"

def commandNames : List String := commandLevels.map Prod.fst ++ [helpCommand]

def topLevel : Level where
  options := { long := "version", short := some 'V', wants := .version } :: sharedOptions
  commands := commandNames

/-- What `help` answers: help for nothing or for one command. -/
def helpOn : List String → UsageFault
  | [] => .help
  | [name] => if commandNames.contains name then .help else .invalidCommand
  | _ => .invalidCommand

def ofReading (name : String) (r : Reading) : Command :=
  let number (option : String) := (r.value? option).bind number?
  if name = "units" then .units (r.has "sorted")
  else if name = "includes" then .includes (r.value? "UNIT") (r.value? "main-file")
  else if name = "records" then .records ((r.value? "UNIT").getD "")
  else if name = "occurrences" then
    .occurrences ((r.value? "RECORD").getD "") (r.value? "usr") (number "line-start")
      (number "line-count")
  else .stale (r.value? "UNIT") (r.has "only-stale")

def readLevel (level : Level) (libraryPath : Option String) (arguments : List String) :
    Except UsageFault Reading := do
  let (r, _) ← ({} : Reading).readAll level arguments
  let r ← r.settle
  r.checkFallback libraryOption libraryPath
  r.complete level

end Command

namespace CommandLine

open Command

/-- The value of a shared option: the one behind the command, or else the one before it. -/
def shared (top inner : Reading) (name : String) : Option String :=
  match inner.value? name with
  | some value => some value
  | none => top.value? name

/-- Reads the arguments of the program. `libraryPath` is the library the environment names, for a
command line that names none. -/
def parse (libraryPath : Option String) (arguments : List String) :
    Except UsageFault CommandLine := do
  let (top, command) ← ({} : Reading).readAll topLevel arguments
  match command with
  | none =>
    let top ← top.settle
    top.checkFallback libraryOption libraryPath
    if top.given.isEmpty && libraryPath.isNone then .error .helpOnMissing
    else .error .missingCommand
  | some (name, rest) =>
    if name = helpCommand then .error (helpOn rest)
    else match commandLevels.lookup name with
      | none => .error .invalidCommand
      | some level =>
        let inner ← readLevel level libraryPath rest
        let top ← top.settle
        top.checkFallback libraryOption libraryPath
        return {
          library := ((shared top inner libraryOption.long).or libraryPath).map Path.mk
          store := ⟨(shared top inner "store").getD "."⟩
          json := top.has "json" || inner.has "json"
          verbose := top.has "verbose" || inner.has "verbose"
          command := ofReading name inner }

end CommandLine

end CodeIndex
