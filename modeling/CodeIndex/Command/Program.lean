import CodeIndex.Command.Run
import CodeIndex.Discovery
/-!
# The program

The program reads its command line, loads the library that is named or discovered, opens the store,
reports, and closes the store. It ends at the first step that fails.
-/
namespace CodeIndex

inductive ProgramFault where
  | usage (fault : Command.UsageFault)
  | load (fault : LoadFault)
  | store (fault : StoreFault)
  | report (fault : Report.ReportFault)
  deriving DecidableEq, Repr

namespace ProgramFault

def message : ProgramFault → String
  | .usage fault => fault.message
  | .load fault => fault.message
  | .store fault => fault.message
  | .report fault => fault.message

def exitCode : ProgramFault → UInt32
  | .usage fault => if fault.isRequest then 0 else 2
  | _ => 1

end ProgramFault

namespace CommandLine

/-- The library a command line asks for: the one it names, or the one that is discovered. -/
def openLibrary (host : Host) (env : Environment) (line : CommandLine) :
    Except LoadFault Library :=
  match line.library with
  | some path => Library.load host path
  | none => Discovery.discover host env

end CommandLine

def runProgram (env : Environment) (host : Host) (files : FileSystem NativeLibrary)
    (clock : Instant) (arguments : List String) : Access (Except ProgramFault String) := do
  match CommandLine.parse env.libraryPath arguments with
  | .error fault => pure (.error (.usage fault))
  | .ok line => match line.openLibrary host env with
    | .error fault => pure (.error (.load fault))
    | .ok library => match ← Store.openAt library files line.store with
      | .error fault => pure (.error (.store fault))
      | .ok store =>
        let result ← line.command.run library.engine files clock line.json
        store.close library.engine
        pure (result.mapError .report)

end CodeIndex
