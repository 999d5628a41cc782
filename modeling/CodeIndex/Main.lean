import CodeIndex.Command.Program
/-!
# The command

The program on the command line. No loader of native libraries is linked into it, so it looks at a
file tree without any: a command line that is accepted ends with the fault of loading.
-/
namespace CodeIndex

def readEnvironment : IO Environment := do
  return {
    searchPath := ← IO.getEnv "PATH"
    libraryPath := ← IO.getEnv "INDEXSTORE_LIBRARY_PATH"
    home := ← IO.getEnv "HOME" }

/-- Prints the report, or the fault on the error stream. -/
def finish (result : Except ProgramFault String) : IO UInt32 :=
  match result with
  | .ok text => do
    IO.println text
    return 0
  | .error fault => do
    (← IO.getStderr).putStrLn s!"error: {fault.message}"
    return fault.exitCode

end CodeIndex

def main (arguments : List String) : IO UInt32 := do
  let env ← CodeIndex.readEnvironment
  let files : CodeIndex.Library.Files := .empty ⟨0⟩ []
  CodeIndex.finish ((CodeIndex.runProgram env files files ⟨0⟩ arguments).run {}).1
