import CodeIndex.FileTree
/-!
# Faults

Everything that can go wrong between a query and its answer, with one wording for each cause.
-/
namespace CodeIndex

inductive LoadFault where
  | notFound (path : Path)
  | notALibrary (path : Path) (loader : String)
  | missingSymbol (symbol loader : String)
  | incompatibleVersion (found min max : UInt32)
  | notDiscovered (searched : List Path)
  deriving DecidableEq, Repr

def LoadFault.message : LoadFault → String
  | .notFound path => s!"index store library not found at {path.text}"
  | .notALibrary path loader => s!"{path.text} is not a loadable library: {loader}"
  | .missingSymbol symbol loader =>
    s!"index store library is missing required symbol `{symbol}`: {loader}"
  | .incompatibleVersion found min max =>
    s!"index store format version {found} is not supported (expected {min}..={max})"
  | .notDiscovered searched =>
    "no index store library found (searched: " ++
      (if searched.isEmpty then "nothing" else ", ".intercalate (searched.map Path.text)) ++ ")"

inductive StoreFault where
  | missing (path : Path)
  | notADirectory (path : Path)
  | notAStore (path : Path)
  | unsupportedFormat (path : Path) (found expected : UInt32)
  | invalidPath (path : Path)
  | io (path : Path) (source : IoFault)
  | engine (path : Path) (message : String)
  | notShareable
  deriving DecidableEq, Repr

def StoreFault.message : StoreFault → String
  | .missing path => s!"index store directory does not exist: {path.text}"
  | .notADirectory path => s!"index store path is not a directory: {path.text}"
  | .notAStore path => s!"{path.text} is not an index store (no format directory)"
  | .unsupportedFormat path found expected =>
    s!"index store at {path.text} uses format v{found}, library reads v{expected}"
  | .invalidPath path => s!"path cannot be passed to the index store engine: {path.text}"
  | .io path source => s!"failed to inspect {path.text}: {source.message}"
  | .engine path message => s!"engine failed to open {path.text}: {message}"
  | .notShareable => "index store engine does not support concurrent reads"

/-- What is wrong with an item of the index. -/
inductive Malformation where
  | invalidLine (source : String) (line : Int)
  | invalidUtf8 (fault : Utf8.Fault)
  deriving DecidableEq, Repr

def Malformation.message : Malformation → String
  | .invalidLine source line => s!"include directive in {source} has impossible line {line}"
  | .invalidUtf8 fault => s!"string from the index store is not valid UTF-8: {fault.message}"

inductive Fault where
  | store (fault : StoreFault)
  | unitOpen (name message : String)
  | recordOpen (name message : String)
  | malformed (fault : Malformation)
  | engine (message : String)
  | io (fault : IoFault)
  deriving DecidableEq, Repr

def Fault.message : Fault → String
  | .store fault => fault.message
  | .unitOpen name message => s!"failed to open unit `{name}`: {message}"
  | .recordOpen name message => s!"failed to open record `{name}`: {message}"
  | .malformed fault => s!"malformed index data: {fault.message}"
  | .engine message => s!"engine error: {message}"
  | .io fault => s!"I/O error: {fault.message}"

end CodeIndex
