import CodeIndex.Engine.Native
import CodeIndex.Fault
import CodeIndex.Text.Quoted
/-!
# Libraries

A library is an engine with the path it was loaded from. Loading decides in a fixed order: the file
must be there, be a loadable library, have every required function, and read a format within the
bounds asked for.
-/
namespace CodeIndex

/-- Bounds on what may be loaded. -/
structure LoadOptions where
  minFormatVersion : UInt32 := 5
  maxFormatVersion : UInt32 := 5
  /-- Take the library to be safe for concurrent reads, which it cannot tell itself. -/
  assumeConcurrentReads : Bool := false
  deriving DecidableEq, Repr

def LoadOptions.accepts (o : LoadOptions) (version : UInt32) : Bool :=
  o.minFormatVersion ≤ version && version ≤ o.maxFormatVersion

def LoadOptions.describe (o : LoadOptions) : String :=
  Text.describeRecord "LoadOptions"
    [("min_format_version", toString o.minFormatVersion),
     ("max_format_version", toString o.maxFormatVersion),
     ("assume_concurrent_reads", toString o.assumeConcurrentReads)]

/-- A system that libraries are looked for on. -/
structure Host where
  /-- The node a path leads to, all links followed. -/
  metadata : Path → Except IoFault (Node NativeLibrary)
  /-- The absolute path without links that leads where a path leads. -/
  canonical? : Path → Option Path
  /-- The library that the system's loader finds at a path, or what the loader says. -/
  loader : Path → Except String NativeLibrary

namespace Host

def pathExists (host : Host) (p : Path) : Bool := (host.metadata p).isOk

def isFile (host : Host) (p : Path) : Bool :=
  match host.metadata p with
  | .ok node => node.isFile
  | .error _ => false

end Host

structure Library where
  engine : Engine
  /-- Where it was loaded from, if it was. -/
  path : Option Path
  concurrentReads : Bool

namespace Library

/-- A file tree whose files may be native libraries. -/
abbrev Files := FileTree NativeLibrary

/-- An engine that was not loaded. -/
def ofEngine (engine : Engine) : Library := ⟨engine, none, engine.concurrentReads⟩

/-- What the system's loader says; its wording is not fixed. -/
def loaderText : String := "<loader>"

/-- The image that the loader finds in a file tree. A name without a slash is looked for in the
system's own directories, not in the working directory. -/
def image? (files : Files) (path : Path) : Option NativeLibrary :=
  if path.text.toList.contains '/' then
    match files.metadata path with
    | .ok ⟨.file image, _⟩ => image
    | _ => none
  else none

/-- A file tree as a system to look for libraries on. -/
def host (files : Files) : Host where
  metadata := files.metadata
  canonical? := files.canonical?
  loader path := match image? files path with
    | some lib => .ok lib
    | none => .error loaderText

instance : Coe Files Host := ⟨host⟩

def load (host : Host) (path : Path) (options : LoadOptions := {}) : Except LoadFault Library :=
  if !host.pathExists path then .error (.notFound path)
  else match host.loader path with
    | .error said => .error (.notALibrary path said)
    | .ok lib => match NativeFunctions.resolve lib.exports with
      | .error symbol => .error (.missingSymbol symbol loaderText)
      | .ok functions =>
        let engine := functions.engine
        if !options.accepts engine.formatVersion then
          .error (.incompatibleVersion engine.formatVersion options.minFormatVersion
            options.maxFormatVersion)
        else .ok ⟨engine, some path, options.assumeConcurrentReads || engine.concurrentReads⟩

def describe (lib : Library) : String :=
  Text.describeRecord "IndexStoreLibrary"
    [("path", Text.describeOption (lib.path.map fun p => Text.quote p.text)),
     ("format_version", toString lib.engine.formatVersion),
     ("concurrent_reads", toString lib.concurrentReads)]

end Library

end CodeIndex
