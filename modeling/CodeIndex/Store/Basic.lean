import CodeIndex.Lending
import CodeIndex.Library
import CodeIndex.Text.Decimal
/-!
# Stores

A store is a directory whose format directories (`v5`, say) include the one the library reads. The
shape of the directory is looked at first, and only a store of that shape is opened. An open store
enumerates the names of its units.
-/
namespace CodeIndex

structure Store where
  path : Path
  handle : Handle
  deriving DecidableEq, Repr

namespace Store

/-- The format a directory of this name holds: a `v` and a decimal number of 32 bits. -/
def formatVersion? (name : String) : Option UInt32 :=
  match name.toList with
  | 'v' :: digits => Text.word? digits
  | _ => none

def formats (files : FileSystem NativeLibrary) (path : Path) (names : List String) : List UInt32 :=
  (names.filter fun name => files.isDirectory (path.join ⟨name⟩)).filterMap formatVersion?

def largest : List UInt32 → Option UInt32
  | [] => none
  | v :: rest => match largest rest with
    | none => some v
    | some w => some (if v < w then w else v)

/-- Whether a path has the shape of a store with the expected format. -/
def check (files : FileSystem NativeLibrary) (path : Path) (expected : UInt32) :
    Except StoreFault Unit :=
  match files.metadata path with
  | .error .notFound => .error (.missing path)
  | .error source => .error (.io path source)
  | .ok node =>
    if !node.isDirectory then .error (.notADirectory path)
    else match files.list path with
      | .error source => .error (.io path source)
      | .ok names =>
        let versions := formats files path names
        if versions.contains expected then .ok ⟨⟩
        else match largest versions with
          | some found => .error (.unsupportedFormat path found expected)
          | none => .error (.notAStore path)

/-- Opens a store. Its shape is looked at before the engine hears of it. -/
def openAt (lib : Library) (files : FileSystem NativeLibrary) (path : Path) :
    Access (Except StoreFault Store) := do
  match check files path lib.engine.formatVersion with
  | .error fault => pure (.error fault)
  | .ok _ =>
    if hasNul path.text then pure (.error (.invalidPath path))
    else match ← lib.engine.createStore path.text with
      | .ok handle => pure (.ok ⟨path, handle⟩)
      | .error message => pure (.error (.engine path message))

def close (e : Engine) (s : Store) : Access Unit := e.disposeStore s.handle

def describe (s : Store) : String :=
  Text.describePartRecord "IndexStore" [("path", Text.quote s.path.text)]

def describeShared (s : Store) : String := Text.describeWrapped "SharedIndexStore" s.describe

end Store

namespace Engine

def names (e : Engine) (sorted : Bool) : Lending Bytes := ⟨e.conduct, e.unitNames sorted⟩

/-- The names of the units that are text. -/
def textNames (e : Engine) (sorted : Bool) : Access (List String) := do
  let names ← (e.names sorted).toList
  pure (names.filterMap fun octets => (Utf8.decode octets).toOption)

def readName (octets : Bytes) : Except Fault String :=
  (Utf8.decode octets).mapError fun fault => .malformed (.invalidUtf8 fault)

end Engine

end CodeIndex
