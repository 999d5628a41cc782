import CodeIndex.Text.Pieces
import CodeIndex.Text.Utf8
/-!
# Paths

A path is a text read as components between slashes. Repeated and trailing slashes and inner `.`
components do not count; a leading `.` does. Two spellings with the same components are equal as
paths, and paths are ordered by their components.
-/
namespace CodeIndex

/-- A path as it is spelled. -/
structure Path where
  text : String
  deriving DecidableEq, Repr, Inhabited

inductive Component where
  | root
  | here
  | up
  | named (text : String)
  deriving DecidableEq, Repr

namespace Component

def rank : Component → Nat
  | .root => 0
  | .here => 1
  | .up => 2
  | .named _ => 3

def octets : Component → Bytes
  | .named text => Utf8.encode text
  | _ => []

/-- Root before `.` before `..` before names; names by their octets. -/
def compare (a b : Component) : Ordering :=
  (Ord.compare a.rank b.rank).then (Bytes.compare a.octets b.octets)

end Component

namespace Path

/-- The stretches of a path between slashes, empty ones included. -/
def segments (p : Path) : List String := (Text.pieces '/' p.text.toList).map String.ofList

def innerComponent (segment : String) : Option Component :=
  if segment = "" ∨ segment = "." then none
  else if segment = ".." then some .up
  else some (.named segment)

/-- The component the first stretch stands for; an empty one before a slash is the root. -/
def firstComponent (segment : String) (last : Bool) : Option Component :=
  if segment = "" then if last then none else some .root
  else if segment = "." then some .here
  else innerComponent segment

/-- Components of the stretches after the first, each with the place where it ends. -/
def innerParts (start : Nat) : List String → List (Component × Nat)
  | [] => []
  | segment :: rest =>
    let stop := start + 1 + segment.length
    match innerComponent segment with
    | some c => (c, stop) :: innerParts stop rest
    | none => innerParts stop rest

def parts (p : Path) : List (Component × Nat) :=
  match p.segments with
  | [] => []
  | segment :: rest =>
    let stop := segment.length
    match firstComponent segment rest.isEmpty with
    | some c => (c, if c = .root then 1 else stop) :: innerParts stop rest
    | none => innerParts stop rest

def components (p : Path) : List Component := p.parts.map Prod.fst

def isAbsolute (p : Path) : Bool := p.text.toList.head? == some '/'

/-- Order by components; a proper beginning comes first. -/
def compareComponents : List Component → List Component → Ordering
  | [], [] => .eq
  | [], _ :: _ => .lt
  | _ :: _, [] => .gt
  | a :: as, b :: bs => (a.compare b).then (compareComponents as bs)

def compare (p q : Path) : Ordering := compareComponents p.components q.components

/-- Whether two spellings name the same path. -/
def same (p q : Path) : Bool := p.components == q.components

/-- `q` seen from `p`: an absolute `q` stands for itself. -/
def join (p q : Path) : Path :=
  if q.isAbsolute || p.text.isEmpty then q
  else if p.text.toList.getLast? == some '/' then ⟨p.text ++ q.text⟩
  else ⟨p.text ++ "/" ++ q.text⟩

/-- The path up to the end of the component before the last; the root has none above it. -/
def parent? (p : Path) : Option Path :=
  match p.parts.reverse with
  | [] => none
  | (.root, _) :: _ => none
  | _ :: [] => some ⟨""⟩
  | _ :: (_, stop) :: _ => some ⟨String.ofList (p.text.toList.take stop)⟩

end Path

end CodeIndex
