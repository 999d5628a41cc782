import CodeIndex.Path
import CodeIndex.Time
/-!
# File trees

The part of a file system that can be looked at: directories, files and symbolic links with the
times they were last modified. A file may hold a loadable image. Paths are walked one step at a
time from the root or from the working directory; links are followed, up to forty in one walk. What
can be asked about a path is kept apart from the tree, which answers it in one way.
-/
namespace CodeIndex

inductive IoFault where
  | notFound
  | notADirectory
  | tooManyLinks
  | nameTooLong
  | zeroOctet
  /-- Anything else the system refuses for, as it words it. -/
  | other (wording : String)
  deriving DecidableEq, Repr

def IoFault.message : IoFault → String
  | .notFound => "No such file or directory (os error 2)"
  | .notADirectory => "Not a directory (os error 20)"
  | .tooManyLinks => "Too many levels of symbolic links (os error 40)"
  | .nameTooLong => "File name too long (os error 36)"
  | .zeroOctet => "file name contained an unexpected NUL byte"
  | .other wording => wording

/-- A place in the tree: the names on the way from the root. -/
abbrev Location := List String

inductive Entry (ι : Type) where
  | file (image : Option ι)
  | directory
  | link (target : Path)

structure Node (ι : Type) where
  entry : Entry ι
  modified : Instant

namespace Node

variable {ι : Type}

def isDirectory (n : Node ι) : Bool :=
  match n.entry with
  | .directory => true
  | _ => false

def isFile (n : Node ι) : Bool :=
  match n.entry with
  | .file _ => true
  | _ => false

end Node

/-- A file system by what it answers about paths. A directory that can be looked at need not let
itself be listed, and lists its names in any order. -/
structure FileSystem (ι : Type) where
  /-- The node a path leads to, all links followed. -/
  metadata : Path → Except IoFault (Node ι)
  /-- The names in the directory a path leads to. -/
  list : Path → Except IoFault (List String)

def FileSystem.isDirectory {ι : Type} (files : FileSystem ι) (p : Path) : Bool :=
  match files.metadata p with
  | .ok node => node.isDirectory
  | .error _ => false

/-- A tree: every place that holds something, below a root that is a directory. -/
structure FileTree (ι : Type) where
  /-- Where relative paths start. -/
  workingDirectory : Location
  /-- What a directory is stamped with when it is made. -/
  clock : Instant
  nodes : List (Location × Node ι)

namespace FileTree

variable {ι : Type}

/-- How many links one walk follows. -/
def maxLinks : Nat := 40

/-- How many octets a name may have. -/
def maxName : Nat := 255

def maxPath : Nat := 4095

/-- The node at a place, links not followed. -/
def node? (t : FileTree ι) (place : Location) : Option (Node ι) :=
  match (t.nodes.find? (·.1 == place)).map Prod.snd with
  | some node => some node
  | none => if place = [] then some ⟨.directory, t.clock⟩ else none

def isDirectoryAt (t : FileTree ι) (place : Location) : Bool :=
  (t.node? place).any Node.isDirectory

/-- Walks steps from a place, following links; each step starts from a directory. -/
def walk (t : FileTree ι) (links : Nat) (place : Location) (steps : List String) :
    Except IoFault Location :=
  match steps with
  | [] => .ok place
  | step :: rest =>
    if !t.isDirectoryAt place then .error .notADirectory
    else if step = "" ∨ step = "." then walk t links place rest
    else if step = ".." then walk t links place.dropLast rest
    else if maxName < step.utf8ByteSize then .error .nameTooLong
    else match t.node? (place ++ [step]) with
      | none => .error .notFound
      | some ⟨.link target, _⟩ =>
        match links with
        | 0 => .error .tooManyLinks
        | links + 1 =>
          walk t links (if target.isAbsolute then [] else place) (target.segments ++ rest)
      | some _ => walk t links (place ++ [step]) rest
termination_by (links, steps.length)

/-- The place a path leads to, all links followed. -/
def locate (t : FileTree ι) (p : Path) : Except IoFault Location :=
  if hasNul p.text then .error .zeroOctet
  else if p.text.isEmpty then .error .notFound
  else if maxPath < p.text.utf8ByteSize then .error .nameTooLong
  else t.walk maxLinks (if p.isAbsolute then [] else t.workingDirectory) p.segments

def metadata (t : FileTree ι) (p : Path) : Except IoFault (Node ι) :=
  match t.locate p with
  | .error e => .error e
  | .ok place => match t.node? place with
    | some node => .ok node
    | none => .error .notFound

def pathExists (t : FileTree ι) (p : Path) : Bool := (t.metadata p).isOk

def pathTo (place : Location) : Path :=
  if place = [] then ⟨"/"⟩ else ⟨String.join (place.map ("/" ++ ·))⟩

/-- The absolute path without links that leads where `p` leads. -/
def canonical? (t : FileTree ι) (p : Path) : Option Path :=
  match t.locate p with
  | .ok place => some (pathTo place)
  | .error _ => none

def nameIn (directory place : Location) : Option String :=
  if place.dropLast = directory then place.getLast? else none

def names (t : FileTree ι) (place : Location) : List String :=
  t.nodes.filterMap fun entry => nameIn place entry.1

def list (t : FileTree ι) (p : Path) : Except IoFault (List String) :=
  match t.locate p with
  | .error e => .error e
  | .ok place => if t.isDirectoryAt place then .ok (t.names place) else .error .notADirectory

/-- What a tree answers about paths. -/
def system (t : FileTree ι) : FileSystem ι := ⟨t.metadata, t.list⟩

instance : Coe (FileTree ι) (FileSystem ι) := ⟨system⟩

def put (t : FileTree ι) (place : Location) (node : Node ι) : FileTree ι :=
  { t with nodes := (place, node) :: t.nodes.filter (·.1 != place) }

def empty (clock : Instant) (workingDirectory : Location) : FileTree ι :=
  { workingDirectory, clock
    nodes := (List.range workingDirectory.length).map fun depth =>
      (workingDirectory.take (depth + 1), ⟨.directory, clock⟩) }

/-- Makes the directories on the way along `steps` that are not there, and gives the last one. -/
def makeDirectories (t : FileTree ι) (place : Location) : List String → FileTree ι × Location
  | [] => (t, place)
  | step :: rest =>
    match t.walk maxLinks place [step] with
    | .ok next => t.makeDirectories next rest
    | .error _ =>
      (t.put (place ++ [step]) ⟨.directory, t.clock⟩).makeDirectories (place ++ [step]) rest

def start (t : FileTree ι) (p : Path) : Location :=
  if p.isAbsolute then [] else t.workingDirectory

/-- Makes a directory and those above it. -/
def addDirectory (t : FileTree ι) (p : Path) : FileTree ι :=
  (t.makeDirectories (t.start p) p.segments).1

/-- The place that a file written under the path `steps` takes: links are followed, also one that
leads where nothing stands yet. -/
def settle (t : FileTree ι) (place : Location) (steps : List String) (links : Nat) :
    Except IoFault Location :=
  match steps.getLast? with
  | none => .ok place
  | some name =>
    match t.walk maxLinks place steps.dropLast with
    | .error e => .error e
    | .ok above =>
      match t.node? (above ++ [name]), links with
      | some ⟨.link _, _⟩, 0 => .error .tooManyLinks
      | some ⟨.link target, _⟩, links + 1 =>
        t.settle (if target.isAbsolute then [] else above) target.segments links
      | _, _ => .ok (above ++ [name])

/-- Makes an entry and the directories above it. A link stands where it is made; a file is written
through the links that stand in its place. -/
def add (t : FileTree ι) (p : Path) (entry : Entry ι) : FileTree ι :=
  let (t, above) := t.makeDirectories (t.start p) p.segments.dropLast
  match p.segments.getLast?, entry with
  | none, _ => t
  | some name, .link _ => t.put (above ++ [name]) ⟨entry, t.clock⟩
  | some name, _ =>
    match t.settle above [name] maxLinks with
    | .ok place => t.put place ⟨entry, t.clock⟩
    | .error _ => t

def setModified (t : FileTree ι) (p : Path) (time : Instant) : FileTree ι :=
  match t.locate p with
  | .ok place => match t.node? place with
    | some node => t.put place { node with modified := time }
    | none => t
  | .error _ => t

end FileTree

end CodeIndex
