import SchemaSet.OrderedMap
import SchemaSet.Path

/-!
# File systems

A file system is a finite map from the names that lead to an entry to the entry: a file with its
content, a directory, or a link with its target.  It is a value, which reading does not change.

A path is walked piece by piece from the top, a relative one after the pieces of the working
directory.  Each step needs a directory; a link is replaced by the pieces of its target, at most
`linkBudget` times in one walk.  `locate` bounds the length of the spelling, `canonicalPlace` that
of the names on the way.  A canonical path is spelled by the names that lead to the entry.
-/

namespace SchemaSet

/-- An entry of a file system. -/
inductive Node
  | file (content : Bytes)
  | directory
  | link (target : Path)
deriving DecidableEq, Repr

/-- Whether an entry is a regular file. -/
def Node.isFile : Node → Bool
  | .file _ => true
  | _ => false

/-- A finite file system and the directory in which relative paths start. -/
structure FileSystem where
  /-- The entries below the top, by the names that lead to them. -/
  nodes : OrderedMap (List Bytes) Node
  workingDirectory : List Bytes
deriving Inhabited

namespace FileSystem

/-- Why a path could not be used. -/
inductive Fault
  /-- A piece of the path does not exist. -/
  | notFound
  /-- A piece before the last is not a directory. -/
  | notDirectory
  /-- A directory was read as a file. -/
  | isDirectory
  | nameTooLong
  /-- More links than a walk may follow. -/
  | tooManyLinks
  | nulOctet
deriving DecidableEq, Repr

def Fault.message : Fault → String
  | .notFound => "No such file or directory (os error 2)"
  | .notDirectory => "Not a directory (os error 20)"
  | .isDirectory => "Is a directory (os error 21)"
  | .nameTooLong => "File name too long (os error 36)"
  | .tooManyLinks => "Too many levels of symbolic links (os error 40)"
  | .nulOctet => "file name contained an unexpected NUL byte"

/-- The greatest number of links that one walk follows. -/
def linkBudget : Nat := 40

/-- The greatest length of a name in octets. -/
def nameBound : Nat := 255

/-- The length in octets that a path must stay below. -/
def pathBound : Nat := 4096

/-- One piece of a path, as an instruction to a walk. -/
inductive Move
  | stay
  /-- Go to the directory above. -/
  | up
  /-- Go to an entry. -/
  | down (name : Bytes)
deriving DecidableEq, Repr

/-- The instruction of a piece. -/
def Move.ofPiece (piece : Bytes) : Move :=
  if Path.isVoid piece then .stay
  else if piece == [Path.dot, Path.dot] then .up
  else .down piece

/-- The instructions of a path after its start. -/
def moves (p : Path) : List Move :=
  (if p.isAbsolute then p.pieces.tail else p.pieces).map Move.ofPiece

/-- An entry and the names that lead to it, none of them a link. -/
structure Place where
  names : List Bytes
  /-- The entry. -/
  node : Node
deriving DecidableEq, Repr

/-- The entry to which some names lead; the top is a directory. -/
def node? (fs : FileSystem) (names : List Bytes) : Option Node :=
  if names.isEmpty then some .directory else fs.nodes.get? names

/-- The directory where the walk of a path starts when it is met in directory `base`. -/
def start (base : List Bytes) (p : Path) : List Bytes := if p.isAbsolute then [] else base

/-- Walks from an entry, handing each link over to `follow` with the directory where its target
starts and the moves that are left; `fits` tells which names are not too long to look at. -/
def walkFrom (fs : FileSystem) (fits : List Bytes → Bool)
    (follow : List Bytes → List Move → Except Fault Place) (names : List Bytes) (node : Node) :
    List Move → Except Fault Place
  | [] => .ok ⟨names, node⟩
  | m :: rest =>
      match node with
      | .directory =>
          match m with
          | .stay => walkFrom fs fits follow names .directory rest
          | .up => walkFrom fs fits follow names.dropLast .directory rest
          | .down name =>
              if nameBound < name.length || !fits (names ++ [name]) then .error .nameTooLong
              else
                match fs.node? (names ++ [name]) with
                | none => .error .notFound
                | some (.link target) => follow (start names target) (moves target ++ rest)
                | some next => walkFrom fs fits follow (names ++ [name]) next rest
      | _ => .error .notDirectory

/-- Walks from a directory, following at most `links` links. -/
def walk (fs : FileSystem) (fits : List Bytes → Bool) :
    (links : Nat) → List Bytes → List Move → Except Fault Place
  | 0, names, ms => walkFrom fs fits (fun _ _ => .error .tooManyLinks) names .directory ms
  | links + 1, names, ms => walkFrom fs fits (walk fs fits links) names .directory ms

/-- The path from the top that a path stands for in the working directory. -/
def absolute (fs : FileSystem) (p : Path) : Path := (Path.ofNames fs.workingDirectory).join p

/-- Walks along a path that is not empty and holds no NUL. -/
def walkPath (fs : FileSystem) (fits : List Bytes → Bool) (p : Path) : Except Fault Place :=
  if p.octets.contains 0 then .error .nulOctet
  else if p.octets.isEmpty then .error .notFound
  else fs.walk fits linkBudget [] (moves (fs.absolute p))

/-- The place that a path leads to when every link is followed. -/
def locate (fs : FileSystem) (p : Path) : Except Fault Place :=
  if pathBound ≤ p.octets.length && !p.octets.contains 0 then .error .nameTooLong
  else fs.walkPath (fun _ => true) p

/-- Whether the path that some names spell is shorter than the bound on paths. -/
def isShort (names : List Bytes) : Bool := (Path.ofNames names).octets.length < pathBound

/-- The place that a path of any length leads to over names that spell short paths. -/
def canonicalPlace (fs : FileSystem) (p : Path) : Except Fault Place := fs.walkPath isShort p

/-- The path without links, dots and doubled slashes that leads to the same entry. -/
def canonicalize (fs : FileSystem) (p : Path) : Except Fault Path :=
  (fs.canonicalPlace p).map fun place => Path.ofNames place.names

/-- The entry that a path leads to. -/
def entry (fs : FileSystem) (p : Path) : Except Fault Node :=
  (fs.locate p).map Place.node

/-- Whether a path leads to a regular file. -/
def isFile (fs : FileSystem) (p : Path) : Bool :=
  match fs.entry p with
  | .ok (.file _) => true
  | _ => false

/-- The content of an entry, read to its end. -/
def content : Node → Except Fault Bytes
  | .file content => .ok content
  | _ => .error .isDirectory

/-- The names of the entries directly in a directory, in the order of the map. -/
def children (fs : FileSystem) (names : List Bytes) : List Bytes :=
  fs.nodes.keys.filterMap fun key =>
    if key.dropLast == names then key.getLast? else none

/-- The number of regular files. -/
def fileCount (fs : FileSystem) : Nat := fs.nodes.values.countP Node.isFile

theorem canonicalize_ofNames {fs : FileSystem} {p q : Path} (h : fs.canonicalize p = .ok q) :
    ∃ place, fs.canonicalPlace p = .ok place ∧ q = Path.ofNames place.names := by
  unfold canonicalize at h
  cases hl : fs.canonicalPlace p with
  | error e => simp [hl, Except.map] at h
  | ok place =>
      refine ⟨place, rfl, ?_⟩
      simpa [hl, Except.map, eq_comm] using h

end FileSystem
end SchemaSet
