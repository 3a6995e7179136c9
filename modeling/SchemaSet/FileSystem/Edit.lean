import SchemaSet.FileSystem

/-!
# Building file systems

Directories, files and links are made at paths that may be relative and may go through links already
made.  `makeDirectory`, `writeFile` and `makeLink` create what leads to the entry first; `remove`
takes away an entry with all below it, and a link without following it.
-/

namespace SchemaSet
namespace FileSystem

/-- The file system that holds the working directory and nothing else. -/
def initial (workingDirectory : List Bytes) : FileSystem :=
  ⟨(List.range workingDirectory.length).foldl
      (fun m i => m.insert (workingDirectory.take (i + 1)) .directory) ∅, workingDirectory⟩

/-- Puts an entry at some names. -/
def put (fs : FileSystem) (names : List Bytes) (node : Node) : FileSystem :=
  { fs with nodes := fs.nodes.insert names node }

/-- Makes the directories that some moves pass, and tells where the moves end. -/
def ensure (fs : FileSystem) (names : List Bytes) : List Move → FileSystem × List Bytes
  | [] => (fs, names)
  | .stay :: rest => ensure fs names rest
  | .up :: rest => ensure fs names.dropLast rest
  | .down name :: rest =>
      match fs.walk (fun _ => true) linkBudget names [.down name] with
      | .ok place => ensure fs place.names rest
      | .error _ => ensure (fs.put (names ++ [name]) .directory) (names ++ [name]) rest

/-- Makes a directory and all above it. -/
def makeDirectory (fs : FileSystem) (p : Path) : FileSystem :=
  (fs.ensure (start fs.workingDirectory p) (moves p)).1

/-- Writes a file at the end of some moves, at the target when the last move meets a link. -/
def writeAt (content : Bytes) : (links : Nat) → FileSystem → List Bytes → List Move → FileSystem
  | links, fs, names, ms =>
      let (fs, names) := fs.ensure names ms.dropLast
      match ms.getLast? with
      | some (.down name) =>
          match fs.node? (names ++ [name]), links with
          | some (.link target), links + 1 =>
              writeAt content links fs (start names target) (moves target)
          | some .directory, _ => fs
          | _, _ => fs.put (names ++ [name]) (.file content)
      | _ => fs

/-- Writes a file, making the directories that lead to it. -/
def writeFile (fs : FileSystem) (p : Path) (content : Bytes) : FileSystem :=
  writeAt content linkBudget fs (start fs.workingDirectory p) (moves p)

/-- Makes a link, making the directories that lead to it. -/
def makeLink (fs : FileSystem) (p target : Path) : FileSystem :=
  let (fs, names) := fs.ensure (start fs.workingDirectory p) (moves p).dropLast
  match (moves p).getLast? with
  | some (.down name) =>
      match fs.node? (names ++ [name]) with
      | none => fs.put (names ++ [name]) (.link target)
      | some _ => fs
  | _ => fs

/-- Takes away the entry that a path names, with all below it; a link is not followed. -/
def remove (fs : FileSystem) (p : Path) : FileSystem :=
  match (moves p).getLast? with
  | some (.down name) =>
      match fs.walk (fun _ => true) linkBudget (start fs.workingDirectory p) (moves p).dropLast with
      | .ok place =>
          { fs with nodes := fs.nodes.eraseIf fun key => (place.names ++ [name]).isPrefixOf key }
      | .error _ => fs
  | _ => fs

end FileSystem
end SchemaSet
