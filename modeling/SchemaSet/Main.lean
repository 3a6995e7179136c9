import SchemaSet.CommandLine
import SchemaSet.FileSystem.Edit

/-!
# The program

The commands are functions on file systems, so the program first copies what they need from the
disk.  The copy starts with the working directory.  The paths that the command looks at are added to
it, with the links on the way, until there are no new ones; then the command runs on the copy.
-/

namespace SchemaSet
namespace CommandLine

/-- The type of an entry, which may be a link. -/
def entryType (entry : IO.FS.DirEntry) : IO (Option IO.FS.FileType) := do
  match ← entry.path.symlinkMetadata.toBaseIO with
  | .ok metadata => return some metadata.type
  | .error _ => return none

/-- Whether an entry is a link that never ends. -/
def isEndless (entry : IO.FS.DirEntry) : IO Bool := do
  match ← entry.path.metadata.toBaseIO with
  | .error (.invalidArgument ..) => return true
  | _ => return false

/-- Copies what some moves lead to, with the links on the way.  A link that leads nowhere is left
out, and one that never ends leads to itself. -/
partial def copyMoves (fs : FileSystem) (names : List Bytes) :
    List FileSystem.Move → IO FileSystem
  | [] => return fs
  | .stay :: r => copyMoves fs names r
  | .up :: r => copyMoves fs names.dropLast r
  | .down name :: r => do
      let inside := names ++ [name]
      let entry : IO.FS.DirEntry := ⟨(Path.ofNames names).display, Utf8.lossy name⟩
      match ← entryType entry with
      | some .symlink =>
          match ← (IO.FS.realPath entry.path).toBaseIO with
          | .ok found =>
              let target := Path.ofString found.toString
              copyMoves (fs.put inside (.link target)) [] (FileSystem.moves target ++ r)
          | .error _ =>
              if ← isEndless entry then return fs.put inside (.link (Path.ofNames inside))
              else return fs
      | some .dir => copyMoves (fs.put inside .directory) inside r
      | some .file => return fs.put inside (.file (← IO.FS.readBinFile entry.path).toList)
      | _ => return fs

/-- Copies what is at a path, and the entries of a directory. -/
def copyPlace (fs : FileSystem) (p : Path) : IO FileSystem := do
  let fs ← copyMoves fs (FileSystem.start fs.workingDirectory p) (FileSystem.moves p)
  match fs.locate p with
  | .ok ⟨names, .directory⟩ =>
      let directory : IO.FS.DirEntry := ⟨"/", (Path.ofNames names).display⟩
      (← directory.path.readDir).foldlM
        (fun fs e => copyMoves fs names [.down (Utf8.encode e.fileName)]) fs
  | _ => return fs

/-- Copies all paths that a command looks at, except those copied before. -/
partial def copyPlaces (command : Command) (copied : List Path) (fs : FileSystem) :
    IO FileSystem := do
  match (places fs command).filter (fun p => !copied.contains p) with
  | [] => return fs
  | fresh => copyPlaces command (copied ++ fresh) (← fresh.foldlM copyPlace fs)

/-- The copy of the disk that the arguments need. -/
def copyDisk (args : List String) : IO FileSystem := do
  let directory := Path.ofString (← IO.currentDir).toString
  let fs := FileSystem.initial (directory.pieces.filter fun piece => !Path.isVoid piece)
  match read args with
  | .ok command => copyPlaces command [] fs
  | .error _ => return fs

end CommandLine
end SchemaSet

/-- Runs the program on its arguments. -/
def main (args : List String) : IO UInt32 := do
  let output := SchemaSet.CommandLine.run (← SchemaSet.CommandLine.copyDisk args) args
  IO.print output.stdout
  IO.eprint output.stderr
  return output.status.toUInt32
