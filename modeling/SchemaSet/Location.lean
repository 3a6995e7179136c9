import SchemaSet.Error
import SchemaSet.Url.FilePath

/-!
# Locations

A document is read from a path, from a URL, or from memory.  A text is a URL when it has a scheme of
more than one letter and can be read as one; a `file` URL is the path that it stands for; everything
else is a path.

A relative path is taken from the directory of the document that mentions it, whereas an absolute
one does not depend on where it stands (`join_path_of_isAbsolute`).
-/

namespace SchemaSet

/-- Where a document is read from. -/
inductive Location
  /-- A path of the file system. -/
  | path (path : Path)
  | url (url : Url)
  | memory (content : String)
deriving DecidableEq, Repr

namespace Location

/-- The location that a text names. -/
def parse (s : String) : Except Error Location :=
  match Url.parse s with
  | .ok u =>
      if u.scheme == "file" then
        match u.toPath with
        | some p => .ok (.path p)
        | none => .error (.resource (.foreignHost s))
      else if 1 < u.scheme.length then .ok (.url u)
      else .ok (.path (Path.ofString s))
  | .error _ => .ok (.path (Path.ofString s))

def path? : Location → Option Path
  | .path p => some p
  | _ => none

/-- The location that a reference inside a document names. -/
def join (base : Location) (reference : String) : Except Error Location := do
  let target ← parse reference
  match target, base with
  | .path p, .path b =>
      if p.isAbsolute then return target else return .path ((b.parent.getD ⟨[]⟩).join p)
  | .path p, .url b =>
      if p.isAbsolute then return target
      else return .url (← (b.join reference).mapError .url)
  | _, _ => return target

/-- The identifier that a location has in references: the `file` URL of an absolute path. -/
def systemId : Location → String
  | .path p => (Url.ofPath p).getD p.display
  | .url u => u.display
  | .memory _ => ""

/-- The location as it is shown. -/
def display : Location → String
  | .path p => p.display
  | .url u => u.display
  | .memory _ => "<in-memory>"

theorem join_path_of_isAbsolute {base : Location} {reference : String} {p : Path}
    (h : parse reference = .ok (.path p)) (ha : p.isAbsolute = true) :
    base.join reference = .ok (.path p) := by
  cases base <;> simp [join, h, ha, bind, Except.bind, pure, Except.pure]

end Location
end SchemaSet
