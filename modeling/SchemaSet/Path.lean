import SchemaSet.Text.Pieces
import SchemaSet.Text.Utf8

/-!
# Paths

A path is the octets that spell it.  Its `components` are what the spelling means: empty pieces and
`.` count only where they lead a relative path, `..` always counts.  Two paths are the same if they
name the same components, which is an equivalence.  An absolute path is not moved by joining
(`join_of_isAbsolute`).
-/

namespace SchemaSet

/-- A path as it is spelled. -/
structure Path where
  octets : Bytes
deriving DecidableEq, Repr, Inhabited

namespace Path

/-- The octet that separates components. -/
def slash : UInt8 := 0x2F

/-- The octet of a dot. -/
def dot : UInt8 := 0x2E

/-- The path that a text spells. -/
def ofString (s : String) : Path := ⟨Utf8.encode s⟩

/-- The spelling as a text; octets that are no text show as U+FFFD. -/
def display (p : Path) : String := Utf8.lossy p.octets

/-- The absolute path with given names. -/
def ofNames (names : List Bytes) : Path := ⟨slash :: Text.join slash names⟩

/-- What a piece of a path stands for. -/
inductive Component
  /-- The top of the file system. -/
  | root
  /-- A dot that leads a relative path. -/
  | here
  /-- The directory above. -/
  | up
  /-- An entry of a directory. -/
  | name (octets : Bytes)
deriving DecidableEq, Repr

/-- Whether a piece has no meaning of its own: it is empty or a dot. -/
def isVoid (piece : Bytes) : Bool := piece.isEmpty || piece == [dot]

/-- Whether a path starts at the top of the file system. -/
def isAbsolute (p : Path) : Bool := p.octets.head? == some slash

/-- The pieces between the slashes. -/
def pieces (p : Path) : List Bytes := Text.pieces (· == slash) p.octets

/-- The piece that tells where a path starts, and the pieces after it. -/
def lead (p : Path) : Option Component × List Bytes :=
  match p.pieces with
  | [] => (none, [])
  | x :: r =>
      if p.isAbsolute then (some .root, r)
      else if x == [dot] then (some .here, r)
      else (none, x :: r)

/-- The meaning of a piece that is not void. -/
def Component.ofPiece (piece : Bytes) : Component :=
  if piece == [dot, dot] then .up else .name piece

/-- What the spelling of a path means. -/
def components (p : Path) : List Component :=
  p.lead.1.toList ++ (p.lead.2.filter (fun x => !isVoid x)).map Component.ofPiece

/-- Whether two spellings have the same components. -/
def same (p q : Path) : Bool := p.components == q.components

/-- The path of a directory entry, unless `q` is absolute. -/
def join (p q : Path) : Path :=
  if q.isAbsolute then q
  else if p.octets.isEmpty || p.octets.getLast? == some slash then ⟨p.octets ++ q.octets⟩
  else ⟨p.octets ++ slash :: q.octets⟩

/-- The spelling of a start and the pieces after it. -/
def spell : Option Component → List Bytes → Path
  | some .root, r => ⟨slash :: Text.join slash r⟩
  | some .here, [] => ⟨[dot]⟩
  | some .here, r => ⟨dot :: slash :: Text.join slash r⟩
  | _, r => ⟨Text.join slash r⟩

/-- The pieces after the start, without void ones at the end. -/
def body (p : Path) : List Bytes := Text.dropEnd isVoid p.lead.2

/-- The path without its last component, spelled as before. -/
def parent (p : Path) : Option Path :=
  match p.lead.1, p.body with
  | some .here, [] => some ⟨[]⟩
  | _, [] => none
  | start, r => some (spell start (Text.dropEnd isVoid r.dropLast))

/-- The last component, if it names a directory entry. -/
def fileName (p : Path) : Option Bytes :=
  match p.body.getLast? with
  | some x => if x == [dot, dot] then none else some x
  | none => none

/-- The octets after the last dot of a name; a dot that leads the name does not count. -/
def extensionOf (name : Bytes) : Option Bytes :=
  match Text.cut (· == dot) name.reverse with
  | some (after, before) => if before.isEmpty then none else some after.reverse
  | none => none

/-- The extension of the last component. -/
def extension (p : Path) : Option Bytes := p.fileName.bind extensionOf

theorem same_refl (p : Path) : p.same p = true := by simp [same]

theorem same_symm {p q : Path} (h : p.same q = true) : q.same p = true := by
  simp_all [same]

theorem same_trans {p q r : Path} (h : p.same q = true) (k : q.same r = true) :
    p.same r = true := by
  simp_all [same]

theorem join_of_isAbsolute (p : Path) {q : Path} (h : q.isAbsolute = true) : p.join q = q := by
  simp [join, h]

end Path
end SchemaSet
