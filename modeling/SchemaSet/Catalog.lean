import SchemaSet.Journal
import SchemaSet.Loading
import SchemaSet.Markup.Document
import SchemaSet.Notice

/-!
# Catalogs

A catalog file maps identifiers to files.  It may group its mappings under a base of their own and
refer to further catalogs.  This module flattens the children of the root to a list of items; the
base of a group reaches only the items inside it, because a group stands for its children with its
own base (`items_group`).

The items are then followed in order, and a further catalog is read where it is mentioned.  A
catalog file is read once, by whichever spelling it is reached, so that the nesting of catalogs is
at most the number of files: each level is a file not yet read.
-/

namespace SchemaSet

/-- What an identifier of a catalog identifies. -/
inductive IdentifierKind
  | publicId
  | systemId
  | uriName
deriving DecidableEq, Repr

/-- An instruction of a catalog. -/
inductive CatalogItem
  /-- An identifier stands for a file. -/
  | mapping (kind : IdentifierKind) (id : String) (target : Path)
  | next (catalog : Path)
deriving DecidableEq, Repr

/-- The files that identifiers stand for. -/
structure Catalog where
  /-- The files of public identifiers. -/
  publicIds : OrderedMap String Path
  /-- The files of system identifiers. -/
  systemIds : OrderedMap String Path
  uriNames : OrderedMap String Path
deriving DecidableEq

namespace Catalog

/-- The catalog without mappings. -/
def empty : Catalog := ⟨∅, ∅, ∅⟩

/-- Maps an identifier to a file; a later mapping replaces an earlier one. -/
def insert (c : Catalog) (kind : IdentifierKind) (id : String) (target : Path) : Catalog :=
  match kind with
  | .publicId => { c with publicIds := c.publicIds.insert id target }
  | .systemId => { c with systemIds := c.systemIds.insert id target }
  | .uriName => { c with uriNames := c.uriNames.insert id target }

/-- All mappings: public identifiers, then system identifiers, then names. -/
def entries (c : Catalog) : List (String × Path) :=
  c.publicIds.entries ++ c.systemIds.entries ++ c.uriNames.entries

/-- The number of mappings. -/
def size (c : Catalog) : Nat := c.publicIds.size + c.systemIds.size + c.uriNames.size

/-- Whether there is no mapping. -/
def isEmpty (c : Catalog) : Bool := c.size == 0

section Items

open Markup

/-- The path that an attribute names, seen from a directory. -/
def target (base : Path) (e : Element) (key : String) : Option Path :=
  (e.attribute? key).map fun s => base.join (Path.ofString s)

/-- The mapping of an element, if it has both an identifier and a target. -/
def mapping (base : Path) (e : Element) (kind : IdentifierKind) (key : String) :
    List CatalogItem :=
  match e.attribute? key, target base e "uri" with
  | some id, some p => [.mapping kind id p]
  | _, _ => []

/-- The name of the attribute that sets the base of a group. -/
def baseName : QName := QName.of (some Vocabulary.xml) "base"

/-- The base inside a group. -/
def groupBase (base : Path) (e : Element) : Path :=
  match e.attributeNamed? baseName with
  | some s => base.join (Path.ofString s)
  | none => base

/-- Whether an element is in the namespace of catalogs or in none. -/
def isEligible (e : Element) : Bool := e.name.uri.all (· == Vocabulary.catalog)

mutual

/-- The items of an element, seen from a directory. -/
def itemsOf (base : Path) : Element → List CatalogItem
  | ⟨name, attributes, children, scope⟩ =>
      let e : Element := ⟨name, attributes, children, scope⟩
      if isEligible e then
        if name.localName = "public" then mapping base e .publicId "publicId"
        else if name.localName = "system" then mapping base e .systemId "systemId"
        else if name.localName = "uri" then mapping base e .uriName "name"
        else if name.localName = "nextCatalog" then
          ((target base e "catalog").map CatalogItem.next).toList
        else if name.localName = "group" then items (groupBase base e) children
        else []
      else []

/-- The items of some elements in order, seen from a directory. -/
def items (base : Path) : List Element → List CatalogItem
  | [] => []
  | e :: r => itemsOf base e ++ items base r

end

theorem items_group (base : Path) (e : Element) (h : isEligible e = true)
    (hn : e.name.localName = "group") : itemsOf base e = items (groupBase base e) e.children := by
  obtain ⟨name, attributes, children, scope⟩ := e
  simp only at hn
  simp [itemsOf, h, hn]

end Items

/-- A catalog that is being read, with the files read so far. -/
structure Reading where
  /-- The mappings so far. -/
  catalog : Catalog
  /-- The files read so far, oldest first. -/
  read : List Path
deriving DecidableEq

/-- The instructions of a catalog file, at its canonical path. -/
def fileItems (fs : FileSystem) (limits : Limits) (path : Path) :
    Except Error (List CatalogItem) := do
  let octets ← fs.loadEncoded limits (.path path)
  let root ← (Markup.readDocument octets).mapError fun f =>
    Error.inDocument path (.catalogMarkup f)
  if root.name.localName ≠ "catalog" then
    throw (Error.inDocument path (.catalogRoot root.name.localName))
  return items (path.parent.getD ⟨[]⟩) root.children

/-- Follows items in order; `nested` reads a further catalog. -/
def follow (nested : Path → Reading → Journal Notice Error Reading) :
    List CatalogItem → Reading → Journal Notice Error Reading
  | [], s => .done s
  | .mapping kind id target :: r, s =>
      follow nested r { s with catalog := s.catalog.insert kind id target }
  | .next path :: r, s => do
      let s ← nested path s
      follow nested r s

/-- Reads a catalog unless it was read before; `nested` reads a further catalog. -/
def visit (fs : FileSystem) (limits : Limits)
    (nested : Path → Reading → Journal Notice Error Reading) (path : Path) (s : Reading) :
    Journal Notice Error Reading := do
  let canonical ← (fs.canonicalize path).mapError fun f => Error.resource (.catalog path f)
  if s.read.contains canonical then
    Journal.note (.catalogRepeated canonical)
    return s
  let items ← fileItems fs limits canonical
  follow nested items { s with read := s.read ++ [canonical] }

/-- Reads a catalog, with catalogs nested at most `n` deep. -/
def load (fs : FileSystem) (limits : Limits) : (n : Nat) → Path → Reading →
    Journal Notice Error Reading
  | 0, _, s => .done s
  | n + 1, path, s => visit fs limits (load fs limits n) path s

/-- The catalog of a file, with all catalogs that it mentions. -/
def ofFile (fs : FileSystem) (limits : Limits) (path : Path) : Journal Notice Error Catalog := do
  let s ← load fs limits (fs.fileCount + 1) path ⟨empty, []⟩
  return s.catalog

end Catalog
end SchemaSet
