import SchemaSet.Error
import SchemaSet.Schema.Item

/-!
# References to components

Eleven pairs of an element and an attribute refer to components; a value may hold several names with
white space between them.  Annotations and elements of other languages are passed over with all
inside them.
-/

namespace SchemaSet
namespace Schema

open Markup

/-- An attribute that refers to components. -/
structure ReferenceRow where
  /-- The local name of the element. -/
  owner : String
  /-- The name of the attribute. -/
  key : String
  space : SymbolSpace
deriving DecidableEq, Repr

/-- All attributes that refer to components. -/
def referenceRows : List ReferenceRow :=
  [⟨"element", "type", .type⟩, ⟨"element", "ref", .element⟩,
    ⟨"element", "substitutionGroup", .element⟩, ⟨"attribute", "type", .type⟩,
    ⟨"attribute", "ref", .attribute⟩, ⟨"restriction", "base", .type⟩,
    ⟨"extension", "base", .type⟩, ⟨"list", "itemType", .type⟩, ⟨"union", "memberTypes", .type⟩,
    ⟨"group", "ref", .group⟩, ⟨"attributeGroup", "ref", .attributeGroup⟩]

/-- A name in a value that refers to components. -/
structure Token where
  space : SymbolSpace
  /-- The name of the attribute. -/
  key : String
  value : String
  /-- The name. -/
  text : String
  scope : Scope
deriving DecidableEq

/-- The names of one row in an element. -/
def tokensOfRow (e : Element) (row : ReferenceRow) : List Token :=
  if e.name.localName = row.owner then
    match e.attribute? row.key with
    | some value =>
        (Text.blankWords value).map fun text => ⟨row.space, row.key, value, text, e.scope⟩
    | none => []
  else []

/-- The names in the attributes of an element, row by row. -/
def tokensOf (e : Element) : List Token := referenceRows.flatMap (tokensOfRow e)

/-- Whether an element and all inside it is passed over. -/
def isPassedOver (e : Element) : Bool :=
  !e.isXsd || e.name.localName == "annotation"

mutual

/-- An element and the elements inside it that may refer, in document order. -/
def referringOf : Element → List Element
  | ⟨name, attributes, children, scope⟩ =>
      if isPassedOver ⟨name, attributes, children, scope⟩ then []
      else ⟨name, attributes, children, scope⟩ :: referring children

/-- The elements of a list and inside them that may refer, in document order. -/
def referring : List Element → List Element
  | [] => []
  | e :: r => referringOf e ++ referring r

end

/-- All names by which a schema refers to components, in document order. -/
def tokens (root : Element) : List Token := (referring root.children).flatMap tokensOf

/-- A reference of a document to a component. -/
structure Reference where
  space : SymbolSpace
  name : QName
  document : Path
deriving DecidableEq, Repr

/-- The reference that a name makes; `adopted` is the namespace of names without one. -/
def Token.resolve (document : Path) (adopted : Option String) (t : Token) :
    Except Error Reference := do
  (Name.validateQualified t.text).mapError fun f => Error.inDocument document (.badName f)
  let name ← (t.scope.resolve t.text).mapError fun u =>
    Error.consistency ⟨.unboundLabel u t.key t.value, some document⟩
  return ⟨t.space, { name with uri := name.uri.or adopted }, document⟩

/-- Whether a name needs no declaration. -/
def isBuiltIn (name : QName) : Bool := name.isXsd || name.uri == some Vocabulary.xml

theorem tokensOf_eq_nil {e : Element} (h : ∀ row ∈ referenceRows, e.name.localName ≠ row.owner) :
    tokensOf e = [] := by
  refine List.flatMap_eq_nil_iff.2 fun row hr => ?_
  simp [tokensOfRow, h row hr]

end Schema
end SchemaSet
