import SchemaSet.Name.Qualified

/-!
# Kinds of global components

Seven kinds of declarations may stand directly in a schema; they are named in six symbol spaces,
because both kinds of type definitions share one.
-/

namespace SchemaSet

/-- A set of names that must differ. -/
inductive SymbolSpace
  | element
  | attribute
  /-- Simple and complex type definitions. -/
  | type
  /-- Model group definitions. -/
  | group
  | attributeGroup
  | notations
deriving DecidableEq, Repr

/-- The capitalised name of a symbol space. -/
def SymbolSpace.title : SymbolSpace → String
  | .element => "Element"
  | .attribute => "Attribute"
  | .type => "Type"
  | .group => "Group"
  | .attributeGroup => "AttributeGroup"
  | .notations => "Notation"

/-- The name of a symbol space in data. -/
def SymbolSpace.name : SymbolSpace → String
  | .element => "element"
  | .attribute => "attribute"
  | .type => "type"
  | .group => "group"
  | .attributeGroup => "attributeGroup"
  | .notations => "notation"

def SymbolSpace.all : List SymbolSpace :=
  [.element, .attribute, .type, .group, .attributeGroup, .notations]

/-- The kind of a global component. -/
inductive ComponentKind
  | element
  | attribute
  | complexType
  | simpleType
  /-- A model group definition. -/
  | group
  | attributeGroup
  | notations
deriving DecidableEq, Repr

namespace ComponentKind

/-- The local name of the elements that declare a kind. -/
def name : ComponentKind → String
  | .element => "element"
  | .attribute => "attribute"
  | .complexType => "complexType"
  | .simpleType => "simpleType"
  | .group => "group"
  | .attributeGroup => "attributeGroup"
  | .notations => "notation"

def all : List ComponentKind :=
  [.element, .attribute, .complexType, .simpleType, .group, .attributeGroup, .notations]

/-- The kind that elements with a local name declare. -/
def ofLocalName (localName : String) : Option ComponentKind :=
  all.find? (·.name == localName)

/-- The symbol space in which a kind is named. -/
def space : ComponentKind → SymbolSpace
  | .element => .element
  | .attribute => .attribute
  | .complexType => .type
  | .simpleType => .type
  | .group => .group
  | .attributeGroup => .attributeGroup
  | .notations => .notations

end ComponentKind
end SchemaSet
