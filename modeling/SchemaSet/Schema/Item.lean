import SchemaSet.Markup.Document
import SchemaSet.Schema.Component

/-!
# What stands in a schema

The elements directly inside the root of a schema document import, include or redefine other
documents, or declare a global component.  `Schema.items` lists them; everything else is passed
over.  There is one lemma for each meaning that says which elements have it, for instance
`ofElement_eq_importing_iff`.
-/

namespace SchemaSet
namespace Schema

open Markup

/-- A global declaration as written. -/
structure Declaration where
  /-- What is declared. -/
  kind : ComponentKind
  /-- The value of the attribute `name`. -/
  name : Option String
deriving DecidableEq, Repr

/-- An element directly inside a schema. -/
inductive Item
  /-- Names of another namespace are used. -/
  | importing (uri location : Option String)
  /-- Another document belongs to this schema. -/
  | including (location : Option String)
  /-- Another document belongs to this schema, with some declarations replaced. -/
  | redefining (location : Option String) (declarations : List Declaration)
  | declaring (declaration : Declaration)
deriving DecidableEq, Repr

def Declaration.ofElement (e : Element) : Option Declaration :=
  if e.isXsd then
    (ComponentKind.ofLocalName e.name.localName).map fun k => ⟨k, e.attribute? "name"⟩
  else none

/-- The meaning of an element directly inside a schema. -/
def Item.ofElement (e : Element) : Option Item :=
  if e.isXsd then
    let location := e.attribute? "schemaLocation"
    if e.name.localName = "import" then
      some (.importing (nonEmpty (e.attribute? "namespace")) location)
    else if e.name.localName = "include" then some (.including location)
    else if e.name.localName = "redefine" then
      some (.redefining location (e.children.filterMap Declaration.ofElement))
    else (Declaration.ofElement e).map .declaring
  else none

/-- The items of a schema in document order. -/
def items (root : Element) : List Item := root.children.filterMap Item.ofElement

/-- The target namespace that a schema declares, unless it is empty. -/
def declaredNamespace (root : Element) : Option String :=
  nonEmpty (root.attribute? "targetNamespace")

/-- Whether a schema that takes part in a namespace adopts it, since it declares none. -/
def adopts (root : Element) (uri : Option String) : Bool :=
  (declaredNamespace root).isNone && uri.isSome

/-- The namespace of the names without one in a schema that takes part in a namespace. -/
def adopted (root : Element) (uri : Option String) : Option String :=
  if adopts root uri then uri else none

def isSchema (root : Element) : Bool := root.name.localName == "schema" && root.isXsd

section Meanings

variable {e : Element} {d : Declaration}

theorem declaration_eq_some_iff :
    Declaration.ofElement e = some d ↔
      e.isXsd = true ∧ ComponentKind.ofLocalName e.name.localName = some d.kind ∧
        e.attribute? "name" = d.name := by
  obtain ⟨kind, name⟩ := d
  unfold Declaration.ofElement
  cases e.isXsd with
  | false => simp
  | true =>
      simp only [if_true, Option.map_eq_some_iff, Declaration.mk.injEq, true_and]
      constructor
      · rintro ⟨_, hk, rfl, hn⟩
        exact ⟨hk, hn⟩
      · rintro ⟨hk, hn⟩
        exact ⟨kind, hk, rfl, hn⟩

/-- The elements that refer to other documents are no declarations. -/
theorem declaration_eq_none {localName : String} (h : e.name.localName = localName)
    (hl : ComponentKind.ofLocalName localName = none) :
    Declaration.ofElement e = none := by
  simp [Declaration.ofElement, h, hl]

theorem ofElement_eq_importing_iff {uri location : Option String} :
    Item.ofElement e = some (.importing uri location) ↔
      e.isXsd = true ∧ e.name.localName = "import" ∧
        nonEmpty (e.attribute? "namespace") = uri ∧ e.attribute? "schemaLocation" = location := by
  unfold Item.ofElement
  split
  · rename_i hx
    simp only
    split
    · simp [*]
    · simp only [*, false_and, and_false, iff_false]
      split
      · simp
      · split <;> simp
  · simp [*]

theorem ofElement_eq_redefining_iff {location : Option String} {ds : List Declaration} :
    Item.ofElement e = some (.redefining location ds) ↔
      e.isXsd = true ∧ e.name.localName = "redefine" ∧
        e.attribute? "schemaLocation" = location ∧
        e.children.filterMap Declaration.ofElement = ds := by
  unfold Item.ofElement
  split
  · simp only
    split
    · simp [*]
    · split
      · simp [*]
      · split
        · simp [*]
        · simp [*]
  · simp [*]

theorem ofElement_eq_declaring_iff :
    Item.ofElement e = some (.declaring d) ↔ Declaration.ofElement e = some d := by
  unfold Item.ofElement
  split
  · simp only
    split
    · rename_i h
      simp [declaration_eq_none h (by decide)]
    · split
      · rename_i h
        simp [declaration_eq_none h (by decide)]
      · split
        · rename_i h
          simp [declaration_eq_none h (by decide)]
        · simp
  · rename_i h
    simp [Declaration.ofElement, h]

end Meanings

end Schema
end SchemaSet
