import SchemaSet.OrderedMap
import SchemaSet.Name.Lexical
import SchemaSet.Name.Qualified

/-!
# Namespace bindings in scope

The namespace declarations of the start tags from the root down to an element build its `Scope`.  It
maps labels to namespaces and may hold a default namespace; the empty default undeclares an
inherited one.

A declaration of the element itself shadows one of its ancestors (`lookup_inherit`), and a name
resolves unless its label is unbound (`resolve_ok_iff`).
-/

namespace SchemaSet

/-- The namespace bindings in scope at an element. -/
structure Scope where
  /-- The namespace that each declared label stands for. -/
  labels : OrderedMap String String
  /-- The default namespace; the empty one undeclares an inherited one. -/
  fallback : Option String
deriving DecidableEq

namespace Scope

/-- The scope without declarations. -/
def empty : Scope := ⟨∅, none⟩

instance : EmptyCollection Scope := ⟨empty⟩

instance : Inhabited Scope := ⟨empty⟩

/-- Binds a label to a namespace. -/
def bindLabel (s : Scope) (label uri : String) : Scope :=
  { s with labels := s.labels.insert label uri }

/-- Sets the default namespace. -/
def bindDefault (s : Scope) (uri : String) : Scope := { s with fallback := some uri }

/-- The namespace of a label; `xml` has a fixed one. -/
def lookup (s : Scope) (label : String) : Option String :=
  if label = "xml" then some Vocabulary.xml else s.labels.get? label

/-- The default namespace, unless there is none or it is undeclared. -/
def default? (s : Scope) : Option String := nonEmpty s.fallback

/-- The scope of an element with declarations `own` inside scope `s`. -/
def inherit (s own : Scope) : Scope where
  labels := s.labels.insertAll own.labels.entries
  fallback := own.fallback.or s.fallback

/-- A label without a namespace. -/
structure Unbound where
  /-- The label that no start tag declares. -/
  label : String
deriving DecidableEq, Repr

def Unbound.message (u : Unbound) : String := "Unknown prefix: " ++ u.label

/-- The expanded name of a name; an unlabelled name takes the default namespace. -/
def resolve (s : Scope) (name : String) : Except Unbound QName :=
  match Name.splitColon name with
  | some (label, rest) =>
      match s.lookup label with
      | some uri => .ok (QName.of (some uri) rest)
      | none => .error ⟨label⟩
  | none => .ok (QName.of s.default? name)

/-- The declared labels with their namespaces, sorted by label. -/
def bindings (s : Scope) : List (String × String) :=
  s.labels.entries.mergeSort fun p q => p.1 ≤ q.1

theorem lookup_inherit (s own : Scope) (label : String) (h : label ≠ "xml") :
    (s.inherit own).lookup label = (own.lookup label).or (s.lookup label) := by
  simp [lookup, inherit, h, OrderedMap.get?_insertAll, OrderedMap.find?_reverse_entries]

theorem default?_inherit (s own : Scope) :
    (s.inherit own).default? = match own.fallback with
      | some _ => own.default?
      | none => s.default? := by
  cases h : own.fallback <;> simp [default?, inherit, h]

theorem resolve_ok_iff (s : Scope) (name : String) :
    (∃ q, s.resolve name = .ok q) ↔
      ∀ label rest, Name.splitColon name = some (label, rest) → (s.lookup label).isSome := by
  unfold resolve
  split
  · rename_i label rest h
    split <;> simp_all
  · simp_all

end Scope
end SchemaSet
