/-!
# Expanded names

An element, an attribute or a component is named by a local name in a namespace or in none.  A name
built by `QName.of` never holds the empty namespace.
-/

namespace SchemaSet

namespace Vocabulary

/-- The namespace of the schema language. -/
def xsd : String := "http://www.w3.org/2001/XMLSchema"

/-- The namespace that the label `xml` stands for in every document. -/
def xml : String := "http://www.w3.org/XML/1998/namespace"

/-- The namespace of catalogs. -/
def catalog : String := "urn:oasis:names:tc:entity:xmlns:xml:catalog"

end Vocabulary

/-- A local name in a namespace, or in none. -/
structure QName where
  /-- The namespace; absent for names in no namespace. -/
  uri : Option String
  localName : String
deriving DecidableEq, Repr

/-- A namespace that is given and not empty. -/
def nonEmpty (uri : Option String) : Option String := uri.filter (fun u => !u.isEmpty)

namespace QName

/-- A name in a namespace, where the empty namespace means none. -/
def of (uri : Option String) (localName : String) : QName := ⟨nonEmpty uri, localName⟩

def bare (localName : String) : QName := ⟨none, localName⟩

/-- Whether the name belongs to the schema language. -/
def isXsd (q : QName) : Bool := q.uri == some Vocabulary.xsd

/-- The name with its namespace between braces. -/
def display (q : QName) : String :=
  match q.uri with
  | some u => "\x7b" ++ u ++ "\x7d" ++ q.localName
  | none => q.localName

/-- Names are ordered by namespace, none first, and then by local name. -/
def le (p q : QName) : Bool :=
  match p.uri, q.uri with
  | none, some _ => true
  | some _, none => false
  | none, none => p.localName ≤ q.localName
  | some u, some v => u < v || (u == v && p.localName ≤ q.localName)

theorem uri_of_ne_empty (uri : Option String) (localName : String) :
    (of uri localName).uri ≠ some "" := by
  intro h
  simp [of, nonEmpty, Option.filter_eq_some_iff] at h

end QName
end SchemaSet
