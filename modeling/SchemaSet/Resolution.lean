import SchemaSet.Path
import SchemaSet.Name.Qualified
import SchemaSet.Text.Quoted

/-!
# Requests and resolutions

A request is made for a reference from one document to another.  It has a namespace, a public
identifier, the document that contains the reference, and the location written there.

A non-empty namespace is the key of a request; without one, a non-empty public identifier is;
without either there is nothing to look up (`key_eq_none_iff`).  A resolver is a function, so equal
requests have equal resolutions.
-/

namespace SchemaSet

/-- A reference that is to be located. -/
structure Request where
  /-- The namespace of the document referred to. -/
  uri : Option String
  /-- The public identifier of the document referred to. -/
  publicId : Option String
  /-- The system identifier of the document that contains the reference. -/
  base : Option String
  /-- The location as written in the reference. -/
  literal : Option String
deriving DecidableEq, Repr

/-- What an entry is looked up by. -/
inductive Key
  /-- A namespace. -/
  | uri (uri : String)
  | publicId (id : String)
deriving DecidableEq, Repr

namespace Key

/-- The text under which an entry is found. -/
def text : Key → String
  | .uri u => u
  | .publicId i => i

/-- The key with a word for its kind. -/
def display : Key → String
  | .uri u => "namespace '" ++ u ++ "'"
  | .publicId i => "public id '" ++ i ++ "'"

end Key

namespace Request

/-- The request that asks for nothing. -/
def empty : Request := ⟨none, none, none, none⟩

/-- The key of a request: its non-empty namespace, else its non-empty public identifier. -/
def key (r : Request) : Option Key :=
  ((nonEmpty r.uri).map .uri).or ((nonEmpty r.publicId).map .publicId)

/-- All parts of a request. -/
def display (r : Request) : String :=
  "namespace=" ++ Text.quotedOption r.uri ++ " publicId=" ++ Text.quotedOption r.publicId ++
    " base=" ++ Text.quotedOption r.base ++ " literal=" ++ Text.quotedOption r.literal

theorem key_eq_none_iff (r : Request) :
    r.key = none ↔ nonEmpty r.uri = none ∧ nonEmpty r.publicId = none := by
  simp [key]

end Request

/-- A document that was found. -/
structure ResolvedEntity where
  /-- What it was looked up by. -/
  key : Key
  /-- Where it is read from. -/
  systemId : Path
  /-- The public identifier of the request. -/
  publicId : Option String
  base : Option String
deriving DecidableEq, Repr

/-- The answer to a request. -/
inductive Resolution
  /-- The request has no key. -/
  | skip
  /-- The document was found. -/
  | resolved (entity : ResolvedEntity)
  /-- Nothing is known under the key. -/
  | unresolved (key : Key)
deriving DecidableEq, Repr

namespace Resolution

/-- Whether the request had no key. -/
def isSkip : Resolution → Bool
  | .skip => true
  | _ => false

/-- Whether the document was found. -/
def isResolved : Resolution → Bool
  | .resolved _ => true
  | _ => false

/-- Whether nothing is known under the key. -/
def isUnresolved : Resolution → Bool
  | .unresolved _ => true
  | _ => false

/-- Where the document is read from, if it was found. -/
def systemId : Resolution → Option Path
  | .resolved e => some e.systemId
  | _ => none

/-- The answer of a resolver that knows nothing under the key of a request. -/
def miss (r : Request) : Resolution :=
  match r.key with
  | some k => .unresolved k
  | none => .skip

/-- The answer of a resolver that knows a path under the key of a request. -/
def hit (r : Request) (key : Key) (path : Path) : Resolution :=
  .resolved ⟨key, path, r.publicId, r.base⟩

end Resolution

/-- A function from requests to answers. -/
abbrev Resolver := Request → Resolution

/-- A resolver that knows a path for some keys. -/
def Resolver.ofLookup (lookup : String → Option Path) : Resolver := fun r =>
  match r.key with
  | none => .skip
  | some k =>
      match lookup k.text with
      | some p => .hit r k p
      | none => .unresolved k

end SchemaSet
