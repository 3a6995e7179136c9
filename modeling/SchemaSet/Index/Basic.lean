import SchemaSet.Index.Policy

/-!
# Indexes

An index is the directory that was scanned and the entries by key.  A request is answered from the
entry under its key, and its other parts are passed on; only a request without a key is skipped
(`resolve_eq_skip_iff`).
-/

namespace SchemaSet

/-- The documents of a directory by namespace, with further identifiers. -/
structure Index where
  directory : Path
  entries : Entries
deriving DecidableEq

namespace Index

/-- The index of documents whose namespaces are already known. -/
def ofDocuments (directory : Path) (documents : List (String × Path))
    (policy : DuplicatePolicy) : Journal Notice Error Index := do
  let entries ← Entries.claimAll policy ∅ (documents.map fun d => ⟨d.1, d.2, .document⟩)
  return ⟨directory, entries⟩

def entry? (i : Index) (key : String) : Option IndexEntry := i.entries.get? key

def get? (i : Index) (key : String) : Option Path := (i.entry? key).map IndexEntry.path

def contains (i : Index) (key : String) : Bool := (i.entry? key).isSome

/-- The number of entries. -/
def size (i : Index) : Nat := i.entries.size

/-- Whether there are no entries. -/
def isEmpty (i : Index) : Bool := i.size == 0

/-- The keys in the order of first claim. -/
def namespaces (i : Index) : List String := i.entries.keys

/-- The entries that come from documents, with their keys. -/
def documents (i : Index) : List (String × Path) :=
  (i.entries.entries.filter fun e => e.2.origin = .document).map fun e => (e.1, e.2.path)

/-- Answers requests from the index. -/
def resolver (i : Index) : Resolver := Resolver.ofLookup i.get?

/-- What answering a request tells. -/
def lookupNotice (i : Index) (r : Request) : Notice :=
  match i.resolver r with
  | .skip => .lookupSkipped r
  | .resolved e => .lookupResolved e.key e.systemId
  | .unresolved k => .lookupMissed k

theorem resolve_eq_skip_iff (i : Index) (r : Request) :
    i.resolver r = .skip ↔ r.key = none := by
  unfold resolver Resolver.ofLookup
  split
  · simp_all
  · split <;> simp_all [Resolution.hit]

end Index
end SchemaSet
