/-!
# Limits

Five numbers are bounded: the size of a document, the nesting of references, and the numbers of
documents, of index entries and of components.  A number that exceeds its bound is refused; a number
that equals it is not.
-/

namespace SchemaSet

/-- Bounds on what building an index or compiling a schema set may take. -/
structure Limits where
  maxDocumentSize : Nat
  /-- The deepest nesting of references below the entry document. -/
  maxSchemaDepth : Nat
  /-- The greatest number of documents of a schema set. -/
  maxDocuments : Nat
  maxIndexEntries : Nat
  /-- The greatest number of global components of a schema set. -/
  maxSchemaComponents : Nat
deriving DecidableEq, Repr

namespace Limits

/-- The bounds in force unless others are given. -/
def standard : Limits := ⟨100 * 1024 * 1024, 100, 10000, 10000, 100000⟩

/-- Tighter bounds. -/
def strict : Limits := ⟨10 * 1024 * 1024, 20, 500, 500, 10000⟩

/-- Wider bounds. -/
def permissive : Limits := ⟨1024 * 1024 * 1024, 1000, 1000000, 1000000, 1000000⟩

instance : Inhabited Limits := ⟨standard⟩

/-- What is counted. -/
inductive Measure
  | documentSize
  /-- The nesting of references. -/
  | schemaDepth
  /-- The documents of a schema set. -/
  | documents
  | indexEntries
  | schemaComponents
deriving DecidableEq, Repr

def bound (l : Limits) : Measure → Nat
  | .documentSize => l.maxDocumentSize
  | .schemaDepth => l.maxSchemaDepth
  | .documents => l.maxDocuments
  | .indexEntries => l.maxIndexEntries
  | .schemaComponents => l.maxSchemaComponents

/-- Why a bound stopped the work. -/
inductive Excess
  | over (measure : Measure) (found bound : Nat)
  /-- A reason in the words of the caller. -/
  | stated (text : String)
deriving DecidableEq, Repr

def Excess.message : Excess → String
  | .over .documentSize n m =>
      "document size " ++ toString n ++ " bytes exceeds maximum " ++ toString m ++ " bytes"
  | .over .schemaDepth n m => "schema depth " ++ toString n ++ " exceeds maximum " ++ toString m
  | .over .documents n m => "document count " ++ toString n ++ " exceeds maximum " ++ toString m
  | .over .indexEntries n m =>
      "index entry count " ++ toString n ++ " exceeds maximum " ++ toString m
  | .over .schemaComponents n m =>
      "schema component count " ++ toString n ++ " exceeds maximum " ++ toString m
  | .stated s => s

/-- Refuses a number that exceeds its bound. -/
def check (l : Limits) (what : Measure) (n : Nat) : Except Excess Unit :=
  if l.bound what < n then .error (.over what n (l.bound what)) else .ok ()

theorem check_ok_iff (l : Limits) (what : Measure) (n : Nat) :
    l.check what n = .ok () ↔ n ≤ l.bound what := by
  unfold check
  split <;> simp <;> omega

end Limits
end SchemaSet
