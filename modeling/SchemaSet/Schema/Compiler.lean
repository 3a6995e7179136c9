import SchemaSet.Schema.Traversal

/-!
# Compiling a schema set

The entry document is resolved like any other reference and the traversal starts there.  The
declarations that it noted are registered in order, up to the first that does not fit; registering
them in two parts is registering them once (`assemble_append`).  Then every reference must land on a
component, unless its name is built in.

A compiled set consists of the documents in the order in which they were opened and the table of
components.
-/

namespace SchemaSet

/-- A document of a schema set. -/
structure SchemaDocument where
  path : Path
  /-- The namespace that the document takes part in. -/
  targetNamespace : Option String
  /-- Whether that namespace is adopted from the document that includes it. -/
  chameleon : Bool
  /-- The imports in document order. -/
  imports : List ImportRecord
  /-- The documents included and redefined, in document order. -/
  includes : List Path
deriving DecidableEq, Repr

/-- A compiled schema set. -/
structure CompiledSet where
  entry : Path
  /-- The documents in the order in which they were opened. -/
  documents : List SchemaDocument
  /-- The components. -/
  table : Table
deriving DecidableEq

namespace CompiledSet

/-- The components in the order of first declaration. -/
def components (c : CompiledSet) : List Component := c.table.components

def component? (c : CompiledSet) (space : SymbolSpace) (name : QName) : Option Component :=
  c.table.component? space name

/-- The first document at a path, however it is spelled. -/
def document? (c : CompiledSet) (p : Path) : Option SchemaDocument :=
  c.documents.find? fun d => d.path.same p

/-- The namespaces of the documents, sorted and without repeats; the empty one stands for
none. -/
def namespaces (c : CompiledSet) : List String :=
  ((c.documents.map fun d => d.targetNamespace.getD "").mergeSort fun a b => a ≤ b).eraseReps

end CompiledSet

section Views

/-- The imports of a node among some steps. -/
def importsOf (node : SchemaNode) (steps : List Step) : List ImportRecord :=
  steps.filterMap fun
    | .imported n r => if n = node then some r else none
    | _ => none

/-- The documents that a node includes among some steps. -/
def includesOf (node : SchemaNode) (steps : List Step) : List Path :=
  steps.filterMap fun
    | .included n p => if n = node then some p else none
    | _ => none

/-- The documents that some steps open. -/
def documentsOf (steps : List Step) : List SchemaDocument :=
  steps.filterMap fun
    | .opened n chameleon =>
        some ⟨n.path, n.uri, chameleon, importsOf n steps, includesOf n steps⟩
    | _ => none

/-- The references that some steps make. -/
def referencesOf (steps : List Step) : List Schema.Reference :=
  steps.filterMap fun
    | .referred r => some r
    | _ => none

/-- The requests that some steps make, with their answers. -/
def requestsOf (steps : List Step) : List (Request × Resolution) :=
  steps.filterMap fun
    | .asked r a => some (r, a)
    | _ => none

end Views

namespace Setting

/-- The table after the declarations of some steps; the steps up to the first that does not fit
are kept. -/
def assemble (limits : Limits) : Table → List Step → Journal Step Error Table
  | t, [] => .done t
  | t, step :: r => do
      Journal.note step
      match step with
      | .declared c =>
          let t ← t.register limits c
          assemble limits t r
      | _ => assemble limits t r

/-- Whether a reference lands on a component or needs none. -/
def lands (t : Table) (r : Schema.Reference) : Bool :=
  Schema.isBuiltIn r.name || (t.component? r.space r.name).isSome

/-- Refuses the first reference that lands nowhere. -/
def checkReferences (t : Table) (rs : List Schema.Reference) : Except Error Unit :=
  match rs.find? (fun r => !lands t r) with
  | some r => .error (.consistency ⟨.danglingReference r.space r.name, some r.document⟩)
  | none => .ok ()

/-- The request by which the entry document is resolved. -/
def entryRequest (entry : Path) : Request :=
  ⟨none, none, none, some (Location.path entry).systemId⟩

/-- Compiles the schema set of an entry document. -/
def compile (s : Setting) (entry : Path) : Journal Step Error CompiledSet := do
  let answer ← s.ask (entryRequest entry)
  let start ← s.canonical (answer.systemId.getD entry)
  let walk := s.traverse start
  let table ← assemble s.options.limits ∅ walk.notes
  let _ ← walk.outcome
  checkReferences table (referencesOf walk.notes)
  let documents := documentsOf walk.notes
  Journal.note (.told (.compiled start documents.length table.size))
  return ⟨start, documents, table⟩

theorem assemble_append (limits : Limits) (t : Table) (a b : List Step) :
    assemble limits t (a ++ b) = (assemble limits t a >>= fun u => assemble limits u b) := by
  induction a generalizing t with
  | nil =>
      show assemble limits t b = Journal.bind (Journal.done t) _
      rw [Journal.done_bind]
  | cons step r ih =>
      simp only [List.cons_append, assemble, bind_assoc]
      congr 1
      funext _
      cases step <;> simp only [ih, bind_assoc]

end Setting
end SchemaSet
