import SchemaSet.FileSystem
import SchemaSet.Limits
import SchemaSet.Markup.Fault
import SchemaSet.Schema.Component
import SchemaSet.Url.Basic

/-!
# Errors

Building an index and compiling a schema set stop at the first error.  An error is the cause that
was met; `Error.message` is its wording.

The last section is about computations that may fail in general: by `bind_eq_ok_iff` one succeeds
when its parts do, and by `mapError_eq_ok_iff` it does not matter in which words its errors are
told.
-/

namespace SchemaSet

/-- Why a directory cannot be indexed. -/
inductive ConfigurationFault
  /-- The directory does not exist. -/
  | missingDirectory (path : Path)
  /-- The path leads to something else. -/
  | notADirectory (path : Path)
  | noDocuments (directory : Path) (extensions : List String)
deriving DecidableEq, Repr

def ConfigurationFault.message : ConfigurationFault → String
  | .missingDirectory p => "index directory '" ++ p.display ++ "' does not exist"
  | .notADirectory p => "'" ++ p.display ++ "' is not a directory"
  | .noDocuments d es =>
      "no eligible documents (" ++ String.intercalate ", " es ++ ") in '" ++ d.display ++ "'"

/-- Why a document is no schema or no catalog. -/
inductive DocumentFault
  /-- The markup cannot be read. -/
  | markup (fault : Markup.Fault)
  | catalogMarkup (fault : Markup.Fault)
  | catalogRoot (localName : String)
  | schemaRoot (name : QName)
  | importedNamespace (declared expected : Option String)
  | includedNamespace (declared : String) (expected : Option String)
  | ownNamespace (uri : Option String)
  /-- An include or a redefine does not tell where its document is. -/
  | missingLocation (element : String)
  /-- A global declaration has no name. -/
  | missingName (kind : ComponentKind)
  | badName (fault : Name.Fault)
  | declaredTwice (kind : ComponentKind) (name : QName)
  /-- A reason in the words of the caller. -/
  | stated (text : String)
deriving DecidableEq, Repr

/-- The heading of faults in names. -/
def nameHeading : String := "name error: "

/-- The heading of faults in markup. -/
def markupHeading : String := "XML error: "

def DocumentFault.message : DocumentFault → String
  | .markup f => f.message
  | .catalogMarkup f => markupHeading ++ f.message
  | .catalogRoot n => "Expected catalog root element, got " ++ n
  | .schemaRoot q => "Expected xs:schema root element, got " ++ q.display
  | .importedNamespace d e =>
      "imported document declares namespace '" ++ d.getD "" ++ "', expected '" ++ e.getD "" ++ "'"
  | .includedNamespace d e =>
      "Included schema has different targetNamespace '" ++ d ++ "', expected '" ++
        e.getD "(none)" ++ "'"
  | .ownNamespace u =>
      "xs:import cannot import the schema's own targetNamespace: " ++ Text.quotedOption u
  | .missingLocation n => "xs:" ++ n ++ " missing schemaLocation attribute"
  | .missingName k => "global xs:" ++ k.name ++ " without a name"
  | .badName f => nameHeading ++ f.message
  | .declaredTwice k q => "duplicate global xs:" ++ k.name ++ " '" ++ q.display ++ "'"
  | .stated s => s

/-- What is wrong with a document, and which document it is. -/
structure DocumentError where
  /-- What is wrong. -/
  fault : DocumentFault
  /-- The document. -/
  location : Option String
deriving DecidableEq, Repr

def DocumentError.message (e : DocumentError) : String :=
  match e.location with
  | some l => e.fault.message ++ "\n\nLocation: " ++ l
  | none => e.fault.message

/-- The kind of an inconsistency. -/
inductive ViolationKind
  /-- A document declares another namespace than the one it was resolved for. -/
  | namespaceMismatch
  /-- Two documents declare one component. -/
  | duplicateComponent
  /-- No document declares a component that is referred to. -/
  | danglingReference
  | unboundLabel
deriving DecidableEq, Repr

def ViolationKind.heading : ViolationKind → String
  | .namespaceMismatch => "namespace mismatch"
  | .duplicateComponent => "duplicate component"
  | .danglingReference => "dangling reference"
  | .unboundLabel => "unbound prefix"

/-- How documents contradict each other. -/
inductive Inconsistency
  /-- A document declares another namespace than the one it was resolved for. -/
  | namespaceMismatch (declared expected : Option String)
  /-- A component was declared before by another document. -/
  | duplicateComponent (kind : ComponentKind) (name : QName) (first : Path)
  /-- No document declares a component that is referred to. -/
  | danglingReference (space : SymbolSpace) (name : QName)
  | unboundLabel (unbound : Scope.Unbound) (key value : String)
  /-- A reason in the words of the caller. -/
  | stated (kind : ViolationKind) (text : String)
deriving DecidableEq, Repr

def Inconsistency.kind : Inconsistency → ViolationKind
  | .namespaceMismatch _ _ => .namespaceMismatch
  | .duplicateComponent _ _ _ => .duplicateComponent
  | .danglingReference _ _ => .danglingReference
  | .unboundLabel _ _ _ => .unboundLabel
  | .stated k _ => k

def Inconsistency.message : Inconsistency → String
  | .namespaceMismatch d e => (DocumentFault.importedNamespace d e).message
  | .duplicateComponent k q p =>
      k.name ++ " '" ++ q.display ++ "' already declared in " ++ p.display
  | .danglingReference s q => "no " ++ s.title ++ " component named " ++ q.display
  | .unboundLabel u a v =>
      Markup.namespaceHeading ++ u.message ++ " in " ++ a ++ "=\"" ++ v ++ "\""
  | .stated _ s => s

/-- An inconsistency, and the document in which it shows. -/
structure Violation where
  /-- How documents contradict each other. -/
  inconsistency : Inconsistency
  document : Option Path
deriving DecidableEq, Repr

def Violation.message (v : Violation) : String :=
  let text := v.inconsistency.kind.heading ++ ": " ++ v.inconsistency.message
  match v.document with
  | some p => text ++ " (in " ++ p.display ++ ")"
  | none => text

/-- Why a resource cannot be had. -/
inductive ResourceFault
  | opening (path : Path) (fault : FileSystem.Fault)
  | reading (path : Path) (fault : FileSystem.Fault)
  /-- A resource is not local. -/
  | remote (url : Url)
  /-- A catalog cannot be found. -/
  | catalog (path : Path) (fault : FileSystem.Fault)
  /-- The target of an index entry cannot be found. -/
  | target (path : Path) (fault : FileSystem.Fault)
  /-- A schema document cannot be found. -/
  | schema (path : Path) (fault : FileSystem.Fault)
  /-- A `file` URL names a host. -/
  | foreignHost (text : String)
  /-- The document of an include cannot be found. -/
  | missingInclude (location : String) (base : Path)
  /-- A reason in the words of the caller. -/
  | stated (text : String)
deriving DecidableEq, Repr

def ResourceFault.message : ResourceFault → String
  | .opening p f => "Failed to open file '" ++ p.display ++ "': " ++ f.message
  | .reading p f => "Failed to read file '" ++ p.display ++ "': " ++ f.message
  | .remote u => "Remote resources are not allowed: " ++ u.display
  | .catalog p f => "Failed to read catalog '" ++ p.display ++ "': " ++ f.message
  | .target p f => "Failed to resolve '" ++ p.display ++ "': " ++ f.message
  | .schema p f => "Failed to read schema '" ++ p.display ++ "': " ++ f.message
  | .foreignHost s => "Not a local file URL: " ++ s
  | .missingInclude l b => "Included schema '" ++ l ++ "' not found from " ++ b.display
  | .stated s => s

/-- Why a name has no namespace. -/
inductive NamespaceFault
  /-- The label of the name is unbound. -/
  | unbound (unbound : Scope.Unbound)
  /-- A reason in the words of the caller. -/
  | stated (text : String)
deriving DecidableEq, Repr

def NamespaceFault.message : NamespaceFault → String
  | .unbound u => u.message
  | .stated s => s

/-- Why the work stopped. -/
inductive Error
  /-- The directory cannot be indexed. -/
  | configuration (fault : ConfigurationFault)
  /-- A document that is being indexed cannot be read. -/
  | malformedDocument (error : DocumentError)
  /-- A schema or a catalog is at fault. -/
  | document (error : DocumentError)
  /-- The documents contradict each other. -/
  | consistency (violation : Violation)
  /-- A namespace that is imported cannot be located. -/
  | unresolvedImport (uri base : String)
  /-- Two documents declare one namespace, and that is not allowed. -/
  | duplicateNamespace (uri : String) (first second : Path)
  | resource (fault : ResourceFault)
  | namespaces (fault : NamespaceFault)
  | name (fault : Name.Fault)
  | limit (excess : Limits.Excess)
  | io (fault : FileSystem.Fault)
  /-- The markup cannot be read. -/
  | markup (fault : Markup.Fault)
  | url (fault : Url.Fault)
deriving DecidableEq, Repr

namespace Error

def message : Error → String
  | .configuration f => "configuration error: " ++ f.message
  | .malformedDocument e => "malformed document: " ++ e.message
  | .document e => "parse error: " ++ e.message
  | .consistency v => "internal consistency violation: " ++ v.message
  | .unresolvedImport u b => "unresolved import of namespace '" ++ u ++ "' from " ++ b
  | .duplicateNamespace u p q =>
      "namespace '" ++ u ++ "' is declared by both " ++ p.display ++ " and " ++ q.display
  | .resource f => "resource error: " ++ f.message
  | .namespaces f => Markup.namespaceHeading ++ f.message
  | .name f => nameHeading ++ f.message
  | .limit e => "limit exceeded: " ++ e.message
  | .io f => "I/O error: " ++ f.message
  | .markup f => markupHeading ++ f.message
  | .url f => "URL error: " ++ f.message

/-- Whether the error is an inconsistency of the schema set. -/
def isViolation : Error → Bool
  | .consistency _ => true
  | _ => false

def inDocument (path : Path) (fault : DocumentFault) : Error :=
  .document ⟨fault, some path.display⟩

/-- The same error, told of a document that is being indexed. -/
def asMalformed (path : Path) : Error → Error
  | .document e => .malformedDocument ⟨e.fault, some path.display⟩
  | .malformedDocument e => .malformedDocument ⟨e.fault, some path.display⟩
  | .markup f => .malformedDocument ⟨.markup f, some path.display⟩
  | e => e

end Error
section Success

variable {ε δ α β : Type} {x : Except ε α}

theorem bind_eq_ok_iff {f : α → Except ε β} {b : β} :
    (x >>= f) = .ok b ↔ ∃ a, x = .ok a ∧ f a = .ok b := by
  cases x with
  | error e => simp [bind, Except.bind]
  | ok a => simp [bind, Except.bind]

theorem mapError_eq_ok_iff {f : ε → δ} {a : α} : x.mapError f = .ok a ↔ x = .ok a := by
  cases x with
  | error e =>
      constructor
      · intro h
        cases h
      · intro h
        cases h
  | ok a' =>
      show Except.ok a' = .ok a ↔ _
      rw [Except.ok.injEq, Except.ok.injEq]

theorem toOption_eq_some_iff {a : α} : x.toOption = some a ↔ x = .ok a := by
  cases x <;> simp [Except.toOption]

end Success

end SchemaSet
