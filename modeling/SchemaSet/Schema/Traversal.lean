import SchemaSet.Journal
import SchemaSet.Loading
import SchemaSet.Notice
import SchemaSet.Schema.Reference
import SchemaSet.Schema.Table

/-!
# Following the references of a schema set

A node is a document with the namespace that it takes part in: the one it declares, or the one of
the document that includes it.  From the entry document, references are followed depth first and in
document order, and a node that was opened before is passed over.

The journal of a traversal holds what was asked, opened, found, declared and referred to, in that
order.  References between components are only noted, and so are declarations: whether they fit
together does not change where the traversal goes.

Each nested level opens a new node, and there are at most `f * (f + 1)` nodes for `f` files, so
`Setting.budget` levels suffice whatever the limits are.
-/

namespace SchemaSet

/-- How a schema set is compiled. -/
structure CompileOptions where
  /-- Whether an import or an include that cannot be located is an error. -/
  strict : Bool
  limits : Limits
deriving DecidableEq, Repr

/-- The options in force unless others are given. -/
def CompileOptions.standard : CompileOptions := ⟨true, .standard⟩

/-- What a compilation works with. -/
structure Setting where
  files : FileSystem
  resolver : Resolver
  options : CompileOptions

/-- The document at a path in a namespace. -/
@[ext]
structure SchemaNode where
  path : Path
  /-- The namespace that the document takes part in. -/
  uri : Option String
deriving DecidableEq, Repr

/-- How the target of an import was found. -/
inductive ImportOutcome
  | resolved
  | located
  /-- Not at all, but the namespace needs no document. -/
  | builtIn
  | missing
deriving DecidableEq, Repr

def ImportOutcome.name : ImportOutcome → String
  | .resolved => "resolved"
  | .located => "located"
  | .builtIn => "builtin"
  | .missing => "missing"

/-- Whether a namespace needs no document. -/
def needsNoDocument (uri : Option String) : Bool :=
  uri == some Vocabulary.xsd || uri == some Vocabulary.xml

/-- How the target of an import was found, given whether the resolver named it. -/
def ImportOutcome.of (uri : Option String) (target : Option Path) (named : Bool) :
    ImportOutcome :=
  match target with
  | some _ => if named then .resolved else .located
  | none => if needsNoDocument uri then .builtIn else .missing

/-- An import and what became of it. -/
structure ImportRecord where
  /-- The namespace. -/
  uri : Option String
  schemaLocation : Option String
  /-- The document that was found. -/
  target : Option Path
  /-- How it was found. -/
  outcome : ImportOutcome
deriving DecidableEq, Repr

/-- Why a document is opened. -/
inductive Reason
  | entry
  | imported (uri : Option String) (resolved : Bool)
  /-- It is included by a document in a namespace. -/
  | included (uri : Option String)
deriving DecidableEq, Repr

/-- The namespace that the document is to take part in, if that is known before it is read. -/
def Reason.expected : Reason → Option (Option String)
  | .entry => none
  | .imported uri _ => some uri
  | .included uri => some uri

/-- What happens during a traversal. -/
inductive Step
  | asked (request : Request) (resolution : Resolution)
  | opened (node : SchemaNode) (chameleon : Bool)
  | imported (node : SchemaNode) (record : ImportRecord)
  | included (node : SchemaNode) (target : Path)
  | declared (component : Component)
  | referred (reference : Schema.Reference)
  /-- Something worth telling. -/
  | told (notice : Notice)
deriving DecidableEq, Repr

/-- What the notices of a step are; `lookup` tells those of a request. -/
def Step.notices (lookup : Request → List Notice) : Step → List Notice
  | .asked r _ => lookup r
  | .told n => [n]
  | _ => []

/-- A part of a traversal: it takes the nodes opened before it and yields those opened after
it, oldest first. -/
abbrev Walk := Journal Step Error (List SchemaNode)

namespace Setting

/-- The number of levels that a traversal can have. -/
def budget (s : Setting) : Nat := s.files.fileCount * (s.files.fileCount + 1) + 1

def ask (s : Setting) (r : Request) : Journal Step Error Resolution := do
  let answer := s.resolver r
  Journal.note (.asked r answer)
  return answer

/-- The canonical path of a document. -/
def canonical (s : Setting) (p : Path) : Except Error Path :=
  (s.files.canonicalize p).mapError fun f => .resource (.schema p f)

/-- The root of the schema document at a canonical path. -/
def readRoot (s : Setting) (p : Path) : Except Error Markup.Element := do
  let octets ← s.files.loadEncoded s.options.limits (.path p)
  let root ← (Markup.readDocument octets).mapError fun f =>
    Error.inDocument p (.markup f)
  if Schema.isSchema root then return root
  else throw (Error.inDocument p (.schemaRoot root.name))

/-- The namespace that a document takes part in, given the one that it declares. -/
def effective (p : Path) (reason : Reason) (declared : Option String) :
    Except Error (Option String) :=
  match reason with
  | .entry => .ok declared
  | .imported uri resolved =>
      if declared = uri then .ok declared
      else if resolved then
        .error (.consistency ⟨.namespaceMismatch declared uri, some p⟩)
      else .error (Error.inDocument p (.importedNamespace declared uri))
  | .included uri =>
      match declared with
      | none => .ok uri
      | some d =>
          if some d = uri then .ok declared
          else .error (Error.inDocument p (.includedNamespace d uri))

/-- The document that a location written in the document at `base` leads to. -/
def locateHint (s : Setting) (base : Path) (location : String) :
    Journal Step Error (Option Path) := do
  let target ← (Location.path base).join location
  match target with
  | .path p =>
      match s.files.canonicalize p with
      | .ok found => return some found
      | .error f =>
          Journal.note (.told (.hintMissing location f))
          return none
  | .url u =>
      Journal.note (.told (.remoteIgnored u))
      return none
  | .memory _ => return none

/-- The request for a reference in the document at `base`. -/
def referenceRequest (base : Path) (uri location : Option String) : Request :=
  ⟨uri, none, some (Location.path base).systemId, location⟩

/-- The document that a location leads to, if one is written. -/
def locateWritten (s : Setting) (base : Path) : Option String →
    Journal Step Error (Option Path)
  | some l => s.locateHint base l
  | none => return none

/-- Finds the target of a reference in the document at `base`, and tells whether the resolver
named it. -/
def find (s : Setting) (base : Path) (uri location : Option String) :
    Journal Step Error (Option Path × Bool) := do
  let answer ← s.ask (referenceRequest base uri location)
  match answer with
  | .resolved e =>
      let target ← s.canonical e.systemId
      return (some target, true)
  | _ =>
      let target ← s.locateWritten base location
      return (target, false)

/-- Follows an import of a node; `nested` opens a document. -/
def followImport (s : Setting) (nested : Path → Reason → Nat → List SchemaNode → Walk)
    (node : SchemaNode) (depth : Nat) (seen : List SchemaNode) (uri location : Option String) :
    Walk := do
  if uri = node.uri then throw (Error.inDocument node.path (.ownNamespace uri))
  let (target, named) ← s.find node.path uri location
  let outcome := ImportOutcome.of uri target named
  Journal.note (.imported node ⟨uri, location, target, outcome⟩)
  match target with
  | some p => nested p (.imported uri named) (depth + 1) seen
  | none =>
      if outcome = .builtIn then
        Journal.note (.told (.builtInImported uri node.path))
        return seen
      else if s.options.strict then
        throw (Error.unresolvedImport (uri.getD "") node.path.display)
      else
        Journal.note (.told (.importMissing uri node.path))
        return seen

/-- Follows an include or a redefine of a node, an element with local name `element`. -/
def followInclude (s : Setting) (nested : Path → Reason → Nat → List SchemaNode → Walk)
    (node : SchemaNode) (depth : Nat) (seen : List SchemaNode) (element : String)
    (location : Option String) : Walk := do
  match location with
  | none => throw (Error.inDocument node.path (.missingLocation element))
  | some l =>
      let (target, _) ← s.find node.path none (some l)
      match target with
      | some p =>
          Journal.note (.included node p)
          nested p (.included node.uri) (depth + 1) seen
      | none =>
          if s.options.strict then throw (Error.resource (.missingInclude l node.path))
          else
            Journal.note (.told (.includeMissing l node.path))
            return seen

/-- The component that a declaration in a node makes. -/
def component (node : SchemaNode) (redefined : Bool) (d : Schema.Declaration) :
    Except Error Component :=
  match d.name with
  | none => .error (Error.inDocument node.path (.missingName d.kind))
  | some n => do
      (Name.validate n).mapError fun f => Error.inDocument node.path (.badName f)
      return ⟨d.kind, QName.of node.uri n, node.path, redefined⟩

/-- Notes some declarations of a node in order. -/
def declareAll (node : SchemaNode) (redefined : Bool) :
    List Schema.Declaration → Journal Step Error Unit
  | [] => .done ()
  | d :: r => do
      let c ← component node redefined d
      Journal.note (.declared c)
      declareAll node redefined r

/-- Follows an item of a node; `nested` opens a document. -/
def followItem (s : Setting) (nested : Path → Reason → Nat → List SchemaNode → Walk)
    (node : SchemaNode) (depth : Nat) (seen : List SchemaNode) : Schema.Item → Walk
  | .importing uri location => s.followImport nested node depth seen uri location
  | .including location => s.followInclude nested node depth seen "include" location
  | .redefining location declarations => do
      let seen ← s.followInclude nested node depth seen "redefine" location
      declareAll node true declarations
      return seen
  | .declaring d => do
      declareAll node false [d]
      return seen

/-- Follows some items of a node in order; `nested` opens a document. -/
def followItems (s : Setting) (nested : Path → Reason → Nat → List SchemaNode → Walk)
    (node : SchemaNode) (depth : Nat) : List SchemaNode → List Schema.Item → Walk
  | seen, [] => .done seen
  | seen, i :: r => do
      let seen ← s.followItem nested node depth seen i
      s.followItems nested node depth seen r

/-- Notes the references that some names of a document make. -/
def referAll (document : Path) (adopted : Option String) :
    List Schema.Token → Journal Step Error Unit
  | [] => .done ()
  | t :: r => do
      let reference ← t.resolve document adopted
      Journal.note (.referred reference)
      referAll document adopted r

/-- Opens a node with a given root, and what it leads to; `nested` opens a document. -/
def enter (s : Setting) (nested : Path → Reason → Nat → List SchemaNode → Walk)
    (node : SchemaNode) (root : Markup.Element) (depth : Nat) (seen : List SchemaNode) : Walk := do
  let seen := seen ++ [node]
  (s.options.limits.check .documents seen.length).mapError Error.limit
  let chameleon := Schema.adopts root node.uri
  Journal.note (.opened node chameleon)
  Journal.note (.told (.documentOpened node.path node.uri chameleon depth))
  let seen ← s.followItems nested node depth seen (Schema.items root)
  referAll node.path (Schema.adopted root node.uri) (Schema.tokens root)
  return seen

/-- Opens a document unless its node was opened before; `nested` opens a further one. -/
def visit (s : Setting) (nested : Path → Reason → Nat → List SchemaNode → Walk) (p : Path)
    (reason : Reason) (depth : Nat) (seen : List SchemaNode) : Walk := do
  if reason.expected.any (fun uri => seen.contains ⟨p, uri⟩) then return seen
  (s.options.limits.check .schemaDepth depth).mapError Error.limit
  let root ← s.readRoot p
  let uri ← effective p reason (Schema.declaredNamespace root)
  if seen.contains ⟨p, uri⟩ then return seen
  s.enter nested ⟨p, uri⟩ root depth seen

/-- Opens a document, with at most `n` levels of documents. -/
def load (s : Setting) : (n : Nat) → Path → Reason → Nat → List SchemaNode → Walk
  | 0, _, _, _, seen => .done seen
  | n + 1, p, reason, depth, seen => s.visit (s.load n) p reason depth seen

/-- Opens the entry document and all that it leads to. -/
def traverse (s : Setting) (entry : Path) : Walk := s.load s.budget entry .entry 0 []

theorem effective_entry (p : Path) (declared : Option String) :
    effective p .entry declared = .ok declared := rfl

end Setting
end SchemaSet
