import SchemaSet.Proofs.CanonicalPath
import SchemaSet.Proofs.Descent
import SchemaSet.Schema.Traversal

/-!
# What opening a schema document brings up

A node is a document with the namespace that it takes part in.  `Setting.agenda` lists, in document
order, what is to be done when a node is opened: what is asked, found, declared and referred to, and
the nodes to be opened for its imports, includes and redefines.  The agenda depends on the file
system and the resolver alone, not on what was opened before.

Three conditions go with it.  `Setting.Admits` collects what must hold of a node for its opening to
succeed, `Setting.Locatable` what must hold of an item for its target to be found, and
`Setting.Enters` what must hold for one node to be opened from another.

The nodes on an agenda are those that the items of the document lead to (`mem_agenda_enter_iff`).  A
setting has at most `f * (f + 1)` nodes for `f` files, and every node that it admits is one of them
(`length_nodes`, `mem_nodes`).
-/

namespace SchemaSet

/-- Whether a step only tells something. -/
def Step.isTold : Step → Bool
  | .told _ => true
  | _ => false

namespace Schema

/-- The namespace and the location for which the target of an item is looked for. -/
def Item.inquiry? : Item → Option (Option String × Option String)
  | .importing uri location => some (uri, location)
  | .including location | .redefining location _ => location.map fun l => (none, some l)
  | .declaring _ => none

/-- Whether an item includes or redefines a document. -/
def Item.isInclusion : Item → Bool
  | .including _ => true
  | .redefining _ _ => true
  | _ => false

/-- The declarations in an item. -/
def Item.declarations : Item → List Declaration
  | .redefining _ ds => ds
  | .declaring d => [d]
  | _ => []

end Schema

namespace Setting

section Targets

variable (s : Setting)

/-- The document that a location written in the document at `base` leads to. -/
def hinted? (base : Path) (location : String) : Option Path :=
  match (Location.path base).join location with
  | .ok (.path p) => (s.files.canonicalize p).toOption
  | _ => none

/-- The document that a reference in the document at `base` leads to: the one that the resolver
names, or else the one that the written location leads to. -/
def found? (base : Path) (uri location : Option String) : Option Path :=
  match s.resolver (referenceRequest base uri location) with
  | .resolved e => (s.files.canonicalize e.systemId).toOption
  | _ => location.bind (s.hinted? base)

/-- Whether the resolver names the document that a reference leads to. -/
def isNamed (base : Path) (uri location : Option String) : Bool :=
  (s.resolver (referenceRequest base uri location)).isResolved

/-- An import in the document at `base` and what becomes of it. -/
def recordOf (base : Path) (uri location : Option String) : ImportRecord :=
  ⟨uri, location, s.found? base uri location,
    .of uri (s.found? base uri location) (s.isNamed base uri location)⟩

/-- The node that an item of a node leads to. -/
def leadsTo (n : SchemaNode) : Schema.Item → Option SchemaNode
  | .importing uri location => (s.found? n.path uri location).map fun t => ⟨t, uri⟩
  | .including (some l) => (s.found? n.path none (some l)).map fun t => ⟨t, n.uri⟩
  | .redefining (some l) _ => (s.found? n.path none (some l)).map fun t => ⟨t, n.uri⟩
  | _ => none

end Targets

section Agenda

variable (s : Setting) (n : SchemaNode)

/-- The components that some declarations in a node make. -/
def componentsOf (redefined : Bool) (ds : List Schema.Declaration) : List Component :=
  ds.filterMap fun d => (component n redefined d).toOption

/-- What asking for a reference in a node brings up. -/
def askTask (uri location : Option String) : Task SchemaNode Step :=
  let request := referenceRequest n.path uri location
  .report (.asked request (s.resolver request))

/-- What an include or a redefine in a node brings up. -/
def includeTasks : Option String → List (Task SchemaNode Step)
  | none => []
  | some l =>
      s.askTask n none (some l) ::
        match s.found? n.path none (some l) with
        | some t => [.report (.included n t), .enter ⟨t, n.uri⟩]
        | none => []

/-- What an import in a node brings up. -/
def importTasks (uri location : Option String) : List (Task SchemaNode Step) :=
  s.askTask n uri location :: .report (.imported n (s.recordOf n.path uri location)) ::
    match s.found? n.path uri location with
    | some t => [.enter ⟨t, uri⟩]
    | none => []

/-- What some declarations in a node bring up. -/
def declareTasks (redefined : Bool) (ds : List Schema.Declaration) :
    List (Task SchemaNode Step) :=
  (componentsOf n redefined ds).map fun c => .report (.declared c)

/-- What an item of a node brings up. -/
def itemTasks : Schema.Item → List (Task SchemaNode Step)
  | .importing uri location => s.importTasks n uri location
  | .including location => s.includeTasks n location
  | .redefining location ds => s.includeTasks n location ++ declareTasks n true ds
  | .declaring d => declareTasks n false [d]

/-- The components that an item of a node declares. -/
def declares (n : SchemaNode) : Schema.Item → List Component
  | .redefining _ ds => componentsOf n true ds
  | .declaring d => componentsOf n false [d]
  | _ => []

/-- What an item of a node records: an import and what it leads to. -/
def importedBy : Schema.Item → Option ImportRecord
  | .importing uri location => some (s.recordOf n.path uri location)
  | _ => none

/-- The document that an item of a node includes or redefines, if it is found. -/
def includedBy (i : Schema.Item) : Option Path :=
  if i.isInclusion then (s.leadsTo n i).map SchemaNode.path else none

/-- The references that the document of a node makes. -/
def referencesOfRoot (root : Markup.Element) : List Schema.Reference :=
  (Schema.tokens root).filterMap fun t =>
    (t.resolve n.path (Schema.adopted root n.uri)).toOption

/-- What opening a node with a given root brings up. -/
def rootTasks (root : Markup.Element) : List (Task SchemaNode Step) :=
  .report (.opened n (Schema.adopts root n.uri)) ::
    ((Schema.items root).flatMap (s.itemTasks n) ++
      (referencesOfRoot n root).map fun r => .report (.referred r))

/-- What opening a node brings up. -/
def agenda : List (Task SchemaNode Step) :=
  match s.readRoot n.path with
  | .ok root => s.rootTasks n root
  | .error _ => []

/-- What must hold for a declaration in a node to be noted. -/
def Declarable (d : Schema.Declaration) : Prop :=
  ∃ name, d.name = some name ∧ Name.isUnqualified name = true

/-- What must hold for an item of a node to be followed. -/
def Followable : Schema.Item → Prop
  | .importing uri _ => uri ≠ n.uri
  | .including location => location.isSome
  | .redefining location ds => location.isSome ∧ ∀ d ∈ ds, Declarable d
  | .declaring d => Declarable d

/-- What must hold for a node to be opened, apart from the nodes that it leads to. -/
structure Admits (root : Markup.Element) : Prop where
  /-- The path is canonical. -/
  canonical : ∃ p, s.files.canonicalize p = .ok n.path
  /-- A schema stands there. -/
  read : s.readRoot n.path = .ok root
  /-- The schema declares the namespace of the node or none. -/
  declared : Schema.declaredNamespace root = n.uri ∨ Schema.declaredNamespace root = none
  /-- Its items can be followed. -/
  items : ∀ i ∈ Schema.items root, Followable n i
  /-- Its names can be resolved. -/
  tokens : ∀ t ∈ Schema.tokens root,
    ∃ r, t.resolve n.path (Schema.adopted root n.uri) = .ok r

/-- Looking for the target of a reference does not end in an error. -/
def Findable (base : Path) (uri location : Option String) : Prop :=
  ∃ answer, (s.find base uri location).outcome = .ok answer

/-- What must hold for the target of an item of a node to be looked for and, where that is an error
otherwise, to be found. -/
def Locatable : Schema.Item → Prop
  | .importing uri location =>
      s.Findable n.path uri location ∧
        (s.options.strict = true → (s.found? n.path uri location).isSome ∨
          needsNoDocument uri = true)
  | .including location | .redefining location _ =>
      ∀ l, location = some l → s.Findable n.path none (some l) ∧
        (s.options.strict = true → (s.found? n.path none (some l)).isSome)
  | .declaring _ => True

/-- What must hold for a node to be opened by an item of another one, which lies some levels
deep. -/
structure Enters (parent : SchemaNode) (depth : Nat) (n : SchemaNode) : Prop where
  /-- The nesting is within its bound. -/
  depth : depth + 1 ≤ s.options.limits.maxSchemaDepth
  /-- Only a document that is included may declare no namespace of its own. -/
  declared : n.uri = parent.uri ∨
    ∃ root, s.readRoot n.path = .ok root ∧ Schema.declaredNamespace root = n.uri

/-- The documents of some nodes may all be opened. -/
structure Permits (nodes : List SchemaNode) : Prop where
  /-- All of them are admitted, with all that they refer to. -/
  admitted : ∀ n ∈ nodes, ∃ root, s.Admits n root ∧ ∀ i ∈ Schema.items root, s.Locatable n i
  /-- Their number is within its bound. -/
  counted : nodes.length ≤ s.options.limits.maxDocuments

end Agenda

/-- A schema declares the namespace of its node unless it adopts it. -/
theorem Admits.declared_eq_iff {s : Setting} {n : SchemaNode} {root : Markup.Element}
    (h : s.Admits n root) :
    Schema.declaredNamespace root = n.uri ↔ Schema.adopts root n.uri = false := by
  rcases h.declared with hd | hd
  · cases hu : n.uri <;> simp [Schema.adopts, hd, hu]
  · cases n.uri <;> simp [Schema.adopts, hd]

section Successors

variable {s : Setting} {n : SchemaNode} {root : Markup.Element}

theorem agenda_eq (h : s.readRoot n.path = .ok root) : s.agenda n = s.rootTasks n root := by
  simp [agenda, h]

/-- An item leads to what is found for it, in the namespace of an import or that of the node that
includes it. -/
theorem leadsTo_of_inquiry {i : Schema.Item} {uri location : Option String}
    (h : i.inquiry? = some (uri, location)) :
    s.leadsTo n i = (s.found? n.path uri location).map fun t =>
      ⟨t, if i.isInclusion then n.uri else uri⟩ := by
  rcases i with _ | (_ | l) | ⟨_ | l, ds⟩ | d <;> cases h <;> rfl

theorem leadsTo_eq_some_iff {i : Schema.Item} {m : SchemaNode} :
    s.leadsTo n i = some m ↔ ∃ uri location, i.inquiry? = some (uri, location) ∧
      s.found? n.path uri location = some m.path ∧
      m.uri = if i.isInclusion then n.uri else uri := by
  obtain ⟨path, uri⟩ := m
  rcases i with ⟨uri', location⟩ | (_ | l) | ⟨_ | l, ds⟩ | d <;>
    simp [leadsTo, Schema.Item.inquiry?, Schema.Item.isInclusion, @eq_comm _ uri]

/-- A redefine leads to the same node as an include. -/
theorem leadsTo_redefining (location : Option String) (ds : List Schema.Declaration) :
    s.leadsTo n (.redefining location ds) = s.leadsTo n (.including location) := by
  cases location <;> rfl

/-- What an item brings up, part by part: it is asked for, what it leads to is recorded and
entered, and what it declares is noted. -/
theorem itemTasks_eq (i : Schema.Item) :
    s.itemTasks n i =
      (i.inquiry?.toList.map fun q => s.askTask n q.1 q.2) ++
        ((s.importedBy n i).toList.map fun r => .report (.imported n r)) ++
        ((s.includedBy n i).toList.map fun t => .report (.included n t)) ++
        (s.leadsTo n i).toList.map .enter ++
        (declares n i).map fun c => .report (.declared c) := by
  rcases i with ⟨uri, location⟩ | (_ | l) | ⟨_ | l, ds⟩ | d
  · cases hf : s.found? n.path uri location <;>
      simp [itemTasks, importTasks, Schema.Item.inquiry?, importedBy, includedBy,
        Schema.Item.isInclusion, leadsTo, declares, hf]
  · rfl
  · cases hf : s.found? n.path none (some l) <;>
      simp [itemTasks, includeTasks, Schema.Item.inquiry?, importedBy, includedBy,
        Schema.Item.isInclusion, leadsTo, declares, hf]
  · rfl
  · cases hf : s.found? n.path none (some l) <;>
      simp [itemTasks, includeTasks, Schema.Item.inquiry?, importedBy, includedBy,
        Schema.Item.isInclusion, leadsTo, declares, declareTasks, hf]
  · rfl

/-- A view of what an item brings up, part by part. -/
theorem filterMap_itemTasks {γ : Type} (f : Task SchemaNode Step → Option γ) (i : Schema.Item) :
    (s.itemTasks n i).filterMap f =
      (i.inquiry?.toList.filterMap fun q => f (s.askTask n q.1 q.2)) ++
        ((s.importedBy n i).toList.filterMap fun r => f (.report (.imported n r))) ++
        ((s.includedBy n i).toList.filterMap fun t => f (.report (.included n t))) ++
        ((s.leadsTo n i).toList.filterMap fun m => f (.enter m)) ++
        (declares n i).filterMap fun c => f (.report (.declared c)) := by
  simp only [itemTasks_eq, List.filterMap_append, List.filterMap_map, Function.comp_def]

/-- A view of what a root brings up, part by part. -/
theorem filterMap_rootTasks {γ : Type} (f : Task SchemaNode Step → Option γ)
    (root : Markup.Element) :
    (s.rootTasks n root).filterMap f =
      (f (.report (.opened n (Schema.adopts root n.uri)))).toList ++
        ((Schema.items root).flatMap fun i => (s.itemTasks n i).filterMap f) ++
        (referencesOfRoot n root).filterMap fun r => f (.report (.referred r)) := by
  rw [rootTasks, List.filterMap_cons, List.filterMap_append, List.filterMap_flatMap,
    List.filterMap_map, Function.comp_def]
  cases f (.report (.opened n (Schema.adopts root n.uri))) <;> rfl

/-- An item brings up to enter exactly the node that it leads to. -/
theorem enter_mem_itemTasks_iff (i : Schema.Item) (m : SchemaNode) :
    Task.enter m ∈ s.itemTasks n i ↔ s.leadsTo n i = some m := by
  simp [itemTasks_eq, askTask]

/-- A node brings up to enter exactly the nodes that its items lead to. -/
theorem mem_agenda_enter_iff (h : s.readRoot n.path = .ok root) (m : SchemaNode) :
    Task.enter m ∈ s.agenda n ↔ ∃ i ∈ Schema.items root, s.leadsTo n i = some m := by
  rw [agenda_eq h, rootTasks]
  simp [enter_mem_itemTasks_iff]

end Successors

section Nodes

variable (s : Setting)

/-- The namespace that the document at a path declares. -/
def declaredAt (p : Path) : Option String :=
  match s.readRoot p with
  | .ok root => Schema.declaredNamespace root
  | .error _ => none

/-- The namespaces that a document can take part in. -/
def uris : List (Option String) := none :: s.files.filePaths.map s.declaredAt

/-- The nodes that a document can be opened as. -/
def nodes : List SchemaNode :=
  s.files.filePaths.flatMap fun p => s.uris.map fun uri => ⟨p, uri⟩

theorem length_nodes :
    s.nodes.length = s.files.fileCount * (s.files.fileCount + 1) := by
  simp [nodes, uris, List.length_flatMap, FileSystem.length_filePaths]

variable {s}

/-- A document that can be read is a file, and its root is that of the content. -/
theorem content_of_readRoot {p : Path} {root : Markup.Element}
    (h : s.readRoot p = .ok root) :
    ∃ content, s.files.entry p = .ok (.file content) ∧
      Markup.readDocument content = .ok root := by
  obtain ⟨octets, hload, hread⟩ := bind_eq_ok_iff.1 h
  obtain ⟨root', hdocument, hschema⟩ := bind_eq_ok_iff.1 hread
  have hroot : root' = root := by
    split at hschema
    · exact Except.ok.inj hschema
    · cases hschema
  subst hroot
  refine ⟨octets, ?_, mapError_eq_ok_iff.1 hdocument⟩
  obtain ⟨octets', hoctets, hdecode⟩ := bind_eq_ok_iff.1 hload
  have hsame : octets' = octets := by
    split at hdecode
    · cases hdecode
    · exact Except.ok.inj hdecode
  subst hsame
  exact s.files.entry_of_readPath hoctets

theorem path_mem_filePaths {p q : Path} {root : Markup.Element}
    (hc : s.files.canonicalize q = .ok p) (h : s.readRoot p = .ok root) :
    p ∈ s.files.filePaths := by
  obtain ⟨content, he, _⟩ := content_of_readRoot h
  exact FileSystem.mem_filePaths hc he

/-- A document that is opened in the namespace that it declares, or in a possible one, is opened
as one of the finitely many nodes of the setting. -/
theorem mem_nodes {n : SchemaNode} {q : Path} {root : Markup.Element}
    (hc : s.files.canonicalize q = .ok n.path) (h : s.readRoot n.path = .ok root)
    (hu : Schema.declaredNamespace root = n.uri ∨ n.uri ∈ s.uris) :
    n ∈ s.nodes := by
  have hp : n.path ∈ s.files.filePaths := path_mem_filePaths hc h
  have huri : n.uri ∈ s.uris := by
    rcases hu with hu | hu
    · refine List.mem_cons_of_mem _ (List.mem_map.2 ⟨n.path, hp, ?_⟩)
      rw [declaredAt, h]
      exact hu
    · exact hu
  exact List.mem_flatMap.2 ⟨n.path, hp, List.mem_map.2 ⟨n.uri, huri, rfl⟩⟩

theorem uri_mem_uris {n : SchemaNode} (h : n ∈ s.nodes) : n.uri ∈ s.uris := by
  obtain ⟨p, _, hn⟩ := List.mem_flatMap.1 h
  obtain ⟨uri, hu, rfl⟩ := List.mem_map.1 hn
  exact hu

end Nodes

end Setting
end SchemaSet
