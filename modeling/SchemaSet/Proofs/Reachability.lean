import SchemaSet.Proofs.Compiled

/-!
# A schema set holds what its entry document leads to

`Setting.successors` lists the nodes that the imports, includes and redefines of a document lead to,
in document order.  It looks at the file system and the resolver alone.

`Exhausts` says that the documents of a set are the nodes that can be reached from the first one,
each once, in the order of first visits.  The main theorem is that this holds of the documents of
every compilation that succeeds.
-/

namespace SchemaSet
namespace Setting

section Successors

variable (s : Setting)

/-- The nodes that a node leads to, in document order. -/
def successors (n : SchemaNode) : List SchemaNode :=
  match s.readRoot n.path with
  | .ok root => (Schema.items root).filterMap (s.leadsTo n)
  | .error _ => []

/-- A node leads to another one by one of its items. -/
def Edge (m n : SchemaNode) : Prop := n ∈ s.successors m

/-- A file under its canonical path, with a namespace that is not empty. -/
structure IsNode (n : SchemaNode) : Prop where
  /-- The path spells the names that lead to the file. -/
  file : ∃ place, s.files.locate n.path = .ok place ∧ n.path = Path.ofNames place.names ∧
    place.node.isFile = true
  /-- The empty namespace means none. -/
  uri : n.uri ≠ some ""

variable {s} {n : SchemaNode} {root : Markup.Element}

theorem edge_iff {m : SchemaNode} :
    s.Edge m n ↔ ∃ root i, s.readRoot m.path = .ok root ∧ i ∈ Schema.items root ∧
      s.leadsTo m i = some n := by
  unfold Edge successors
  cases s.readRoot m.path with
  | error e => simp
  | ok root => simp

/-- What a node leads to has a canonical path. -/
theorem canonical_of_edge {m : SchemaNode} (h : s.Edge m n) :
    ∃ q, s.files.canonicalize q = .ok n.path := by
  obtain ⟨_, _, _, _, hl⟩ := edge_iff.1 h
  obtain ⟨_, _, _, hfound, _⟩ := leadsTo_eq_some_iff.1 hl
  exact canonical_of_found? hfound

/-- An item enters the node that it leads to. -/
theorem node?_itemTasks (i : Schema.Item) :
    (s.itemTasks n i).filterMap Task.node? = (s.leadsTo n i).toList := by
  simp [filterMap_itemTasks, askTask, Task.node?]

/-- The agenda of a node enters its successors. -/
theorem node?_agenda (n : SchemaNode) : (s.agenda n).filterMap Task.node? = s.successors n := by
  unfold agenda successors
  cases s.readRoot n.path with
  | error e => rfl
  | ok root =>
      show (s.rootTasks n root).filterMap Task.node? = (Schema.items root).filterMap (s.leadsTo n)
      rw [filterMap_rootTasks, List.filterMap_eq_flatMap_toList (s.leadsTo n)]
      simp [node?_itemTasks, Task.node?]

theorem leads_iff_edge (m n : SchemaNode) : Leads s.agenda m n ↔ s.Edge m n := by
  rw [Edge, ← node?_agenda, List.mem_filterMap]
  constructor
  · exact fun h => ⟨.enter n, h, rfl⟩
  · rintro ⟨t, ht, hn⟩
    cases t with
    | enter k =>
        cases Option.some.inj hn
        exact ht
    | report e => cases hn

end Successors

section Names

theorem nonEmpty_ne (uri : Option String) : nonEmpty uri ≠ some "" :=
  QName.uri_of_ne_empty uri ""

/-- An import is for a namespace that is not empty. -/
theorem uri_of_importing {root : Markup.Element} {uri location : Option String}
    (h : Schema.Item.importing uri location ∈ Schema.items root) :
    uri ≠ some "" := by
  obtain ⟨e, _, he⟩ := List.mem_filterMap.1 h
  obtain ⟨_, _, rfl, _⟩ := Schema.ofElement_eq_importing_iff.1 he
  exact nonEmpty_ne _

/-- What an item leads to has a namespace that is not empty. -/
theorem uri_of_edge {s : Setting} {m n : SchemaNode} (hm : m.uri ≠ some "") (h : s.Edge m n) :
    n.uri ≠ some "" := by
  obtain ⟨root, i, _, hi, hl⟩ := edge_iff.1 h
  obtain ⟨uri, location, hinquiry, _, huri⟩ := leadsTo_eq_some_iff.1 hl
  rw [huri]
  split
  · exact hm
  · rename_i hinclusion
    cases i with
    | importing uri' location' =>
        cases hinquiry
        exact uri_of_importing hi
    | including _ => exact absurd rfl hinclusion
    | redefining _ _ => exact absurd rfl hinclusion
    | declaring d => cases hinquiry

/-- The namespace stays non-empty on the way from node to node. -/
theorem uri_of_reachable {s : Setting} {m n : SchemaNode} (hm : m.uri ≠ some "")
    (h : Relation.ReflTransGen s.Edge m n) :
    n.uri ≠ some "" := by
  induction h with
  | refl => exact hm
  | tail _ he ih => exact uri_of_edge ih he

end Names

section Exhausts

variable {s : Setting} {entry : Path} {c : CompiledSet} {start : SchemaNode} {es : List Step}

/-- A set of documents is all that can be reached from a node. -/
structure Exhausts (s : Setting) (start : SchemaNode) (c : CompiledSet) : Prop where
  /-- Its first document is the entry. -/
  entry : c.entry = start.path
  /-- The node comes first. -/
  first : c.nodes.head? = some start
  /-- No node comes twice. -/
  once : c.nodes.Nodup
  /-- All are files under their canonical paths. -/
  nodes : ∀ n ∈ c.nodes, s.IsNode n
  /-- Exactly the nodes that can be reached are there. -/
  reachable : ∀ n, n ∈ c.nodes ↔ Relation.ReflTransGen s.Edge start n
  /-- They are listed in the order of their first visits. -/
  preorder : ∀ out, Preorder s.successors [] [start] out ↔ out = c.nodes
  /-- The target of every import is a document in the namespace of the import. -/
  imports : ∀ d ∈ c.documents, ∀ r ∈ d.imports, ∀ t, r.target = some t → ⟨t, r.uri⟩ ∈ c.nodes
  /-- What a document includes is a document in the same namespace. -/
  includes : ∀ d ∈ c.documents, ∀ t ∈ d.includes, ⟨t, d.targetNamespace⟩ ∈ c.nodes
  /-- No file is there twice in one namespace. -/
  files : (c.nodes.map fun n => (s.files.locate n.path, n.uri)).Nodup
  /-- However the path of such a file is spelled, its canonical path is that of the document. -/
  spelled : ∀ d ∈ c.documents, ∀ p, s.files.canonicalPlace p = s.files.locate d.path →
    s.files.canonicalize p = .ok d.path

/-- A document that can be read is a file under its canonical path. -/
theorem file_of_readRoot {p : Path} {root : Markup.Element}
    (hc : ∃ q, s.files.canonicalize q = .ok p) (hread : s.readRoot p = .ok root) :
    ∃ place, s.files.locate p = .ok place ∧ p = Path.ofNames place.names ∧
      place.node.isFile = true := by
  obtain ⟨q, hq⟩ := hc
  obtain ⟨content, he, _⟩ := content_of_readRoot hread
  obtain ⟨place, hl, hnode⟩ := FileSystem.exists_place_of_entry he
  exact ⟨place, hl, (FileSystem.canonicalPlace_of_locate hq hl).2, by rw [hnode]; rfl⟩

/-- An admitted document is a file under its canonical path. -/
theorem file_of_admits {n : SchemaNode} {root : Markup.Element} (h : s.Admits n root) :
    ∃ place, s.files.locate n.path = .ok place ∧ n.path = Path.ofNames place.names ∧
      place.node.isFile = true :=
  file_of_readRoot h.canonical h.read

/-- Compiling opens exactly what the entry document leads to, in preorder. -/
theorem compile_exhausts (h : (s.compile entry).outcome = .ok c) :
    ∃ start : SchemaNode,
      s.files.canonicalize ((s.resolver (entryRequest entry)).systemId.getD entry) =
        .ok start.path ∧
      (∃ root, s.readRoot start.path = .ok root ∧ Schema.declaredNamespace root = start.uri) ∧
      s.Exhausts start c := by
  obtain ⟨start, es, hc⟩ := compiles h
  refine ⟨start, by rw [hc.path]; exact hc.canonical, hc.declared, ?_⟩
  have hedge : Leads s.agenda = s.Edge := by
    funext m n
    exact propext (leads_iff_edge m n)
  have hreach : ∀ n, n ∈ c.nodes ↔ Relation.ReflTransGen s.Edge start n := by
    intro n
    rw [← hedge]
    exact hc.order.mem_iff_reachable n
  have hpre : Preorder s.successors [] [start] c.nodes := by
    have hp := hc.order.preorder
    simp only [node?_agenda] at hp
    exact hp
  have honce : c.nodes.Nodup := hc.order.nodup List.nodup_nil
  have hstart : start.uri ≠ some "" := by
    obtain ⟨root, _, hd⟩ := hc.declared
    rw [← hd]
    exact nonEmpty_ne _
  exact
    { entry := hc.path.symm
      first := hc.order.head?_eq
      once := honce
      nodes := by
        intro n hn
        obtain ⟨root, hroot⟩ := hc.admitted n hn
        exact ⟨file_of_admits hroot, uri_of_reachable hstart ((hreach n).1 hn)⟩
      reachable := hreach
      preorder := fun out => ⟨fun hp => hp.unique hpre, fun heq => heq ▸ hpre⟩
      imports := fun d hd r hr t ht => hc.target_mem_nodes hd hr ht
      includes := fun d hd t ht => hc.include_mem_nodes hd ht
      files := by
        refine honce.map_on fun m hm n hn heq => ?_
        obtain ⟨hplace, huri⟩ := Prod.mk.inj heq
        obtain ⟨_, hm⟩ := hc.admitted m hm
        obtain ⟨_, hn⟩ := hc.admitted n hn
        obtain ⟨place, hl, hpath, _⟩ := file_of_admits hm
        obtain ⟨place', hl', hpath', _⟩ := file_of_admits hn
        cases Except.ok.inj ((hl.symm.trans hplace).trans hl')
        exact SchemaNode.ext (hpath.trans hpath'.symm) huri
      spelled := by
        intro d hd p hp
        obtain ⟨_, root, hroot, _⟩ := hc.document hd
        obtain ⟨place, hl, hpath, _⟩ := file_of_admits hroot
        have hl' : s.files.locate d.path = .ok place := hl
        rw [FileSystem.canonicalize, hp, hl']
        exact congrArg Except.ok hpath.symm }

theorem sample_exhausts :
    (sample.compile (topPath "main")).outcome = .ok sampleSet ∧
      ∃ start : SchemaNode,
        sample.files.canonicalize ((sample.resolver (entryRequest (topPath "main"))).systemId.getD
          (topPath "main")) = .ok start.path ∧
        (∃ root, sample.readRoot start.path = .ok root ∧
          Schema.declaredNamespace root = start.uri) ∧
        sample.Exhausts start sampleSet :=
  ⟨sample_compiles, compile_exhausts sample_compiles⟩

end Exhausts

end Setting
end SchemaSet
