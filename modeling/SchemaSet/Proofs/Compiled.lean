import SchemaSet.Proofs.Run
import SchemaSet.Schema.Compiler

/-!
# What a compiled schema set is made of

`Setting.Compiles` says how a compiled set comes from the events of its traversal: its documents are
those that the events open, its table registers what they declare, and what they refer to lands in
the table.  Every compilation that succeeds is of this shape (`compiles`).

What the documents of the set record is what stands in the files: `Compiles.document`,
`Compiles.imported` and `Compiles.included` say so for the documents themselves, their imports and
their includes.
-/

namespace SchemaSet

/-- The node that a document was opened as. -/
def SchemaDocument.node (d : SchemaDocument) : SchemaNode := ⟨d.path, d.targetNamespace⟩

/-- The nodes of the documents, in the order in which they were opened. -/
def CompiledSet.nodes (c : CompiledSet) : List SchemaNode := c.documents.map SchemaDocument.node

/-- The node that a step opens. -/
def Step.node? : Step → Option SchemaNode
  | .opened n _ => some n
  | _ => none

/-- The component that a step declares. -/
def Step.component? : Step → Option Component
  | .declared c => some c
  | _ => none

/-- The components that some steps declare. -/
def declaredOf (steps : List Step) : List Component := steps.filterMap Step.component?

section Views

theorem Step.eq_told {step : Step} (h : step.isTold = true) : ∃ notice, step = .told notice := by
  cases step with
  | told notice => exact ⟨notice, rfl⟩
  | _ => cases h

theorem events_cons_of_isTold {step : Step} {steps : List Step} (h : step.isTold = true) :
    events (step :: steps) = events steps :=
  List.filter_cons_of_neg (by simp [h])

theorem events_cons {step : Step} {steps : List Step} (h : step.isTold = false) :
    events (step :: steps) = step :: events steps :=
  List.filter_cons_of_pos (by simp [h])

/-- A view that passes over notices can be taken of the events. -/
theorem filterMap_events {α : Type} {f : Step → Option α} (hf : ∀ notice, f (.told notice) = none)
    (steps : List Step) :
    (events steps).filterMap f = steps.filterMap f := by
  induction steps with
  | nil => rfl
  | cons step rest ih =>
      cases ht : step.isTold with
      | true =>
          obtain ⟨notice, rfl⟩ := Step.eq_told ht
          rw [events_cons_of_isTold ht, ih, List.filterMap_cons_none (hf notice)]
      | false => rw [events_cons ht, List.filterMap_cons, List.filterMap_cons, ih]

theorem importsOf_events (n : SchemaNode) (steps : List Step) :
    importsOf n (events steps) = importsOf n steps :=
  filterMap_events (fun _ => rfl) steps

theorem includesOf_events (n : SchemaNode) (steps : List Step) :
    includesOf n (events steps) = includesOf n steps :=
  filterMap_events (fun _ => rfl) steps

theorem documentsOf_events (steps : List Step) :
    documentsOf (events steps) = documentsOf steps := by
  unfold documentsOf
  simp only [importsOf_events, includesOf_events]
  exact filterMap_events (fun _ => rfl) steps

theorem referencesOf_events (steps : List Step) :
    referencesOf (events steps) = referencesOf steps :=
  filterMap_events (fun _ => rfl) steps

theorem declaredOf_events (steps : List Step) :
    declaredOf (events steps) = declaredOf steps :=
  filterMap_events (fun _ => rfl) steps

theorem mem_importsOf_iff {n : SchemaNode} {steps : List Step} {r : ImportRecord} :
    r ∈ importsOf n steps ↔ Step.imported n r ∈ steps := by
  rw [importsOf, List.mem_filterMap]
  constructor
  · rintro ⟨step, hs, hr⟩
    cases step <;> simp at hr
    obtain ⟨rfl, rfl⟩ := hr
    exact hs
  · exact fun hs => ⟨_, hs, by simp⟩

theorem mem_includesOf_iff {n : SchemaNode} {steps : List Step} {t : Path} :
    t ∈ includesOf n steps ↔ Step.included n t ∈ steps := by
  rw [includesOf, List.mem_filterMap]
  constructor
  · rintro ⟨step, hs, ht⟩
    cases step <;> simp at ht
    obtain ⟨rfl, rfl⟩ := ht
    exact hs
  · exact fun hs => ⟨_, hs, by simp⟩

theorem mem_referencesOf_iff {steps : List Step} {r : Schema.Reference} :
    r ∈ referencesOf steps ↔ Step.referred r ∈ steps := by
  rw [referencesOf, List.mem_filterMap]
  constructor
  · rintro ⟨step, hs, hr⟩
    cases step <;> simp at hr
    exact hr ▸ hs
  · exact fun hs => ⟨_, hs, rfl⟩

theorem mem_declaredOf_iff {steps : List Step} {c : Component} :
    c ∈ declaredOf steps ↔ Step.declared c ∈ steps := by
  rw [declaredOf, List.mem_filterMap]
  constructor
  · rintro ⟨step, hs, hc⟩
    cases step <;> simp [Step.component?] at hc
    exact hc ▸ hs
  · exact fun hs => ⟨_, hs, rfl⟩

theorem mem_documentsOf_iff {steps : List Step} {d : SchemaDocument} :
    d ∈ documentsOf steps ↔
      Step.opened d.node d.chameleon ∈ steps ∧ d.imports = importsOf d.node steps ∧
        d.includes = includesOf d.node steps := by
  rw [documentsOf, List.mem_filterMap]
  constructor
  · rintro ⟨step, hs, hd⟩
    cases step <;> simp at hd
    subst hd
    exact ⟨hs, rfl, rfl⟩
  · rintro ⟨hs, hi, hc⟩
    refine ⟨_, hs, ?_⟩
    cases d
    simp_all [SchemaDocument.node]

theorem documentsOf_nodes (steps : List Step) :
    (documentsOf steps).map SchemaDocument.node = steps.filterMap Step.node? := by
  unfold documentsOf
  rw [List.map_filterMap]
  congr 1
  funext step
  cases step <;> rfl

end Views

namespace Setting

/-- A compilation succeeds with `c`, opening `start` first and noting the events `es`. -/
structure Compiles (s : Setting) (entry : Path) (c : CompiledSet) (start : SchemaNode)
    (es : List Step) : Prop where
  /-- The entry document is the one that the resolver names, or else the one given. -/
  canonical :
    s.files.canonicalize ((s.resolver (entryRequest entry)).systemId.getD entry) = .ok c.entry
  /-- The first node is the entry document. -/
  path : start.path = c.entry
  /-- The events are those that the traversal notes. -/
  noted : es = events (s.traverse c.entry).notes
  /-- It takes part in the namespace that it declares. -/
  declared : ∃ root, s.readRoot start.path = .ok root ∧ Schema.declaredNamespace root = start.uri
  /-- The documents are opened in depth-first order. -/
  descent : Descent s.agenda s.Enters start 0 [start] (s.agenda start) es c.nodes
  /-- All of them may be opened. -/
  permitted : s.Permits c.nodes
  /-- The documents record what the events tell of them. -/
  documents : c.documents = documentsOf es
  /-- The table holds what is declared. -/
  table : (declaredOf es).foldlM (Table.register s.options.limits) ∅ = .ok c.table
  /-- All references land in the table. -/
  lands : ∀ r ∈ referencesOf es, lands c.table r = true

section Assemble

/-- The declarations of some steps are registered one after the other. -/
theorem outcome_assemble (limits : Limits) (t : Table) (steps : List Step) :
    (assemble limits t steps).outcome = (declaredOf steps).foldlM (Table.register limits) t := by
  induction steps generalizing t with
  | nil => rfl
  | cons step rest ih =>
      cases step with
      | declared c =>
          rw [declaredOf, List.filterMap_cons_some (by rfl), List.foldlM_cons]
          show (Journal.bind (.ofExcept (t.register limits c)) _).outcome = _
          cases hr : t.register limits c with
          | error e => rfl
          | ok u => exact ih u
      | _ => exact ih t

/-- A table that is assembled keeps all steps. -/
theorem notes_assemble {limits : Limits} {t u : Table} {steps : List Step}
    (h : (assemble limits t steps).outcome = .ok u) :
    (assemble limits t steps).notes = steps := by
  induction steps generalizing t with
  | nil => rfl
  | cons step rest ih =>
      cases step with
      | declared c =>
          obtain ⟨_, _, hregister⟩ := Journal.outcome_bind_eq_ok_iff.1 h
          obtain ⟨v, hv, hrest⟩ := Journal.outcome_bind_eq_ok_iff.1 hregister
          refine congrArg _ (Journal.notes_bind.trans ?_)
          have hok : t.register limits c = .ok v := hv
          show [] ++ (t.register limits c).toOption.elim [] _ = rest
          rw [hok]
          exact ih hrest
      | _ => exact congrArg _ (ih h)

theorem lands_of_checkReferences {t : Table} {rs : List Schema.Reference} {u : Unit}
    (h : checkReferences t rs = .ok u) : ∀ r ∈ rs, lands t r = true := by
  intro r hr
  unfold checkReferences at h
  split at h
  · cases h
  · rename_i hnone
    simpa using List.find?_eq_none.1 hnone r hr

/-- What is refused is a reference that lands nowhere. -/
theorem checkReferences_eq_error {t : Table} {rs : List Schema.Reference} {e : Error}
    (h : checkReferences t rs = .error e) :
    ∃ r ∈ rs, lands t r = false ∧
      e = .consistency ⟨.danglingReference r.space r.name, some r.document⟩ := by
  unfold checkReferences at h
  split at h
  · rename_i r hfound
    cases h
    exact ⟨r, List.mem_of_find?_eq_some hfound, by simpa using List.find?_some hfound, rfl⟩
  · cases h

end Assemble

section Reports

variable {s : Setting} {n : SchemaNode} {root : Markup.Element}

/-- What following an item of a node may report. -/
inductive Reports (s : Setting) (n : SchemaNode) : Schema.Item → Step → Prop
  | asked {i : Schema.Item} (r : Request) (answer : Resolution) :
      Reports s n i (.asked r answer)
  | included {i : Schema.Item} {t : Path} :
      s.leadsTo n i = some ⟨t, n.uri⟩ → Reports s n i (.included n t)
  | imported (uri location : Option String) :
      Reports s n (.importing uri location) (.imported n (s.recordOf n.path uri location))
  | declared {i : Schema.Item} {c : Component} :
      c ∈ declares n i → Reports s n i (.declared c)

theorem reports_of_mem_itemTasks {i : Schema.Item} {e : Step}
    (h : Task.report e ∈ s.itemTasks n i) :
    s.Reports n i e := by
  simp only [itemTasks_eq, List.mem_append, List.mem_map, Option.mem_toList, Task.report.injEq,
    reduceCtorEq, and_false, exists_false, or_false] at h
  obtain ((⟨q, _, hq⟩ | ⟨r, hr, rfl⟩) | ⟨t, ht, rfl⟩) | ⟨c, hc, rfl⟩ := h
  · cases hq
    exact .asked _ _
  · cases i with
    | importing uri location =>
        cases hr
        exact .imported uri location
    | _ => cases hr
  · unfold includedBy at ht
    split at ht
    · rename_i hincludes
      obtain ⟨m, hm, rfl⟩ := Option.map_eq_some_iff.1 ht
      obtain ⟨_, _, _, _, huri⟩ := leadsTo_eq_some_iff.1 hm
      rw [if_pos hincludes] at huri
      exact .included (huri ▸ hm)
    · cases ht
  · exact .declared hc

theorem declared_mem_itemTasks {i : Schema.Item} {c : Component} (hc : c ∈ declares n i) :
    Task.report (.declared c) ∈ s.itemTasks n i := by
  simp [itemTasks_eq, askTask, hc]

/-- What a node reports: that it is opened, what its items report, and what it refers to. -/
theorem report_mem_rootTasks_iff {e : Step} :
    Task.report e ∈ s.rootTasks n root ↔
      e = .opened n (Schema.adopts root n.uri) ∨
        (∃ i ∈ Schema.items root, Task.report e ∈ s.itemTasks n i) ∨
        ∃ r ∈ referencesOfRoot n root, e = .referred r := by
  simp [rootTasks, eq_comm]

/-- Items open nothing by themselves. -/
theorem Reports.node? {i : Schema.Item} {e : Step} (h : s.Reports n i e) : e.node? = none := by
  cases h <;> rfl

/-- A node that can be read first reports that it is opened, and then no other opening. -/
theorem announces (h : s.readRoot n.path = .ok root) :
    DepthFirst.Announces s.agenda Step.node? n := by
  refine ⟨_, _, agenda_eq h, rfl, ?_⟩
  intro e he
  rcases List.mem_append.1 he with he | he
  · obtain ⟨i, _, hi⟩ := List.mem_flatMap.1 he
    exact (reports_of_mem_itemTasks hi).node?
  · obtain ⟨r, _, hr⟩ := List.mem_map.1 he
    rw [← Task.report.inj hr]
    rfl

/-- The documents that a traversal records are the nodes that it enters, in order. -/
theorem documentsOf_nodes_eq {start : SchemaNode} {es : List Step} {out : List SchemaNode}
    (horder : Descent s.agenda s.Enters start 0 [start] (s.agenda start) es out)
    (hpermits : s.Permits out) :
    (documentsOf es).map SchemaDocument.node = out := by
  rw [documentsOf_nodes]
  refine (DepthFirst.enterOnly List.not_mem_nil horder.depthFirst).announced fun n hn => ?_
  obtain ⟨root, hroot, _⟩ := hpermits.admitted n hn
  exact announces hroot.read

end Reports

/-- A traversal that ends opens `start` first, notes the events `es` and opens `nodes` in
depth-first order. -/
structure Covers (s : Setting) (start : SchemaNode) (es : List Step) (nodes : List SchemaNode) :
    Prop where
  order : DepthFirst s.agenda [] [.enter start] es nodes
  /-- All nodes are admitted. -/
  admitted : ∀ n ∈ nodes, ∃ root, s.Admits n root

namespace Covers

variable {s : Setting} {start : SchemaNode} {es : List Step} {nodes : List SchemaNode}
variable (h : s.Covers start es nodes)
include h

/-- What was noted is on the agenda of an admitted node. -/
theorem reported {e : Step} (he : e ∈ es) :
    ∃ n ∈ nodes, ∃ root, s.Admits n root ∧ Task.report e ∈ s.rootTasks n root := by
  obtain ⟨n, hn, ht⟩ := (h.order.reported_iff_of_start e).1 he
  obtain ⟨root, hroot⟩ := h.admitted n hn
  exact ⟨n, hn, root, hroot, agenda_eq hroot.read ▸ ht⟩

/-- What is on the agenda of a node was noted. -/
theorem mem_events {n : SchemaNode} {root : Markup.Element} {e : Step} (hn : n ∈ nodes)
    (hroot : s.readRoot n.path = .ok root) (he : Task.report e ∈ s.rootTasks n root) :
    e ∈ es :=
  (h.order.reported_iff_of_start e).2 ⟨n, hn, agenda_eq hroot ▸ he⟩

end Covers

/-- A traversal that ends covers what it opens. -/
theorem covers_of_traverse {s : Setting} {p : Path} {out : List SchemaNode}
    (hc : ∃ q, s.files.canonicalize q = .ok p) (h : (s.traverse p).outcome = .ok out) :
    ∃ start : SchemaNode, start.path = p ∧
      (∃ root, s.readRoot p = .ok root ∧ Schema.declaredNamespace root = start.uri) ∧
      s.Covers start (events (s.traverse p).notes) out := by
  obtain ⟨start, hpath, hdeclared, hdescent, hpermits⟩ := traverse_yields hc ⟨h, rfl⟩
  refine ⟨start, hpath, hdeclared, .enterOnly List.not_mem_nil hdescent.depthFirst, fun n hn => ?_⟩
  obtain ⟨root, hroot, _⟩ := hpermits.admitted n hn
  exact ⟨root, hroot⟩

/-- A compilation whose table is assembled notes how the entry is resolved, and then all that its
traversal notes. -/
theorem notes_compile {s : Setting} {entry start : Path} {t : Table}
    (hc : s.files.canonicalize ((s.resolver (entryRequest entry)).systemId.getD entry) =
      .ok start)
    (ht : (assemble s.options.limits ∅ (s.traverse start).notes).outcome = .ok t) :
    ∃ rest, (∀ step ∈ rest, step.isTold = true) ∧
      (s.compile entry).notes =
        .asked (entryRequest entry) (s.resolver (entryRequest entry)) ::
          ((s.traverse start).notes ++ rest) := by
  have hask : (s.ask (entryRequest entry)).outcome = .ok (s.resolver (entryRequest entry)) := rfl
  have hcanonical : (liftM (s.canonical ((s.resolver (entryRequest entry)).systemId.getD entry)) :
      Journal Step Error Path).outcome = .ok start :=
    mapError_eq_ok_iff.2 hc
  unfold compile
  rw [Journal.bind_of_ok hask, Journal.bind_of_ok hcanonical, Journal.bind_of_ok ht,
    notes_assemble ht]
  -- what comes after the table is assembled notes nothing before the end
  cases hwalk : (s.traverse start).outcome with
  | error e => exact ⟨[], by simp, rfl⟩
  | ok out =>
      cases hcheck : checkReferences t (referencesOf (s.traverse start).notes) with
      | error e => exact ⟨[], by simp, rfl⟩
      | ok u =>
          refine ⟨[.told (.compiled start (documentsOf (s.traverse start).notes).length t.size)],
            fun step hstep => ?_, rfl⟩
          rw [List.mem_singleton.1 hstep]
          rfl

/-- A compilation that succeeds opens documents depth first, and makes its set of them. -/
theorem compiles {s : Setting} {entry : Path} {c : CompiledSet}
    (h : (s.compile entry).outcome = .ok c) :
    ∃ start es, s.Compiles entry c start es := by
  have hy : Yields (s.compile entry) (events (s.compile entry).notes) c := ⟨h, rfl⟩
  generalize events (s.compile entry).notes = noted at hy
  unfold compile at hy
  obtain ⟨answer, _, _, hask, h₁, _⟩ := yields_bind.1 hy
  obtain ⟨_, rfl⟩ := ask_yields hask
  obtain ⟨p, _, _, hstart, h₂, _⟩ := yields_bind.1 h₁
  obtain ⟨hcanonical, _⟩ := yields_lift.1 hstart
  obtain ⟨t, _, _, hassemble, h₃, _⟩ := yields_bind.1 h₂
  obtain ⟨out, _, _, hwalk, h₄, _⟩ := yields_bind.1 h₃
  obtain ⟨hout, _⟩ := yields_lift.1 hwalk
  obtain ⟨_, _, _, hcheck, h₅, _⟩ := yields_bind.1 h₄
  obtain ⟨hlands, _⟩ := yields_lift.1 hcheck
  obtain ⟨_, _, _, _, h₆, _⟩ := yields_bind.1 h₅
  obtain ⟨_, rfl⟩ := yields_pure.1 h₆
  have hc := canonicalize_of_canonical hcanonical
  obtain ⟨start, rfl, hdeclared, hdescent, hpermits⟩ := traverse_yields ⟨_, hc⟩ ⟨hout, rfl⟩
  have hnodes : (documentsOf (s.traverse start.path).notes).map SchemaDocument.node = out := by
    rw [← documentsOf_events]
    exact documentsOf_nodes_eq hdescent hpermits
  refine ⟨start, events (s.traverse start.path).notes, ?_⟩
  exact
    { canonical := hc
      path := rfl
      noted := rfl
      declared := hdeclared
      descent := by rwa [CompiledSet.nodes, hnodes]
      permitted := by rwa [CompiledSet.nodes, hnodes]
      documents := (documentsOf_events _).symm
      table := by
        rw [declaredOf_events]
        exact (outcome_assemble _ _ _).symm.trans hassemble.1
      lands := by
        rw [referencesOf_events]
        exact lands_of_checkReferences hlands }

namespace Compiles

variable {s : Setting} {entry : Path} {c : CompiledSet} {start : SchemaNode} {es : List Step}
variable (h : s.Compiles entry c start es)
include h

/-- All documents are opened on the way, and all are admitted. -/
theorem covers : s.Covers start es c.nodes where
  order := .enterOnly List.not_mem_nil h.descent.depthFirst
  admitted := by
    intro n hn
    obtain ⟨root, hroot, _⟩ := h.permitted.admitted n hn
    exact ⟨root, hroot⟩

theorem order : DepthFirst s.agenda [] [.enter start] es c.nodes := h.covers.order

theorem admitted : ∀ n ∈ c.nodes, ∃ root, s.Admits n root := h.covers.admitted

theorem reported {e : Step} (he : e ∈ es) :
    ∃ n ∈ c.nodes, ∃ root, s.Admits n root ∧ Task.report e ∈ s.rootTasks n root :=
  h.covers.reported he

theorem mem_events {n : SchemaNode} {root : Markup.Element} {e : Step} (hn : n ∈ c.nodes)
    (hroot : s.readRoot n.path = .ok root) (he : Task.report e ∈ s.rootTasks n root) :
    e ∈ es :=
  h.covers.mem_events hn hroot he

/-- Every document can be read, and tells whether it adopts its namespace. -/
theorem document {d : SchemaDocument} (hd : d ∈ c.documents) :
    d.node ∈ c.nodes ∧ ∃ root, s.Admits d.node root ∧
      d.chameleon = Schema.adopts root d.targetNamespace := by
  have hn : d.node ∈ c.nodes := List.mem_map_of_mem hd
  obtain ⟨root, hroot⟩ := h.admitted d.node hn
  refine ⟨hn, root, hroot, ?_⟩
  rw [h.documents] at hd
  obtain ⟨m, _, root', hroot', he⟩ := h.reported (mem_documentsOf_iff.1 hd).1
  rcases report_mem_rootTasks_iff.1 he with he | ⟨i, _, hi⟩ | ⟨r, _, hr⟩
  · obtain ⟨rfl, he⟩ := Step.opened.inj he
    cases Except.ok.inj (hroot.read.symm.trans hroot'.read)
    exact he
  · cases reports_of_mem_itemTasks hi
  · cases hr

/-- What a document records of an import is what its item leads to. -/
theorem imported {d : SchemaDocument} {r : ImportRecord} {root : Markup.Element}
    (hd : d ∈ c.documents) (hroot : s.readRoot d.path = .ok root) (hr : r ∈ d.imports) :
    ∃ uri location, Schema.Item.importing uri location ∈ Schema.items root ∧
      r = s.recordOf d.path uri location := by
  rw [h.documents] at hd
  rw [(mem_documentsOf_iff.1 hd).2.1, mem_importsOf_iff] at hr
  obtain ⟨m, _, root', hroot', he⟩ := h.reported hr
  rcases report_mem_rootTasks_iff.1 he with he | ⟨i, hi, he⟩ | ⟨_, _, he⟩
  · cases he
  · cases reports_of_mem_itemTasks he with
    | imported uri location =>
        cases Except.ok.inj (hroot.symm.trans hroot'.read)
        exact ⟨uri, location, hi, rfl⟩
  · cases he

/-- What a document records of an include is what some item leads to. -/
theorem included {d : SchemaDocument} {t : Path} {root : Markup.Element}
    (hd : d ∈ c.documents) (hroot : s.readRoot d.path = .ok root) (ht : t ∈ d.includes) :
    ∃ i ∈ Schema.items root, s.leadsTo d.node i = some ⟨t, d.targetNamespace⟩ := by
  rw [h.documents] at hd
  rw [(mem_documentsOf_iff.1 hd).2.2, mem_includesOf_iff] at ht
  obtain ⟨m, _, root', hroot', he⟩ := h.reported ht
  rcases report_mem_rootTasks_iff.1 he with he | ⟨i, hi, he⟩ | ⟨_, _, he⟩
  · cases he
  · cases reports_of_mem_itemTasks he with
    | included hl =>
        cases Except.ok.inj (hroot.symm.trans hroot'.read)
        exact ⟨i, hi, hl⟩
  · cases he

/-- The nodes that the items of a document lead to are documents as well. -/
theorem leads {d : SchemaDocument} {root : Markup.Element} {i : Schema.Item} {m : SchemaNode}
    (hd : d ∈ c.documents) (hroot : s.readRoot d.node.path = .ok root)
    (hi : i ∈ Schema.items root) (hm : s.leadsTo d.node i = some m) :
    m ∈ c.nodes := by
  have hl : Leads s.agenda d.node m := (mem_agenda_enter_iff hroot m).2 ⟨i, hi, hm⟩
  exact h.order.closed (List.mem_map_of_mem hd) List.not_mem_nil hl

/-- What an import finds is a document in the namespace of the import. -/
theorem target_mem_nodes {d : SchemaDocument} {r : ImportRecord} {t : Path}
    (hd : d ∈ c.documents) (hr : r ∈ d.imports) (ht : r.target = some t) :
    ⟨t, r.uri⟩ ∈ c.nodes := by
  obtain ⟨_, root, hroot, _⟩ := h.document hd
  obtain ⟨uri, location, hi, rfl⟩ := h.imported hd hroot.read hr
  have hfound : s.found? d.path uri location = some t := ht
  exact h.leads hd hroot.read hi (by simp [leadsTo, SchemaDocument.node, hfound, recordOf])

/-- What an include finds is a document in the namespace of the document that includes it. -/
theorem include_mem_nodes {d : SchemaDocument} {t : Path}
    (hd : d ∈ c.documents) (ht : t ∈ d.includes) :
    ⟨t, d.targetNamespace⟩ ∈ c.nodes := by
  obtain ⟨_, root, hroot, _⟩ := h.document hd
  obtain ⟨i, hi, hl⟩ := h.included hd hroot.read ht
  exact h.leads hd hroot.read hi hl

end Compiles

end Setting

section Sample

/-- The octets of a schema, given its attributes and the tags inside. -/
def schemaOctets (attributes : String) (tags : List String) : Bytes :=
  ("<schema xmlns='http://www.w3.org/2001/XMLSchema' " :: attributes :: ">" :: tags
    ++ ["</schema>"]).flatMap Utf8.encode

/-- A file system with some files at the top. -/
def topFiles (files : List (String × Bytes)) : FileSystem :=
  ⟨.ofList (files.map fun e => ([Utf8.encode e.1], .file e.2)), []⟩

/-- Four documents: the first includes one that declares no namespace and imports one that
imports the first again and redefines a part of its own namespace. -/
def sample : Setting where
  files := topFiles
    [("main", schemaOctets "targetNamespace='urn:m' xmlns:m='urn:m'"
        ["<include schemaLocation='part'/>", "<import namespace='urn:b' schemaLocation='b'/>",
          "<element name='e' type='m:t'/>"]),
      ("part", schemaOctets "" ["<simpleType name='t'/>", "<attribute name='a' type='t'/>"]),
      ("b", schemaOctets "targetNamespace='urn:b'"
        ["<import namespace='urn:m' schemaLocation='main'/>", "<redefine schemaLocation='c'>",
          "<simpleType name='u'/>", "</redefine>"]),
      ("c", schemaOctets "targetNamespace='urn:b'" ["<simpleType name='u'/>"])]
  resolver := Resolution.miss
  options := .standard

/-- The path of a file at the top. -/
def topPath (name : String) : Path := Path.ofNames [Utf8.encode name]

/-- What the sample compiles to. -/
def sampleSet : CompiledSet where
  entry := topPath "main"
  documents :=
    [⟨topPath "main", some "urn:m", false,
        [⟨some "urn:b", some "b", some (topPath "b"), .located⟩], [topPath "part"]⟩,
      ⟨topPath "part", some "urn:m", true, [], []⟩,
      ⟨topPath "b", some "urn:b", false,
        [⟨some "urn:m", some "main", some (topPath "main"), .located⟩], [topPath "c"]⟩,
      ⟨topPath "c", some "urn:b", false, [], []⟩]
  table :=
    ⟨[⟨.simpleType, .of "urn:m" "t", topPath "part", false⟩,
        ⟨.attribute, .of "urn:m" "a", topPath "part", false⟩,
        ⟨.simpleType, .of "urn:b" "u", topPath "b", true⟩,
        ⟨.element, .of "urn:m" "e", topPath "main", false⟩],
      .ofList
        [((.type, .of "urn:m" "t"), 0), ((.attribute, .of "urn:m" "a"), 1),
          ((.type, .of "urn:b" "u"), 2), ((.element, .of "urn:m" "e"), 3)]⟩

set_option maxRecDepth 10000 in
theorem sample_compiles : (sample.compile (topPath "main")).outcome = .ok sampleSet := by
  decide +kernel

end Sample

end SchemaSet
