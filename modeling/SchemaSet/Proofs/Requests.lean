import SchemaSet.Proofs.Records

/-!
# What the resolver is asked

A `Link` is an element that refers to another document, together with the document that contains it.
`Setting.inquiries` is the agenda of a document as the resolver sees it: the links are asked for in
order, and each is followed by the document that it leads to.

What is asked is a depth-first traversal with that agenda.  So a document that was opened before is
passed over with all that it would ask, and the requests of one that is opened come right after the
request of the link that leads to it.  A compilation asks for the entry and then what its traversal
asks for (`requestsOf_compile`); every link of every document is asked for exactly once
(`compile_asks`).
-/

namespace SchemaSet

/-- What a step asks, and the answer. -/
def Step.inquiry? : Step → Option (Request × Resolution)
  | .asked r answer => some (r, answer)
  | _ => none

theorem requestsOf_eq (steps : List Step) : requestsOf steps = steps.filterMap Step.inquiry? := by
  unfold requestsOf
  congr 1

theorem requestsOf_events (steps : List Step) : requestsOf (events steps) = requestsOf steps :=
  filterMap_events (fun _ => rfl) steps

theorem requestsOf_append (steps steps' : List Step) :
    requestsOf (steps ++ steps') = requestsOf steps ++ requestsOf steps' :=
  List.filterMap_append

theorem requestsOf_told {steps : List Step} (h : ∀ step ∈ steps, step.isTold = true) :
    requestsOf steps = [] := by
  rw [requestsOf_eq, List.filterMap_eq_nil_iff]
  intro step hstep
  obtain ⟨notice, rfl⟩ := Step.eq_told (h step hstep)
  rfl

/-- What is done for each value of a partial function is done for each argument that has one. -/
theorem flatMap_filterMap {α β γ : Type} {f : α → Option β} {g : β → List γ} {p : α → Bool}
    {k : α → List γ} {l : List α}
    (h : ∀ a ∈ l, (f a).elim [] g = if p a then k a else []) :
    (l.filterMap f).flatMap g = (l.filter p).flatMap k := by
  induction l with
  | nil => rfl
  | cons a rest ih =>
      have hrest := ih fun x hx => h x (List.mem_cons_of_mem _ hx)
      have ha := h a List.mem_cons_self
      cases hf : f a <;> cases hp : p a <;> simp_all

namespace Schema

/-- Whether an element refers to another document. -/
def isLink (e : Markup.Element) : Bool := isImport e || isInclusion e

end Schema

/-- An element that refers to another document. -/
structure Link where
  /-- The document that contains it. -/
  source : SchemaNode
  element : Markup.Element

/-- What is asked for a link: its location as written, seen from the document that contains it, and
for an import the namespace, unless it is empty. -/
def Link.request (l : Link) : Request where
  uri := if Schema.isImport l.element then nonEmpty (l.element.attribute? "namespace") else none
  publicId := none
  base := some (Location.path l.source.path).systemId
  literal := l.element.attribute? "schemaLocation"

namespace Setting

section Links

variable (s : Setting)

/-- The links in a document, in document order. -/
def links (n : SchemaNode) : List Link :=
  match s.readRoot n.path with
  | .ok root => (root.children.filter Schema.isLink).map (Link.mk n)
  | .error _ => []

/-- The node that a link leads to: an import to one in its namespace, an include or a redefine to
one in the namespace of the document that contains it. -/
def target? (l : Link) : Option SchemaNode :=
  (s.found? l.source.path l.request.uri l.request.literal).map fun t =>
    ⟨t, if Schema.isImport l.element then l.request.uri else l.source.uri⟩

/-- What following a link brings up: it is asked for, and the node that it leads to is entered. -/
def linkTasks (l : Link) : List (Task SchemaNode Link) :=
  .report l :: (s.target? l).toList.map .enter

/-- What opening a node brings up, as the resolver sees it. -/
def inquiries (n : SchemaNode) : List (Task SchemaNode Link) :=
  (s.links n).flatMap s.linkTasks

end Links

section Agenda

variable {s : Setting} {n : SchemaNode} {root : Markup.Element} {i : Schema.Item}

/-- What is asked for a link, and the answer. -/
def answered (s : Setting) (l : Link) : Request × Resolution := (l.request, s.resolver l.request)

theorem links_eq (h : s.readRoot n.path = .ok root) :
    s.links n = (root.children.filter Schema.isLink).map (Link.mk n) := by
  simp [links, h]

theorem source_of_mem_links {l : Link} (h : l ∈ s.links n) : l.source = n := by
  unfold links at h
  split at h
  · obtain ⟨e, _, rfl⟩ := List.mem_map.1 h
    rfl
  · cases h

theorem inquiries_events (n : SchemaNode) :
    (s.inquiries n).filterMap Task.event? = s.links n := by
  have hlink : ∀ l, (s.linkTasks l).filterMap Task.event? = [l] := by
    intro l
    cases ht : s.target? l <;> simp [linkTasks, ht, Task.event?]
  simp [inquiries, List.filterMap_flatMap, hlink]

/-- An item is asked for if it is to be looked for, and leads to the node that is found. -/
theorem itemTasks_view (i : Schema.Item) :
    (s.itemTasks n i).filterMap (Task.view? Step.inquiry?) =
      (i.inquiry?.toList.map fun q =>
          let request := referenceRequest n.path q.1 q.2
          .report (request, s.resolver request)) ++
        (s.leadsTo n i).toList.map .enter := by
  simp [filterMap_itemTasks, askTask, Task.view?, Step.inquiry?]

/-- A link whose item can be followed is looked for as its request says. -/
theorem inquiry_of_isLink {e : Markup.Element} (h : Schema.isLink e = true)
    (hf : ∀ i, Schema.Item.ofElement e = some i → Followable n i) :
    ∃ i, Schema.Item.ofElement e = some i ∧
      i.inquiry? = some ((Link.mk n e).request.uri, (Link.mk n e).request.literal) ∧
      s.leadsTo n i = s.target? ⟨n, e⟩ := by
  cases himport : Schema.isImport e with
  | true =>
      refine ⟨_, Schema.ofElement_of_isImport himport, ?_, ?_⟩
      · simp [Schema.Item.inquiry?, Link.request, himport]
      · simp [leadsTo, target?, Link.request, himport]
  | false =>
      have hinclusion : Schema.isInclusion e = true := by simpa [Schema.isLink, himport] using h
      obtain ⟨i, hi, hincludes, hinquiry⟩ := Schema.ofElement_of_isInclusion hinclusion
      obtain ⟨l, hl⟩ := inquiry_of_followable (hf i hi) hincludes
      have hlocation : e.attribute? "schemaLocation" = some l := by simpa [hl] using hinquiry.symm
      refine ⟨i, hi, ?_, ?_⟩
      · simp [hl, Link.request, himport, hlocation]
      · simp [leadsTo_of_inquiry hl, hincludes, target?, Link.request, himport, hlocation]

/-- What is no link is not looked for. -/
theorem inquiry_of_not_isLink {e : Markup.Element} (h : Schema.isLink e = false)
    (hi : Schema.Item.ofElement e = some i) : i.inquiry? = none ∧ s.leadsTo n i = none := by
  obtain ⟨himport, hinclusion⟩ := Bool.or_eq_false_iff.1 h
  -- an item that is looked for comes from an element that is a link
  cases i with
  | importing uri location =>
      rw [Schema.isImport_of_ofElement hi] at himport
      cases himport
  | including location =>
      rw [Schema.isInclusion_of_ofElement hi rfl] at hinclusion
      cases hinclusion
  | redefining location ds =>
      rw [Schema.isInclusion_of_ofElement hi rfl] at hinclusion
      cases hinclusion
  | declaring d => exact ⟨rfl, rfl⟩

/-- The agenda of a document, as far as the resolver sees it, is that of its links. -/
theorem agenda_view (h : s.Admits n root) :
    (s.agenda n).filterMap (Task.view? Step.inquiry?) =
      (s.inquiries n).map (Task.map id s.answered) := by
  have hroot : (s.agenda n).filterMap (Task.view? Step.inquiry?) =
      (Schema.items root).flatMap fun i =>
        (s.itemTasks n i).filterMap (Task.view? Step.inquiry?) := by
    simp [agenda_eq h.read, filterMap_rootTasks, Task.view?, Step.inquiry?]
  rw [hroot, inquiries, links_eq h.read, List.map_flatMap, List.flatMap_map, Schema.items]
  -- links are asked for one by one, and no other element is asked for or leads anywhere
  refine flatMap_filterMap fun e he => ?_
  cases hlink : Schema.isLink e with
  | true =>
      have hfollow : ∀ i, Schema.Item.ofElement e = some i → Followable n i :=
        fun i hi => h.items i (List.mem_filterMap.2 ⟨e, he, hi⟩)
      obtain ⟨i, hi, hinquiry, hleads⟩ := inquiry_of_isLink (s := s) hlink hfollow
      rw [hi, Option.elim_some, itemTasks_view, hinquiry, hleads]
      show Task.report (s.answered ⟨n, e⟩) :: _ = (s.linkTasks ⟨n, e⟩).map (Task.map id s.answered)
      cases ht : s.target? ⟨n, e⟩ <;> simp [linkTasks, ht, Task.map]
  | false =>
      cases hi : Schema.Item.ofElement e with
      | none => rfl
      | some i =>
          obtain ⟨hinquiry, hleads⟩ := inquiry_of_not_isLink (s := s) (n := n) hlink hi
          rw [Option.elim_some, itemTasks_view, hinquiry, hleads]
          rfl

end Agenda

/-- What is asked for, seen from the documents of a set. -/
structure AsksEach (s : Setting) (c : CompiledSet) (asked : List Link) : Prop where
  /-- No document occurs twice in one namespace. -/
  distinct : c.nodes.Nodup
  /-- Only links in the documents are asked for. -/
  source : ∀ l ∈ asked, l.source ∈ c.nodes
  /-- Those of one document are all its imports, includes and redefines, in document order. -/
  each : ∀ d ∈ c.documents, ∃ root, s.readRoot d.path = .ok root ∧
    (asked.filter fun l => l.source = d.node).map Link.element =
      root.children.filter Schema.isLink
  /-- A link that leads to a new document is followed by what this document asks for. -/
  nested : ∃ start : SchemaNode, start.path = c.entry ∧
    DepthFirst s.inquiries [] [.enter start] asked c.nodes

section Asked

variable {s : Setting} {entry : Path} {c : CompiledSet} {start : SchemaNode} {es : List Step}

/-- What a traversal asks for are links of the documents. -/
theorem asksEach_of_depthFirst {asked : List Link} (h : s.Compiles entry c start es)
    (hasked : DepthFirst s.inquiries [] [.enter start] asked c.nodes) : s.AsksEach c asked where
  distinct := hasked.nodup .nil
  source := by
    intro l hl
    obtain ⟨n, hn, hreport⟩ := (hasked.reported_iff_of_start l).1 hl
    have hlink : l ∈ s.links n := by
      rw [← inquiries_events]
      exact List.mem_filterMap.2 ⟨_, hreport, rfl⟩
    rwa [source_of_mem_links hlink]
  each := by
    intro d hd
    obtain ⟨hn, root, hroot, _⟩ := h.document hd
    refine ⟨root, hroot.read, ?_⟩
    have hothers : ∀ m, m ≠ d.node → ((s.inquiries m).filterMap Task.event?).filterMap
        (Option.guard fun l => l.source = d.node) = [] := by
      intro m hm
      rw [inquiries_events, List.filterMap_eq_filter, List.filter_eq_nil_iff]
      intro l hl
      simpa [source_of_mem_links hl] using hm
    have hown : ∀ l ∈ s.links d.node, decide (l.source = d.node) = true :=
      fun l hl => decide_eq_true (source_of_mem_links hl)
    rw [← List.filterMap_eq_filter, hasked.filterMap_eq hothers rfl hn List.not_mem_nil,
      inquiries_events, List.filterMap_eq_filter, List.filter_eq_self.2 hown, links_eq hroot.read,
      List.map_map]
    exact List.map_id _
  nested := ⟨start, h.path, hasked⟩

/-- A compilation asks for the entry document, and then what its traversal asks for. -/
theorem requestsOf_compile (h : s.Compiles entry c start es) :
    requestsOf (s.compile entry).notes =
      (entryRequest entry, s.resolver (entryRequest entry)) :: requestsOf es := by
  have htable : (assemble s.options.limits ∅ (s.traverse c.entry).notes).outcome = .ok c.table := by
    rw [outcome_assemble, ← declaredOf_events, ← h.noted, h.table]
  obtain ⟨rest, htold, hnotes⟩ := notes_compile h.canonical htable
  rw [hnotes, requestsOf, List.filterMap_cons_some (by rfl), ← requestsOf, requestsOf_append,
    requestsOf_told htold, List.append_nil, h.noted, requestsOf_events]

/-- Every reference of every document is asked for exactly once, after the entry document: those
of one document in document order, and what a document asks for right after the link that first
leads to it. -/
theorem compile_asks (h : (s.compile entry).outcome = .ok c) :
    ∃ asked : List Link,
      requestsOf (s.compile entry).notes =
        (⟨none, none, none, some (Location.path entry).systemId⟩ ::
          asked.map Link.request).map (fun r => (r, s.resolver r)) ∧
      s.AsksEach c asked := by
  obtain ⟨start, es, hc⟩ := compiles h
  have hview : ∀ n ∈ c.nodes, (s.agenda n).filterMap (Task.view? Step.inquiry?) =
      (s.inquiries n).map (Task.map id s.answered) := by
    intro n hn
    obtain ⟨root, hroot⟩ := hc.admitted n hn
    exact agenda_view hroot
  have hfirst : [Task.enter start].filterMap (Task.view? Step.inquiry?) =
      [Task.enter start].map (Task.map id s.answered) := rfl
  obtain ⟨asked, hasked, hrequests⟩ := hc.order.view hfirst hview
  refine ⟨asked, ?_, asksEach_of_depthFirst hc hasked⟩
  rw [requestsOf_compile hc, requestsOf_eq, hrequests]
  simp [entryRequest, answered]

theorem sample_asks :
    (sample.compile (topPath "main")).outcome = .ok sampleSet ∧
      ∃ asked : List Link,
        requestsOf (sample.compile (topPath "main")).notes =
          (⟨none, none, none, some (Location.path (topPath "main")).systemId⟩ ::
            asked.map Link.request).map (fun r => (r, sample.resolver r)) ∧
        sample.AsksEach sampleSet asked :=
  ⟨sample_compiles, compile_asks sample_compiles⟩

end Asked

end Setting
end SchemaSet
