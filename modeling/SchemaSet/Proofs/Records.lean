import Mathlib.Data.List.Forall2
import SchemaSet.Proofs.Compiled

/-!
# What documents record of their references

`Setting.Becomes` says what an import, an include or a redefine leads to: the document that the
resolver names, or else the one at the location that is written, or else none.  It looks at the
resolver and the file system alone, which determine what becomes of a reference
(`Becomes.unique`).

Opening other documents between two records of a document leaves the records alone: no other agenda
reports anything of the document (`source_of_reported`).  So what is recorded of a document is what
its items report, in order (`Compiles.imports_eq`, `Compiles.includes_eq`), and the records tell
what the elements of the document lead to (`compile_records`).
-/

namespace SchemaSet

/-- A list whose elements are turned into others, some of them into none, has one of these for each
that is turned into one. -/
theorem forall₂_filterMap {α β : Type} {R : α → β → Prop} {p : α → Bool} {f : α → Option β}
    {l : List α} (h : ∀ a ∈ l, if p a then ∃ b, f a = some b ∧ R a b else f a = none) :
    List.Forall₂ R (l.filter p) (l.filterMap f) := by
  induction l with
  | nil => exact .nil
  | cons a rest ih =>
      have hrest := ih fun x hx => h x (List.mem_cons_of_mem _ hx)
      have ha := h a List.mem_cons_self
      cases hp : p a with
      | true =>
          obtain ⟨b, hb, hr⟩ : ∃ b, f a = some b ∧ R a b := by simpa [hp] using ha
          rw [List.filter_cons_of_pos hp, List.filterMap_cons_some hb]
          exact .cons hr hrest
      | false =>
          have hnone : f a = none := by simpa [hp] using ha
          rwa [List.filter_cons_of_neg (by simp [hp]), List.filterMap_cons_none hnone]

/-- The document that a step records a reference of. -/
def Step.source? : Step → Option SchemaNode
  | .imported n _ => some n
  | .included n _ => some n
  | _ => none

namespace Schema

/-- Whether an element imports a document. -/
def isImport (e : Markup.Element) : Bool := e.isXsd && e.name.localName == "import"

/-- Whether an element includes or redefines a document. -/
def isInclusion (e : Markup.Element) : Bool :=
  e.isXsd && (e.name.localName == "include" || e.name.localName == "redefine")

variable {e : Markup.Element} {i : Item}

theorem ofElement_of_isImport (h : isImport e = true) :
    Item.ofElement e =
      some (.importing (nonEmpty (e.attribute? "namespace")) (e.attribute? "schemaLocation")) := by
  simp only [isImport, Bool.and_eq_true, beq_iff_eq] at h
  exact ofElement_eq_importing_iff.2 ⟨h.1, h.2, rfl, rfl⟩

theorem isImport_of_ofElement {uri location : Option String}
    (h : Item.ofElement e = some (.importing uri location)) : isImport e = true := by
  obtain ⟨hxsd, hname, _, _⟩ := ofElement_eq_importing_iff.1 h
  simp [isImport, hxsd, hname]

/-- An include or a redefine is looked for at its location. -/
theorem ofElement_of_isInclusion (h : isInclusion e = true) :
    ∃ i, Item.ofElement e = some i ∧ i.isInclusion = true ∧
      i.inquiry? = (e.attribute? "schemaLocation").map fun l => (none, some l) := by
  simp only [isInclusion, Bool.and_eq_true, Bool.or_eq_true, beq_iff_eq] at h
  obtain ⟨hxsd, hname | hname⟩ := h
  · exact ⟨.including (e.attribute? "schemaLocation"), by simp [Item.ofElement, hxsd, hname], rfl,
      rfl⟩
  · exact ⟨_, ofElement_eq_redefining_iff.2 ⟨hxsd, hname, rfl, rfl⟩, rfl, rfl⟩

theorem isInclusion_of_ofElement (h : Item.ofElement e = some i) (hi : i.isInclusion = true) :
    isInclusion e = true := by
  cases i with
  | importing uri location => cases hi
  | including location =>
      unfold Item.ofElement at h
      split at h
      · rename_i hxsd
        dsimp only at h
        split at h
        · cases h
        · split at h
          · rename_i hname
            simp [isInclusion, hxsd, hname]
          · split at h
            · cases h
            · cases hd : Declaration.ofElement e <;> simp [hd] at h
      · cases h
  | redefining location ds =>
      obtain ⟨hxsd, hname, _, _⟩ := ofElement_eq_redefining_iff.1 h
      simp [isInclusion, hxsd, hname]
  | declaring d => cases hi

end Schema

namespace Setting

section Reported

variable {s : Setting} {m n : SchemaNode} {root : Markup.Element}

/-- Only the agenda of a document reports what is recorded of it. -/
theorem source_of_reported {e : Step} (h : Task.report e ∈ s.agenda m)
    (he : e.source? = some n) : m = n := by
  unfold agenda at h
  split at h
  · rcases report_mem_rootTasks_iff.1 h with rfl | ⟨i, _, hi⟩ | ⟨_, _, rfl⟩
    · cases he
    · cases reports_of_mem_itemTasks hi with
      | asked _ _ => cases he
      | included _ => exact Option.some.inj he
      | imported _ _ => exact Option.some.inj he
      | declared _ => cases he
    · cases he
  · cases h

variable {β : Type} {f : Step → Option β}

/-- What is recorded of a document is what its items report, in order, whatever other documents
are opened in between. -/
theorem Covers.filterMap_eq {start : SchemaNode} {es : List Step} {nodes : List SchemaNode}
    (h : s.Covers start es nodes) (hn : n ∈ nodes) (hroot : s.readRoot n.path = .ok root)
    (hf : ∀ e, e.source? ≠ some n → f e = none) :
    es.filterMap f = (Schema.items root).flatMap fun i =>
      ((s.itemTasks n i).filterMap Task.event?).filterMap f := by
  -- whatever is opened between two records of the document, the view shows nothing of it
  have hothers : ∀ m, m ≠ n → ((s.agenda m).filterMap Task.event?).filterMap f = [] := by
    intro m hm
    rw [List.filterMap_eq_nil_iff]
    intro e he
    obtain ⟨task, htask, hevent⟩ := List.mem_filterMap.1 he
    cases task with
    | enter node => cases hevent
    | report event =>
        cases hevent
        exact hf e fun hsource => hm (source_of_reported htask hsource)
  have hreferred : ∀ r, f (.referred r) = none := fun r => hf _ nofun
  have hopened : f (.opened n (Schema.adopts root n.uri)) = none := hf _ nofun
  rw [h.order.filterMap_eq hothers rfl hn List.not_mem_nil, agenda_eq hroot,
    List.filterMap_filterMap, filterMap_rootTasks]
  simp [Task.event?, hreferred, hopened, List.filterMap_filterMap]

theorem importsOf_itemTasks (i : Schema.Item) :
    importsOf n ((s.itemTasks n i).filterMap Task.event?) = (s.importedBy n i).toList := by
  simp [importsOf, filterMap_itemTasks, askTask, Task.event?]

theorem includesOf_itemTasks (i : Schema.Item) :
    includesOf n ((s.itemTasks n i).filterMap Task.event?) = (s.includedBy n i).toList := by
  simp [includesOf, filterMap_itemTasks, askTask, Task.event?]

end Reported

namespace Compiles

variable {s : Setting} {entry : Path} {c : CompiledSet} {start : SchemaNode} {es : List Step}
variable {d : SchemaDocument} {root : Markup.Element}

/-- A document records its imports in order. -/
theorem imports_eq (h : s.Compiles entry c start es) (hd : d ∈ c.documents)
    (hroot : s.readRoot d.path = .ok root) :
    d.imports = (Schema.items root).filterMap (s.importedBy d.node) := by
  have hmem : d.node ∈ c.nodes := List.mem_map_of_mem hd
  rw [h.documents] at hd
  rw [(mem_documentsOf_iff.1 hd).2.1, importsOf, h.covers.filterMap_eq hmem hroot,
    List.filterMap_eq_flatMap_toList]
  · exact List.flatMap_congr fun i _ => importsOf_itemTasks i
  · intro e he
    cases e with
    | imported n r => exact if_neg fun heq => he (congrArg some heq)
    | _ => rfl

/-- A document records what it includes and redefines in order. -/
theorem includes_eq (h : s.Compiles entry c start es) (hd : d ∈ c.documents)
    (hroot : s.readRoot d.path = .ok root) :
    d.includes = (Schema.items root).filterMap (s.includedBy d.node) := by
  have hmem : d.node ∈ c.nodes := List.mem_map_of_mem hd
  rw [h.documents] at hd
  rw [(mem_documentsOf_iff.1 hd).2.2, includesOf, h.covers.filterMap_eq hmem hroot,
    List.filterMap_eq_flatMap_toList]
  · exact List.flatMap_congr fun i _ => includesOf_itemTasks i
  · intro e he
    cases e with
    | included n t => exact if_neg fun heq => he (congrArg some heq)
    | _ => rfl

end Compiles

section Inquiries

variable {s : Setting} {n : SchemaNode} {i : Schema.Item}

/-- An include or a redefine that can be followed has a location. -/
theorem inquiry_of_followable (h : Followable n i) (hi : i.isInclusion = true) :
    ∃ l, i.inquiry? = some (none, some l) := by
  cases i with
  | importing uri location => cases hi
  | including location =>
      obtain ⟨l, rfl⟩ := Option.isSome_iff_exists.1 h
      exact ⟨l, rfl⟩
  | redefining location ds =>
      obtain ⟨l, rfl⟩ := Option.isSome_iff_exists.1 h.1
      exact ⟨l, rfl⟩
  | declaring d => cases hi

/-- An item leads to the document that is found for it. -/
theorem path_leadsTo {uri location : Option String} (hi : i.inquiry? = some (uri, location)) :
    (s.leadsTo n i).map SchemaNode.path = s.found? n.path uri location := by
  simp [leadsTo_of_inquiry hi, Function.comp_def]

/-- What can be located can be looked for. -/
theorem findable_of_locatable {uri location : Option String}
    (hi : i.inquiry? = some (uri, location)) (h : s.Locatable n i) :
    s.Findable n.path uri location := by
  rcases i with _ | (_ | l) | ⟨_ | l, ds⟩ | d
  · cases hi
    exact h.1
  · cases hi
  · cases hi
    exact (h l rfl).1
  · cases hi
  · cases hi
    exact (h l rfl).1
  · cases hi

end Inquiries

section Outcomes

variable (s : Setting)

/-- A location that is written in the document at `base` leads to a local file. -/
def HintsAt (base : Path) (location : Option String) (target : Path) : Prop :=
  ∃ l p, location = some l ∧ (Location.path base).join l = .ok (.path p) ∧
    s.files.canonicalize p = .ok target

/-- What becomes of a reference in the document at `base`: what it leads to, and how that was
found. -/
inductive Becomes (base : Path) (uri location : Option String) :
    Option Path → ImportOutcome → Prop
  | resolved {answer : ResolvedEntity} {target : Path} :
      s.resolver (referenceRequest base uri location) = .resolved answer →
      s.files.canonicalize answer.systemId = .ok target →
      Becomes base uri location (some target) .resolved
  | located {target : Path} :
      (s.resolver (referenceRequest base uri location)).isResolved = false →
      s.HintsAt base location target →
      Becomes base uri location (some target) .located
  | builtIn :
      (s.resolver (referenceRequest base uri location)).isResolved = false →
      (∀ target, ¬ s.HintsAt base location target) →
      uri = some Vocabulary.xsd ∨ uri = some Vocabulary.xml →
      Becomes base uri location none .builtIn
  | missing :
      (s.resolver (referenceRequest base uri location)).isResolved = false →
      (∀ target, ¬ s.HintsAt base location target) →
      uri ≠ some Vocabulary.xsd → uri ≠ some Vocabulary.xml →
      Becomes base uri location none .missing

/-- A record of an import tells what stands there and what became of it. -/
structure RecordsImport (base : Path) (e : Markup.Element) (r : ImportRecord) : Prop where
  uri : r.uri = nonEmpty (e.attribute? "namespace")
  schemaLocation : r.schemaLocation = e.attribute? "schemaLocation"
  becomes : s.Becomes base r.uri r.schemaLocation r.target r.outcome

/-- An include or a redefine leads to a document, or to none. -/
def LeadsAt (base : Path) (e : Markup.Element) (target : Option Path) : Prop :=
  ∃ outcome, s.Becomes base none (e.attribute? "schemaLocation") target outcome

/-- A document has one record for each import inside the root, and lists the documents that the
includes and redefines there lead to, all in document order. -/
structure RecordsAll (d : SchemaDocument) (root : Markup.Element) : Prop where
  imports : List.Forall₂ (s.RecordsImport d.path) (root.children.filter Schema.isImport) d.imports
  includes : ∃ targets,
    List.Forall₂ (s.LeadsAt d.path) (root.children.filter Schema.isInclusion) targets ∧
      d.includes = targets.reduceOption

variable {s} {base : Path} {uri location : Option String}

theorem hintsAt_iff {target : Path} :
    s.HintsAt base location target ↔ location.bind (s.hinted? base) = some target := by
  cases location with
  | none => simp [HintsAt]
  | some l =>
      simp only [HintsAt, Option.some.injEq, Option.bind_some, hinted?]
      cases hjoin : (Location.path base).join l with
      | error e => simp [hjoin]
      | ok place =>
          cases place with
          | path p => simp [hjoin, toOption_eq_some_iff]
          | url u => simp [hjoin]
          | memory text => simp [hjoin]

/-- What the resolver does not name is looked for at the location that is written. -/
theorem found?_of_not_resolved
    (h : (s.resolver (referenceRequest base uri location)).isResolved = false) :
    s.found? base uri location = location.bind (s.hinted? base) := by
  unfold found?
  split
  · rename_i e he
    rw [he] at h
    cases h
  · rfl

/-- What the resolver names can be found if it can be looked for. -/
theorem found?_of_resolved {answer : ResolvedEntity} (h : s.Findable base uri location)
    (hanswer : s.resolver (referenceRequest base uri location) = .resolved answer) :
    ∃ target, s.files.canonicalize answer.systemId = .ok target ∧
      s.found? base uri location = some target := by
  obtain ⟨found, hfound⟩ := h
  obtain ⟨resolution, hask, hrest⟩ := Journal.outcome_bind_eq_ok_iff.1 hfound
  cases hask
  simp only [hanswer] at hrest
  obtain ⟨target, htarget, _⟩ := Journal.outcome_bind_eq_ok_iff.1 hrest
  have hcanonical : s.files.canonicalize answer.systemId = .ok target :=
    canonicalize_of_canonical htarget
  exact ⟨target, hcanonical, by simp [found?, hanswer, hcanonical, Except.toOption]⟩

/-- A reference that can be looked for becomes what is found for it. -/
theorem becomes_of_findable (h : s.Findable base uri location) :
    s.Becomes base uri location (s.found? base uri location)
      (.of uri (s.found? base uri location) (s.isNamed base uri location)) := by
  unfold isNamed
  cases hr : (s.resolver (referenceRequest base uri location)).isResolved with
  | true =>
      obtain ⟨answer, hanswer⟩ : ∃ answer,
          s.resolver (referenceRequest base uri location) = .resolved answer := by
        cases hresolver : s.resolver (referenceRequest base uri location) with
        | resolved answer => exact ⟨answer, rfl⟩
        | _ => simp [hresolver, Resolution.isResolved] at hr
      obtain ⟨target, hcanonical, hfound⟩ := found?_of_resolved h hanswer
      rw [hfound]
      exact .resolved hanswer hcanonical
  | false =>
      cases hfound : s.found? base uri location with
      | some target =>
          rw [found?_of_not_resolved hr] at hfound
          exact .located hr (hintsAt_iff.2 hfound)
      | none =>
          rw [found?_of_not_resolved hr] at hfound
          have hnowhere : ∀ target, ¬ s.HintsAt base location target := by
            intro target htarget
            rw [hintsAt_iff, hfound] at htarget
            cases htarget
          cases hneeds : needsNoDocument uri with
          | true =>
              rw [ImportOutcome.of, hneeds]
              exact .builtIn hr hnowhere (by simpa [needsNoDocument] using hneeds)
          | false =>
              rw [ImportOutcome.of, hneeds]
              have hboth : uri ≠ some Vocabulary.xsd ∧ uri ≠ some Vocabulary.xml := by
                simpa [needsNoDocument] using hneeds
              exact .missing hr hnowhere hboth.1 hboth.2

/-- What becomes of a reference is determined. -/
theorem Becomes.unique {target target' : Option Path} {outcome outcome' : ImportOutcome}
    (h : s.Becomes base uri location target outcome)
    (h' : s.Becomes base uri location target' outcome') :
    target = target' ∧ outcome = outcome' := by
  have hnamed : ∀ {answer},
      s.resolver (referenceRequest base uri location) = .resolved answer →
      (s.resolver (referenceRequest base uri location)).isResolved ≠ false := by
    intro answer hanswer
    rw [hanswer]
    nofun
  cases h with
  | resolved hanswer hcanonical =>
      cases h' with
      | resolved hanswer' hcanonical' =>
          cases Resolution.resolved.inj (hanswer.symm.trans hanswer')
          cases Except.ok.inj (hcanonical.symm.trans hcanonical')
          exact ⟨rfl, rfl⟩
      | located hr _ => exact absurd hr (hnamed hanswer)
      | builtIn hr _ _ => exact absurd hr (hnamed hanswer)
      | missing hr _ _ _ => exact absurd hr (hnamed hanswer)
  | located hr hat =>
      cases h' with
      | resolved hanswer _ => exact absurd hr (hnamed hanswer)
      | located _ hat' => exact ⟨(hintsAt_iff.1 hat).symm.trans (hintsAt_iff.1 hat'), rfl⟩
      | builtIn _ hnowhere _ => exact absurd hat (hnowhere _)
      | missing _ hnowhere _ _ => exact absurd hat (hnowhere _)
  | builtIn hr hnowhere hneeds =>
      cases h' with
      | resolved hanswer _ => exact absurd hr (hnamed hanswer)
      | located _ hat => exact absurd hat (hnowhere _)
      | builtIn _ _ _ => exact ⟨rfl, rfl⟩
      | missing _ _ hxsd hxml => exact absurd hneeds (not_or.2 ⟨hxsd, hxml⟩)
  | missing hr hnowhere hxsd hxml =>
      cases h' with
      | resolved hanswer _ => exact absurd hr (hnamed hanswer)
      | located _ hat => exact absurd hat (hnowhere _)
      | builtIn _ _ hneeds => exact absurd hneeds (not_or.2 ⟨hxsd, hxml⟩)
      | missing _ _ _ _ => exact ⟨rfl, rfl⟩

end Outcomes

section Recorded

variable {s : Setting} {entry : Path} {c : CompiledSet} {start : SchemaNode} {es : List Step}
variable {d : SchemaDocument} {root : Markup.Element}

/-- The records of imports are those of the elements that import. -/
theorem Compiles.recordsImports (h : s.Compiles entry c start es) (hd : d ∈ c.documents)
    (hroot : s.readRoot d.path = .ok root)
    (hlocatable : ∀ i ∈ Schema.items root, s.Locatable d.node i) :
    List.Forall₂ (s.RecordsImport d.path) (root.children.filter Schema.isImport) d.imports := by
  rw [h.imports_eq hd hroot, Schema.items, List.filterMap_filterMap]
  refine forall₂_filterMap fun e he => ?_
  split
  · rename_i himport
    have hi := Schema.ofElement_of_isImport himport
    have hmem := List.mem_filterMap.2 ⟨e, he, hi⟩
    rw [hi]
    exact ⟨_, rfl, rfl, rfl, becomes_of_findable (hlocatable _ hmem).1⟩
  · rename_i himport
    cases hi : Schema.Item.ofElement e with
    | none => rfl
    | some i =>
        cases i with
        | importing uri location => exact absurd (Schema.isImport_of_ofElement hi) himport
        | _ => rfl

/-- The documents that are listed are those that the includes and redefines lead to. -/
theorem Compiles.recordsIncludes (h : s.Compiles entry c start es) (hd : d ∈ c.documents)
    (hadmits : s.Admits d.node root)
    (hlocatable : ∀ i ∈ Schema.items root, s.Locatable d.node i) :
    ∃ targets,
      List.Forall₂ (s.LeadsAt d.path) (root.children.filter Schema.isInclusion) targets ∧
        d.includes = targets.reduceOption := by
  refine ⟨root.children.filterMap fun e => (Schema.Item.ofElement e).bind fun i =>
    if i.isInclusion then some ((s.leadsTo d.node i).map SchemaNode.path) else none, ?_, ?_⟩
  · refine forall₂_filterMap fun e he => ?_
    split
    · rename_i hinclusion
      obtain ⟨i, hi, hincludes, hinquiry⟩ := Schema.ofElement_of_isInclusion hinclusion
      have hmem : i ∈ Schema.items root := List.mem_filterMap.2 ⟨e, he, hi⟩
      -- one without a location is refused, so there is a location to look at
      obtain ⟨l, hl⟩ := inquiry_of_followable (hadmits.items i hmem) hincludes
      have hlocation : e.attribute? "schemaLocation" = some l := by simpa [hl] using hinquiry.symm
      rw [hi, Option.bind_some, if_pos hincludes, path_leadsTo hl]
      have hbecomes := becomes_of_findable (findable_of_locatable hl (hlocatable i hmem))
      rw [← hlocation] at hbecomes ⊢
      exact ⟨_, rfl, _, hbecomes⟩
    · rename_i hinclusion
      cases hi : Schema.Item.ofElement e with
      | none => rfl
      | some i => exact if_neg fun hincludes =>
          hinclusion (Schema.isInclusion_of_ofElement hi hincludes)
  · have hreduce : ∀ targets : List (Option Path),
        targets.reduceOption = targets.filterMap id := fun _ => rfl
    rw [h.includes_eq hd hadmits.read, Schema.items, List.filterMap_filterMap, hreduce,
      List.filterMap_filterMap]
    refine List.filterMap_congr fun e _ => ?_
    cases Schema.Item.ofElement e with
    | none => rfl
    | some i => cases hi : i.isInclusion <;> simp [includedBy, hi]

theorem Compiles.recordsAll (h : s.Compiles entry c start es) (hd : d ∈ c.documents) :
    ∃ root, s.readRoot d.path = .ok root ∧ s.RecordsAll d root := by
  obtain ⟨root, hadmits, hlocatable⟩ := h.permitted.admitted d.node (List.mem_map_of_mem hd)
  exact ⟨root, hadmits.read, h.recordsImports hd hadmits.read hlocatable,
    h.recordsIncludes hd hadmits hlocatable⟩

/-- Every document records all its references, in order: each import with what stands there and
what became of it, and of the includes and redefines the documents that they lead to. -/
theorem compile_records (h : (s.compile entry).outcome = .ok c) :
    ∀ d ∈ c.documents, ∃ root, s.readRoot d.path = .ok root ∧ s.RecordsAll d root := by
  obtain ⟨start, es, hc⟩ := compiles h
  exact fun d hd => hc.recordsAll hd

theorem sample_records :
    (sample.compile (topPath "main")).outcome = .ok sampleSet ∧
      ∀ d ∈ sampleSet.documents, ∃ root, sample.readRoot d.path = .ok root ∧
        sample.RecordsAll d root :=
  ⟨sample_compiles, compile_records sample_compiles⟩

end Recorded

end Setting
end SchemaSet
