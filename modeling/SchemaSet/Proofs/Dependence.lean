import SchemaSet.Proofs.Completion
import SchemaSet.Proofs.IndexedImports
import SchemaSet.Proofs.Records
import SchemaSet.Proofs.Retention

/-!
# What a compilation depends on

A compilation that succeeds is repeated in another setting with the same options.  `Setting.Shows`
says that a node is shown in both: its document is the same, and so is the answer to each question
that its items ask.

The agenda of a node is made of what the node shows, and a descent depends only on the agendas of
the nodes that it enters (`Descent.congr`).  So what is descended in the one setting is descended in
the other, whatever else there is in its files or its index (`compile_of_shows`).  In particular, a
compilation that an index serves depends only on the namespaces that are imported and the locations
that are written (`Index.compile_of_retains`).
-/

namespace SchemaSet

section Congruence

variable {ν ω : Type} {agenda agenda' : ν → List (Task ν ω)} {Enters Enters' : ν → Nat → ν → Prop}

/-- A descent depends only on the agendas of the nodes that it enters. -/
theorem Descent.congr {parent : ν} {depth : Nat} {seen out : List ν} {tasks : List (Task ν ω)}
    {events : List ω} (h : Descent agenda Enters parent depth seen tasks events out)
    (hp : parent ∈ seen) (ha : ∀ n ∈ out, agenda' n = agenda n)
    (he : ∀ m ∈ out, ∀ n ∈ out, ∀ d, Enters m d n → Enters' m d n) :
    Descent agenda' Enters' parent depth seen tasks events out := by
  have hid : ∀ tasks : List (Task ν ω), tasks.map (Task.map id id) = tasks := by
    intro tasks
    rw [show (Task.map id id : Task ν ω → Task ν ω) = id from ?_, List.map_id]
    funext task
    cases task <;> rfl
  have hmap : Descent agenda' Enters' (id parent) depth (seen.map id)
      (tasks.map (Task.map id id)) (events.map id) (out.map id) :=
    h.map (fun _ _ _ _ heq => heq) hp (fun n hn => (ha n hn).trans (hid _).symm) he
  rwa [hid, List.map_id, List.map_id, List.map_id] at hmap

end Congruence

namespace Setting

/-- Looking for the target of a reference ends in the same way in both settings. -/
structure Agrees (s s' : Setting) (base : Path) (uri location : Option String) : Prop where
  answer : s'.resolver (referenceRequest base uri location) =
    s.resolver (referenceRequest base uri location)
  found : s'.found? base uri location = s.found? base uri location
  findable : s.Findable base uri location → s'.Findable base uri location

/-- A node with a given root is shown in both settings. -/
structure Shows (s s' : Setting) (n : SchemaNode) (root : Markup.Element) : Prop where
  canonical : ∃ q, s'.files.canonicalize q = .ok n.path
  read : s'.readRoot n.path = .ok root
  /-- Each item of its document asks for the same. -/
  agrees : ∀ i ∈ Schema.items root, ∀ uri location, i.inquiry? = some (uri, location) →
    s.Agrees s' n.path uri location

section Tasks

variable {s s' : Setting} {n : SchemaNode} {root : Markup.Element} {i : Schema.Item}

section Finding

variable {base : Path} {uri location : Option String}

/-- A written location leads to the same document if the path that it names does. -/
theorem locateHint_congr {l : String} (h : ∀ q, (Location.path base).join l = .ok (.path q) →
      s'.files.canonicalize q = s.files.canonicalize q) :
    s'.locateHint base l = s.locateHint base l := by
  refine Journal.bind_congr_ok fun target htarget => ?_
  cases target with
  | path q => simp only [h q htarget]
  | url u => rfl
  | memory content => rfl

theorem hinted?_congr {l : String} (h : ∀ q, (Location.path base).join l = .ok (.path q) →
      s'.files.canonicalize q = s.files.canonicalize q) :
    s'.hinted? base l = s.hinted? base l := by
  unfold hinted?
  split
  · rename_i q hq
    rw [h q hq]
  · rfl

section Answers

variable (hanswer : s'.resolver (referenceRequest base uri location) =
  s.resolver (referenceRequest base uri location))
variable (hnamed : ∀ e, s.resolver (referenceRequest base uri location) = .resolved e →
  s'.files.canonicalize e.systemId = s.files.canonicalize e.systemId)
variable (hwritten : ∀ l, location = some l → ∀ q, (Location.path base).join l = .ok (.path q) →
  s'.files.canonicalize q = s.files.canonicalize q)
include hanswer hnamed hwritten

theorem found?_congr : s'.found? base uri location = s.found? base uri location := by
  have hhint : location.bind (s'.hinted? base) = location.bind (s.hinted? base) := by
    cases location with
    | none => rw [Option.bind_none, Option.bind_none]
    | some l => exact hinted?_congr (hwritten l rfl)
  unfold found?
  rw [hanswer]
  cases hr : s.resolver (referenceRequest base uri location) with
  | resolved e =>
      dsimp only
      rw [hnamed e hr]
  | skip => exact hhint
  | unresolved key => exact hhint

theorem find_congr : s'.find base uri location = s.find base uri location := by
  have hlocate : s'.locateWritten base location = s.locateWritten base location := by
    cases location with
    | none => rfl
    | some l => exact locateHint_congr (hwritten l rfl)
  have hask : s'.ask (referenceRequest base uri location) =
      s.ask (referenceRequest base uri location) := by rw [ask, ask, hanswer]
  rw [find, find, hask]
  refine Journal.bind_congr_ok fun answer hanswered => ?_
  cases answer with
  | resolved e =>
      have hcanonical : s'.canonical e.systemId = s.canonical e.systemId := by
        rw [canonical, canonical, hnamed e (Except.ok.inj hanswered)]
      simp only [hcanonical]
  | skip => simp only [hlocate]
  | unresolved key => simp only [hlocate]

/-- What is found for a reference depends on the answer of the resolver and on the path that is
named or written. -/
theorem Agrees.of_canonicalize : s.Agrees s' base uri location where
  answer := hanswer
  found := found?_congr hanswer hnamed hwritten
  findable := by
    rw [Findable, Findable, find_congr hanswer hnamed hwritten]
    exact id

end Answers

end Finding

theorem itemTasks_of_agrees
    (h : ∀ uri location, i.inquiry? = some (uri, location) → s.Agrees s' n.path uri location) :
    s'.itemTasks n i = s.itemTasks n i := by
  have hinclude : ∀ l, s.Agrees s' n.path none (some l) →
      s'.includeTasks n (some l) = s.includeTasks n (some l) := by
    intro l hl
    simp only [includeTasks, askTask, hl.answer, hl.found]
  rcases i with ⟨uri, location⟩ | (_ | l) | ⟨_ | l, ds⟩ | d
  · have hagrees := h uri location rfl
    simp only [itemTasks, importTasks, askTask, recordOf, isNamed, hagrees.answer, hagrees.found]
  · rfl
  · exact hinclude l (h none (some l) rfl)
  · rfl
  · rw [itemTasks, itemTasks, hinclude l (h none (some l) rfl)]
  · rfl

theorem Locatable.of_agrees (hoptions : s'.options = s.options)
    (h : ∀ uri location, i.inquiry? = some (uri, location) → s.Agrees s' n.path uri location)
    (hl : s.Locatable n i) : s'.Locatable n i := by
  have hinclusion : ∀ location, (∀ l, location = some l → s.Agrees s' n.path none (some l)) →
      s.Locatable n (.including location) → s'.Locatable n (.including location) := by
    intro location hagrees hl l hlocation
    obtain ⟨hfindable, hfound⟩ := hl l hlocation
    refine ⟨(hagrees l hlocation).findable hfindable, ?_⟩
    rw [hoptions, (hagrees l hlocation).found]
    exact hfound
  cases i with
  | importing uri location =>
      have hagrees := h uri location rfl
      refine ⟨hagrees.findable hl.1, ?_⟩
      rw [hoptions, hagrees.found]
      exact hl.2
  | including location =>
      refine hinclusion location ?_ hl
      rintro l rfl
      exact h none (some l) rfl
  | redefining location ds =>
      refine hinclusion location ?_ hl
      rintro l rfl
      exact h none (some l) rfl
  | declaring d => trivial

namespace Shows

variable (h : s.Shows s' n root)
include h

theorem agenda_eq (hread : s.readRoot n.path = .ok root) : s'.agenda n = s.agenda n := by
  rw [Setting.agenda_eq h.read, Setting.agenda_eq hread, rootTasks, rootTasks]
  congr 2
  rw [List.flatMap_def, List.flatMap_def]
  exact congrArg _ (List.map_congr_left fun i hi => itemTasks_of_agrees (h.agrees i hi))

theorem admits (ha : s.Admits n root) : s'.Admits n root where
  canonical := h.canonical
  read := h.read
  declared := ha.declared
  items := ha.items
  tokens := ha.tokens

theorem enters {parent : SchemaNode} {depth : Nat} (hoptions : s'.options = s.options)
    (hread : s.readRoot n.path = .ok root) (he : s.Enters parent depth n) :
    s'.Enters parent depth n where
  depth := by
    rw [hoptions]
    exact he.depth
  declared := by
    refine he.declared.imp id ?_
    rintro ⟨root', hread', hdeclared⟩
    cases hread.symm.trans hread'
    exact ⟨root, h.read, hdeclared⟩

end Shows

end Tasks

/-- A compilation depends only on what the documents that it opens ask for. -/
theorem compile_of_shows {s s' : Setting} {entry : Path} {c : CompiledSet}
    (h : (s.compile entry).outcome = .ok c) (hoptions : s'.options = s.options)
    (hentry : s'.files.canonicalize ((s'.resolver (entryRequest entry)).systemId.getD entry) =
      .ok c.entry)
    (hshows : ∀ n ∈ c.nodes, ∀ root, s.Admits n root →
      (∀ i ∈ Schema.items root, s.Locatable n i) → s.Shows s' n root) :
    (s'.compile entry).outcome = .ok c := by
  obtain ⟨start, es, hc⟩ := compiles h
  have hshown : ∀ n ∈ c.nodes, ∃ root, s.Admits n root ∧
      (∀ i ∈ Schema.items root, s.Locatable n i) ∧ s.Shows s' n root := by
    intro n hn
    obtain ⟨root, ha, hl⟩ := hc.permitted.admitted n hn
    exact ⟨root, ha, hl, hshows n hn root ha hl⟩
  have hagenda : ∀ n ∈ c.nodes, s'.agenda n = s.agenda n := by
    intro n hn
    obtain ⟨root, ha, _, hnode⟩ := hshown n hn
    exact hnode.agenda_eq ha.read
  have hstart : start ∈ c.nodes := hc.descent.depthFirst.seen_subset List.mem_cons_self
  have hdescent : Descent s'.agenda s'.Enters start 0 [start] (s'.agenda start) es c.nodes := by
    rw [hagenda start hstart]
    refine hc.descent.congr List.mem_cons_self hagenda fun m _ n hn d he => ?_
    obtain ⟨root, ha, _, hnode⟩ := hshown n hn
    exact hnode.enters hoptions ha.read he
  have hpermits : s'.Permits c.nodes := by
    refine ⟨fun n hn => ?_, by rw [hoptions]; exact hc.permitted.counted⟩
    obtain ⟨root, ha, hl, hnode⟩ := hshown n hn
    exact ⟨root, hnode.admits ha, fun i hi => (hl i hi).of_agrees hoptions (hnode.agrees i hi)⟩
  have hdeclared : ∃ root, s'.readRoot start.path = .ok root ∧
      Schema.declaredNamespace root = start.uri := by
    obtain ⟨root, hread, hdeclared⟩ := hc.declared
    obtain ⟨root', ha, _, hnode⟩ := hshown start hstart
    cases hread.symm.trans ha.read
    exact ⟨root, hnode.read, hdeclared⟩
  have hcompiled := compile_completes (by rw [hentry, hc.path]) hdeclared hdescent hpermits
    (by rw [hoptions]; exact hc.table) hc.lands
  rw [hcompiled, hc.path, ← hc.documents]

/-- The paths that the locations written in a document name, in document order. -/
def hints (s : Setting) (d : SchemaDocument) : List Path :=
  match s.readRoot d.path with
  | .ok root =>
      (Schema.items root).filterMap fun i => do
        let (_, location) ← i.inquiry?
        let target ← ((Location.path d.path).join (← location)).toOption
        target.path?
  | .error _ => []

theorem mem_hints {s : Setting} {d : SchemaDocument} {root : Markup.Element} {i : Schema.Item}
    {uri : Option String} {l : String} {q : Path} (hroot : s.readRoot d.path = .ok root)
    (hi : i ∈ Schema.items root) (hinquiry : i.inquiry? = some (uri, some l))
    (hq : (Location.path d.path).join l = .ok (.path q)) : q ∈ s.hints d := by
  rw [hints, hroot]
  refine List.mem_filterMap.2 ⟨i, hi, ?_⟩
  simp [hinquiry, hq, Except.toOption, Location.path?]

/-- A document records each of its imports with its namespace. -/
theorem Compiles.exists_import {s : Setting} {entry : Path} {c : CompiledSet} {start : SchemaNode}
    {es : List Step} {d : SchemaDocument} {root : Markup.Element} {uri location : Option String}
    (h : s.Compiles entry c start es) (hd : d ∈ c.documents) (hroot : s.readRoot d.path = .ok root)
    (hi : .importing uri location ∈ Schema.items root) : ∃ r ∈ d.imports, r.uri = uri := by
  rw [h.imports_eq hd hroot]
  exact ⟨_, List.mem_filterMap.2 ⟨_, hi, rfl⟩, rfl⟩

end Setting

namespace Index

variable {fs fs' : FileSystem} {index index' : Index} {options : CompileOptions}

/-- Two indexes that hold the same under the key of a request answer it alike. -/
theorem resolver_eq {r : Request}
    (h : ∀ key, r.key = some key → index'.get? key.text = index.get? key.text) :
    index'.resolver r = index.resolver r := by
  unfold resolver Resolver.ofLookup
  split
  · rfl
  · rename_i key hkey
    rw [h key hkey]

/-- What an index answers, and where a hint leads, depends only on what is asked for. -/
theorem agrees_of_retains (hfiles : fs.Retains fs') {base : Path} {uri location : Option String}
    (huri : ∀ key, uri = some key → index'.get? key = index.get? key)
    (hhint : ∀ l, location = some l → ∀ q, (Location.path base).join l = .ok (.path q) →
      fs'.canonicalize q = fs.canonicalize q)
    (hfindable : (index.setting fs options).Findable base uri location) :
    (index.setting fs options).Agrees (index'.setting fs' options) base uri location := by
  refine .of_canonicalize ?_ ?_ hhint
  · exact resolver_eq fun key hkey => huri key.text (Setting.key_referenceRequest hkey).1
  · intro e he
    -- a document that the index names and that is not there is an error
    obtain ⟨answer, hfound⟩ := hfindable
    obtain ⟨_, hasked, hfound⟩ := Journal.outcome_bind_eq_ok_iff.1 hfound
    cases hasked
    rw [he] at hfound
    obtain ⟨p, hp, _⟩ := Journal.outcome_bind_eq_ok_iff.1 hfound
    have hcanonical : fs.canonicalize e.systemId = .ok p := Setting.canonicalize_of_canonical hp
    exact (hfiles.canonicalize hcanonical).trans hcanonical.symm

/-- A compilation that an index serves depends only on the namespaces that are imported and the
locations that are written. -/
theorem compile_of_retains (hfiles : fs.Retains fs') {key : String}
    (hget : ∀ other, other ≠ key → index'.get? other = index.get? other) {entry : Path}
    {c : CompiledSet} (h : ((index.setting fs options).compile entry).outcome = .ok c)
    (himports : ∀ d ∈ c.documents, ∀ r ∈ d.imports, r.uri ≠ some key)
    (hhints : ∀ d ∈ c.documents, ∀ q ∈ (index.setting fs options).hints d,
      fs'.canonicalize q = fs.canonicalize q) :
    ((index'.setting fs' options).compile entry).outcome = .ok c := by
  obtain ⟨start, es, hc⟩ := Setting.compiles h
  refine Setting.compile_of_shows h rfl (hfiles.canonicalize hc.canonical) ?_
  intro n hn root ha hl
  obtain ⟨d, hd, rfl⟩ := List.mem_map.1 hn
  obtain ⟨q, hq⟩ := ha.canonical
  refine ⟨⟨q, hfiles.canonicalize hq⟩, ?_, ?_⟩
  · obtain ⟨octets, hload, hread⟩ := bind_eq_ok_iff.1 ha.read
    exact bind_eq_ok_iff.2 ⟨octets, hfiles.loadEncoded hload, hread⟩
  · intro i hi uri location hinquiry
    refine agrees_of_retains hfiles ?_ ?_ (Setting.findable_of_locatable hinquiry (hl i hi))
    · rintro other rfl
      refine hget other ?_
      rintro rfl
      cases i with
      | importing uri' location' =>
          cases hinquiry
          obtain ⟨r, hr, huri⟩ := hc.exists_import hd ha.read hi
          exact himports d hd r hr huri
      | including l => cases l <;> cases hinquiry
      | redefining l ds => cases l <;> cases hinquiry
      | declaring x => cases hinquiry
    · rintro l rfl q hq
      exact hhints d hd q (Setting.mem_hints ha.read hi hinquiry hq)

end Index
end SchemaSet
