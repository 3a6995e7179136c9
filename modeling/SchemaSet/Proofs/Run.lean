import Mathlib.Data.List.Nodup
import SchemaSet.Proofs.Agenda

/-!
# Successful traversals follow the agenda

`Yields j events a` says that a part `j` of a traversal ends in `a` and that `events` is what it
noted apart from notices.  Each part of a traversal has one lemma that says what it yields.

A traversal with `n` levels left that has opened `seen` satisfies `Room`: the opened nodes are
distinct nodes of the setting, and fewer than `n` are still closed.  So the levels never run out.

What `Setting.load` yields is a depth-first traversal of the agenda, and every node that it opens is
admitted, within the bounds (`load_faithful`).  `traverse_yields` is the same for the whole
traversal of an entry document.
-/

namespace SchemaSet

/-- The steps that are more than notices. -/
def events (steps : List Step) : List Step := steps.filter fun step => !step.isTold

/-- A computation ends in a value and notes some events. -/
def Yields {α : Type} (j : Journal Step Error α) (es : List Step) (a : α) : Prop :=
  j.outcome = .ok a ∧ events j.notes = es

section Yields

variable {α β : Type} {j : Journal Step Error α} {f : α → Journal Step Error β}
variable {es : List Step} {a a' : α} {b : β}

/-- A sequence yields what its parts yield, one after the other. -/
theorem yields_bind :
    Yields (j >>= f) es b ↔
      ∃ a es₁ es₂, Yields j es₁ a ∧ Yields (f a) es₂ b ∧ es = es₁ ++ es₂ := by
  show (Journal.bind j f).outcome = .ok b ∧ events (Journal.bind j f).notes = es ↔ _
  cases ho : j.outcome with
  | error e => simp [Journal.bind, Yields, ho]
  | ok a =>
      simp only [Journal.bind, ho, Yields, events, List.filter_append]
      constructor
      · rintro ⟨hb, hes⟩
        exact ⟨a, _, _, ⟨rfl, rfl⟩, ⟨hb, rfl⟩, hes.symm⟩
      · rintro ⟨a', es₁, es₂, ⟨ha, h₁⟩, ⟨hb, h₂⟩, hes⟩
        cases Except.ok.inj ha
        exact ⟨hb, by rw [h₁, h₂, hes]⟩

theorem yields_pure : Yields (pure a : Journal Step Error α) es a' ↔ es = [] ∧ a = a' := by
  show Except.ok a = Except.ok a' ∧ [] = es ↔ _
  rw [Except.ok.injEq, and_comm, eq_comm (a := [])]

theorem yields_throw {e : Error} : ¬ Yields (throw e : Journal Step Error α) es a := by
  rintro ⟨h, _⟩
  cases h

theorem yields_lift {x : Except Error α} :
    Yields (liftM x : Journal Step Error α) es a ↔ x = .ok a ∧ es = [] := by
  show x = .ok a ∧ [] = es ↔ _
  rw [eq_comm (a := [])]

theorem yields_note {step : Step} {u : Unit} :
    Yields (Journal.note step) es u ↔ es = events [step] := by
  show Except.ok () = Except.ok u ∧ events [step] = es ↔ _
  simp [eq_comm]

/-- A notice is no event. -/
theorem yields_tell {notice : Notice} :
    Yields (do Journal.note (.told notice); return a) es a' ↔ es = [] ∧ a = a' := by
  constructor
  · intro h
    obtain ⟨_, es₁, es₂, hn, hp, rfl⟩ := yields_bind.1 h
    obtain ⟨rfl, rfl⟩ := yields_pure.1 hp
    exact ⟨by rw [yields_note.1 hn]; rfl, rfl⟩
  · rintro ⟨rfl, rfl⟩
    exact yields_bind.2 ⟨(), [], [], yields_note.2 rfl, yields_pure.2 ⟨rfl, rfl⟩, rfl⟩

theorem yields_done : Yields (Journal.done a) es a' ↔ es = [] ∧ a = a' := yields_pure

end Yields

namespace Setting

section Finding

variable {s : Setting} {base : Path} {es : List Step}

/-- Following a written location notes no events. -/
theorem locateHint_yields {location : String} {target : Option Path}
    (h : Yields (s.locateHint base location) es target) :
    es = [] ∧ target = s.hinted? base location := by
  obtain ⟨l, es₁, es₂, h₁, h₂, rfl⟩ := yields_bind.1 h
  obtain ⟨hl, rfl⟩ := yields_lift.1 h₁
  cases l with
  | path p =>
      cases hc : s.files.canonicalize p with
      | ok found =>
          simp only [hc] at h₂
          obtain ⟨rfl, rfl⟩ := yields_pure.1 h₂
          exact ⟨rfl, by simp [hinted?, hl, hc, Except.toOption]⟩
      | error f =>
          simp only [hc] at h₂
          obtain ⟨rfl, rfl⟩ := yields_tell.1 h₂
          exact ⟨rfl, by simp [hinted?, hl, hc, Except.toOption]⟩
  | url u =>
      obtain ⟨rfl, rfl⟩ := yields_tell.1 h₂
      exact ⟨rfl, by simp [hinted?, hl]⟩
  | memory _ =>
      obtain ⟨rfl, rfl⟩ := yields_pure.1 h₂
      exact ⟨rfl, by simp [hinted?, hl]⟩

theorem locateWritten_yields {location : Option String} {target : Option Path}
    (h : Yields (s.locateWritten base location) es target) :
    es = [] ∧ target = location.bind (s.hinted? base) := by
  cases location with
  | none =>
      obtain ⟨rfl, rfl⟩ := yields_pure.1 h
      exact ⟨rfl, rfl⟩
  | some l => exact locateHint_yields h

theorem ask_yields {r : Request} {answer : Resolution} (h : Yields (s.ask r) es answer) :
    es = [.asked r (s.resolver r)] ∧ answer = s.resolver r := by
  obtain ⟨_, _, _, hn, hp, rfl⟩ := yields_bind.1 h
  obtain ⟨rfl, rfl⟩ := yields_pure.1 hp
  exact ⟨by rw [yields_note.1 hn]; rfl, rfl⟩

theorem canonicalize_of_canonical {p q : Path} (h : s.canonical p = .ok q) :
    s.files.canonicalize p = .ok q :=
  mapError_eq_ok_iff.1 h

/-- Finding the target of a reference notes the question, and ends in the target. -/
theorem find_yields {uri location : Option String} {answer : Option Path × Bool}
    (h : Yields (s.find base uri location) es answer) :
    es = [.asked (referenceRequest base uri location)
        (s.resolver (referenceRequest base uri location))] ∧
      answer = (s.found? base uri location, s.isNamed base uri location) := by
  obtain ⟨resolution, es₁, es₂, h₁, h₂, rfl⟩ := yields_bind.1 h
  obtain ⟨rfl, rfl⟩ := ask_yields h₁
  -- an answer that names no document leaves the written location, whatever else it says
  have unnamed : ∀ {es : List Step} {answer : Option Path × Bool},
      Yields (do
        let target ← s.locateWritten base location
        return (target, false)) es answer →
      es = [] ∧ answer = (location.bind (s.hinted? base), false) := by
    intro es answer h
    obtain ⟨_, _, _, hl, hp, rfl⟩ := yields_bind.1 h
    obtain ⟨rfl, rfl⟩ := locateWritten_yields hl
    obtain ⟨rfl, rfl⟩ := yields_pure.1 hp
    exact ⟨rfl, rfl⟩
  cases hr : s.resolver (referenceRequest base uri location) with
  | resolved e =>
      simp only [hr] at h₂
      obtain ⟨p, _, _, hlift, hp, rfl⟩ := yields_bind.1 h₂
      obtain ⟨hc, rfl⟩ := yields_lift.1 hlift
      obtain ⟨rfl, rfl⟩ := yields_pure.1 hp
      refine ⟨rfl, ?_⟩
      simp [found?, isNamed, hr, canonicalize_of_canonical hc, Except.toOption,
        Resolution.isResolved]
  | skip =>
      simp only [hr] at h₂
      obtain ⟨rfl, rfl⟩ := unnamed h₂
      exact ⟨rfl, by simp [found?, isNamed, hr, Resolution.isResolved]⟩
  | unresolved key =>
      simp only [hr] at h₂
      obtain ⟨rfl, rfl⟩ := unnamed h₂
      exact ⟨rfl, by simp [found?, isNamed, hr, Resolution.isResolved]⟩

theorem find_value {uri location : Option String} {answer : Option Path × Bool}
    (h : (s.find base uri location).outcome = .ok answer) :
    answer = (s.found? base uri location, s.isNamed base uri location) :=
  (find_yields ⟨h, rfl⟩).2

theorem canonical_of_hinted? {location : String} {t : Path}
    (h : s.hinted? base location = some t) :
    ∃ q, s.files.canonicalize q = .ok t := by
  unfold hinted? at h
  split at h
  · rename_i p _
    cases hc : s.files.canonicalize p with
    | error f => simp [hc, Except.toOption] at h
    | ok found =>
        simp only [hc, Except.toOption, Option.some.injEq] at h
        exact ⟨p, by rw [hc, h]⟩
  · cases h

/-- What a reference leads to is a canonical path. -/
theorem canonical_of_found? {uri location : Option String} {t : Path}
    (h : s.found? base uri location = some t) :
    ∃ q, s.files.canonicalize q = .ok t := by
  unfold found? at h
  split at h
  · rename_i e _
    cases hc : s.files.canonicalize e.systemId with
    | error f => simp [hc, Except.toOption] at h
    | ok found =>
        simp only [hc, Except.toOption, Option.some.injEq] at h
        exact ⟨e.systemId, by rw [hc, h]⟩
  · obtain ⟨l, _, hl⟩ := Option.bind_eq_some_iff.1 h
    exact canonical_of_hinted? hl

end Finding

section Noting

variable {n : SchemaNode} {es : List Step} {u : Unit}

/-- A declaration makes a component exactly when it has an unqualified name. -/
theorem component_eq_ok_iff {redefined : Bool} {d : Schema.Declaration} {c : Component} :
    component n redefined d = .ok c ↔
      ∃ name, d.name = some name ∧ Name.isUnqualified name = true ∧
        c = ⟨d.kind, QName.of n.uri name, n.path, redefined⟩ := by
  unfold component
  cases d.name with
  | none => simp
  | some name =>
      show (Except.mapError _ _ >>= _) = Except.ok c ↔ _
      rw [bind_eq_ok_iff]
      constructor
      · rintro ⟨_, hv, hc⟩
        exact ⟨name, rfl, (Name.validate_ok_iff name).1 (mapError_eq_ok_iff.1 hv),
          (Except.ok.inj hc).symm⟩
      · rintro ⟨_, hn, hv, rfl⟩
        cases Option.some.inj hn
        exact ⟨(), mapError_eq_ok_iff.2 ((Name.validate_ok_iff name).2 hv), rfl⟩

theorem declarable_of_component {redefined : Bool} {d : Schema.Declaration} {c : Component}
    (h : component n redefined d = .ok c) :
    Declarable d := by
  obtain ⟨name, hd, hv, _⟩ := component_eq_ok_iff.1 h
  exact ⟨name, hd, hv⟩

/-- Noting declarations yields their components in order. -/
theorem declareAll_yields {redefined : Bool} {ds : List Schema.Declaration}
    (h : Yields (declareAll n redefined ds) es u) :
    es = (componentsOf n redefined ds).map .declared ∧ ∀ d ∈ ds, Declarable d := by
  induction ds generalizing es with
  | nil =>
      obtain ⟨rfl, _⟩ := yields_done.1 h
      exact ⟨rfl, by simp⟩
  | cons d rest ih =>
      obtain ⟨c, _, _, hlift, hnoted, rfl⟩ := yields_bind.1 h
      obtain ⟨hc, rfl⟩ := yields_lift.1 hlift
      obtain ⟨_, _, _, hn, hrest, rfl⟩ := yields_bind.1 hnoted
      obtain ⟨rfl, hall⟩ := ih hrest
      constructor
      · rw [yields_note.1 hn]
        simp [componentsOf, hc, Except.toOption, events, Step.isTold]
      · intro x hx
        rcases List.mem_cons.1 hx with rfl | hx
        · exact declarable_of_component hc
        · exact hall x hx

/-- Noting names yields the references that they make, in order. -/
theorem referAll_yields {document : Path} {adopted : Option String} {ts : List Schema.Token}
    (h : Yields (referAll document adopted ts) es u) :
    es = (ts.filterMap fun t => (t.resolve document adopted).toOption).map .referred ∧
      ∀ t ∈ ts, ∃ r, t.resolve document adopted = .ok r := by
  induction ts generalizing es with
  | nil =>
      obtain ⟨rfl, _⟩ := yields_done.1 h
      exact ⟨rfl, by simp⟩
  | cons t rest ih =>
      obtain ⟨r, _, _, hlift, hnoted, rfl⟩ := yields_bind.1 h
      obtain ⟨hr, rfl⟩ := yields_lift.1 hlift
      obtain ⟨_, _, _, hn, hrest, rfl⟩ := yields_bind.1 hnoted
      obtain ⟨rfl, hall⟩ := ih hrest
      constructor
      · rw [yields_note.1 hn]
        simp [hr, Except.toOption, events, Step.isTold]
      · intro x hx
        rcases List.mem_cons.1 hx with rfl | hx
        · exact ⟨r, hr⟩
        · exact hall x hx

end Noting

section Walking

variable {s : Setting}

/-- A traversal that has opened some nodes can go on for some more levels. -/
structure Room (s : Setting) (levels : Nat) (seen : List SchemaNode) : Prop where
  /-- No node was opened twice. -/
  nodup : seen.Nodup
  /-- The nodes that were opened are nodes of the setting. -/
  known : seen ⊆ s.nodes
  /-- There are more levels than nodes that were not opened yet. -/
  enough : s.nodes.length < seen.length + levels

/-- A part of a traversal does some tasks of a node at some depth in depth-first order. -/
structure Performs (s : Setting) (levels : Nat) (parent : SchemaNode) (depth : Nat)
    (seen : List SchemaNode) (tasks : List (Task SchemaNode Step)) (es : List Step)
    (out : List SchemaNode) : Prop where
  /-- The tasks are done in depth-first order. -/
  order : Descent s.agenda s.Enters parent depth seen tasks es out
  /-- There still is room. -/
  room : Room s levels out
  /-- The nodes that were opened on the way are admitted, with all that they refer to. -/
  admitted : ∀ n ∈ out, n ∉ seen →
    ∃ root, s.Admits n root ∧ ∀ i ∈ Schema.items root, s.Locatable n i
  /-- The number of nodes was within its bound when the last one was opened. -/
  counted : out = seen ∨ out.length ≤ s.options.limits.maxDocuments

variable {levels : Nat} {parent : SchemaNode} {depth : Nat} {seen mid out : List SchemaNode}

/-- Levels that are left while a node is closed. -/
theorem Room.zero (h : Room s 0 seen) : False := by
  have hle : seen.length ≤ s.nodes.length := h.nodup.length_le_of_subset h.known
  have := h.enough
  omega

/-- Opening a node takes one level. -/
theorem Room.push {n : SchemaNode} (h : Room s (levels + 1) seen) (hn : n ∉ seen)
    (hk : n ∈ s.nodes) :
    Room s levels (seen ++ [n]) where
  nodup := by simpa using h.nodup.concat hn
  known := List.append_subset.2 ⟨h.known, by simpa using hk⟩
  enough := by
    have := h.enough
    simp only [List.length_append, List.length_singleton]
    omega

theorem Room.succ (h : Room s levels seen) : Room s (levels + 1) seen where
  nodup := h.nodup
  known := h.known
  enough := Nat.lt_succ_of_lt h.enough

theorem Performs.append {tasks tasks' : List (Task SchemaNode Step)} {es es' : List Step}
    (h : Performs s levels parent depth seen tasks es mid)
    (h' : Performs s levels parent depth mid tasks' es' out) :
    Performs s levels parent depth seen (tasks ++ tasks') (es ++ es') out where
  order := h.order.append h'.order
  room := h'.room
  admitted := by
    intro n hn hs
    by_cases hm : n ∈ mid
    · exact h.admitted n hm hs
    · exact h'.admitted n hn hm
  counted := by
    rcases h'.counted with rfl | hc
    · exact h.counted
    · exact .inr hc

theorem Performs.report {tasks : List (Task SchemaNode Step)} {es : List Step}
    (h : Performs s levels parent depth seen tasks es out) (e : Step) :
    Performs s levels parent depth seen (.report e :: tasks) (e :: es) out where
  order := .report e h.order
  room := h.room
  admitted := h.admitted
  counted := h.counted

theorem Performs.reports (h : Room s levels seen) (es : List Step) :
    Performs s levels parent depth seen (es.map .report) es seen where
  order := .reports parent depth seen es
  room := h
  admitted := fun _ hn hs => absurd hn hs
  counted := .inl rfl

theorem Performs.nothing (h : Room s levels seen) :
    Performs s levels parent depth seen [] [] seen :=
  .reports h []

/-- `nested` opens a document that a node refers to as the node of the expected namespace while
`levels` levels are left. -/
def Faithful (s : Setting) (levels : Nat)
    (nested : Path → Reason → Nat → List SchemaNode → Walk) : Prop :=
  ∀ ⦃p : Path⦄ ⦃reason : Reason⦄ ⦃uri : Option String⦄ ⦃parent : SchemaNode⦄ ⦃depth : Nat⦄
    ⦃seen : List SchemaNode⦄ ⦃es : List Step⦄ ⦃out : List SchemaNode⦄,
    reason.expected = some uri →
    (∃ q, s.files.canonicalize q = .ok p) →
    (reason = .included uri → uri ∈ s.uris ∧ uri = parent.uri) →
    Room s levels seen →
    Yields (nested p reason (depth + 1) seen) es out →
    Performs s levels parent depth seen [.enter ⟨p, uri⟩] es out

section Following

variable {nested : Path → Reason → Nat → List SchemaNode → Walk}
variable {n : SchemaNode} {es : List Step}

/-- Following an import performs its tasks. -/
theorem followImport_yields (hf : Faithful s levels nested) (hr : Room s levels seen)
    {uri location : Option String}
    (h : Yields (s.followImport nested n depth seen uri location) es out) :
    (uri ≠ n.uri ∧ s.Locatable n (.importing uri location)) ∧
      Performs s levels n depth seen (s.importTasks n uri location) es out := by
  unfold followImport at h
  by_cases hown : uri = n.uri
  · rw [if_pos hown] at h
    obtain ⟨_, _, _, hthrow, _⟩ := yields_bind.1 h
    exact absurd hthrow yields_throw
  rw [if_neg hown] at h
  obtain ⟨_, _, _, hfind, h₂, rfl⟩ := yields_bind.1 h
  have hfindable : s.Findable n.path uri location := ⟨_, hfind.1⟩
  obtain ⟨rfl, rfl⟩ := find_yields hfind
  obtain ⟨_, _, _, hn, h₃, rfl⟩ := yields_bind.1 h₂
  rw [yields_note.1 hn]
  unfold importTasks
  suffices hrest : (s.options.strict = true → (s.found? n.path uri location).isSome ∨
        needsNoDocument uri = true) ∧ Performs s levels n depth seen _ _ out from
    ⟨⟨hown, hfindable, hrest.1⟩, .report (.report hrest.2 _) _⟩
  cases ht : s.found? n.path uri location with
  | some t =>
      simp only [ht] at h₃
      exact ⟨fun _ => .inl rfl, hf rfl (canonical_of_found? ht) (by simp) hr h₃⟩
  | none =>
      simp only [ht] at h₃
      split at h₃
      · rename_i houtcome
        obtain ⟨rfl, rfl⟩ := yields_tell.1 h₃
        refine ⟨fun _ => .inr ?_, .nothing hr⟩
        by_contra hneeds
        simp [ImportOutcome.of, hneeds] at houtcome
      · split at h₃
        · exact absurd h₃ yields_throw
        · rename_i hlenient
          obtain ⟨rfl, rfl⟩ := yields_tell.1 h₃
          exact ⟨fun hstrict => absurd hstrict hlenient, .nothing hr⟩

/-- Following an include or a redefine performs its tasks. -/
theorem followInclude_yields (hf : Faithful s levels nested) (hr : Room s levels seen)
    (hu : n.uri ∈ s.uris) {element : String} {location : Option String}
    (h : Yields (s.followInclude nested n depth seen element location) es out) :
    (location.isSome ∧ s.Locatable n (.including location)) ∧
      Performs s levels n depth seen (s.includeTasks n location) es out := by
  cases location with
  | none => exact absurd h yields_throw
  | some l =>
      obtain ⟨_, _, _, hfind, h₂, rfl⟩ := yields_bind.1 h
      have hfindable : s.Findable n.path none (some l) := ⟨_, hfind.1⟩
      obtain ⟨rfl, rfl⟩ := find_yields hfind
      unfold includeTasks
      suffices hrest : (s.options.strict = true → (s.found? n.path none (some l)).isSome) ∧
          Performs s levels n depth seen _ _ out by
        refine ⟨⟨rfl, ?_⟩, .report hrest.2 _⟩
        intro l' hl
        cases hl
        exact ⟨hfindable, hrest.1⟩
      cases ht : s.found? n.path none (some l) with
      | some t =>
          simp only [ht] at h₂
          obtain ⟨_, _, _, hn, h₃, rfl⟩ := yields_bind.1 h₂
          rw [yields_note.1 hn]
          refine ⟨fun _ => rfl, .report ?_ _⟩
          exact hf rfl (canonical_of_found? ht) (fun _ => ⟨hu, rfl⟩) hr h₃
      | none =>
          simp only [ht] at h₂
          split at h₂
          · exact absurd h₂ yields_throw
          · rename_i hlenient
            obtain ⟨rfl, rfl⟩ := yields_tell.1 h₂
            exact ⟨fun hstrict => absurd hstrict hlenient, .nothing hr⟩

/-- Noting declarations performs their tasks. -/
theorem performs_declareAll (hr : Room s levels seen) {redefined : Bool}
    {ds : List Schema.Declaration} {u : Unit} (h : Yields (declareAll n redefined ds) es u) :
    (∀ d ∈ ds, Declarable d) ∧
      Performs s levels n depth seen (declareTasks n redefined ds) es seen := by
  obtain ⟨rfl, hall⟩ := declareAll_yields h
  refine ⟨hall, ?_⟩
  have hreports : Performs s levels n depth seen _ _ seen :=
    Performs.reports hr ((componentsOf n redefined ds).map .declared)
  rwa [List.map_map] at hreports

/-- Following an item performs its tasks. -/
theorem followItem_yields (hf : Faithful s levels nested) (hr : Room s levels seen)
    (hu : n.uri ∈ s.uris) {i : Schema.Item}
    (h : Yields (s.followItem nested n depth seen i) es out) :
    (Followable n i ∧ s.Locatable n i) ∧
      Performs s levels n depth seen (s.itemTasks n i) es out := by
  cases i with
  | importing uri location => exact followImport_yields hf hr h
  | including location => exact followInclude_yields hf hr hu h
  | redefining location ds =>
      obtain ⟨mid, _, _, hinc, h₂, rfl⟩ := yields_bind.1 h
      obtain ⟨⟨hl, hlocatable⟩, hp⟩ := followInclude_yields hf hr hu hinc
      obtain ⟨_, _, _, hdecl, h₃, rfl⟩ := yields_bind.1 h₂
      obtain ⟨hall, hp'⟩ := performs_declareAll hp.room hdecl
      obtain ⟨rfl, rfl⟩ := yields_pure.1 h₃
      rw [List.append_nil]
      exact ⟨⟨⟨hl, hall⟩, hlocatable⟩, hp.append hp'⟩
  | declaring d =>
      obtain ⟨_, _, _, hdecl, h₂, rfl⟩ := yields_bind.1 h
      obtain ⟨hall, hp⟩ := performs_declareAll hr hdecl
      obtain ⟨rfl, rfl⟩ := yields_pure.1 h₂
      rw [List.append_nil]
      exact ⟨⟨hall d List.mem_cons_self, trivial⟩, hp⟩

/-- Following some items performs the tasks of all of them. -/
theorem followItems_yields (hf : Faithful s levels nested) (hr : Room s levels seen)
    (hu : n.uri ∈ s.uris) {is : List Schema.Item}
    (h : Yields (s.followItems nested n depth seen is) es out) :
    (∀ i ∈ is, Followable n i ∧ s.Locatable n i) ∧
      Performs s levels n depth seen (is.flatMap (s.itemTasks n)) es out := by
  induction is generalizing seen es with
  | nil =>
      obtain ⟨rfl, rfl⟩ := yields_done.1 h
      exact ⟨by simp, .nothing hr⟩
  | cons i rest ih =>
      obtain ⟨mid, _, _, hi, hrest, rfl⟩ := yields_bind.1 h
      obtain ⟨hok, hp⟩ := followItem_yields hf hr hu hi
      obtain ⟨hall, hp'⟩ := ih hp.room hrest
      refine ⟨?_, hp.append hp'⟩
      intro x hx
      rcases List.mem_cons.1 hx with rfl | hx
      · exact hok
      · exact hall x hx

/-- A document takes part in its own namespace, or in that of the document that includes it if
it declares none. -/
theorem effective_ok {p : Path} {reason : Reason} {declared uri : Option String}
    (h : effective p reason declared = .ok uri) :
    (declared = uri ∨ (declared = none ∧ reason = .included uri)) ∧
      ∀ u, reason.expected = some u → u = uri := by
  cases reason with
  | entry =>
      cases Except.ok.inj h
      exact ⟨.inl rfl, by simp [Reason.expected]⟩
  | imported u resolved =>
      simp only [effective] at h
      split at h
      · rename_i hd
        cases Except.ok.inj h
        exact ⟨.inl rfl, by simp [Reason.expected, hd]⟩
      · split at h <;> cases h
  | included u =>
      cases declared with
      | none =>
          cases Except.ok.inj h
          exact ⟨.inr ⟨rfl, rfl⟩, by simp [Reason.expected]⟩
      | some d =>
          simp only [effective] at h
          split at h
          · rename_i hd
            cases Except.ok.inj h
            exact ⟨.inl rfl, by simp [Reason.expected, hd]⟩
          · cases h

/-- A document is opened as a node of the setting. -/
theorem mem_nodes_of_effective {p : Path} {reason : Reason} {root : Markup.Element}
    {uri : Option String} (hc : ∃ q, s.files.canonicalize q = .ok p)
    (hu : ∀ u, reason = .included u → u ∈ s.uris) (hroot : s.readRoot p = .ok root)
    (h : effective p reason (Schema.declaredNamespace root) = .ok uri) :
    (⟨p, uri⟩ : SchemaNode) ∈ s.nodes := by
  obtain ⟨q, hq⟩ := hc
  refine @mem_nodes s ⟨p, uri⟩ q root hq hroot ?_
  rcases (effective_ok h).1 with hd | ⟨_, hincluded⟩
  · exact .inl hd
  · exact .inr (hu uri hincluded)

/-- The namespace in which opening a document must end. -/
def Names (s : Setting) (p : Path) (reason : Reason) (uri : Option String) : Prop :=
  (∀ u, reason.expected = some u → u = uri) ∧
    (reason = .entry → ∃ root, s.readRoot p = .ok root ∧ Schema.declaredNamespace root = uri)

/-- Opening a node that is still closed does what is on its agenda. -/
theorem enter_yields (hf : Faithful s levels nested) (hr : Room s (levels + 1) seen)
    {root : Markup.Element} (hc : ∃ q, s.files.canonicalize q = .ok n.path)
    (hroot : s.readRoot n.path = .ok root)
    (hd : Schema.declaredNamespace root = n.uri ∨ Schema.declaredNamespace root = none)
    (hn : n ∉ seen) (hk : n ∈ s.nodes)
    (h : Yields (s.enter nested n root depth seen) es out) :
    Performs s levels n depth (seen ++ [n]) (s.agenda n) es out ∧
      (∃ root, s.Admits n root ∧ ∀ i ∈ Schema.items root, s.Locatable n i) ∧
      out.length ≤ s.options.limits.maxDocuments := by
  obtain ⟨_, _, _, hcount, h₂, rfl⟩ := yields_bind.1 h
  obtain ⟨hcounted, rfl⟩ := yields_lift.1 hcount
  obtain ⟨_, _, _, hopened, h₃, rfl⟩ := yields_bind.1 h₂
  obtain ⟨_, _, _, htold, h₄, rfl⟩ := yields_bind.1 h₃
  obtain ⟨last, _, _, hitems, h₅, rfl⟩ := yields_bind.1 h₄
  obtain ⟨_, _, _, hrefs, h₆, rfl⟩ := yields_bind.1 h₅
  obtain ⟨rfl, rfl⟩ := yields_pure.1 h₆
  obtain ⟨hfollow, hperforms⟩ :=
    followItems_yields hf (hr.push hn hk) (uri_mem_uris hk) hitems
  obtain ⟨rfl, htokens⟩ := referAll_yields hrefs
  have hadmits : s.Admits n root := ⟨hc, hroot, hd, fun i hi => (hfollow i hi).1, htokens⟩
  have hrest := hperforms.append
    (.reports hperforms.room ((referencesOfRoot n root).map .referred))
  rw [List.map_map] at hrest
  rw [yields_note.1 hopened, yields_note.1 htold]
  refine ⟨?_, ⟨root, hadmits, fun i hi => (hfollow i hi).2⟩, ?_⟩
  · rw [agenda_eq hroot]
    have hall := hrest.report (.opened n (Schema.adopts root n.uri))
    simpa [rootTasks, referencesOfRoot, events, Step.isTold, Function.comp_def] using hall
  · rcases hperforms.counted with rfl | hc
    · exact (Limits.check_ok_iff _ .documents _).1 (mapError_eq_ok_iff.1 hcounted)
    · exact hc

/-- Opening a document passes over its node or does what is on the agenda of it. -/
theorem visit_yields (hf : Faithful s levels nested) (hr : Room s (levels + 1) seen)
    {p : Path} {reason : Reason} (hc : ∃ q, s.files.canonicalize q = .ok p)
    (hu : ∀ u, reason = .included u → u ∈ s.uris)
    (h : Yields (s.visit nested p reason depth seen) es out) :
    ∃ uri, Names s p reason uri ∧
      ((⟨p, uri⟩ ∈ seen ∧ es = [] ∧ out = seen) ∨
        (⟨p, uri⟩ ∉ seen ∧ depth ≤ s.options.limits.maxSchemaDepth ∧
          (reason = .included uri ∨
            ∃ root, s.readRoot p = .ok root ∧ Schema.declaredNamespace root = uri) ∧
          Performs s levels ⟨p, uri⟩ depth (seen ++ [⟨p, uri⟩]) (s.agenda ⟨p, uri⟩) es out ∧
          (∃ root, s.Admits ⟨p, uri⟩ root ∧
            ∀ i ∈ Schema.items root, s.Locatable ⟨p, uri⟩ i) ∧
          out.length ≤ s.options.limits.maxDocuments)) := by
  unfold visit at h
  split at h
  · rename_i hany
    obtain ⟨rfl, rfl⟩ := yields_pure.1 h
    obtain ⟨uri, he, hmem⟩ := (Option.any_eq_true _ _).1 hany
    refine ⟨uri, ⟨?_, ?_⟩, .inl ⟨List.contains_iff_mem.1 hmem, rfl, rfl⟩⟩
    · intro u hu
      rw [he] at hu
      exact (Option.some.inj hu).symm
    · rintro rfl
      cases he
  · obtain ⟨_, _, _, hdepth, h₂, rfl⟩ := yields_bind.1 h
    obtain ⟨hdeep, rfl⟩ := yields_lift.1 hdepth
    obtain ⟨root, _, _, hread, h₃, rfl⟩ := yields_bind.1 h₂
    obtain ⟨hroot, rfl⟩ := yields_lift.1 hread
    obtain ⟨uri, _, _, heff, h₄, rfl⟩ := yields_bind.1 h₃
    obtain ⟨heffective, rfl⟩ := yields_lift.1 heff
    obtain ⟨hdeclared, hexpected⟩ := effective_ok heffective
    have hnames : Names s p reason uri := by
      refine ⟨hexpected, ?_⟩
      rintro rfl
      rcases hdeclared with hd | ⟨_, hq⟩
      · exact ⟨root, hroot, hd⟩
      · cases hq
    refine ⟨uri, hnames, ?_⟩
    split at h₄
    · rename_i hmem
      obtain ⟨rfl, rfl⟩ := yields_pure.1 h₄
      exact .inl ⟨List.contains_iff_mem.1 hmem, rfl, rfl⟩
    · rename_i hmem
      have hclosed : (⟨p, uri⟩ : SchemaNode) ∉ seen := fun q => hmem (List.contains_iff_mem.2 q)
      have hnode : (⟨p, uri⟩ : SchemaNode) ∈ s.nodes :=
        mem_nodes_of_effective hc hu hroot heffective
      refine .inr ⟨hclosed, ?_, ?_, ?_⟩
      · exact (Limits.check_ok_iff _ .schemaDepth _).1 (mapError_eq_ok_iff.1 hdeep)
      · exact hdeclared.symm.imp And.right fun hd => ⟨root, hroot, hd⟩
      · exact enter_yields hf hr hc hroot (hdeclared.imp id And.left) hclosed hnode h₄

/-- Whatever the order in which it meets documents, loading opens documents faithfully. -/
theorem load_faithful (s : Setting) (levels : Nat) : Faithful s levels (s.load levels) := by
  induction levels with
  | zero =>
      intro p reason uri parent depth seen es out _ _ _ hr
      exact hr.zero.elim
  | succ levels ih =>
      intro p reason uri parent depth seen es out he hc hu hr h
      have hincluded : ∀ u, reason = .included u → u ∈ s.uris := by
        rintro u rfl
        cases Option.some.inj he
        exact (hu rfl).1
      obtain ⟨uri', ⟨hnames, _⟩, hvisit⟩ := visit_yields ih hr hc hincluded h
      cases hnames uri he
      rcases hvisit with ⟨hmem, rfl, rfl⟩ | ⟨hclosed, hdepth, hdeclared, hp, hadmitted, hcounted⟩
      · exact ⟨.pass hmem (.done _ _ _), hr, fun _ hn hs => absurd hn hs, .inl rfl⟩
      · have henters : s.Enters parent depth ⟨p, uri⟩ :=
          ⟨hdepth, hdeclared.imp (fun hi => (hu hi).2) id⟩
        refine ⟨?_, hp.room.succ, ?_, .inr hcounted⟩
        · simpa using Descent.enter hclosed henters hp.order (.done _ _ _)
        · intro m hm hs
          by_cases heq : m = ⟨p, uri⟩
          · exact heq ▸ hadmitted
          · exact hp.admitted m hm (by simp [hs, heq])

end Following

end Walking

/-- A whole traversal is a depth-first traversal of the agenda from the entry document. -/
theorem traverse_yields {s : Setting} {p : Path} {es : List Step} {out : List SchemaNode}
    (hc : ∃ q, s.files.canonicalize q = .ok p) (h : Yields (s.traverse p) es out) :
    ∃ start : SchemaNode, start.path = p ∧
      (∃ root, s.readRoot p = .ok root ∧ Schema.declaredNamespace root = start.uri) ∧
      Descent s.agenda s.Enters start 0 [start] (s.agenda start) es out ∧
      s.Permits out := by
  have hr : Room s s.budget [] :=
    ⟨List.nodup_nil, List.nil_subset _, by simp [budget, length_nodes]⟩
  obtain ⟨uri, ⟨_, hentry⟩, hvisit⟩ := visit_yields (load_faithful s _) hr hc (by simp) h
  rcases hvisit with ⟨hmem, _⟩ | ⟨_, _, _, hp, hadmitted, hcounted⟩
  · exact absurd hmem List.not_mem_nil
  · refine ⟨⟨p, uri⟩, rfl, hentry rfl, hp.order, ?_, hcounted⟩
    intro m hm
    by_cases heq : m = ⟨p, uri⟩
    · exact heq ▸ hadmitted
    · exact hp.admitted m hm (by simp [heq])

end Setting
end SchemaSet
