import SchemaSet.Proofs.Compiled

/-!
# What can be descended is compiled

Given a descent of the agenda of a setting whose nodes may all be opened, a compilation opens them.

`Plans` is what a part of a traversal has ahead of it: a descent through its tasks that ends with
nodes of the setting, and room for them.  Where the tasks come in two parts, both of them are
planned (`Plans.split`).  `Setting.load` opens whatever is planned and yields the events of the plan
(`load_capable`), and so does the whole traversal of an entry document (`traverse_completes`).

Hence a compilation succeeds if there is a descent whose declarations can be registered and whose
references land on them (`compile_completes`).
-/

namespace SchemaSet
namespace Setting

variable {s : Setting}

section Known

variable {parent : SchemaNode} {depth : Nat} {seen mid out : List SchemaNode}

/-- The nodes that are opened from a node of the setting are nodes of the setting. -/
theorem mem_nodes_of_enters {n : SchemaNode} {root : Markup.Element} (hp : parent.uri ∈ s.uris)
    (he : s.Enters parent depth n) (hn : s.Admits n root) :
    n ∈ s.nodes := by
  obtain ⟨q, hq⟩ := hn.canonical
  refine mem_nodes hq hn.read ?_
  rcases he.declared with hu | ⟨root', hread, hdeclared⟩
  · exact .inr (hu ▸ hp)
  · cases Except.ok.inj (hn.read.symm.trans hread)
    exact .inl hdeclared

theorem Permits.of_isPrefix (h : s.Permits out) (hp : mid <+: out) : s.Permits mid where
  admitted := fun n hn => h.admitted n (hp.subset hn)
  counted := Nat.le_trans hp.length_le h.counted

theorem known_of_descent {tasks : List (Task SchemaNode Step)} {es : List Step}
    (h : Descent s.agenda s.Enters parent depth seen tasks es out)
    (hp : parent.uri ∈ s.uris) (hs : seen ⊆ s.nodes) (ho : s.Permits out) :
    out ⊆ s.nodes := by
  induction h with
  | done parent depth seen => exact hs
  | report _ _ ih => exact ih hp hs ho
  | pass _ _ ih => exact ih hp hs ho
  | @enter parent node depth seen mid out rest inner outer _ he sub next ihsub ihnext =>
      have hmid : s.Permits mid := ho.of_isPrefix next.depthFirst.seen_isPrefix
      have hmem : node ∈ mid := sub.depthFirst.seen_subset (by simp)
      obtain ⟨root, hroot, _⟩ := hmid.admitted node hmem
      have hnode : node ∈ s.nodes := mem_nodes_of_enters hp he hroot
      have hpush : seen ++ [node] ⊆ s.nodes :=
        List.append_subset.2 ⟨hs, by simpa using hnode⟩
      exact ihnext hp (ihsub (uri_mem_uris hnode) hpush hmid) ho

end Known

/-- A part of a traversal can do some tasks of a node at some depth in depth-first order. -/
structure Plans (s : Setting) (levels : Nat) (parent : SchemaNode) (depth : Nat)
    (seen : List SchemaNode) (tasks : List (Task SchemaNode Step)) (es : List Step)
    (out : List SchemaNode) : Prop where
  /-- The tasks in depth-first order. -/
  order : Descent s.agenda s.Enters parent depth seen tasks es out
  /-- There is room when it begins. -/
  room : Room s levels seen
  /-- All nodes may be opened. -/
  permitted : s.Permits out
  /-- All of them are nodes of the setting. -/
  known : out ⊆ s.nodes

section Plans

variable {levels : Nat} {parent : SchemaNode} {depth : Nat} {seen out : List SchemaNode}
variable {es : List Step}

theorem Room.after {mid : List SchemaNode} {tasks : List (Task SchemaNode Step)}
    (hr : Room s levels seen)
    (h : DepthFirst s.agenda seen tasks es mid) (hk : mid ⊆ s.nodes) :
    Room s levels mid where
  nodup := h.nodup hr.nodup
  known := hk
  enough := by
    have hgrown : seen.length ≤ mid.length := h.seen_isPrefix.length_le
    have := hr.enough
    omega

/-- Tasks in two parts are planned part by part. -/
theorem Plans.split {front back : List (Task SchemaNode Step)}
    (h : Plans s levels parent depth seen (front ++ back) es out) :
    ∃ mid es₁ es₂, Plans s levels parent depth seen front es₁ mid ∧
      Plans s levels parent depth mid back es₂ out ∧ es = es₁ ++ es₂ := by
  obtain ⟨mid, es₁, es₂, hfront, hback, rfl⟩ := h.order.split
  have hgrown : mid <+: out := hback.depthFirst.seen_isPrefix
  have hknown : mid ⊆ s.nodes := fun n hn => h.known (hgrown.subset hn)
  have hmid : Room s levels mid := h.room.after hfront.depthFirst hknown
  exact ⟨mid, es₁, es₂, ⟨hfront, h.room, h.permitted.of_isPrefix hgrown, hknown⟩,
    ⟨hback, hmid, h.permitted, h.known⟩, rfl⟩

/-- An event that comes first is planned alone. -/
theorem Plans.tail {e : Step} {tasks : List (Task SchemaNode Step)}
    (h : Plans s levels parent depth seen (.report e :: tasks) es out) :
    ∃ rest, es = e :: rest ∧ Plans s levels parent depth seen tasks rest out := by
  cases h.order with
  | report _ rest => exact ⟨_, rfl, rest, h.room, h.permitted, h.known⟩

theorem Plans.eq_of_reports {noted : List Step}
    (h : Plans s levels parent depth seen (noted.map .report) es out) :
    es = noted ∧ out = seen :=
  h.order.eq_of_reports

end Plans

/-- Why a document is opened from a node in a namespace: an include keeps the namespace of the
node, an import leaves it. -/
def Opens (parent : SchemaNode) (reason : Reason) (uri : Option String) : Prop :=
  (reason = .included uri ∧ uri = parent.uri) ∨
    ((∃ named, reason = .imported uri named) ∧ uri ≠ parent.uri)

/-- `nested` opens whatever is planned while `levels` levels are left. -/
def Capable (s : Setting) (levels : Nat)
    (nested : Path → Reason → Nat → List SchemaNode → Walk) : Prop :=
  ∀ ⦃p : Path⦄ ⦃reason : Reason⦄ ⦃uri : Option String⦄ ⦃parent : SchemaNode⦄ ⦃depth : Nat⦄
    ⦃seen : List SchemaNode⦄ ⦃es : List Step⦄ ⦃out : List SchemaNode⦄,
    Opens parent reason uri →
    Plans s levels parent depth seen [.enter ⟨p, uri⟩] es out →
    Yields (nested p reason (depth + 1) seen) es out

section Noting

variable {n : SchemaNode}

theorem find_completes {base : Path} {uri location : Option String}
    (h : s.Findable base uri location) :
    Yields (s.find base uri location)
      [.asked (referenceRequest base uri location)
        (s.resolver (referenceRequest base uri location))]
      (s.found? base uri location, s.isNamed base uri location) := by
  obtain ⟨answer, hanswer⟩ := h
  obtain ⟨hes, rfl⟩ := find_yields ⟨hanswer, rfl⟩
  exact ⟨hanswer, hes⟩

theorem component_of_declarable {d : Schema.Declaration} (h : Declarable d) (redefined : Bool) :
    ∃ c, component n redefined d = .ok c := by
  obtain ⟨name, hd, hv⟩ := h
  exact ⟨_, component_eq_ok_iff.2 ⟨name, hd, hv, rfl⟩⟩

theorem declareAll_completes {redefined : Bool} {ds : List Schema.Declaration}
    (h : ∀ d ∈ ds, Declarable d) :
    Yields (declareAll n redefined ds) ((componentsOf n redefined ds).map .declared) () := by
  induction ds with
  | nil => exact yields_done.2 ⟨rfl, rfl⟩
  | cons d rest ih =>
      obtain ⟨c, hc⟩ := component_of_declarable (n := n) (h d List.mem_cons_self) redefined
      have hrest := ih fun x hx => h x (List.mem_cons_of_mem _ hx)
      refine yields_bind.2 ⟨c, [], _, yields_lift.2 ⟨hc, rfl⟩, ?_, (List.nil_append _).symm⟩
      refine yields_bind.2 ⟨(), [.declared c], _, yields_note.2 rfl, hrest, ?_⟩
      simp [componentsOf, hc, Except.toOption]

theorem referAll_completes {document : Path} {adopted : Option String} {ts : List Schema.Token}
    (h : ∀ t ∈ ts, ∃ r, t.resolve document adopted = .ok r) :
    Yields (referAll document adopted ts)
      ((ts.filterMap fun t => (t.resolve document adopted).toOption).map .referred) () := by
  induction ts with
  | nil => exact yields_done.2 ⟨rfl, rfl⟩
  | cons t rest ih =>
      obtain ⟨r, hr⟩ := h t List.mem_cons_self
      have hrest := ih fun x hx => h x (List.mem_cons_of_mem _ hx)
      refine yields_bind.2 ⟨r, [], _, yields_lift.2 ⟨hr, rfl⟩, ?_, (List.nil_append _).symm⟩
      refine yields_bind.2 ⟨(), [.referred r], _, yields_note.2 rfl, hrest, ?_⟩
      simp [hr, Except.toOption]

end Noting

section Following

variable {nested : Path → Reason → Nat → List SchemaNode → Walk}
variable {levels : Nat} {n : SchemaNode} {depth : Nat} {seen out : List SchemaNode}
variable {es : List Step}

theorem followImport_completes (hf : Capable s levels nested) {uri location : Option String}
    (hown : uri ≠ n.uri) (hl : s.Locatable n (.importing uri location))
    (h : Plans s levels n depth seen (s.importTasks n uri location) es out) :
    Yields (s.followImport nested n depth seen uri location) es out := by
  obtain ⟨hfindable, hstrict⟩ := hl
  obtain ⟨_, rfl, hasked⟩ := h.tail
  obtain ⟨rest, rfl, htarget⟩ := hasked.tail
  unfold followImport
  rw [if_neg hown]
  refine yields_bind.2 ⟨_, _, _, find_completes hfindable, ?_, rfl⟩
  refine yields_bind.2 ⟨(), [_], rest, yields_note.2 rfl, ?_, rfl⟩
  cases ht : s.found? n.path uri location with
  | some t =>
      simp only [ht] at htarget ⊢
      exact hf (.inr ⟨⟨_, rfl⟩, hown⟩) htarget
  | none =>
      simp only [ht, Option.isSome_none, Bool.false_eq_true, false_or] at htarget hstrict ⊢
      obtain ⟨rfl, rfl⟩ := htarget.order.eq_of_nil
      split
      · exact yields_tell.2 ⟨rfl, rfl⟩
      · rename_i hbuiltIn
        split
        · rename_i his
          exact absurd (by simp [ImportOutcome.of, hstrict his]) hbuiltIn
        · exact yields_tell.2 ⟨rfl, rfl⟩

theorem followInclude_completes (hf : Capable s levels nested) (element : String)
    {location : Option String} (hsome : location.isSome)
    (hl : s.Locatable n (.including location))
    (h : Plans s levels n depth seen (s.includeTasks n location) es out) :
    Yields (s.followInclude nested n depth seen element location) es out := by
  obtain ⟨l, rfl⟩ := Option.isSome_iff_exists.1 hsome
  obtain ⟨hfindable, hstrict⟩ := hl l rfl
  obtain ⟨_, rfl, htarget⟩ := h.tail
  refine yields_bind.2 ⟨_, _, _, find_completes hfindable, ?_, rfl⟩
  cases ht : s.found? n.path none (some l) with
  | some t =>
      simp only [ht] at htarget ⊢
      obtain ⟨rest, rfl, hentering⟩ := htarget.tail
      refine yields_bind.2 ⟨(), [_], rest, yields_note.2 rfl, ?_, rfl⟩
      exact hf (.inl ⟨rfl, rfl⟩) hentering
  | none =>
      simp only [ht, Option.isSome_none, Bool.false_eq_true] at htarget hstrict ⊢
      obtain ⟨rfl, rfl⟩ := htarget.order.eq_of_nil
      rw [if_neg hstrict]
      exact yields_tell.2 ⟨rfl, rfl⟩

theorem followItem_completes (hf : Capable s levels nested) {i : Schema.Item}
    (hi : Followable n i) (hl : s.Locatable n i)
    (h : Plans s levels n depth seen (s.itemTasks n i) es out) :
    Yields (s.followItem nested n depth seen i) es out := by
  cases i with
  | importing uri location => exact followImport_completes hf hi hl h
  | including location => exact followInclude_completes hf _ hi hl h
  | redefining location ds =>
      obtain ⟨mid, es₁, es₂, hfront, hback, rfl⟩ := h.split
      have hfollowed := followInclude_completes hf "redefine" hi.1 hl hfront
      rw [declareTasks, ← Function.comp_def, ← List.map_map] at hback
      obtain ⟨rfl, rfl⟩ := hback.eq_of_reports
      refine yields_bind.2 ⟨out, es₁, _, hfollowed, ?_, rfl⟩
      exact yields_bind.2
        ⟨(), _, [], declareAll_completes hi.2, yields_pure.2 ⟨rfl, rfl⟩, (List.append_nil _).symm⟩
  | declaring d =>
      rw [itemTasks, declareTasks, ← Function.comp_def, ← List.map_map] at h
      obtain ⟨rfl, rfl⟩ := h.eq_of_reports
      have hdeclarable : ∀ x ∈ [d], Declarable x := by
        intro x hx
        rw [List.mem_singleton.1 hx]
        exact hi
      exact yields_bind.2
        ⟨(), _, [], declareAll_completes hdeclarable, yields_pure.2 ⟨rfl, rfl⟩,
          (List.append_nil _).symm⟩

theorem followItems_completes (hf : Capable s levels nested) {is : List Schema.Item}
    (hi : ∀ i ∈ is, Followable n i) (hl : ∀ i ∈ is, s.Locatable n i)
    (h : Plans s levels n depth seen (is.flatMap (s.itemTasks n)) es out) :
    Yields (s.followItems nested n depth seen is) es out := by
  induction is generalizing seen es with
  | nil =>
      obtain ⟨rfl, rfl⟩ := h.order.eq_of_nil
      exact yields_done.2 ⟨rfl, rfl⟩
  | cons i rest ih =>
      rw [List.flatMap_cons] at h
      obtain ⟨mid, es₁, es₂, hfront, hback, rfl⟩ := h.split
      have hfirst :=
        followItem_completes hf (hi i List.mem_cons_self) (hl i List.mem_cons_self) hfront
      have hrest := ih (fun x hx => hi x (List.mem_cons_of_mem _ hx))
        (fun x hx => hl x (List.mem_cons_of_mem _ hx)) hback
      exact yields_bind.2 ⟨mid, es₁, es₂, hfirst, hrest, rfl⟩

/-- Opening a node does what is planned for its agenda. -/
theorem enter_completes (hf : Capable s levels nested) {root : Markup.Element}
    (ha : s.Admits n root) (hl : ∀ i ∈ Schema.items root, s.Locatable n i)
    (h : Plans s levels n depth (seen ++ [n]) (s.agenda n) es out) :
    Yields (s.enter nested n root depth seen) es out := by
  have hcount : s.options.limits.check .documents (seen ++ [n]).length = .ok () :=
    (Limits.check_ok_iff _ .documents _).2
      (Nat.le_trans h.order.depthFirst.seen_isPrefix.length_le h.permitted.counted)
  rw [agenda_eq ha.read] at h
  obtain ⟨_, rfl, hopened⟩ := h.tail
  obtain ⟨mid, es₁, es₂, hitems, hrefs, rfl⟩ := hopened.split
  rw [← Function.comp_def, ← List.map_map] at hrefs
  obtain ⟨rfl, rfl⟩ := hrefs.eq_of_reports
  have hfollowed := followItems_completes hf ha.items hl hitems
  refine yields_bind.2 ⟨(), [], _, yields_lift.2 ⟨mapError_eq_ok_iff.2 hcount, rfl⟩, ?_, rfl⟩
  refine yields_bind.2 ⟨(), [.opened n _], _, yields_note.2 rfl, ?_, rfl⟩
  refine yields_bind.2 ⟨(), [], _, yields_note.2 rfl, ?_, rfl⟩
  refine yields_bind.2 ⟨out, es₁, _, hfollowed, ?_, rfl⟩
  exact yields_bind.2
    ⟨(), _, [], referAll_completes ha.tokens, yields_pure.2 ⟨rfl, rfl⟩, (List.append_nil _).symm⟩

/-- Opening a document whose node is still closed does what is planned for it. -/
theorem visit_completes (hf : Capable s levels nested) {p : Path} {reason : Reason}
    {uri : Option String} (hexpected : ∀ u, reason.expected = some u → u = uri)
    (hclosed : (⟨p, uri⟩ : SchemaNode) ∉ seen)
    (hdepth : depth ≤ s.options.limits.maxSchemaDepth)
    {root : Markup.Element} (ha : s.Admits ⟨p, uri⟩ root)
    (hl : ∀ i ∈ Schema.items root, s.Locatable ⟨p, uri⟩ i)
    (he : effective p reason (Schema.declaredNamespace root) = .ok uri)
    (h : Plans s levels ⟨p, uri⟩ depth (seen ++ [⟨p, uri⟩]) (s.agenda ⟨p, uri⟩) es out) :
    Yields (s.visit nested p reason depth seen) es out := by
  have hcontains : seen.contains (⟨p, uri⟩ : SchemaNode) = false := by
    simpa using hclosed
  have hany : ¬ reason.expected.any (fun u => seen.contains ⟨p, u⟩) = true := by
    intro hany
    obtain ⟨u, hu, hmem⟩ := (Option.any_eq_true _ _).1 hany
    cases hexpected u hu
    rw [hcontains] at hmem
    cases hmem
  have hcheck := (Limits.check_ok_iff s.options.limits .schemaDepth depth).2 hdepth
  unfold visit
  rw [if_neg hany]
  refine yields_bind.2 ⟨(), [], es, yields_lift.2 ⟨mapError_eq_ok_iff.2 hcheck, rfl⟩, ?_, rfl⟩
  refine yields_bind.2 ⟨root, [], es, yields_lift.2 ⟨ha.read, rfl⟩, ?_, rfl⟩
  refine yields_bind.2 ⟨uri, [], es, yields_lift.2 ⟨he, rfl⟩, ?_, rfl⟩
  rw [if_neg (by simpa using hclosed)]
  exact enter_completes hf ha hl h

theorem effective_completes {parent : SchemaNode} {reason : Reason} {root : Markup.Element}
    (hopens : Opens parent reason n.uri) (he : s.Enters parent depth n)
    (ha : s.Admits n root) :
    effective n.path reason (Schema.declaredNamespace root) = .ok n.uri := by
  rcases hopens with ⟨rfl, _⟩ | ⟨⟨named, rfl⟩, hne⟩
  · rcases ha.declared with hd | hd
    · cases hu : n.uri <;> simp [effective, hd, hu]
    · simp [effective, hd]
  · rcases he.declared with heq | ⟨root', hread, hdeclared⟩
    · exact absurd heq hne
    · cases Except.ok.inj (ha.read.symm.trans hread)
      simp [effective, hdeclared]

/-- Loading opens whatever is planned. -/
theorem load_capable (s : Setting) (levels : Nat) : Capable s levels (s.load levels) := by
  induction levels with
  | zero =>
      intro p reason uri parent depth seen es out _ h
      exact h.room.zero.elim
  | succ levels ih =>
      intro p reason uri parent depth seen es out hopens h
      have hexpected : reason.expected = some uri := by
        rcases hopens with ⟨rfl, _⟩ | ⟨⟨named, rfl⟩, _⟩ <;> rfl
      cases h.order with
      | pass hmem rest =>
          obtain ⟨rfl, rfl⟩ := rest.eq_of_nil
          show Yields (s.visit _ p reason (depth + 1) out) [] out
          unfold visit
          rw [if_pos (by simpa [hexpected] using hmem)]
          exact yields_pure.2 ⟨rfl, rfl⟩
      | @enter _ _ _ _ mid _ _ inner outer hclosed henters sub rest =>
          obtain ⟨rfl, rfl⟩ := rest.eq_of_nil
          rw [List.append_nil]
          have hmem : (⟨p, uri⟩ : SchemaNode) ∈ out := sub.depthFirst.seen_subset (by simp)
          obtain ⟨root, ha, hl⟩ := h.permitted.admitted _ hmem
          have hpush := h.room.push hclosed (h.known hmem)
          refine visit_completes ih ?_ hclosed henters.depth ha hl
            (effective_completes hopens henters ha) ⟨sub, hpush, h.permitted, h.known⟩
          intro u hu
          rw [hexpected] at hu
          exact (Option.some.inj hu).symm

end Following

section Whole

variable {start : SchemaNode} {es : List Step} {out : List SchemaNode}

/-- A descent from the entry document is what its traversal yields. -/
theorem traverse_completes
    (hdeclared :
      ∃ root, s.readRoot start.path = .ok root ∧ Schema.declaredNamespace root = start.uri)
    (horder : Descent s.agenda s.Enters start 0 [start] (s.agenda start) es out)
    (hpermits : s.Permits out) :
    Yields (s.traverse start.path) es out := by
  obtain ⟨root, hread, hdeclared⟩ := hdeclared
  have hmem : start ∈ out := horder.depthFirst.seen_subset (by simp)
  obtain ⟨root', ha, hl⟩ := hpermits.admitted start hmem
  cases Except.ok.inj (ha.read.symm.trans hread)
  obtain ⟨q, hq⟩ := ha.canonical
  have hstart : start ∈ s.nodes := mem_nodes hq hread (.inl hdeclared)
  have hempty : Room s s.budget [] :=
    ⟨List.nodup_nil, List.nil_subset _, by simp [budget, length_nodes]⟩
  have hknown : out ⊆ s.nodes :=
    known_of_descent horder (uri_mem_uris hstart) (by simpa using hstart) hpermits
  have hpush := hempty.push List.not_mem_nil hstart
  exact visit_completes (load_capable s _) (by simp [Reason.expected]) List.not_mem_nil
    (Nat.zero_le _) ha hl (by rw [effective_entry, hdeclared])
    ⟨horder, hpush, hpermits, hknown⟩

theorem checkReferences_of_lands {t : Table} {rs : List Schema.Reference}
    (h : ∀ r ∈ rs, lands t r = true) :
    checkReferences t rs = .ok () := by
  have hnone : rs.find? (fun r => !lands t r) = none := by
    simpa [List.find?_eq_none] using h
  simp [checkReferences, hnone]

/-- A compilation succeeds with whatever can be descended, if the declarations can be
registered and the references land on them. -/
theorem compile_completes {entry : Path} {t : Table}
    (hcanonical : s.files.canonicalize ((s.resolver (entryRequest entry)).systemId.getD entry) =
      .ok start.path)
    (hdeclared :
      ∃ root, s.readRoot start.path = .ok root ∧ Schema.declaredNamespace root = start.uri)
    (horder : Descent s.agenda s.Enters start 0 [start] (s.agenda start) es out)
    (hpermits : s.Permits out)
    (htable : (declaredOf es).foldlM (Table.register s.options.limits) ∅ = .ok t)
    (hlands : ∀ r ∈ referencesOf es, lands t r = true) :
    (s.compile entry).outcome = .ok ⟨start.path, documentsOf es, t⟩ := by
  obtain ⟨hout, rfl⟩ := traverse_completes hdeclared horder hpermits
  rw [declaredOf_events, ← outcome_assemble] at htable
  rw [referencesOf_events] at hlands
  rw [documentsOf_events]
  unfold compile
  refine Journal.outcome_bind_eq_ok_iff.2 ⟨s.resolver (entryRequest entry), rfl, ?_⟩
  refine Journal.outcome_bind_eq_ok_iff.2 ⟨start.path, mapError_eq_ok_iff.2 hcanonical, ?_⟩
  refine Journal.outcome_bind_eq_ok_iff.2 ⟨t, htable, ?_⟩
  refine Journal.outcome_bind_eq_ok_iff.2 ⟨out, hout, ?_⟩
  refine Journal.outcome_bind_eq_ok_iff.2 ⟨(), checkReferences_of_lands hlands, ?_⟩
  exact Journal.outcome_bind_eq_ok_iff.2 ⟨(), rfl, rfl⟩

end Whole

end Setting
end SchemaSet
