import Mathlib.Data.List.Dedup
import SchemaSet.Proofs.Compiled

/-!
# Compiling ends

`Setting.loadOr cut again` opens documents as `Setting.load` does, but does `cut` when no level is
left and `again` when a document turns out to be open once it is read.  A compilation that is the
same for all `cut` and `again` never comes to either of them.  While there is `Room`, neither is
done (`loadOr_eq_load`).

`Grows` says of a part of a traversal, whether it ends in an error or not, that it opens distinct
nodes that were not open before.  Every part of every traversal does (`load_grows`).

Hence, for any finite file system, any resolver and any limits, a compilation never runs out of
levels, never reads a document that is open, and opens at most `f * (t + 1)` documents for `f` files
with `t` namespaces (`compile_ends`).
-/

namespace SchemaSet

/-- The nodes that some steps open, oldest first. -/
def openedOf (steps : List Step) : List SchemaNode := steps.filterMap Step.node?

namespace FileSystem

/-- The namespace that the root of a file declares. -/
def declaredIn : Node → Option String
  | .file content => (Markup.readDocument content).toOption.bind Schema.declaredNamespace
  | _ => none

/-- The distinct namespaces that the roots of the files declare. -/
def declaredNamespaces (fs : FileSystem) : List String :=
  (fs.nodes.values.filterMap declaredIn).dedup

end FileSystem

namespace Setting

section Probe

variable (s : Setting)

/-- Opens a document as `visit` does; `again` is done when it is open once it is read. -/
def visitOr (again : SchemaNode → List SchemaNode → Walk)
    (nested : Path → Reason → Nat → List SchemaNode → Walk) (p : Path) (reason : Reason)
    (depth : Nat) (seen : List SchemaNode) : Walk := do
  if reason.expected.any (fun uri => seen.contains ⟨p, uri⟩) then return seen
  (s.options.limits.check .schemaDepth depth).mapError Error.limit
  let root ← s.readRoot p
  let uri ← effective p reason (Schema.declaredNamespace root)
  if seen.contains ⟨p, uri⟩ then again ⟨p, uri⟩ seen
  else s.enter nested ⟨p, uri⟩ root depth seen

/-- Opens a document as `load` does; `cut` is done when no level is left. -/
def loadOr (cut : List SchemaNode → Walk) (again : SchemaNode → List SchemaNode → Walk) :
    (n : Nat) → Path → Reason → Nat → List SchemaNode → Walk
  | 0, _, _, _, seen => cut seen
  | n + 1, p, reason, depth, seen =>
      s.visitOr again (loadOr cut again n) p reason depth seen

/-- Compiles as `compile` does, with another traversal. -/
def compileWith (traverse : Path → Walk) (entry : Path) : Journal Step Error CompiledSet := do
  let answer ← s.ask (entryRequest entry)
  let start ← s.canonical (answer.systemId.getD entry)
  let walk := traverse start
  let table ← assemble s.options.limits ∅ walk.notes
  let _ ← walk.outcome
  checkReferences table (referencesOf walk.notes)
  let documents := documentsOf walk.notes
  Journal.note (.told (.compiled start documents.length table.size))
  return ⟨start, documents, table⟩

theorem compileWith_traverse (entry : Path) : s.compileWith s.traverse entry = s.compile entry :=
  rfl

variable {s}

/-- Two traversals that agree on canonical documents compile alike. -/
theorem compileWith_congr {f g : Path → Walk} (entry : Path)
    (h : ∀ p q, s.files.canonicalize q = .ok p → f p = g p) :
    s.compileWith f entry = s.compileWith g entry := by
  refine Journal.bind_congr_ok fun answer _ => Journal.bind_congr_ok fun start hstart => ?_
  rw [h start _ (canonicalize_of_canonical hstart)]

/-- How a compilation ends, given its traversal. -/
theorem outcome_compileWith (f : Path → Walk) (entry : Path) :
    (s.compileWith f entry).outcome = (do
      let start ← s.canonical ((s.resolver (entryRequest entry)).systemId.getD entry)
      let table ← (declaredOf (f start).notes).foldlM (Table.register s.options.limits) ∅
      let _ ← (f start).outcome
      checkReferences table (referencesOf (f start).notes)
      return ⟨start, documentsOf (f start).notes, table⟩) := by
  unfold compileWith
  rw [Journal.outcome_bind]
  show (_ >>= fun start => _ : Journal Step Error CompiledSet).outcome = _
  rw [Journal.outcome_bind]
  refine congrArg (Except.bind _) (funext fun start => ?_)
  dsimp only
  rw [Journal.outcome_bind, outcome_assemble]
  refine congrArg (Except.bind _) (funext fun table => ?_)
  rw [Journal.outcome_bind]
  refine congrArg (Except.bind _) (funext fun out => ?_)
  rw [Journal.outcome_bind]
  exact congrArg (Except.bind _) (funext fun _ => rfl)

end Probe

section Levels

variable {s : Setting} {levels : Nat} {n : SchemaNode} {depth : Nat} {seen : List SchemaNode}
variable {nested : Path → Reason → Nat → List SchemaNode → Walk}

/-- `nested` opens documents as `load` does while there is room for `levels` levels. -/
def AgreesWithLoad (s : Setting) (levels : Nat)
    (nested : Path → Reason → Nat → List SchemaNode → Walk) : Prop :=
  ∀ ⦃p : Path⦄ ⦃reason : Reason⦄ ⦃depth : Nat⦄ ⦃seen : List SchemaNode⦄,
    (∃ q, s.files.canonicalize q = .ok p) →
    (∀ u, reason = .included u → u ∈ s.uris) →
    (reason = .entry → seen = []) →
    Room s levels seen →
    nested p reason depth seen = s.load levels p reason depth seen

theorem followImport_congr (hf : AgreesWithLoad s levels nested) (hr : Room s levels seen)
    (uri location : Option String) :
    s.followImport nested n depth seen uri location =
      s.followImport (s.load levels) n depth seen uri location := by
  unfold followImport
  by_cases hown : uri = n.uri
  · rw [if_pos hown, if_pos hown]
    refine Journal.bind_congr_ok fun _ hthrow => ?_
    cases hthrow
  · rw [if_neg hown, if_neg hown]
    refine Journal.bind_congr_ok fun answer hfind => ?_
    obtain rfl := find_value hfind
    refine Journal.bind_congr_ok fun _ _ => ?_
    cases ht : s.found? n.path uri location with
    | none => rfl
    | some t => exact hf (canonical_of_found? ht) (by simp) (by simp) hr

theorem followInclude_congr (hf : AgreesWithLoad s levels nested) (hr : Room s levels seen)
    (hu : n.uri ∈ s.uris) (element : String) (location : Option String) :
    s.followInclude nested n depth seen element location =
      s.followInclude (s.load levels) n depth seen element location := by
  cases location with
  | none => rfl
  | some l =>
      refine Journal.bind_congr_ok fun answer hfind => ?_
      obtain rfl := find_value hfind
      cases ht : s.found? n.path none (some l) with
      | none => rfl
      | some t =>
          have hincluded : ∀ u, Reason.included n.uri = .included u → u ∈ s.uris := by
            rintro u h
            cases h
            exact hu
          exact Journal.bind_congr_ok fun _ _ =>
            hf (canonical_of_found? ht) hincluded (by simp) hr

theorem followItem_congr (hf : AgreesWithLoad s levels nested) (hr : Room s levels seen)
    (hu : n.uri ∈ s.uris) (i : Schema.Item) :
    s.followItem nested n depth seen i = s.followItem (s.load levels) n depth seen i := by
  cases i with
  | importing uri location => exact followImport_congr hf hr uri location
  | including location => exact followInclude_congr hf hr hu "include" location
  | redefining location ds =>
      simp only [followItem, followInclude_congr hf hr hu "redefine" location]
  | declaring d => rfl

theorem followItems_congr (hf : AgreesWithLoad s levels nested) (hr : Room s levels seen)
    (hu : n.uri ∈ s.uris) (is : List Schema.Item) :
    s.followItems nested n depth seen is = s.followItems (s.load levels) n depth seen is := by
  induction is generalizing seen with
  | nil => rfl
  | cons i rest ih =>
      unfold followItems
      rw [followItem_congr hf hr hu i]
      refine Journal.bind_congr_ok fun out hi => ?_
      -- what was opened by the first item leaves room for the others
      have hroom : Room s levels out :=
        (followItem_yields (load_faithful s levels) hr hu ⟨hi, rfl⟩).2.room
      exact ih hroom

/-- Whatever is done when no level is left or a document turns out to be open, it is never done
while there is room. -/
theorem loadOr_eq_load (cut : List SchemaNode → Walk)
    (again : SchemaNode → List SchemaNode → Walk) (extra : Nat) :
    AgreesWithLoad s levels (s.loadOr cut again (levels + extra)) := by
  induction levels with
  | zero => exact fun _ _ _ _ _ _ _ hr => hr.zero.elim
  | succ levels ih =>
      intro p reason depth seen hc hu hentry hr
      rw [Nat.succ_add]
      show s.visitOr again (s.loadOr cut again (levels + extra)) p reason depth seen =
        s.visit (s.load levels) p reason depth seen
      unfold visitOr visit
      by_cases hany : reason.expected.any (fun uri => seen.contains ⟨p, uri⟩) = true
      · rw [if_pos hany, if_pos hany]
      rw [if_neg hany, if_neg hany]
      refine Journal.bind_congr_ok fun _ _ => Journal.bind_congr_ok fun root hread => ?_
      refine Journal.bind_congr_ok fun uri heff => ?_
      have hroot : s.readRoot p = .ok root := hread
      have hexpected := (effective_ok heff).2
      -- the namespace was expected, so the node was looked for before the document was read
      have hclosed : (⟨p, uri⟩ : SchemaNode) ∉ seen := by
        cases he : reason.expected with
        | none =>
            cases reason with
            | entry => simp [hentry rfl]
            | imported u resolved => cases he
            | included u => cases he
        | some u =>
            obtain rfl := hexpected u he
            intro hmem
            exact hany (by simp [he, hmem])
      have hnode : (⟨p, uri⟩ : SchemaNode) ∈ s.nodes := mem_nodes_of_effective hc hu hroot heff
      have hpush : Room s levels (seen ++ [⟨p, uri⟩]) := hr.push hclosed hnode
      have hcontains : seen.contains (⟨p, uri⟩ : SchemaNode) = false := by
        simpa using hclosed
      rw [hcontains, if_neg Bool.false_ne_true, if_neg Bool.false_ne_true]
      unfold enter
      refine Journal.bind_congr_ok fun _ _ => Journal.bind_congr_ok fun _ _ => ?_
      refine Journal.bind_congr_ok fun _ _ => ?_
      rw [followItems_congr ih hpush (uri_mem_uris hnode)]

end Levels

section Growth

variable {α β : Type} {s : Setting} {n : SchemaNode} {depth : Nat} {seen : List SchemaNode}
variable {nested : Path → Reason → Nat → List SchemaNode → Walk}

/-- A computation opens nothing. -/
def Quiet (j : Journal Step Error α) : Prop := ∀ step ∈ j.notes, step.node? = none

theorem quiet_of_notes {j : Journal Step Error α} (h : j.notes = []) : Quiet j := by
  simp [Quiet, h]

theorem quiet_note {step : Step} (h : step.node? = none) : Quiet (Journal.note step) := by
  simpa [Quiet, Journal.note] using h

theorem Quiet.bind {j : Journal Step Error α} {f : α → Journal Step Error β} (h : Quiet j)
    (hf : ∀ a, Quiet (f a)) :
    Quiet (j >>= f) := by
  intro step hs
  rw [Journal.notes_bind, List.mem_append] at hs
  rcases hs with hs | hs
  · exact h step hs
  · cases ho : j.outcome with
    | error e => simp [ho, Except.toOption] at hs
    | ok a => exact hf a step (by simpa [ho, Except.toOption] using hs)

theorem Quiet.openedOf {j : Journal Step Error α} (h : Quiet j) : openedOf j.notes = [] :=
  List.filterMap_eq_nil_iff.2 h

theorem locateWritten_quiet (base : Path) (location : Option String) :
    Quiet (s.locateWritten base location) := by
  cases location with
  | none => exact quiet_of_notes rfl
  | some l =>
      refine Quiet.bind (quiet_of_notes rfl) fun target => ?_
      cases target with
      | path p =>
          cases hc : s.files.canonicalize p with
          | ok found => exact quiet_of_notes (by simp only [hc]; rfl)
          | error f =>
              simp only [hc]
              exact (quiet_note rfl).bind fun _ => quiet_of_notes rfl
      | url u => exact (quiet_note rfl).bind fun _ => quiet_of_notes rfl
      | memory _ => exact quiet_of_notes rfl

theorem ask_quiet (r : Request) : Quiet (s.ask r) :=
  (quiet_note rfl).bind fun _ => quiet_of_notes rfl

theorem find_quiet (base : Path) (uri location : Option String) :
    Quiet (s.find base uri location) := by
  refine (ask_quiet _).bind fun answer => ?_
  cases answer with
  | resolved e => exact Quiet.bind (quiet_of_notes rfl) fun _ => quiet_of_notes rfl
  | skip => exact (locateWritten_quiet base location).bind fun _ => quiet_of_notes rfl
  | unresolved key => exact (locateWritten_quiet base location).bind fun _ => quiet_of_notes rfl

theorem declareAll_quiet (redefined : Bool) (ds : List Schema.Declaration) :
    Quiet (declareAll n redefined ds) := by
  induction ds with
  | nil => exact quiet_of_notes rfl
  | cons d rest ih =>
      exact Quiet.bind (quiet_of_notes rfl) fun _ => (quiet_note rfl).bind fun _ => ih

theorem referAll_quiet (document : Path) (adopted : Option String) (ts : List Schema.Token) :
    Quiet (referAll document adopted ts) := by
  induction ts with
  | nil => exact quiet_of_notes rfl
  | cons t rest ih =>
      exact Quiet.bind (quiet_of_notes rfl) fun _ => (quiet_note rfl).bind fun _ => ih

/-- A part of a traversal, also one that ends in an error, opens distinct nodes of the setting
that were not open before, and ends with these. -/
structure Grows (s : Setting) (seen : List SchemaNode) (j : Walk) : Prop where
  /-- No node is opened that was open. -/
  distinct : (seen ++ openedOf j.notes).Nodup
  /-- Only nodes of the setting are opened. -/
  known : openedOf j.notes ⊆ s.nodes
  /-- The nodes opened come after those that were open. -/
  value : ∀ out, j.outcome = .ok out → out = seen ++ openedOf j.notes

theorem Grows.nothing {j : Walk} (hs : seen.Nodup) (hq : Quiet j)
    (hv : ∀ out, j.outcome = .ok out → out = seen) :
    Grows s seen j where
  distinct := by rwa [hq.openedOf, List.append_nil]
  known := by simp [hq.openedOf]
  value := by
    intro out ho
    rw [hq.openedOf, List.append_nil]
    exact hv out ho

theorem grows_throw (hs : seen.Nodup) (e : Error) : Grows s seen (throw e : Walk) := by
  refine .nothing hs (quiet_of_notes rfl) ?_
  intro out ho
  cases ho

theorem grows_pure (hs : seen.Nodup) : Grows s seen (pure seen : Walk) := by
  refine .nothing hs (quiet_of_notes rfl) ?_
  intro out ho
  exact (Except.ok.inj ho).symm

/-- Nothing is opened before a part that opens something. -/
theorem Grows.after {j : Journal Step Error α} {f : α → Walk} (hs : seen.Nodup) (hq : Quiet j)
    (hf : ∀ a, j.outcome = .ok a → Grows s seen (f a)) :
    Grows s seen (j >>= f) := by
  cases ho : j.outcome with
  | error e =>
      rw [Journal.bind_of_error ho]
      exact .nothing hs hq (by simp)
  | ok a =>
      have h := hf a ho
      have hopened : openedOf (j >>= f).notes = openedOf (f a).notes := by
        rw [Journal.bind_of_ok ho]
        show openedOf (j.notes ++ (f a).notes) = _
        rw [openedOf, List.filterMap_append, ← openedOf, hq.openedOf, List.nil_append, openedOf]
      have houtcome : (j >>= f).outcome = (f a).outcome := by rw [Journal.bind_of_ok ho]
      exact
        { distinct := by rw [hopened]; exact h.distinct
          known := by rw [hopened]; exact h.known
          value := by rw [hopened, houtcome]; exact h.value }

/-- Two parts open the nodes of the first and then those of the second. -/
theorem Grows.bind {j : Walk} {f : List SchemaNode → Walk} (h : Grows s seen j)
    (hf : ∀ out, j.outcome = .ok out → Grows s out (f out)) :
    Grows s seen (j >>= f) := by
  cases ho : j.outcome with
  | error e =>
      rw [Journal.bind_of_error ho]
      exact ⟨h.distinct, h.known, by simp⟩
  | ok out =>
      have h' := hf out ho
      have hout := h.value out ho
      rw [Journal.bind_of_ok ho]
      have hopened : openedOf (j.notes ++ (f out).notes) =
          openedOf j.notes ++ openedOf (f out).notes := List.filterMap_append
      exact
        { distinct := by
            show (seen ++ openedOf (j.notes ++ (f out).notes)).Nodup
            rw [hopened, ← List.append_assoc, ← hout]
            exact h'.distinct
          known := by
            show openedOf (j.notes ++ (f out).notes) ⊆ s.nodes
            rw [hopened]
            exact List.append_subset.2 ⟨h.known, h'.known⟩
          value := by
            intro last hlast
            show last = seen ++ openedOf (j.notes ++ (f out).notes)
            rw [hopened, ← List.append_assoc, ← hout]
            exact h'.value last hlast }

theorem Grows.nodup {j : Walk} {out : List SchemaNode} (h : Grows s seen j)
    (ho : j.outcome = .ok out) :
    out.Nodup := by
  rw [h.value out ho]
  exact h.distinct

/-- Noting that a node is opened opens it. -/
theorem Grows.opened {chameleon : Bool} {k : Walk} (hk : n ∈ s.nodes)
    (h : Grows s (seen ++ [n]) k) :
    Grows s seen (Journal.note (.opened n chameleon) >>= fun _ => k) := by
  have hnotes : (Journal.note (.opened n chameleon) >>= fun _ => k) =
      ⟨.opened n chameleon :: k.notes, k.outcome⟩ := rfl
  have hopened : seen ++ openedOf (.opened n chameleon :: k.notes) =
      (seen ++ [n]) ++ openedOf k.notes := by
    rw [List.append_assoc]
    rfl
  rw [hnotes]
  exact
    { distinct := by
        rw [hopened]
        exact h.distinct
      known := List.cons_subset.2 ⟨hk, h.known⟩
      value := by
        intro out ho
        rw [hopened]
        exact h.value out ho }

/-- `nested` opens distinct nodes of the setting. -/
def OpensDistinct (s : Setting) (nested : Path → Reason → Nat → List SchemaNode → Walk) : Prop :=
  ∀ ⦃p : Path⦄ ⦃reason : Reason⦄ ⦃depth : Nat⦄ ⦃seen : List SchemaNode⦄,
    (∃ q, s.files.canonicalize q = .ok p) →
    (∀ u, reason = .included u → u ∈ s.uris) →
    seen.Nodup →
    Grows s seen (nested p reason depth seen)

theorem followImport_grows (hf : OpensDistinct s nested) (hs : seen.Nodup)
    (uri location : Option String) :
    Grows s seen (s.followImport nested n depth seen uri location) := by
  unfold followImport
  by_cases hown : uri = n.uri
  · rw [if_pos hown]
    refine .after hs (quiet_of_notes rfl) fun _ hthrow => ?_
    cases hthrow
  · rw [if_neg hown]
    refine .after hs (find_quiet _ _ _) fun answer hfind => ?_
    obtain rfl := find_value hfind
    refine .after hs (quiet_note rfl) fun _ _ => ?_
    cases ht : s.found? n.path uri location with
    | some t => exact hf (canonical_of_found? ht) (by simp) hs
    | none =>
        show Grows s seen (if _ then _ else _)
        split
        · exact .after hs (quiet_note rfl) fun _ _ => grows_pure hs
        · split
          · exact grows_throw hs _
          · exact .after hs (quiet_note rfl) fun _ _ => grows_pure hs

theorem followInclude_grows (hf : OpensDistinct s nested) (hs : seen.Nodup)
    (hu : n.uri ∈ s.uris) (element : String) (location : Option String) :
    Grows s seen (s.followInclude nested n depth seen element location) := by
  cases location with
  | none => exact grows_throw hs _
  | some l =>
      refine .after hs (find_quiet _ _ _) fun answer hfind => ?_
      obtain rfl := find_value hfind
      cases ht : s.found? n.path none (some l) with
      | some t =>
          refine .after hs (quiet_note rfl) fun _ _ => hf (canonical_of_found? ht) ?_ hs
          rintro u h
          cases h
          exact hu
      | none =>
          show Grows s seen (if _ then _ else _)
          split
          · exact grows_throw hs _
          · exact .after hs (quiet_note rfl) fun _ _ => grows_pure hs

theorem followItem_grows (hf : OpensDistinct s nested) (hs : seen.Nodup) (hu : n.uri ∈ s.uris)
    (i : Schema.Item) :
    Grows s seen (s.followItem nested n depth seen i) := by
  cases i with
  | importing uri location => exact followImport_grows hf hs uri location
  | including location => exact followInclude_grows hf hs hu "include" location
  | redefining location ds =>
      have hg : Grows s seen (s.followInclude nested n depth seen "redefine" location) :=
        followInclude_grows hf hs hu "redefine" location
      refine hg.bind fun out ho => ?_
      exact .after (hg.nodup ho) (declareAll_quiet true ds) fun _ _ => grows_pure (hg.nodup ho)
  | declaring d => exact .after hs (declareAll_quiet false [d]) fun _ _ => grows_pure hs

theorem followItems_grows (hf : OpensDistinct s nested) (hs : seen.Nodup) (hu : n.uri ∈ s.uris)
    (is : List Schema.Item) :
    Grows s seen (s.followItems nested n depth seen is) := by
  induction is generalizing seen with
  | nil => exact grows_pure hs
  | cons i rest ih =>
      have hg : Grows s seen (s.followItem nested n depth seen i) := followItem_grows hf hs hu i
      exact hg.bind fun out ho => ih (hg.nodup ho)

/-- Every part of every traversal opens distinct nodes of the setting. -/
theorem load_grows (s : Setting) (levels : Nat) : OpensDistinct s (s.load levels) := by
  induction levels with
  | zero => exact fun _ _ _ _ _ _ hs => grows_pure hs
  | succ levels ih =>
      intro p reason depth seen hc hu hs
      show Grows s seen (s.visit (s.load levels) p reason depth seen)
      unfold visit
      split
      · exact grows_pure hs
      refine .after hs (quiet_of_notes rfl) fun _ _ => ?_
      refine .after hs (quiet_of_notes rfl) fun root hread => ?_
      refine .after hs (quiet_of_notes rfl) fun uri heff => ?_
      split
      · exact grows_pure hs
      · rename_i hmem
        have hroot : s.readRoot p = .ok root := hread
        have hclosed : (⟨p, uri⟩ : SchemaNode) ∉ seen := by simpa using hmem
        have hnode : (⟨p, uri⟩ : SchemaNode) ∈ s.nodes := mem_nodes_of_effective hc hu hroot heff
        have hpush : (seen ++ [(⟨p, uri⟩ : SchemaNode)]).Nodup := by simpa using hs.concat hclosed
        refine .after hs (quiet_of_notes rfl) fun _ _ => ?_
        refine Grows.opened hnode (.after hpush (quiet_note rfl) fun _ _ => ?_)
        have hg : Grows s (seen ++ [⟨p, uri⟩]) (s.followItems (s.load levels) ⟨p, uri⟩ depth
            (seen ++ [⟨p, uri⟩]) (Schema.items root)) :=
          followItems_grows ih hpush (uri_mem_uris hnode) (Schema.items root)
        refine hg.bind fun out ho => ?_
        exact .after (hg.nodup ho) (referAll_quiet _ _ _) fun _ _ => grows_pure (hg.nodup ho)

end Growth

section Count

variable (s : Setting)

/-- The nodes of the files in the namespaces that some root declares, or in none. -/
def declaredNodes : List SchemaNode :=
  s.files.filePaths.flatMap fun p =>
    (none :: s.files.declaredNamespaces.map some).map fun uri => ⟨p, uri⟩

theorem length_declaredNodes :
    s.declaredNodes.length =
      s.files.fileCount * (s.files.declaredNamespaces.length + 1) := by
  simp [declaredNodes, List.length_flatMap, FileSystem.length_filePaths]

variable {s}

/-- What the document at a path declares is declared by the root of some file. -/
theorem mem_declaredNamespaces {p : Path} {uri : String} (h : s.declaredAt p = some uri) :
    uri ∈ s.files.declaredNamespaces := by
  unfold declaredAt at h
  split at h
  · rename_i root hroot
    obtain ⟨content, he, hread⟩ := content_of_readRoot hroot
    have hdeclared : FileSystem.declaredIn (.file content) = some uri := by
      simpa [FileSystem.declaredIn, hread, Except.toOption] using h
    exact List.mem_dedup.2
      (List.mem_filterMap.2 ⟨_, FileSystem.mem_values_of_entry he, hdeclared⟩)
  · cases h

theorem nodes_subset_declaredNodes : s.nodes ⊆ s.declaredNodes := by
  intro n hn
  obtain ⟨p, hp, hn⟩ := List.mem_flatMap.1 hn
  obtain ⟨uri, hu, rfl⟩ := List.mem_map.1 hn
  refine List.mem_flatMap.2 ⟨p, hp, List.mem_map.2 ⟨uri, ?_, rfl⟩⟩
  rcases List.mem_cons.1 hu with rfl | hu
  · exact List.mem_cons_self
  · obtain ⟨p', _, rfl⟩ := List.mem_map.1 hu
    cases hd : s.declaredAt p' with
    | none => exact List.mem_cons_self
    | some u =>
        exact List.mem_cons_of_mem _ (List.mem_map_of_mem (mem_declaredNamespaces hd))

/-- Registering the declarations keeps some of the steps, in order. -/
theorem notes_assemble_isPrefix (limits : Limits) (t : Table) (steps : List Step) :
    (assemble limits t steps).notes <+: steps := by
  induction steps generalizing t with
  | nil => exact List.prefix_rfl
  | cons step rest ih =>
      cases step with
      | declared c =>
          refine (List.prefix_cons_inj _).2 ?_
          rw [Journal.notes_bind]
          show [] ++ (t.register limits c).toOption.elim [] _ <+: rest
          cases t.register limits c with
          | error e => exact List.nil_prefix
          | ok u => exact ih u
      | _ => exact (List.prefix_cons_inj _).2 (ih t)

/-- A computation opens distinct nodes of the setting. -/
def OpensOnce {α : Type} (s : Setting) (j : Journal Step Error α) : Prop :=
  (openedOf j.notes).Nodup ∧ openedOf j.notes ⊆ s.nodes

variable {α β : Type} {j : Journal Step Error α} {f : α → Journal Step Error β}

theorem OpensOnce.after (hq : Quiet j) (h : ∀ a, j.outcome = .ok a → s.OpensOnce (f a)) :
    s.OpensOnce (j >>= f) := by
  have hopened : openedOf (j >>= f).notes =
      openedOf (j.outcome.toOption.elim [] fun a => (f a).notes) := by
    rw [Journal.notes_bind, openedOf, List.filterMap_append, ← openedOf, hq.openedOf,
      List.nil_append, openedOf]
  rw [OpensOnce, hopened]
  cases ho : j.outcome with
  | error e => exact ⟨List.nodup_nil, List.nil_subset _⟩
  | ok a => exact h a ho

theorem OpensOnce.before (h : s.OpensOnce j) (hq : ∀ a, Quiet (f a)) : s.OpensOnce (j >>= f) := by
  have hopened : openedOf (j >>= f).notes = openedOf j.notes := by
    rw [Journal.notes_bind, openedOf, List.filterMap_append, ← openedOf]
    cases ho : j.outcome with
    | error e => exact List.append_nil _
    | ok a =>
        have hnone := (hq a).openedOf
        rw [openedOf] at hnone
        simp [Except.toOption, hnone]
  rwa [OpensOnce, hopened]

/-- The declarations that are registered come with some of the nodes of the traversal. -/
theorem assemble_opensOnce (t : Table) {start p : Path} (hc : s.files.canonicalize p = .ok start) :
    s.OpensOnce (assemble s.options.limits t (s.traverse start).notes) := by
  have hgrows : Grows s [] (s.traverse start) :=
    load_grows s s.budget ⟨p, hc⟩ (by simp) List.nodup_nil
  have hfront : openedOf (assemble s.options.limits t (s.traverse start).notes).notes <+:
      openedOf (s.traverse start).notes :=
    (notes_assemble_isPrefix _ _ _).filterMap _
  exact ⟨hfront.sublist.nodup hgrows.distinct, fun _ hn => hgrows.known (hfront.subset hn)⟩

/-- A compilation, also one that ends in an error, opens distinct nodes of the setting. -/
theorem compile_opensOnce (s : Setting) (entry : Path) : s.OpensOnce (s.compile entry) := by
  refine .after (ask_quiet _) fun answer _ => .after (quiet_of_notes rfl) fun start hstart => ?_
  refine .before (assemble_opensOnce ∅ (canonicalize_of_canonical hstart)) fun table => ?_
  refine Quiet.bind (quiet_of_notes rfl) fun _ => Quiet.bind (quiet_of_notes rfl) fun _ => ?_
  exact (quiet_note rfl).bind fun _ => quiet_of_notes rfl

/-- Compiling ends on every graph of documents.  Whatever is done when the levels are used up
or a document turns out to be open once it is read, a compilation with `budget` levels or more is
the same, so that it never comes to either.  It opens distinct nodes, at most one for each file
and each namespace that some root declares or none. -/
theorem compile_ends (s : Setting) (entry : Path) :
    (∀ cut again extra,
      s.compileWith (fun start => s.loadOr cut again (s.budget + extra) start .entry 0 []) entry =
        s.compile entry) ∧
      (openedOf (s.compile entry).notes).Nodup ∧
      (openedOf (s.compile entry).notes).length ≤
        s.files.fileCount * (s.files.declaredNamespaces.length + 1) := by
  obtain ⟨hdistinct, hknown⟩ := compile_opensOnce s entry
  refine ⟨?_, hdistinct, ?_⟩
  · intro cut again extra
    rw [← compileWith_traverse]
    refine compileWith_congr entry fun start p hc => ?_
    have hroom : Room s s.budget [] :=
      ⟨List.nodup_nil, List.nil_subset _, by simp [budget, length_nodes]⟩
    exact loadOr_eq_load cut again extra ⟨p, hc⟩ (by simp) (fun _ => rfl) hroom
  · rw [← length_declaredNodes]
    have hsubset : openedOf (s.compile entry).notes ⊆ s.declaredNodes :=
      fun _ hn => nodes_subset_declaredNodes (hknown hn)
    exact hdistinct.length_le_of_subset hsubset

end Count

end Setting
end SchemaSet
