import Mathlib.Data.List.Chain
import SchemaSet.Proofs.Excess
import SchemaSet.Proofs.IndexedImports

/-!
# Limits are exact

What succeeds keeps to all limits.  What ends in an excess has met more than the limits allow: nodes
that can be reached, keys that are declared by them, or keys that were claimed.

For a compilation the first half is `compile_within`, where a node of a descent is reached in no
more steps than the depth allows (`within_depth`).  While an index is built, the keys of its entries
were claimed on the way, and their number is within its bound; this invariant is `Counts`, and
`build_counts` draws both halves for an index from it.  `limits_exact` puts all of this together.
-/

namespace SchemaSet
namespace Setting

section Depth

variable {s : Setting} {start parent n : SchemaNode} {depth : Nat}
variable {seen out : List SchemaNode}

/-- A chain of located imports, includes and redefines, so many of them, leads from one node to
another. -/
def ReachedIn (s : Setting) (start : SchemaNode) (steps : Nat) (n : SchemaNode) : Prop :=
  ∃ chain : List SchemaNode, chain.length = steps ∧ (start :: chain).IsChain s.Edge ∧
    (start :: chain).getLast? = some n

theorem reachedIn_zero (s : Setting) (start : SchemaNode) : s.ReachedIn start 0 start :=
  ⟨[], rfl, .singleton _, rfl⟩

theorem ReachedIn.succ (h : s.ReachedIn start depth parent) (he : s.Edge parent n) :
    s.ReachedIn start (depth + 1) n := by
  obtain ⟨chain, hlength, hchain, hlast⟩ := h
  refine ⟨chain ++ [n], by simp [hlength], ?_, ?_⟩
  · rw [← List.cons_append, List.isChain_append]
    refine ⟨hchain, .singleton _, ?_⟩
    intro x hx y hy
    rw [hlast] at hx
    cases hx
    cases hy
    exact he
  · rw [← List.cons_append, List.getLast?_append]
    rfl

/-- A node of a descent is reached in no more steps than the depth allows. -/
theorem within_depth {tasks : List (Task SchemaNode Step)} {es : List Step}
    (h : Descent s.agenda s.Enters parent depth seen tasks es out)
    (hp : s.ReachedIn start depth parent) (ht : tasks ⊆ s.agenda parent)
    (hs : ∀ n ∈ seen, ∃ k ≤ s.options.limits.maxSchemaDepth, s.ReachedIn start k n) :
    ∀ n ∈ out, ∃ k ≤ s.options.limits.maxSchemaDepth, s.ReachedIn start k n := by
  induction h with
  | done parent depth seen => exact hs
  | report event _ ih => exact ih hp (List.subset_of_cons_subset ht) hs
  | pass _ _ ih => exact ih hp (List.subset_of_cons_subset ht) hs
  | @enter parent node depth seen mid out rest inner outer _ henters _ _ ihsub ihnext =>
      have hedge : s.Edge parent node := (leads_iff_edge parent node).1 (ht List.mem_cons_self)
      have hnode := hp.succ hedge
      -- the node is one step further than its parent, where what is left of the agenda goes on
      refine ihnext hp (List.subset_of_cons_subset ht) (ihsub hnode (List.Subset.refl _) ?_)
      intro m hm
      rcases List.mem_append.1 hm with hm | hm
      · exact hs m hm
      · rw [List.mem_singleton.1 hm]
        exact ⟨_, henters.depth, hnode⟩

end Depth

section Within

variable {s : Setting} {entry : Path} {c : CompiledSet}

/-- A schema that can be read is a file within its bound. -/
theorem length_le_of_readRoot {p : Path} {root : Markup.Element} (h : s.readRoot p = .ok root) :
    ∃ content, s.files.entry p = .ok (.file content) ∧
      content.length ≤ s.options.limits.maxDocumentSize := by
  obtain ⟨octets, hload, _⟩ := bind_eq_ok_iff.1 h
  obtain ⟨content, hread, _⟩ := bind_eq_ok_iff.1 hload
  exact ⟨content, FileSystem.entry_of_readPath hread, FileSystem.readPath_length_le hread⟩

/-- A set of documents keeps to all limits. -/
structure Within (s : Setting) (entry : Path) (c : CompiledSet) : Prop where
  documents : c.documents.length ≤ s.options.limits.maxDocuments
  components : c.table.size ≤ s.options.limits.maxSchemaComponents
  /-- The files of the documents are not too long. -/
  sizes : ∀ d ∈ c.documents, ∃ content, s.files.entry d.path = .ok (.file content) ∧
    content.length ≤ s.options.limits.maxDocumentSize
  /-- Few enough references lead from the entry document to each of them. -/
  depths : ∃ start, s.Starts entry start ∧ ∀ d ∈ c.documents,
    ∃ k ≤ s.options.limits.maxSchemaDepth, s.ReachedIn start k d.node

/-- A set that compiles keeps to all limits. -/
theorem compile_within (h : (s.compile entry).outcome = .ok c) : s.Within entry c := by
  obtain ⟨start, es, hc⟩ := compiles h
  have hstarts : s.Starts entry start := ⟨hc.path ▸ hc.canonical, hc.declared⟩
  have hdepth := within_depth hc.descent (reachedIn_zero s start) (List.Subset.refl _)
    fun n hn => ⟨0, Nat.zero_le _, List.mem_singleton.1 hn ▸ reachedIn_zero s start⟩
  exact
    { documents := by simpa [CompiledSet.nodes] using hc.permitted.counted
      components := Table.size_le_of_foldlM hc.table (Nat.zero_le _)
      sizes := by
        intro d hd
        obtain ⟨_, root, hroot, _⟩ := hc.document hd
        exact length_le_of_readRoot hroot.read
      depths := ⟨start, hstarts, fun d hd => hdepth d.node (List.mem_map_of_mem hd)⟩ }

end Within

end Setting

/-- The key that a notice tells to be claimed. -/
def Notice.claimed? : Notice → Option String
  | .namespaceFound key _ => some key
  | .catalogEntry key _ => some key
  | .publicIdentifier key _ => some key
  | _ => none

/-- The keys that some notices tell to be claimed. -/
def claimedIn (notices : List Notice) : List String := notices.filterMap Notice.claimed?

namespace IndexPlan

section Counting

variable {plan : IndexPlan} {fs : FileSystem} {before : List String}

/-- A document, a catalog or an identifier of a plan claims a key. -/
inductive Claims (plan : IndexPlan) (fs : FileSystem) : String → Prop
  | document {p : Path} {c : Claim} :
      p ∈ plan.paths fs → plan.describe fs p = .ok c → Claims plan fs c.key
  | catalog {p target : Path} {catalog : Catalog} {key : String} :
      p ∈ plan.catalogs → (Catalog.ofFile fs plan.limits p).outcome = .ok catalog →
        (key, target) ∈ catalog.entries → Claims plan fs key
  | identifier {key : String} {target : Path} :
      (key, target) ∈ plan.publicIds → Claims plan fs key

/-- Keys that make an excess of entries. -/
def Exceeds (plan : IndexPlan) (claimed : List String) : Prop :=
  ∃ keys : List String, keys.Nodup ∧ keys ⊆ claimed ∧ plan.limits.maxIndexEntries < keys.length

/-- After some keys were claimed, a part of the work tells truly which keys it claims, ends in an
excess of entries only if too many keys were claimed, and in a value that satisfies a condition on
the keys claimed. -/
structure Counts {α : Type} (plan : IndexPlan) (fs : FileSystem) (before : List String)
    (V : List String → α → Prop) (j : Journal Notice Error α) : Prop where
  claimed : ∀ key ∈ claimedIn j.notes, plan.Claims fs key
  error : ∀ found bound, j.outcome = .error (.limit (.over .indexEntries found bound)) →
    plan.Exceeds (before ++ claimedIn j.notes)
  value : ∀ a, j.outcome = .ok a → V (before ++ claimedIn j.notes) a

/-- Entries are within their bound, and all their keys were claimed. -/
structure Counted (plan : IndexPlan) (claimed : List String) (entries : Entries) : Prop where
  keys : entries.keys ⊆ claimed
  size : entries.size ≤ plan.limits.maxIndexEntries

variable {α β : Type} {V : List String → α → Prop} {W : List String → β → Prop}

theorem Counts.bind {j : Journal Notice Error α} {f : α → Journal Notice Error β}
    (h : plan.Counts fs before V j)
    (hf : ∀ a, j.outcome = .ok a → V (before ++ claimedIn j.notes) a →
      plan.Counts fs (before ++ claimedIn j.notes) W (f a)) :
    plan.Counts fs before W (j >>= f) := by
  cases ho : j.outcome with
  | error e =>
      rw [Journal.bind_of_error ho]
      refine ⟨h.claimed, fun n m he => ?_, nofun⟩
      cases he
      exact h.error n m ho
  | ok a =>
      have h' := hf a ho (h.value a ho)
      rw [Journal.bind_of_ok ho]
      have hnotes : claimedIn (j.notes ++ (f a).notes) =
          claimedIn j.notes ++ claimedIn (f a).notes := List.filterMap_append
      refine ⟨?_, ?_, ?_⟩
      · intro key hkey
        rw [hnotes] at hkey
        rcases List.mem_append.1 hkey with hkey | hkey
        · exact h.claimed key hkey
        · exact h'.claimed key hkey
      · intro n m he
        rw [hnotes, ← List.append_assoc]
        exact h'.error n m he
      · intro b hb
        rw [hnotes, ← List.append_assoc]
        exact h'.value b hb

theorem counts_lift {x : Except Error α} (h : FailsLocally x) :
    plan.Counts fs before (fun claimed a => claimed = before ∧ x = .ok a)
      (liftM x : Journal Notice Error α) where
  claimed := nofun
  error := fun _ _ he => by cases h _ he
  value := fun _ ha => ⟨List.append_nil before, ha⟩

theorem counts_pure {a : α} (h : V before a) :
    plan.Counts fs before V (pure a : Journal Notice Error α) where
  claimed := nofun
  error := nofun
  value := by
    rintro _ ⟨⟩
    exact (List.append_nil before).symm ▸ h

theorem counts_throw {e : Error} (h : e.isLocal = true) :
    plan.Counts fs before V (throw e : Journal Notice Error α) where
  claimed := nofun
  error := by
    rintro _ _ ⟨⟩
    cases h
  value := nofun

/-- Telling that a key is claimed, and then going on. -/
theorem counts_claim {notice : Notice} {key : String} (hkey : notice.claimed? = some key)
    (hclaims : plan.Claims fs key) {j : Journal Notice Error α}
    (h : plan.Counts fs (before ++ [key]) V j) :
    plan.Counts fs before V (do Journal.note notice; j) := by
  have hnotes : claimedIn (do Journal.note notice; j).notes = key :: claimedIn j.notes :=
    List.filterMap_cons_some hkey
  have happend : before ++ key :: claimedIn j.notes = before ++ [key] ++ claimedIn j.notes := by
    simp
  refine ⟨?_, ?_, ?_⟩
  · intro k hk
    rw [hnotes] at hk
    rcases List.mem_cons.1 hk with rfl | hk
    · exact hclaims
    · exact h.claimed k hk
  · intro n m he
    rw [hnotes, happend]
    exact h.error n m he
  · intro a ha
    rw [hnotes, happend]
    exact h.value a ha

theorem counts_tell {notice : Notice} (hkey : notice.claimed? = none)
    {j : Journal Notice Error α} (h : plan.Counts fs before V j) :
    plan.Counts fs before V (do Journal.note notice; j) := by
  have hnotes : claimedIn (do Journal.note notice; j).notes = claimedIn j.notes :=
    List.filterMap_cons_none hkey
  exact ⟨hnotes ▸ h.claimed, hnotes ▸ h.error, hnotes ▸ h.value⟩

end Counting

section Reading

variable {plan : IndexPlan} {fs : FileSystem} {limits : Limits} {before : List String}

theorem follow_counts {nested : Path → Catalog.Reading → Journal Notice Error Catalog.Reading}
    (hn : ∀ p s, plan.Counts fs before (fun claimed _ => claimed = before) (nested p s))
    (is : List CatalogItem) (s : Catalog.Reading) :
    plan.Counts fs before (fun claimed _ => claimed = before) (Catalog.follow nested is s) := by
  induction is generalizing s with
  | nil => exact counts_pure rfl
  | cons i rest ih =>
      cases i with
      | mapping kind id target => exact ih _
      | next p =>
          refine (hn p s).bind fun s' _ hbefore => ?_
          rw [hbefore]
          exact ih s'

/-- Reading catalogs claims nothing. -/
theorem load_counts (levels : Nat) (p : Path) (s : Catalog.Reading) :
    plan.Counts fs before (fun claimed _ => claimed = before)
      (Catalog.load fs limits levels p s) := by
  induction levels generalizing p s with
  | zero => exact counts_pure rfl
  | succ levels ih =>
      refine (counts_lift (failsPlainly_mapError fun _ => rfl).locally).bind fun canonical _ hc => ?_
      rw [hc.1]
      split
      · exact counts_tell rfl (counts_pure rfl)
      · refine (counts_lift (Catalog.fileItems_failsPlainly canonical).locally).bind fun is _ hi => ?_
        rw [hi.1]
        exact follow_counts ih is _

theorem ofFile_counts (p : Path) :
    plan.Counts fs before (fun claimed _ => claimed = before) (Catalog.ofFile fs limits p) := by
  refine (load_counts _ p _).bind fun s _ hbefore => ?_
  rw [hbefore]
  exact counts_pure rfl

end Reading

section Entering

variable {plan : IndexPlan} {fs : FileSystem} {before : List String} {entries : Entries}

/-- A claim adds no key but its own. -/
theorem keys_of_claim {policy : DuplicatePolicy} {entries' : Entries} {c : Claim}
    (h : (Entries.claim policy entries c).outcome = .ok entries') (hc : c.key ∈ before)
    (he : entries.keys ⊆ before) :
    entries'.keys ⊆ before := by
  intro key hk
  cases hg : entries'.get? key with
  | none => exact absurd hk ((OrderedMap.get?_eq_none_iff _ _).1 hg)
  | some e =>
      rcases Entries.get?_of_claim h hg with hold | ⟨rfl, _⟩
      · refine he ?_
        by_contra hnew
        rw [(OrderedMap.get?_eq_none_iff _ _).2 hnew] at hold
        cases hold
      · exact hc

/-- A claim is made without being told of, and fails only if its key is claimed for two paths. -/
theorem claim_counts (policy : DuplicatePolicy) (he : entries.keys ⊆ before) {c : Claim}
    (hc : c.key ∈ before) :
    plan.Counts fs before (fun claimed out => claimed = before ∧ out.keys ⊆ before)
      (Entries.claim policy entries c) := by
  have hnotes : claimedIn (Entries.claim policy entries c).notes = [] := by
    unfold Entries.claim
    split
    · rfl
    · split
      · rfl
      · cases policy <;> rfl
  refine ⟨?_, ?_, ?_⟩
  · rw [hnotes]
    nofun
  · intro n m h
    unfold Entries.claim at h
    split at h
    · cases h
    · split at h
      · cases h
      · cases policy <;> cases h
  · intro out h
    rw [hnotes, List.append_nil]
    exact ⟨rfl, keys_of_claim h hc he⟩

/-- The number of entries is checked when all their keys were claimed. -/
theorem counts_check (he : entries.keys ⊆ before) :
    plan.Counts fs before (fun claimed _ => claimed = before ∧
        entries.size ≤ plan.limits.maxIndexEntries)
      (liftM ((plan.limits.check .indexEntries entries.size).mapError Error.limit) :
        Journal Notice Error Unit) := by
  refine ⟨nofun, fun n m h => ?_, fun _ h => ⟨List.append_nil before, ?_⟩⟩
  · have hcheck : (plan.limits.check .indexEntries entries.size).mapError Error.limit =
        .error (.limit (.over .indexEntries n m)) := h
    unfold Limits.check at hcheck
    split at hcheck
    · rename_i hover
      -- the keys of the entries are distinct, and all of them were claimed before
      refine ⟨entries.keys, entries.distinct, fun k hk => List.mem_append_left _ (he hk), ?_⟩
      rw [OrderedMap.keys, List.length_map]
      exact hover
    · cases hcheck
  · exact (Limits.check_ok_iff plan.limits .indexEntries _).1 (mapError_eq_ok_iff.1 h)

theorem enter_counts (he : entries.keys ⊆ before) {c : Claim} (hc : c.key ∈ before) :
    plan.Counts fs before (Counted plan) (plan.enter entries c) := by
  refine (claim_counts plan.policy he hc).bind fun out _ hout => ?_
  obtain ⟨hbefore, hkeys⟩ := hout
  rw [hbefore]
  refine (counts_check hkeys).bind fun _ _ hsize => ?_
  obtain ⟨hbefore', hsize⟩ := hsize
  rw [hbefore']
  exact counts_pure ⟨hkeys, hsize⟩

theorem enterDocuments_counts {ps : List Path} (hps : ps ⊆ plan.paths fs)
    (he : plan.Counted before entries) :
    plan.Counts fs before (Counted plan) (plan.enterDocuments fs entries ps) := by
  induction ps generalizing before entries with
  | nil => exact counts_pure he
  | cons p rest ih =>
      refine (counts_lift (describe_failsPlainly p).locally).bind fun c _ hc => ?_
      obtain ⟨hbefore, hdescribe⟩ := hc
      rw [hbefore]
      refine counts_claim rfl (.document (hps List.mem_cons_self) hdescribe) ?_
      have hkeys : entries.keys ⊆ before ++ [c.key] :=
        fun k hk => List.mem_append_left _ (he.keys hk)
      exact (enter_counts hkeys (by simp)).bind fun out _ hout =>
        ih (fun q hq => hps (List.mem_cons_of_mem _ hq)) hout

theorem enterTargets_counts {tell : String → Path → Notice}
    (htell : ∀ id p, (tell id p).claimed? = some id) {targets : List (String × Path)}
    (hclaims : ∀ e ∈ targets, plan.Claims fs e.1) (he : plan.Counted before entries) :
    plan.Counts fs before (Counted plan) (plan.enterTargets fs tell entries targets) := by
  induction targets generalizing before entries with
  | nil => exact counts_pure he
  | cons target rest ih =>
      obtain ⟨id, p⟩ := target
      refine (counts_lift (canonicalTarget_failsPlainly p).locally).bind fun canonical _ hc => ?_
      rw [hc.1]
      refine counts_claim (htell id canonical) (hclaims _ List.mem_cons_self) ?_
      have hkeys : entries.keys ⊆ before ++ [id] :=
        fun k hk => List.mem_append_left _ (he.keys hk)
      exact (enter_counts hkeys (by simp)).bind fun out _ hout =>
        ih (fun e hmem => hclaims e (List.mem_cons_of_mem _ hmem)) hout

theorem enterCatalogs_counts {ps : List Path} (hps : ps ⊆ plan.catalogs)
    (he : plan.Counted before entries) :
    plan.Counts fs before (Counted plan) (plan.enterCatalogs fs entries ps) := by
  induction ps generalizing before entries with
  | nil => exact counts_pure he
  | cons p rest ih =>
      refine (ofFile_counts p).bind fun catalog hcatalog hbefore => ?_
      rw [hbefore]
      have hclaims : ∀ e ∈ catalog.entries, plan.Claims fs e.1 :=
        fun e hmem => .catalog (hps List.mem_cons_self) hcatalog hmem
      have hrest : plan.Counts fs before (Counted plan)
          (plan.enterTargets fs .catalogEntry entries catalog.entries >>=
            fun out => plan.enterCatalogs fs out rest) :=
        (enterTargets_counts (fun _ _ => rfl) hclaims he).bind fun out _ hout =>
          ih (fun q hq => hps (List.mem_cons_of_mem _ hq)) hout
      dsimp only
      split
      · exact counts_tell rfl hrest
      · exact hrest

/-- Building an index tells truly which keys are claimed, ends in an excess of entries only if too
many keys were claimed, and yields an index within its bound. -/
theorem build_counts (plan : IndexPlan) (fs : FileSystem) :
    plan.Counts fs [] (fun claimed index => plan.Counted claimed index.entries)
      (plan.build fs) := by
  have hempty : plan.Counted [] (∅ : Entries) := ⟨List.Subset.refl _, Nat.zero_le _⟩
  refine (counts_lift (checkDirectory_failsPlainly plan.directory).locally).bind fun names _ hnames => ?_
  obtain ⟨hbefore, hdirectory⟩ := hnames
  rw [hbefore]
  have hpaths : (plan.eligibleNames fs names).map (fun name => (Path.ofNames names).join ⟨name⟩) ⊆
      plan.paths fs := by
    rw [paths_of_checkDirectory hdirectory]
    exact List.Subset.refl _
  dsimp only
  split
  · -- without eligible documents nothing comes after the error
    exact (counts_throw (V := fun _ _ => False) rfl).bind fun _ _ hthrow => hthrow.elim
  · refine (enterDocuments_counts hpaths hempty).bind fun entries _ hentries => ?_
    refine (enterCatalogs_counts (List.Subset.refl _) hentries).bind fun entries' _ hcatalogs => ?_
    refine (enterTargets_counts (fun _ _ => rfl) (fun e hmem => .identifier hmem)
      hcatalogs).bind fun last _ hlast => ?_
    exact counts_tell rfl (counts_pure hlast)

end Entering

end IndexPlan

/-- Limits are exact.  A set that compiles keeps to all of them; a compilation that ends in an
excess of documents or components has an entry document that leads to more nodes, or to more keys,
than they allow.  An index that is built keeps to its limit; if building it ends in an excess of
entries, more keys were claimed on the way, and all that were claimed on the way are claimed by the
documents, the catalogs or the identifiers of the plan. -/
theorem limits_exact :
    (∀ (s : Setting) (entry : Path),
      (∀ c, (s.compile entry).outcome = .ok c → s.Within entry c) ∧
        ∀ e, (s.compile entry).outcome = .error e → s.Warranted entry e) ∧
    ∀ (plan : IndexPlan) (fs : FileSystem),
      (∀ index, (plan.build fs).outcome = .ok index →
        index.size ≤ plan.limits.maxIndexEntries) ∧
      (∀ found bound,
        (plan.build fs).outcome = .error (.limit (.over .indexEntries found bound)) →
        plan.Exceeds (claimedIn (plan.build fs).notes)) ∧
      ∀ key ∈ claimedIn (plan.build fs).notes, plan.Claims fs key := by
  refine ⟨fun s entry => ⟨fun c h => s.compile_within h, s.compile_warranted entry⟩,
    fun plan fs => ?_⟩
  have hcounts := plan.build_counts fs
  exact ⟨fun index h => (hcounts.value index h).size, hcounts.error, hcounts.claimed⟩

section Tight

/-- The sample under some limits. -/
def sampleWithin (limits : Limits) : Setting := { sample with options := ⟨true, limits⟩ }

/-- The plan for the documents at the top with room for some entries. -/
def shelfWithin (entries : Nat) : IndexPlan :=
  { shelfPlan with limits := { Limits.standard with maxIndexEntries := entries } }

set_option maxRecDepth 10000 in
theorem sample_limits_exact :
    ((sample.compile (topPath "main")).outcome = .ok sampleSet ∧
        sample.Within (topPath "main") sampleSet) ∧
      (((sampleWithin { Limits.standard with maxDocuments := 3 }).compile
            (topPath "main")).outcome = .error (.limit (.over .documents 4 3)) ∧
        (sampleWithin { Limits.standard with maxDocuments := 3 }).Warranted (topPath "main")
          (.limit (.over .documents 4 3))) ∧
      (((sampleWithin { Limits.standard with maxSchemaComponents := 3 }).compile
            (topPath "main")).outcome = .error (.limit (.over .schemaComponents 4 3)) ∧
        (sampleWithin { Limits.standard with maxSchemaComponents := 3 }).Warranted (topPath "main")
          (.limit (.over .schemaComponents 4 3))) ∧
      (((shelfWithin 1).build (shelf "urn:b" plain)).outcome = .ok (shelfIndex "urn:b") ∧
        (shelfIndex "urn:b").size ≤ 1) ∧
      ((shelfWithin 0).build (shelf "urn:b" plain)).outcome =
          .error (.limit (.over .indexEntries 1 0)) ∧
        (shelfWithin 0).Exceeds (claimedIn ((shelfWithin 0).build (shelf "urn:b" plain)).notes) := by
  have hdocuments : ((sampleWithin { Limits.standard with maxDocuments := 3 }).compile
      (topPath "main")).outcome = .error (.limit (.over .documents 4 3)) := by
    decide +kernel
  have hcomponents : ((sampleWithin { Limits.standard with maxSchemaComponents := 3 }).compile
      (topPath "main")).outcome = .error (.limit (.over .schemaComponents 4 3)) := by
    decide +kernel
  have hbuilt : ((shelfWithin 1).build (shelf "urn:b" plain)).outcome =
      .ok (shelfIndex "urn:b") := by
    rw [← toOption_eq_some_iff]
    decide +kernel
  have hover : ((shelfWithin 0).build (shelf "urn:b" plain)).outcome =
      .error (.limit (.over .indexEntries 1 0)) := by
    decide +kernel
  exact ⟨⟨sample_compiles, (limits_exact.1 sample _).1 _ sample_compiles⟩,
    ⟨hdocuments, (limits_exact.1 _ _).2 _ hdocuments⟩,
    ⟨hcomponents, (limits_exact.1 _ _).2 _ hcomponents⟩,
    ⟨hbuilt, (limits_exact.2 (shelfWithin 1) _).1 _ hbuilt⟩,
    hover, (limits_exact.2 (shelfWithin 0) _).2.1 _ _ hover⟩

end Tight

end SchemaSet
