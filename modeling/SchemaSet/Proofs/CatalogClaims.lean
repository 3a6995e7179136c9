import SchemaSet.Proofs.CatalogReading
import SchemaSet.Proofs.Indexed
import SchemaSet.Proofs.IndexedImports

/-!
# Claims of catalogs and the policy on repeated keys

The plans of this module are `IndexPlan.Intact`: their documents and catalogs can all be read and
their targets all exist.

The mappings of a catalog are gathered in maps, one for each kind of identifier, before they claim
their keys.  So of several elements with one identifier only one claim reaches the policy, that of
the last element at the place of the first: `Catalog.kept`.  A claim that was made before is
settled, and making it again changes nothing (`Entries.claimAll_again`).  So nothing is lost if no
catalog maps an identifier of one kind to two files.

The main theorem is `build_claims`.  An index is built by claiming what the documents declare, what
the catalogs keep, and the further identifiers.  If the catalogs are consistent, the same comes of
claiming every element of the catalogs one by one; an example shows that otherwise it need not.
-/

namespace SchemaSet

namespace Entries

variable {policy : DuplicatePolicy} {entries entries' : Entries} {c d : Claim}

theorem claimAll_append (cs cs' : List Claim) (entries : Entries) :
    claimAll policy entries (cs ++ cs') =
      claimAll policy entries cs >>= fun entries => claimAll policy entries cs' := by
  induction cs generalizing entries with
  | nil => exact (Journal.done_bind _ _).symm
  | cons c cs ih =>
      show (claim policy entries c >>= fun entries => claimAll policy entries (cs ++ cs')) = _
      simp only [ih]
      exact (Journal.bind_assoc _ _ _).symm

section Settled

/-- A claim that leaves the entries as they are when it is made again. -/
def Settled (policy : DuplicatePolicy) (entries : Entries) (c : Claim) : Prop :=
  ∃ old, entries.get? c.key = some old ∧ (old.path.same c.path = true ∨ policy = .firstWins)

theorem Settled.outcome_claim (h : Settled policy entries c) :
    (claim policy entries c).outcome = .ok entries := by
  obtain ⟨old, hold, hsame | rfl⟩ := h
  · rw [claim_same policy entries c old hold hsame]
    rfl
  · simp only [claim, hold]
    split <;> rfl

/-- What a claim does to the entries: nothing, or it makes the entry under its key. -/
theorem claim_cases (h : (claim policy entries c).outcome = .ok entries') :
    (entries' = entries ∧ Settled policy entries c) ∨
      entries' = entries.insert c.key ⟨c.path, c.origin⟩ := by
  unfold claim at h
  split at h
  · exact .inr (Except.ok.inj h).symm
  · rename_i old hold
    split at h
    · rename_i hsame
      exact .inl ⟨(Except.ok.inj h).symm, old, hold, .inl hsame⟩
    · cases policy with
      | firstWins => exact .inl ⟨(Except.ok.inj h).symm, old, hold, .inr rfl⟩
      | lastWins => exact .inr (Except.ok.inj h).symm
      | reject => cases h

/-- A claim is settled once it was made. -/
theorem settled_of_claim (h : (claim policy entries c).outcome = .ok entries') :
    Settled policy entries' c := by
  rcases claim_cases h with ⟨rfl, hs⟩ | rfl
  · exact hs
  · refine ⟨⟨c.path, c.origin⟩, ?_, .inl (Path.same_refl c.path)⟩
    rw [OrderedMap.get?_insert, if_pos rfl]

/-- It stays settled when other keys are claimed, or the same claim is made again. -/
theorem Settled.after (hs : Settled policy entries c)
    (h : (claim policy entries d).outcome = .ok entries') (hd : d.key = c.key → d = c) :
    Settled policy entries' c := by
  by_cases hk : d.key = c.key
  · cases hd hk
    exact settled_of_claim h
  · rcases claim_cases h with ⟨rfl, _⟩ | rfl
    · exact hs
    · obtain ⟨old, hold, hc⟩ := hs
      refine ⟨old, ?_, hc⟩
      rw [OrderedMap.get?_insert, if_neg hk, hold]

theorem settled_of_claimAll {cs : List Claim}
    (h : (claimAll policy entries cs).outcome = .ok entries')
    (hc : Settled policy entries c ∨ c ∈ cs) (hd : ∀ d ∈ cs, d.key = c.key → d = c) :
    Settled policy entries' c := by
  induction cs generalizing entries with
  | nil =>
      cases h
      exact hc.resolve_right List.not_mem_nil
  | cons d cs ih =>
      obtain ⟨mid, hclaim, hrest⟩ := Journal.outcome_bind_eq_ok_iff.1 h
      refine ih hrest ?_ fun x hx => hd x (List.mem_cons_of_mem _ hx)
      rcases hc with hs | hmem
      · exact .inl (hs.after hclaim (hd d List.mem_cons_self))
      · rcases List.mem_cons.1 hmem with rfl | hmem
        · exact .inl (settled_of_claim hclaim)
        · exact .inr hmem

end Settled

section Equivalence

/-- Making some claims ends as making some others does, whatever the entries are. -/
def Equivalent (policy : DuplicatePolicy) (cs cs' : List Claim) : Prop :=
  ∀ entries, (claimAll policy entries cs).outcome = (claimAll policy entries cs').outcome

variable {as as' cs cs' : List Claim}

theorem Equivalent.append (h : Equivalent policy as as') (h' : Equivalent policy cs cs') :
    Equivalent policy (as ++ cs) (as' ++ cs') := by
  intro entries
  simp only [claimAll_append, Journal.outcome_bind, h entries, h' _]

theorem Equivalent.refl (cs : List Claim) : Equivalent policy cs cs := fun _ => rfl

/-- A claim that was made before is passed over, whatever the policy. -/
theorem claimAll_again (hc : c ∈ cs) (hd : ∀ d ∈ cs, d.key = c.key → d = c) :
    Equivalent policy (cs ++ [c]) cs := by
  intro entries
  rw [claimAll_append, Journal.outcome_bind]
  cases h : (claimAll policy entries cs).outcome with
  | error e => rfl
  | ok entries' =>
      have hs : Settled policy entries' c := settled_of_claimAll h (.inr hc) hd
      show (claim policy entries' c >>= fun entries => claimAll policy entries []).outcome = _
      rw [Journal.outcome_bind, hs.outcome_claim]
      rfl

end Equivalence

end Entries

namespace IndexPlan

section Targets

variable (fs : FileSystem)

/-- The claim of an identifier for the file that its target leads to. -/
def targetClaim? (e : String × Path) : Option Claim :=
  (fs.canonicalize e.2).toOption.map fun p => ⟨e.1, p, .catalog⟩

/-- The claims of identifiers in order. -/
def targetClaims (es : List (String × Path)) : List Claim := es.filterMap (targetClaim? fs)

/-- No identifier stands for two files. -/
def Agree (es : List (String × Path)) : Prop :=
  ∀ e ∈ es, ∀ e' ∈ es, e.1 = e'.1 → fs.canonicalize e.2 = fs.canonicalize e'.2

/-- No identifier of one kind is mapped to two files. -/
def Consistent (ms : List CatalogMapping) : Prop :=
  ∀ m ∈ ms, ∀ m' ∈ ms, m.kind = m'.kind → m.id = m'.id →
    fs.canonicalize m.target = fs.canonicalize m'.target

variable {fs} {policy : DuplicatePolicy}

theorem Consistent.agree {ms : List CatalogMapping} (h : Consistent fs ms) (kind : IdentifierKind) :
    Agree fs (Catalog.ofKind kind ms) := by
  intro e he e' he' hid
  obtain ⟨m, hm, rfl⟩ := List.mem_map.1 he
  obtain ⟨m', hm', rfl⟩ := List.mem_map.1 he'
  obtain ⟨hm, hk⟩ := List.mem_filter.1 hm
  obtain ⟨hm', hk'⟩ := List.mem_filter.1 hm'
  exact h m hm m' hm' ((of_decide_eq_true hk).trans (of_decide_eq_true hk').symm) hid

theorem key_of_targetClaim? {e : String × Path} {c : Claim} (h : targetClaim? fs e = some c) :
    c.key = e.1 := by
  obtain ⟨p, _, rfl⟩ := Option.map_eq_some_iff.1 h
  rfl

theorem Agree.init {es : List (String × Path)} {e : String × Path} (h : Agree fs (es ++ [e])) :
    Agree fs es :=
  fun x hx y hy => h x (List.mem_append_left _ hx) y (List.mem_append_left _ hy)

/-- A further pair claims what an earlier one with its identifier claims. -/
theorem Agree.targetClaim?_eq {es : List (String × Path)} {e x : String × Path}
    (h : Agree fs (es ++ [e])) (hx : x ∈ es) (hid : x.1 = e.1) :
    targetClaim? fs x = targetClaim? fs e := by
  have hc : fs.canonicalize x.2 = fs.canonicalize e.2 :=
    h x (List.mem_append_left _ hx) e (by simp) hid
  rw [targetClaim?, targetClaim?, hid, hc]

/-- Mapping an identifier again claims nothing new. -/
theorem targetClaims_again {es : List (String × Path)} {e : String × Path}
    (h : Agree fs (es ++ [e])) (hk : e.1 ∈ es.map Prod.fst) :
    Entries.Equivalent policy (targetClaims fs (es ++ [e])) (targetClaims fs es) := by
  rw [targetClaims, targetClaims, List.filterMap_append]
  cases hc : targetClaim? fs e with
  | none =>
      rw [show [e].filterMap (targetClaim? fs) = [] by simp [hc], List.append_nil]
      exact .refl _
  | some c =>
      obtain ⟨x, hx, hid⟩ := List.mem_map.1 hk
      have hmem : c ∈ es.filterMap (targetClaim? fs) :=
        List.mem_filterMap.2 ⟨x, hx, (h.targetClaim?_eq hx hid).trans hc⟩
      have hone : ∀ d ∈ es.filterMap (targetClaim? fs), d.key = c.key → d = c := by
        intro d hd hkey
        obtain ⟨y, hy, hyd⟩ := List.mem_filterMap.1 hd
        have hid : y.1 = e.1 :=
          (key_of_targetClaim? hyd).symm.trans (hkey.trans (key_of_targetClaim? hc))
        exact Option.some.inj (hyd.symm.trans ((h.targetClaim?_eq hy hid).trans hc))
      rw [show [e].filterMap (targetClaim? fs) = [c] by simp [hc]]
      exact Entries.claimAll_again hmem hone

/-- Keeping each identifier once makes no difference if none stands for two files. -/
theorem targetClaims_lastly {es : List (String × Path)} (h : Agree fs es) :
    Entries.Equivalent policy (targetClaims fs (OrderedMap.lastly es)) (targetClaims fs es) := by
  rw [← OrderedMap.entries_ofList]
  induction es using List.reverseRecOn with
  | nil => exact .refl _
  | append_singleton es e ih =>
      have hkeys : (OrderedMap.ofList es).entries.map Prod.fst = (es.map Prod.fst).eraseDups :=
        OrderedMap.keys_ofList es
      have hput : (OrderedMap.ofList (es ++ [e])).entries =
          OrderedMap.put e.1 e.2 (OrderedMap.ofList es).entries := by
        rw [show es ++ [e] = es ++ [(e.1, e.2)] from rfl, OrderedMap.ofList_snoc]
        rfl
      rw [hput]
      by_cases hk : e.1 ∈ es.map Prod.fst
      · -- the entry keeps its place, and its file is still the same
        have hsame : targetClaims fs (OrderedMap.put e.1 e.2 (OrderedMap.ofList es).entries) =
            targetClaims fs (OrderedMap.ofList es).entries := by
          refine OrderedMap.filterMap_put (by rw [hkeys]; exact List.mem_eraseDups.2 hk) ?_
          intro x hx hid
          rw [OrderedMap.entries_ofList] at hx
          exact h.targetClaim?_eq (OrderedMap.mem_of_mem_lastly hx) hid
        intro entries
        rw [hsame, ih h.init entries, targetClaims_again h hk entries]
      · have hnew : e.1 ∉ (OrderedMap.ofList es).entries.map Prod.fst := by
          rw [hkeys]
          exact hk ∘ List.mem_eraseDups.1
        rw [OrderedMap.put_of_notMem hnew, targetClaims, targetClaims, List.filterMap_append,
          List.filterMap_append]
        exact (ih h.init).append (.refl _)

theorem targetClaims_kept {ms : List CatalogMapping} (h : Consistent fs ms) :
    Entries.Equivalent policy (targetClaims fs (Catalog.kept ms))
      (targetClaims fs (Catalog.byKind ms)) := by
  simp only [Catalog.kept, Catalog.byKind, targetClaims, List.filterMap_append]
  exact ((targetClaims_lastly (h.agree .publicId)).append
    (targetClaims_lastly (h.agree .systemId))).append (targetClaims_lastly (h.agree .uriName))

theorem targetClaims_listed {listed : List (List CatalogMapping)}
    (h : ∀ ms ∈ listed, Consistent fs ms) :
    Entries.Equivalent policy (listed.flatMap fun ms => targetClaims fs (Catalog.kept ms))
      (listed.flatMap fun ms => targetClaims fs (Catalog.byKind ms)) := by
  induction listed with
  | nil => exact .refl _
  | cons ms listed ih =>
      simp only [List.flatMap_cons]
      exact (targetClaims_kept (h ms List.mem_cons_self)).append
        (ih fun x hx => h x (List.mem_cons_of_mem _ hx))

end Targets

section Building

variable (plan : IndexPlan) (fs : FileSystem)

/-- What the documents of a plan claim. -/
def documentClaims (ps : List Path) : List Claim := ps.filterMap fun p => (plan.describe fs p).toOption

/-- All claims of a plan, given what each of its catalogs lists and what is kept of that. -/
def claims (keep : List CatalogMapping → List (String × Path))
    (listed : List (List CatalogMapping)) : List Claim :=
  plan.documentClaims fs (plan.paths fs) ++
    (listed.flatMap fun ms => targetClaims fs (keep ms)) ++ targetClaims fs plan.publicIds

/-- A plan with documents, all of which can be read, like its catalogs; and all files that the
catalogs and the further identifiers name exist. -/
structure Intact : Prop where
  /-- There are documents to be indexed. -/
  supplied : plan.paths fs ≠ []
  /-- Each of them declares a namespace or none. -/
  described : ∀ p ∈ plan.paths fs, ∃ c, plan.describe fs p = .ok c
  catalogs : ∀ p ∈ plan.catalogs, Catalog.Readable fs plan.limits p
  /-- The files of the further identifiers exist. -/
  publicIds : ∀ e ∈ plan.publicIds, ∃ q, fs.canonicalize e.2 = .ok q

/-- A part of building ends as making some claims does, unless a limit is exceeded. -/
def Makes (cs : List Claim) (entries : Entries) (j : Journal Notice Error Entries) : Prop :=
  j.outcome = (Entries.claimAll plan.policy entries cs).outcome ∨
    ∃ excess, j.outcome = .error (.limit excess)

variable {plan fs} {entries : Entries} {cs cs' : List Claim}

theorem Makes.append {j : Journal Notice Error Entries}
    {f : Entries → Journal Notice Error Entries} (h : plan.Makes cs entries j)
    (hf : ∀ entries', plan.Makes cs' entries' (f entries')) :
    plan.Makes (cs ++ cs') entries (j >>= f) := by
  rcases h with h | ⟨excess, h⟩
  · rw [Makes, Journal.outcome_bind, Entries.claimAll_append, Journal.outcome_bind, h]
    cases hc : (Entries.claimAll plan.policy entries cs).outcome with
    | error e => exact .inl rfl
    | ok entries' => exact hf entries'
  · exact .inr ⟨excess, by rw [Journal.bind_of_error h]⟩

theorem Makes.after {α : Type} {j : Journal Notice Error α} {a : α} (ha : j.outcome = .ok a)
    {f : α → Journal Notice Error Entries} (h : plan.Makes cs entries (f a)) :
    plan.Makes cs entries (j >>= f) := by
  rw [Makes, Journal.bind_of_ok ha]
  exact h

theorem enter_makes (c : Claim) : plan.Makes [c] entries (plan.enter entries c) := by
  have hsingle : (Entries.claimAll plan.policy entries [c]).outcome =
      (Entries.claim plan.policy entries c).outcome := by
    show (Entries.claim plan.policy entries c >>= Journal.done).outcome = _
    rw [show Entries.claim plan.policy entries c >>= Journal.done = _ from Journal.bind_done _]
  rw [Makes, hsingle]
  cases h : (Entries.claim plan.policy entries c).outcome with
  | error e => exact .inl (by rw [enter, Journal.bind_of_error h])
  | ok entries' =>
      rw [enter, Journal.bind_of_ok h]
      cases hl : plan.limits.check .indexEntries entries'.size with
      | error excess => exact .inr ⟨excess, rfl⟩
      | ok u => exact .inl rfl

theorem enterDocuments_makes {ps : List Path} (h : ∀ p ∈ ps, ∃ c, plan.describe fs p = .ok c) :
    plan.Makes (plan.documentClaims fs ps) entries (plan.enterDocuments fs entries ps) := by
  induction ps generalizing entries with
  | nil => exact .inl rfl
  | cons p ps ih =>
      obtain ⟨c, hc⟩ := h p List.mem_cons_self
      have hclaims : plan.documentClaims fs (p :: ps) = [c] ++ plan.documentClaims fs ps := by
        rw [documentClaims, List.filterMap_cons, hc]
        rfl
      rw [hclaims]
      refine .after hc (.after rfl ?_)
      exact (enter_makes c).append fun _ => ih fun q hq => h q (List.mem_cons_of_mem _ hq)

theorem enterTargets_makes {tell : String → Path → Notice} {es : List (String × Path)}
    (h : ∀ e ∈ es, ∃ q, fs.canonicalize e.2 = .ok q) :
    plan.Makes (targetClaims fs es) entries (plan.enterTargets fs tell entries es) := by
  induction es generalizing entries with
  | nil => exact .inl rfl
  | cons e es ih =>
      obtain ⟨q, hq⟩ := h e List.mem_cons_self
      have hclaims : targetClaims fs (e :: es) = [⟨e.1, q, .catalog⟩] ++ targetClaims fs es := by
        rw [targetClaims, List.filterMap_cons, targetClaim?, hq]
        rfl
      rw [hclaims]
      refine .after (mapError_eq_ok_iff.2 hq) (.after rfl ?_)
      exact (enter_makes _).append fun _ => ih fun x hx => h x (List.mem_cons_of_mem _ hx)

/-- Entering one more catalog claims what its entries claim. -/
theorem enterCatalogs_makes_cons {p : Path} {ps : List Path} {catalog : Catalog}
    {cs rest : List Claim} {entries : Entries}
    (hread : (Catalog.ofFile fs plan.limits p).outcome = .ok catalog)
    (hcs : plan.Makes cs entries (plan.enterTargets fs .catalogEntry entries catalog.entries))
    (hrest : ∀ mid, plan.Makes rest mid (plan.enterCatalogs fs mid ps)) :
    plan.Makes (cs ++ rest) entries (plan.enterCatalogs fs entries (p :: ps)) := by
  refine .after hread ?_
  -- an empty catalog is only noted
  dsimp only
  split
  · exact .after rfl (hcs.append hrest)
  · exact hcs.append hrest

/-- Entering catalogs claims what each of them keeps. -/
theorem enterCatalogs_makes {ps : List Path} (h : ∀ p ∈ ps, Catalog.Readable fs plan.limits p) :
    ∃ listed, List.Forall₂ (Catalog.Lists fs plan.limits) ps listed ∧
      ∀ entries, plan.Makes (listed.flatMap fun ms => targetClaims fs (Catalog.kept ms)) entries
        (plan.enterCatalogs fs entries ps) := by
  induction ps with
  | nil => exact ⟨[], .nil, fun _ => .inl rfl⟩
  | cons p ps ih =>
      obtain ⟨listed, hlisted, hmakes⟩ := ih fun q hq => h q (List.mem_cons_of_mem _ hq)
      obtain ⟨ms, hms, hread, htargets⟩ := Catalog.ofFile_reads (h p List.mem_cons_self)
      refine ⟨ms :: listed, .cons hms hlisted, fun entries => ?_⟩
      have hkept : ∀ e ∈ Catalog.kept ms, ∃ q, fs.canonicalize e.2 = .ok q := by
        intro e he
        obtain ⟨m, hm, rfl⟩ := Catalog.exists_of_mem_kept he
        exact htargets m hm
      rw [List.flatMap_cons]
      refine enterCatalogs_makes_cons hread ?_ hmakes
      rw [Catalog.entries_ofMappings]
      exact enterTargets_makes hkept

/-- The entries for the documents at some paths, then those for the catalogs and the further
identifiers. -/
def enterAll (plan : IndexPlan) (fs : FileSystem) (ps : List Path) :
    Journal Notice Error Entries := do
  let entries ← plan.enterDocuments fs ∅ ps
  let entries ← plan.enterCatalogs fs entries plan.catalogs
  plan.enterTargets fs .publicIdentifier entries plan.publicIds

/-- What is built in a directory with documents. -/
theorem outcome_build {names : List Bytes} (hn : checkDirectory fs plan.directory = .ok names)
    (hp : plan.paths fs ≠ []) :
    (plan.build fs).outcome =
      (plan.enterAll fs (plan.paths fs)).outcome.map fun entries => ⟨Path.ofNames names, entries⟩ := by
  have hpaths := paths_of_checkDirectory hn
  have hsome : ¬ (plan.eligibleNames fs names).isEmpty = true := by
    rw [List.isEmpty_iff]
    exact fun q => hp (by rw [hpaths, q]; rfl)
  rw [build, Journal.bind_of_ok (j := liftM (checkDirectory fs plan.directory)) hn]
  simp only [if_neg hsome]
  rw [← hpaths, enterAll]
  simp only [Journal.outcome_bind]
  cases (plan.enterDocuments fs ∅ (plan.paths fs)).outcome with
  | error e => rfl
  | ok entered =>
      simp only [Except.bind]
      cases (plan.enterCatalogs fs entered plan.catalogs).outcome with
      | error e => rfl
      | ok merged =>
          simp only
          cases (plan.enterTargets fs .publicIdentifier merged plan.publicIds).outcome with
          | error e => rfl
          | ok entries => rfl

theorem Intact.exists_names (h : plan.Intact fs) :
    ∃ names, checkDirectory fs plan.directory = .ok names := by
  cases hn : checkDirectory fs plan.directory with
  | error e => exact absurd (by rw [paths, hn]) h.supplied
  | ok names => exact ⟨names, rfl⟩

/-- An index is built by claiming what the documents declare, what the catalogs keep and the
further identifiers, one by one under the policy.  If no catalog maps an identifier of one kind
to two files, the same comes of claiming every element of the catalogs. -/
theorem build_claims (h : plan.Intact fs)
    (hl : ∀ excess, (plan.build fs).outcome ≠ .error (.limit excess)) :
    ∃ listed, List.Forall₂ (Catalog.Lists fs plan.limits) plan.catalogs listed ∧
      (plan.build fs).outcome.map Index.entries =
        (Entries.claimAll plan.policy ∅ (plan.claims fs Catalog.kept listed)).outcome ∧
      ((∀ ms ∈ listed, Consistent fs ms) →
        (plan.build fs).outcome.map Index.entries =
          (Entries.claimAll plan.policy ∅ (plan.claims fs Catalog.byKind listed)).outcome) := by
  obtain ⟨names, hnames⟩ := h.exists_names
  obtain ⟨listed, hlisted, hcatalogs⟩ := enterCatalogs_makes h.catalogs
  have hmakes : plan.Makes (plan.claims fs Catalog.kept listed) ∅
      (plan.enterAll fs (plan.paths fs)) := by
    rw [claims, List.append_assoc]
    exact (enterDocuments_makes h.described).append fun _ =>
      (hcatalogs _).append fun _ => enterTargets_makes h.publicIds
  have hbuild := outcome_build hnames h.supplied
  have hkept : (plan.build fs).outcome.map Index.entries =
      (Entries.claimAll plan.policy ∅ (plan.claims fs Catalog.kept listed)).outcome := by
    rcases hmakes with hmade | ⟨excess, hexcess⟩
    · rw [hbuild, ← hmade]
      cases (plan.enterAll fs (plan.paths fs)).outcome <;> rfl
    · exact absurd (by rw [hbuild, hexcess]; rfl) (hl excess)
  refine ⟨listed, hlisted, hkept, fun hconsistent => ?_⟩
  have hequivalent : Entries.Equivalent plan.policy (plan.claims fs Catalog.kept listed)
      (plan.claims fs Catalog.byKind listed) :=
    ((Entries.Equivalent.refl _).append (targetClaims_listed hconsistent)).append (.refl _)
  rw [hkept, hequivalent ∅]

end Building

section Sample

/-- A catalog with some content. -/
def catalogOctets (content : List String) : Bytes :=
  Utf8.encode "<catalog>" ++ content.flatMap Utf8.encode ++ Utf8.encode "</catalog>"

/-- A schema, two other files, a catalog and a further one. -/
def catalogued (content further : List String) : FileSystem :=
  topFiles
    [("a.xsd", schemaOctets "targetNamespace='urn:a'" []), ("one", []), ("two", []),
      ("catalog", catalogOctets content), ("further", catalogOctets further)]

/-- A plan with a catalog and an identifier. -/
def cataloguedPlan (policy : DuplicatePolicy) : IndexPlan :=
  { shelfPlan with
    policy := policy
    catalogs := [topPath "catalog"]
    publicIds := [("q", topPath "two")] }

/-- The index with one document and some identifiers. -/
def cataloguedIndex (ids : List (String × Path)) : Index :=
  ⟨Path.ofNames [], .ofList (("urn:a", ⟨topPath "a.xsd", .document⟩) ::
    ids.map fun e => (e.1, ⟨e.2, .catalog⟩))⟩

/-- What is known of a plan by evaluating it, given the catalog files. -/
theorem intact_of_closed {plan : IndexPlan} {fs : FileSystem} {nodes : List Path}
    (hp : (plan.paths fs).isEmpty = false)
    (hd : ∀ p ∈ plan.paths fs, (plan.describe fs p).toOption.isSome = true)
    (hc : ∀ p ∈ plan.catalogs, ∃ start ∈ (fs.canonicalize p).toOption, start ∈ nodes)
    (hn : ∀ n ∈ nodes, ∃ is ∈ (Catalog.fileItems fs plan.limits n).toOption,
      ∀ i ∈ is, ∃ q ∈ (fs.canonicalize i.path).toOption, i = .next i.path → q ∈ nodes)
    (hi : ∀ e ∈ plan.publicIds, (fs.canonicalize e.2).toOption.isSome = true) :
    plan.Intact fs where
  supplied := by
    intro q
    rw [q] at hp
    cases hp
  described := by
    intro p hmem
    obtain ⟨c, hdescribe⟩ := Option.isSome_iff_exists.1 (hd p hmem)
    exact ⟨c, toOption_eq_some_iff.1 hdescribe⟩
  catalogs := by
    intro p hmem
    obtain ⟨start, hstart, hnode⟩ := hc p hmem
    refine Catalog.readable_of_closed (toOption_eq_some_iff.1 hstart) hnode fun n hmem => ?_
    obtain ⟨is, hitems, hall⟩ := hn n hmem
    refine ⟨is, toOption_eq_some_iff.1 hitems, fun i hmem => ?_⟩
    obtain ⟨q, hq, hnext⟩ := hall i hmem
    exact ⟨q, toOption_eq_some_iff.1 hq, hnext⟩
  publicIds := by
    intro e hmem
    obtain ⟨q, hq⟩ := Option.isSome_iff_exists.1 (hi e hmem)
    exact ⟨q, toOption_eq_some_iff.1 hq⟩

/-- A catalog that repeats a mapping and mentions a further catalog, which mentions it in turn. -/
def circular : FileSystem :=
  catalogued
    ["<public publicId='p' uri='one'/>", "<nextCatalog catalog='further'/>",
      "<public publicId='p' uri='one'/>"]
    ["<nextCatalog catalog='catalog'/>", "<group><system systemId='s' uri='two'/></group>"]

theorem circular_intact : (cataloguedPlan .reject).Intact circular := by
  refine @intact_of_closed _ _ [topPath "catalog", topPath "further"] ?_ ?_ ?_ ?_ ?_ <;>
    decide +kernel

theorem circular_built : ((cataloguedPlan .reject).build circular).outcome =
    .ok (cataloguedIndex [("p", topPath "one"), ("s", topPath "two"), ("q", topPath "two")]) := by
  rw [← toOption_eq_some_iff]
  decide +kernel

theorem circular_build_claims :
    (cataloguedPlan .reject).Intact circular ∧
      ((cataloguedPlan .reject).build circular).outcome =
        .ok (cataloguedIndex [("p", topPath "one"), ("s", topPath "two"), ("q", topPath "two")]) ∧
      ∃ listed, List.Forall₂ (Catalog.Lists circular (cataloguedPlan .reject).limits)
          (cataloguedPlan .reject).catalogs listed ∧
        ((cataloguedPlan .reject).build circular).outcome.map Index.entries =
          (Entries.claimAll .reject ∅
            ((cataloguedPlan .reject).claims circular Catalog.kept listed)).outcome ∧
        ((∀ ms ∈ listed, Consistent circular ms) →
          ((cataloguedPlan .reject).build circular).outcome.map Index.entries =
            (Entries.claimAll .reject ∅
              ((cataloguedPlan .reject).claims circular Catalog.byKind listed)).outcome) := by
  refine ⟨circular_intact, circular_built, build_claims circular_intact ?_⟩
  rw [circular_built]
  intro excess h
  cases h

/-- A catalog that maps an identifier to two files. -/
def ambiguous : FileSystem :=
  catalogued ["<public publicId='p' uri='one'/>", "<public publicId='p' uri='two'/>"] []

/-- What that catalog lists. -/
def ambiguousMappings : List CatalogMapping :=
  [⟨.publicId, "p", topPath "one"⟩, ⟨.publicId, "p", topPath "two"⟩]

theorem ambiguous_lists :
    Catalog.Lists ambiguous .standard (topPath "catalog") ambiguousMappings := by
  have hitems : Catalog.fileItems ambiguous .standard (topPath "catalog") =
      .ok (ambiguousMappings.map fun m => .mapping m.kind m.id m.target) := by
    rw [← toOption_eq_some_iff]
    decide +kernel
  have hagenda : Catalog.agenda ambiguous .standard (topPath "catalog") =
      ambiguousMappings.map .report := by
    rw [Catalog.agenda, hitems]
    rfl
  refine ⟨topPath "catalog", [topPath "catalog"], ?_, .enterOnly List.not_mem_nil ?_⟩
  · rw [← toOption_eq_some_iff]
    decide +kernel
  · rw [hagenda]
    exact .reports _ _

/-- An identifier that a catalog repeats with another file has the file of the last element, whatever
the policy says: it is not refused, and the first file is not kept. -/
theorem repeated_identifier_replaced :
    List.Forall₂ (Catalog.Lists ambiguous .standard) [topPath "catalog"] [ambiguousMappings] ∧
      (∀ policy, (cataloguedPlan policy).Intact ambiguous) ∧
      (∀ policy, ((cataloguedPlan policy).build ambiguous).outcome =
        .ok (cataloguedIndex [("p", topPath "two"), ("q", topPath "two")])) ∧
      (Entries.claimAll .reject ∅
        ((cataloguedPlan .reject).claims ambiguous Catalog.byKind [ambiguousMappings])).outcome =
          .error (.duplicateNamespace "p" (topPath "one") (topPath "two")) ∧
      (Entries.claimAll .firstWins ∅
        ((cataloguedPlan .firstWins).claims ambiguous Catalog.byKind [ambiguousMappings])).outcome =
          .ok (cataloguedIndex [("p", topPath "one"), ("q", topPath "two")]).entries := by
  refine ⟨.cons ambiguous_lists .nil, fun policy => ?_, fun policy => ?_, ?_, ?_⟩
  · have h : (cataloguedPlan .firstWins).Intact ambiguous := by
      refine @intact_of_closed _ _ [topPath "catalog"] ?_ ?_ ?_ ?_ ?_ <;> decide +kernel
    exact ⟨h.supplied, h.described, h.catalogs, h.publicIds⟩
  · rw [← toOption_eq_some_iff]
    cases policy <;> decide +kernel
  · decide +kernel
  · decide +kernel

end Sample

end IndexPlan
end SchemaSet
