import SchemaSet.Proofs.Contention
import SchemaSet.Proofs.Directory
import SchemaSet.Proofs.Nesting
import SchemaSet.Proofs.Walks

/-!
# What an index is built from

A plan may have any catalogs, further identifiers, policy and limits.  `IndexPlan.Gathers` says
which claims it makes: those of the eligible files in the order of their names, then those of the
catalogs and of the further identifiers.

What is built was gathered and claimed (`gathers_of_build`), and what is gathered is claimed unless
a limit is exceeded (`Gathers.outcome_build`).  What stands under a key is one of its claims as it
was made, whatever the policy, so an entry never has the origin of one claim and the path of
another.  Hence an index holds what its documents, catalogs and identifiers say, and nothing else
(`build_truthful`).
-/

namespace SchemaSet

namespace Entries

/-- What stands under a key after some claims stood there before or is one of them. -/
theorem get?_of_claimAll {policy : DuplicatePolicy} {entries entries' : Entries} {cs : List Claim}
    (h : (claimAll policy entries cs).outcome = .ok entries') {key : String} {e : IndexEntry}
    (hk : entries'.get? key = some e) :
    entries.get? key = some e ∨ ⟨key, e.path, e.origin⟩ ∈ cs := by
  induction cs generalizing entries with
  | nil =>
      cases h
      exact .inl hk
  | cons c cs ih =>
      obtain ⟨mid, hc, hcs⟩ := Journal.outcome_bind_eq_ok_iff.1 h
      rcases ih hcs with hmid | hmem
      · rcases get?_of_claim hc hmid with hold | ⟨rfl, rfl⟩
        · exact .inl hold
        · exact .inr List.mem_cons_self
      · exact .inr (List.mem_cons_of_mem c hmem)

end Entries

namespace IndexPlan

section Gathering

variable (plan : IndexPlan) (fs : FileSystem)

/-- A catalog is read, and these are the claims of its identifiers. -/
def CatalogGathers (p : Path) (cs : List Claim) : Prop :=
  ∃ catalog, (Catalog.ofFile fs plan.limits p).outcome = .ok catalog ∧
    List.Forall₂ (fun e c => targetClaim? fs e = some c) catalog.entries cs

/-- The claims of a plan: those of the eligible files in a directory, and the further ones. -/
structure Gathers (names : List Bytes) (documents further : List Claim) : Prop where
  checked : checkDirectory fs plan.directory = .ok names
  supplied : plan.eligibleNames fs names ≠ []
  /-- Each eligible file has a claim. -/
  described : List.Forall₂ (fun name c => plan.describe fs (memberPath names name) = .ok c)
    (plan.eligibleNames fs names) documents
  /-- The catalogs come before the further identifiers. -/
  identified : ∃ listed identifiers, List.Forall₂ (plan.CatalogGathers fs) plan.catalogs listed ∧
    List.Forall₂ (fun e c => targetClaim? fs e = some c) plan.publicIds identifiers ∧
    further = listed.flatten ++ identifiers

variable {plan fs} {entries entries' : Entries}

theorem targetClaim?_eq_some_iff {e : String × Path} {c : Claim} :
    targetClaim? fs e = some c ↔ fs.canonicalize e.2 = .ok c.path ∧ c.key = e.1 ∧
      c.origin = .catalog := by
  rw [targetClaim?, Option.map_eq_some_iff]
  constructor
  · rintro ⟨p, hp, rfl⟩
    exact ⟨toOption_eq_some_iff.1 hp, rfl, rfl⟩
  · obtain ⟨key, p, origin⟩ := c
    rintro ⟨hp, rfl, rfl⟩
    exact ⟨p, toOption_eq_some_iff.2 hp, rfl⟩

theorem Makes.claimAll_eq_ok {cs : List Claim} {j : Journal Notice Error Entries}
    (h : plan.Makes cs entries j) (hj : j.outcome = .ok entries') :
    (Entries.claimAll plan.policy entries cs).outcome = .ok entries' := by
  rcases h with h | ⟨excess, h⟩
  · rw [← h, hj]
  · rw [hj] at h
    cases h

section Documents

variable {ps : List Path} {cs : List Claim}

theorem documentClaims_eq (h : List.Forall₂ (fun p c => plan.describe fs p = .ok c) ps cs) :
    plan.documentClaims fs ps = cs := by
  induction h with
  | nil => rfl
  | cons hd _ ih =>
      rw [documentClaims, List.filterMap_cons, hd]
      exact congrArg _ ih

theorem enterDocuments_makes_of_described
    (h : List.Forall₂ (fun p c => plan.describe fs p = .ok c) ps cs) :
    plan.Makes cs entries (plan.enterDocuments fs entries ps) := by
  rw [← documentClaims_eq h]
  refine enterDocuments_makes fun p hp => ?_
  obtain ⟨c, _, hc⟩ := Markup.exists_of_mem_right h.flip hp
  exact ⟨c, hc⟩

theorem described_of_enterDocuments
    (h : (plan.enterDocuments fs entries ps).outcome = .ok entries') :
    ∃ cs, List.Forall₂ (fun p c => plan.describe fs p = .ok c) ps cs := by
  induction ps generalizing entries with
  | nil => exact ⟨[], .nil⟩
  | cons p ps ih =>
      obtain ⟨c, hc, h⟩ := Journal.outcome_bind_eq_ok_iff.1 h
      obtain ⟨_, _, h⟩ := Journal.outcome_bind_eq_ok_iff.1 h
      obtain ⟨_, _, h⟩ := Journal.outcome_bind_eq_ok_iff.1 h
      obtain ⟨cs, hcs⟩ := ih h
      exact ⟨c :: cs, .cons hc hcs⟩

end Documents

section Targets

variable {tell : String → Path → Notice} {es : List (String × Path)} {cs : List Claim}

theorem targetClaims_eq (h : List.Forall₂ (fun e c => targetClaim? fs e = some c) es cs) :
    targetClaims fs es = cs := by
  induction h with
  | nil => rfl
  | cons hc _ ih =>
      rw [targetClaims, List.filterMap_cons, hc]
      exact congrArg _ ih

theorem enterTargets_makes_of_claims
    (h : List.Forall₂ (fun e c => targetClaim? fs e = some c) es cs) :
    plan.Makes cs entries (plan.enterTargets fs tell entries es) := by
  rw [← targetClaims_eq h]
  refine enterTargets_makes fun e he => ?_
  obtain ⟨c, _, hc⟩ := Markup.exists_of_mem_right h.flip he
  exact ⟨c.path, (targetClaim?_eq_some_iff.1 hc).1⟩

theorem claims_of_enterTargets
    (h : (plan.enterTargets fs tell entries es).outcome = .ok entries') :
    ∃ cs, List.Forall₂ (fun e c => targetClaim? fs e = some c) es cs := by
  induction es generalizing entries with
  | nil => exact ⟨[], .nil⟩
  | cons e es ih =>
      obtain ⟨q, hq, h⟩ := Journal.outcome_bind_eq_ok_iff.1 h
      obtain ⟨_, _, h⟩ := Journal.outcome_bind_eq_ok_iff.1 h
      obtain ⟨_, _, h⟩ := Journal.outcome_bind_eq_ok_iff.1 h
      obtain ⟨cs, hcs⟩ := ih h
      have hc : targetClaim? fs e = some ⟨e.1, q, .catalog⟩ :=
        targetClaim?_eq_some_iff.2 ⟨mapError_eq_ok_iff.1 hq, rfl, rfl⟩
      exact ⟨_ :: cs, .cons hc hcs⟩

end Targets

section Catalogs

variable {ps : List Path} {listed : List (List Claim)}

theorem enterCatalogs_makes_of_gathers
    (h : List.Forall₂ (plan.CatalogGathers fs) ps listed) :
    plan.Makes listed.flatten entries (plan.enterCatalogs fs entries ps) := by
  induction h generalizing entries with
  | nil => exact .inl rfl
  | cons hp _ ih =>
      obtain ⟨catalog, hread, hclaims⟩ := hp
      rw [List.flatten_cons]
      exact enterCatalogs_makes_cons hread (enterTargets_makes_of_claims hclaims) fun _ => ih

theorem gathers_of_enterCatalogs
    (h : (plan.enterCatalogs fs entries ps).outcome = .ok entries') :
    ∃ listed, List.Forall₂ (plan.CatalogGathers fs) ps listed := by
  induction ps generalizing entries with
  | nil => exact ⟨[], .nil⟩
  | cons p ps ih =>
      obtain ⟨catalog, hread, h⟩ := Journal.outcome_bind_eq_ok_iff.1 h
      have hentered : ∃ mid, (plan.enterTargets fs .catalogEntry entries catalog.entries).outcome =
          .ok mid ∧ (plan.enterCatalogs fs mid ps).outcome = .ok entries' := by
        dsimp only at h
        split at h
        · obtain ⟨_, _, h⟩ := Journal.outcome_bind_eq_ok_iff.1 h
          exact Journal.outcome_bind_eq_ok_iff.1 h
        · exact Journal.outcome_bind_eq_ok_iff.1 h
      obtain ⟨mid, htargets, hrest⟩ := hentered
      obtain ⟨cs, hcs⟩ := claims_of_enterTargets htargets
      obtain ⟨listed, hlisted⟩ := ih hrest
      exact ⟨cs :: listed, .cons ⟨catalog, hread, hcs⟩ hlisted⟩

end Catalogs

variable {names : List Bytes} {documents further : List Claim}

theorem paths_ne_nil (hn : checkDirectory fs plan.directory = .ok names) :
    plan.paths fs ≠ [] ↔ plan.eligibleNames fs names ≠ [] := by
  rw [paths_of_checkDirectory hn, Ne, List.map_eq_nil_iff]

theorem Gathers.enterAll_makes (h : plan.Gathers fs names documents further) :
    plan.Makes (documents ++ further) ∅ (plan.enterAll fs (plan.paths fs)) := by
  obtain ⟨listed, identifiers, hlisted, hids, rfl⟩ := h.identified
  have hdescribed : List.Forall₂ (fun p c => plan.describe fs p = .ok c) (plan.paths fs) documents := by
    rw [paths_of_checkDirectory h.checked, List.forall₂_map_left_iff]
    exact h.described
  exact (enterDocuments_makes_of_described hdescribed).append fun _ =>
    (enterCatalogs_makes_of_gathers hlisted).append fun _ => enterTargets_makes_of_claims hids

/-- What a plan gathers is claimed, unless a limit is exceeded. -/
theorem Gathers.outcome_build (h : plan.Gathers fs names documents further) :
    (plan.build fs).outcome =
        (Entries.claimAll plan.policy ∅ (documents ++ further)).outcome.map
          (Index.mk (Path.ofNames names)) ∨
      ∃ excess, (plan.build fs).outcome = .error (.limit excess) := by
  rw [IndexPlan.outcome_build h.checked ((paths_ne_nil h.checked).2 h.supplied)]
  rcases h.enterAll_makes with hmakes | ⟨excess, hlimit⟩
  · exact .inl (by rw [hmakes])
  · exact .inr ⟨excess, by rw [hlimit]; rfl⟩

/-- A directory in which an index is built has eligible files. -/
theorem exists_names_of_build {index : Index} (h : (plan.build fs).outcome = .ok index) :
    ∃ names, checkDirectory fs plan.directory = .ok names ∧ plan.eligibleNames fs names ≠ [] := by
  obtain ⟨names, hnames, h⟩ := Journal.outcome_bind_eq_ok_iff.1 h
  refine ⟨names, hnames, fun hnil => ?_⟩
  rw [hnil] at h
  cases h

/-- What is built was gathered and claimed. -/
theorem gathers_of_build {index : Index} (h : (plan.build fs).outcome = .ok index) :
    ∃ names documents further, plan.Gathers fs names documents further ∧
      index.directory = Path.ofNames names ∧
      (Entries.claimAll plan.policy ∅ (documents ++ further)).outcome = .ok index.entries := by
  obtain ⟨names, hnames, hsome⟩ := exists_names_of_build h
  rw [IndexPlan.outcome_build hnames ((paths_ne_nil hnames).2 hsome)] at h
  cases hall : (plan.enterAll fs (plan.paths fs)).outcome with
  | error e =>
      rw [hall] at h
      cases h
  | ok entries =>
      rw [hall] at h
      cases h
      obtain ⟨described, hdocuments, hrest⟩ := Journal.outcome_bind_eq_ok_iff.1 hall
      obtain ⟨merged, hcatalogs, htargets⟩ := Journal.outcome_bind_eq_ok_iff.1 hrest
      obtain ⟨documents, hdescribed⟩ := described_of_enterDocuments hdocuments
      obtain ⟨listed, hlisted⟩ := gathers_of_enterCatalogs hcatalogs
      obtain ⟨identifiers, hids⟩ := claims_of_enterTargets htargets
      rw [paths_of_checkDirectory hnames, List.forall₂_map_left_iff] at hdescribed
      have hgathers : plan.Gathers fs names documents (listed.flatten ++ identifiers) :=
        ⟨hnames, hsome, hdescribed, listed, identifiers, hlisted, hids, rfl⟩
      exact ⟨names, documents, _, hgathers, rfl, hgathers.enterAll_makes.claimAll_eq_ok hall⟩

end Gathering

section Truth

variable (plan : IndexPlan) (fs : FileSystem)

/-- A catalog of a plan is read and has an identifier. -/
def Identifies (key : String) : Prop :=
  ∃ p ∈ plan.catalogs, ∃ catalog, (Catalog.ofFile fs plan.limits p).outcome = .ok catalog ∧
    key ∈ catalog.entries.map Prod.fst

variable {plan fs} {names : List Bytes} {name : Bytes} {c : Claim} {documents further : List Claim}

/-- The claim of a document is what the scan of an eligible file yields. -/
theorem Gathers.scans (h : plan.Gathers fs names documents further) (hc : c ∈ documents) :
    c.origin = .document ∧
      ∃ name, plan.IsEligibleFile fs names name ∧ plan.Scans fs names name c.key c.path := by
  obtain ⟨name, hname, hdescribe⟩ := Markup.exists_of_mem_right h.described hc
  obtain ⟨hscans, horigin⟩ := describe_eq_ok_iff.1 hdescribe
  exact ⟨horigin, name, mem_eligibleNames.1 hname, hscans⟩

/-- A further claim is that of an identifier, for a canonical path. -/
theorem Gathers.identifies (h : plan.Gathers fs names documents further) (hc : c ∈ further) :
    c.origin = .catalog ∧ (∃ q, fs.canonicalize q = .ok c.path) ∧
      (plan.Identifies fs c.key ∨ c.key ∈ plan.publicIds.map Prod.fst) := by
  obtain ⟨listed, identifiers, hlisted, hids, rfl⟩ := h.identified
  rcases List.mem_append.1 hc with hc | hc
  · obtain ⟨cs, hcs, hc⟩ := List.mem_flatten.1 hc
    obtain ⟨p, hp, catalog, hread, hclaims⟩ := Markup.exists_of_mem_right hlisted hcs
    obtain ⟨e, he, htarget⟩ := Markup.exists_of_mem_right hclaims hc
    obtain ⟨hpath, hkey, horigin⟩ := targetClaim?_eq_some_iff.1 htarget
    refine ⟨horigin, ⟨e.2, hpath⟩, .inl ⟨p, hp, catalog, hread, ?_⟩⟩
    rw [hkey]
    exact List.mem_map_of_mem he
  · obtain ⟨e, he, htarget⟩ := Markup.exists_of_mem_right hids hc
    obtain ⟨hpath, hkey, horigin⟩ := targetClaim?_eq_some_iff.1 htarget
    refine ⟨horigin, ⟨e.2, hpath⟩, .inr ?_⟩
    rw [hkey]
    exact List.mem_map_of_mem he

theorem mem_documents_iff {index : Index} {key : String} {p : Path} :
    (key, p) ∈ index.documents ↔ index.entry? key = some ⟨p, .document⟩ := by
  rw [Index.entry?, OrderedMap.get?_eq_some_iff, Index.documents, List.mem_map]
  constructor
  · rintro ⟨⟨k, path, origin⟩, hmem, heq⟩
    obtain ⟨hmem, horigin⟩ := List.mem_filter.1 hmem
    cases heq
    cases of_decide_eq_true horigin
    exact hmem
  · intro h
    exact ⟨_, List.mem_filter.2 ⟨h, rfl⟩, rfl⟩

/-- An index holds what its documents, catalogs and identifiers say, and nothing else.  The path of
every entry is canonical; that of a document is the path of an eligible file whose root yields the
key.  Every eligible file was scanned, and the namespace that its root yields is a key.  Every other
key is an identifier. -/
theorem build_truthful {plan : IndexPlan} {fs : FileSystem} {index : Index}
    (h : (plan.build fs).outcome = .ok index) :
    ∃ names, checkDirectory fs plan.directory = .ok names ∧
      (∀ key e, index.entry? key = some e →
        (∃ q, fs.canonicalize q = .ok e.path) ∧ fs.Canonical e.path) ∧
      (∀ key p, (key, p) ∈ index.documents ↔ index.entry? key = some ⟨p, .document⟩) ∧
      (∀ key p, (key, p) ∈ index.documents →
        ∃ name, plan.IsEligibleFile fs names name ∧ plan.Scans fs names name key p) ∧
      (∀ name, plan.IsEligibleFile fs names name →
        ∃ key p, plan.Scans fs names name key p ∧ key ∈ index.namespaces) ∧
      ∀ key ∈ index.namespaces,
        (∃ name p, plan.IsEligibleFile fs names name ∧ plan.Scans fs names name key p) ∨
          plan.Identifies fs key ∨ key ∈ plan.publicIds.map Prod.fst := by
  obtain ⟨names, documents, further, hgathers, _, hclaimed⟩ := gathers_of_build h
  have hmade : ∀ key e, index.entry? key = some e →
      (⟨key, e.path, e.origin⟩ : Claim) ∈ documents ∨ ⟨key, e.path, e.origin⟩ ∈ further := by
    intro key e he
    rcases Entries.get?_of_claimAll hclaimed he with hnone | hmem
    · cases hnone
    · exact List.mem_append.1 hmem
  have hkeys : index.namespaces = ((documents ++ further).map Claim.key).eraseDups :=
    Entries.keys_of_claimAll hclaimed
  refine ⟨names, hgathers.checked, ?_, fun _ _ => mem_documents_iff, ?_, ?_, ?_⟩
  · intro key e he
    have hpath : ∃ q, fs.canonicalize q = .ok e.path := by
      rcases hmade key e he with hc | hc
      · obtain ⟨_, name, _, hscans⟩ := hgathers.scans hc
        exact ⟨_, hscans.1⟩
      · exact (hgathers.identifies hc).2.1
    exact ⟨hpath, FileSystem.canonical_of_canonicalize hpath.choose_spec⟩
  · intro key p hdocument
    rcases hmade key _ (mem_documents_iff.1 hdocument) with hc | hc
    · exact (hgathers.scans hc).2
    · cases (hgathers.identifies hc).1
  · intro name hname
    obtain ⟨c, hc, hdescribe⟩ :=
      Markup.exists_of_mem_right hgathers.described.flip (mem_eligibleNames.2 hname)
    refine ⟨c.key, c.path, (describe_eq_ok_iff.1 hdescribe).1, ?_⟩
    rw [hkeys, List.mem_eraseDups]
    exact List.mem_map_of_mem (List.mem_append_left _ hc)
  · intro key hkey
    rw [hkeys, List.mem_eraseDups] at hkey
    obtain ⟨c, hc, rfl⟩ := List.mem_map.1 hkey
    rcases List.mem_append.1 hc with hc | hc
    · obtain ⟨_, name, hname, hscans⟩ := hgathers.scans hc
      exact .inl ⟨name, c.path, hname, hscans⟩
    · exact .inr (hgathers.identifies hc).2.2

end Truth

section Sample

/-- A catalog that has the namespace of a document for an identifier. -/
def shadowed : FileSystem := catalogued ["<uri name='urn:a' uri='two'/>"] []

/-- What is built of it where the last claim wins: the document lost its key. -/
def shadowedIndex : Index :=
  ⟨Path.ofNames [], .ofList [("urn:a", ⟨topPath "two", .catalog⟩), ("q", ⟨topPath "two", .catalog⟩)]⟩

theorem shadowed_build_truthful :
    ((cataloguedPlan .lastWins).build shadowed).outcome = .ok shadowedIndex ∧
      ∃ names, checkDirectory shadowed (cataloguedPlan .lastWins).directory = .ok names ∧
        (∀ name, (cataloguedPlan .lastWins).IsEligibleFile shadowed names name →
          ∃ key p, (cataloguedPlan .lastWins).Scans shadowed names name key p ∧
            key ∈ shadowedIndex.namespaces) ∧
        ∀ key e, shadowedIndex.entry? key = some e → shadowed.Canonical e.path := by
  have hbuilt : ((cataloguedPlan .lastWins).build shadowed).outcome = .ok shadowedIndex := by
    rw [← toOption_eq_some_iff]
    decide +kernel
  obtain ⟨names, hnames, hcanonical, -, -, hscanned, -⟩ := build_truthful hbuilt
  exact ⟨hbuilt, names, hnames, hscanned, fun key e he => (hcanonical key e he).2⟩

end Sample

end IndexPlan
end SchemaSet
