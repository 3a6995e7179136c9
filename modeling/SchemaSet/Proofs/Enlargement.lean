import SchemaSet.Proofs.Dependence

/-!
# Directories with one more document

An index is built where the first claim wins, and an eligible file is added to its directory:
`IndexPlan.Adds`.

What is found now and was not found before is what the new entry leads to.  So the files that become
eligible are the new one and the links of the directory that led nowhere and lead to it now
(`Adds.joins_of_eligible`), and all of them claim the same key for the same path.  Apart from the
claims of that key, the claims are those made before, in the same order (`Adds.gathers`).

`build_added` describes the index that is built after the addition, and what compiles with it.  A
link that becomes eligible may be the first to claim the key, as the last sample shows.
-/

namespace SchemaSet

namespace Entries

variable {entries entries' : Entries} {cs cs' : List Claim} {key other : String}

/-- The claims of a key do not change if those of another one are left out. -/
theorem claimsOf_filter (h : other ≠ key) (cs : List Claim) :
    claimsOf other (cs.filter fun c => c.key ≠ key) = claimsOf other cs := by
  rw [claimsOf, claimsOf, List.filter_filter]
  refine List.filter_congr fun c _ => ?_
  by_cases hc : c.key = other
  · simp [hc, h]
  · simp [hc]

theorem filter_eraseDups (q : String → Bool) (l : List String) :
    l.eraseDups.filter q = (l.filter q).eraseDups := by
  induction l using List.reverseRecOn with
  | nil => rfl
  | append_singleton l a ih =>
      rw [List.filter_append]
      by_cases hq : q a = true
      · have hlast : [a].filter q = [a] := by simp [hq]
        by_cases hmem : a ∈ l
        · rw [hlast, eraseDups_snoc_of_mem hmem, ih,
            eraseDups_snoc_of_mem (List.mem_filter.2 ⟨hmem, hq⟩)]
        · rw [hlast, eraseDups_snoc_of_notMem hmem, List.filter_append, hlast, ih,
            eraseDups_snoc_of_notMem fun hin => hmem (List.mem_filter.1 hin).1]
      · have hlast : [a].filter q = [] := by simp [hq]
        rw [hlast, List.append_nil, ← ih]
        by_cases hmem : a ∈ l
        · rw [eraseDups_snoc_of_mem hmem]
        · rw [eraseDups_snoc_of_notMem hmem, List.filter_append, hlast, List.append_nil]

/-- Keys keep their order if claims of another key are made in between. -/
theorem keys_filter (h : (claimAll .firstWins ∅ cs).outcome = .ok entries)
    (h' : (claimAll .firstWins ∅ cs').outcome = .ok entries')
    (hcs : (cs'.filter fun c => c.key ≠ key) = cs.filter fun c => c.key ≠ key) :
    (entries'.keys.filter fun k => k ≠ key) = entries.keys.filter fun k => k ≠ key := by
  rw [keys_of_claimAll h, keys_of_claimAll h', filter_eraseDups, filter_eraseDups, List.filter_map,
    List.filter_map]
  exact congrArg (fun cs => (cs.map Claim.key).eraseDups) hcs

theorem get?_of_firstWins (h : (claimAll .firstWins ∅ cs).outcome = .ok entries) (key : String) :
    entries.get? key = (claimsOf key cs).head?.map fun c => ⟨c.path, c.origin⟩ := by
  obtain ⟨made, hmade, hget⟩ := claimAll_firstWins cs
  cases h.symm.trans hmade
  exact hget key

/-- What stands under a key depends on the claims of that key. -/
theorem get?_filter (h : (claimAll .firstWins ∅ cs).outcome = .ok entries)
    (h' : (claimAll .firstWins ∅ cs').outcome = .ok entries')
    (hcs : (cs'.filter fun c => c.key ≠ key) = cs.filter fun c => c.key ≠ key)
    (hother : other ≠ key) : entries'.get? other = entries.get? other := by
  rw [get?_of_firstWins h, get?_of_firstWins h', ← claimsOf_filter hother cs, ← hcs,
    claimsOf_filter hother]

end Entries

namespace IndexPlan

section Adding

variable (plan : IndexPlan) (fs : FileSystem) (names : List Bytes)

/-- Building an index exceeds no limit of the plan, and no file to be indexed has a path that is too
long to be canonicalized. -/
structure WithinLimits : Prop where
  built : ∀ excess, (plan.build fs).outcome ≠ .error (.limit excess)
  canonicalized : ∀ name, plan.IsEligibleFile fs names name →
    fs.canonicalize (memberPath names name) ≠ .error .nameTooLong

/-- An eligible file is added to the directory of a plan, and the scan of its root yields a target
namespace. -/
structure Adds (name : Bytes) (key : String) (p : Path) (fs' : FileSystem) : Prop where
  gains : ∃ node, fs.Gains names name node fs'
  directory : checkDirectory fs plan.directory = .ok names
  eligible : plan.IsEligibleFile fs' names name
  scans : plan.Scans fs' names name key p

/-- A name of a directory becomes that of a file when an entry is added: it is the name of the entry,
or that of a link that led nowhere. -/
def Joins (name x : Bytes) : Prop :=
  x = name ∨ fs.locate (memberPath names x) = .error .notFound ∧
    ∃ target, fs.node? (names ++ [x]) = some (.link target)

/-- Of the eligible files of a directory that declare a key, this is the one whose name sorts
first. -/
structure ScansFirst (key : String) (name : Bytes) (p : Path) : Prop where
  eligible : plan.IsEligibleFile fs names name
  scans : plan.Scans fs names name key p
  least : ∀ other q, plan.IsEligibleFile fs names other → plan.Scans fs names other key q →
    name ≤ other

end Adding

namespace Adds

variable {plan : IndexPlan} {fs fs' : FileSystem} {names : List Bytes} {name x : Bytes}
variable {key : String} {p : Path} (h : plan.Adds fs names name key p fs')
include h

theorem retains : fs.Retains fs' := by
  obtain ⟨_, hgains⟩ := h.gains
  exact hgains.retains

theorem settled : FileSystem.Place.Settled fs ⟨names, .directory⟩ :=
  FileSystem.walkPath_settled (FileSystem.walkPath_of_locate (locate_of_checkDirectory h.directory))

theorem settled' : FileSystem.Place.Settled fs' ⟨names, .directory⟩ :=
  FileSystem.walkPath_settled (FileSystem.walkPath_of_locate
    (locate_of_checkDirectory (checkDirectory_retains h.retains h.directory)))

theorem spellable (hx : plan.IsEligibleFile fs' names x) : FileSystem.Spellable x := by
  obtain ⟨_, hgains⟩ := h.gains
  exact hgains.spellable_child hx.listed

theorem memberPath_eq (hx : plan.IsEligibleFile fs' names x) :
    memberPath names x = Path.ofNames (names ++ [x]) :=
  Path.join_ofNames h.settled.spellable (h.spellable hx)

/-- The file that the new entry leads to. -/
theorem exists_goal : ∃ goal : FileSystem.Place, goal.node.isFile = true ∧
    p = Path.ofNames goal.names ∧ fs'.Reaches names [.down name] goal := by
  obtain ⟨goal, hlocate, hfile⟩ := FileSystem.isFile_iff.1 h.eligible.regular
  refine ⟨goal, hfile, ?_, ?_⟩
  · have hcanonical := h.scans.1
    rw [h.memberPath_eq h.eligible] at hcanonical
    rcases FileSystem.canonicalize_of_locate hlocate with hlong | hok
    · cases hcanonical.symm.trans hlong
    · exact Except.ok.inj (hcanonical.symm.trans hok)
  · exact FileSystem.reaches_of_walkPath h.settled' (h.spellable h.eligible)
      (FileSystem.walkPath_of_locate hlocate)

theorem eligible_retained (hx : plan.IsEligibleFile fs names x) : plan.IsEligibleFile fs' names x := by
  obtain ⟨_, hgains⟩ := h.gains
  exact ⟨hgains.children_perm.mem_iff.2 (List.mem_cons_of_mem _ hx.listed),
    h.retains.isFile hx.regular, hx.extension⟩

/-- A file that becomes eligible is the new one, or a link that led nowhere; it is at the path of
the new one, unless what leads there is too long. -/
theorem joins_of_eligible (hx : plan.IsEligibleFile fs' names x)
    (hold : ¬ plan.IsEligibleFile fs names x) :
    Joins fs names name x ∧ (fs'.canonicalize (memberPath names x) = .error .nameTooLong ∨
      fs'.canonicalize (memberPath names x) = .ok p) := by
  obtain ⟨_, hgains⟩ := h.gains
  by_cases hne : x = name
  · subst hne
    exact ⟨.inl rfl, .inr h.scans.1⟩
  · obtain ⟨goal, hgoal, rfl, hreaches⟩ := h.exists_goal
    obtain ⟨place, hlocate, hfile⟩ := FileSystem.isFile_iff.1 hx.regular
    have hlisted : x ∈ fs.children names :=
      (List.mem_cons.1 (hgains.children_perm.mem_iff.1 hx.listed)).resolve_left hne
    rcases hgains.locate_cases hreaches hgoal hlocate with hbefore | ⟨hnone, rfl⟩
    · exact absurd ⟨hlisted, FileSystem.isFile_iff.2 ⟨place, hbefore, hfile⟩, hx.extension⟩ hold
    · rw [h.memberPath_eq hx]
      refine ⟨.inr ⟨h.memberPath_eq hx ▸ hnone, ?_⟩, FileSystem.canonicalize_of_locate hlocate⟩
      exact hgains.exists_target h.settled h.settled' (h.spellable hx) hne hnone hlocate hfile

theorem scans_of_joins (hw : plan.WithinLimits fs' names) (hx : plan.IsEligibleFile fs' names x)
    (hold : ¬ plan.IsEligibleFile fs names x) : plan.Scans fs' names x key p := by
  obtain ⟨_, hlong | hok⟩ := h.joins_of_eligible hx hold
  · exact absurd hlong (hw.canonicalized x hx)
  · exact ⟨hok, h.scans.2⟩

end Adds

section Claims

variable {α β : Type} {R : α → β → Prop} {l : List α} {cs : List β}

/-- What some elements stand for, if the others stand for what is left out. -/
theorem exists_kept (h : List.Forall₂ R l cs) (keep : α → Bool) (q : β → Bool)
    (hq : ∀ a ∈ l, ∀ b, R a b → keep a = false → q b = false) :
    ∃ kept, List.Forall₂ R (l.filter keep) kept ∧ kept.filter q = cs.filter q := by
  induction h with
  | nil => exact ⟨[], .nil, rfl⟩
  | @cons a b l cs hab _ ih =>
      obtain ⟨kept, hkept, heq⟩ := ih fun x hx => hq x (List.mem_cons_of_mem a hx)
      cases hk : keep a with
      | true =>
          rw [List.filter_cons_of_pos hk]
          refine ⟨b :: kept, .cons hab hkept, ?_⟩
          rw [List.filter_cons, List.filter_cons, heq]
      | false =>
          have hb : q b = false := hq a List.mem_cons_self b hab hk
          rw [List.filter_cons_of_neg (by simp [hk]), List.filter_cons_of_neg (by simp [hb])]
          exact ⟨kept, hkept, heq⟩

theorem exists_forall₂ (h : ∀ a ∈ l, ∃ b, R a b) : ∃ cs, List.Forall₂ R l cs := by
  induction l with
  | nil => exact ⟨[], .nil⟩
  | cons a l ih =>
      obtain ⟨b, hb⟩ := h a List.mem_cons_self
      obtain ⟨cs, hcs⟩ := ih fun x hx => h x (List.mem_cons_of_mem a hx)
      exact ⟨b :: cs, .cons hb hcs⟩

end Claims

section Gathering

variable {plan : IndexPlan} {fs fs' : FileSystem} {names : List Bytes} {name x : Bytes}
variable {key : String} {p : Path} {documents further : List Claim}

theorem pairwise_eligibleNames : (plan.eligibleNames fs names).Pairwise (· ≤ ·) :=
  pairwise_mergeSort _

/-- The files that were eligible stand in the same order among those that are eligible now. -/
theorem Adds.filter_eligibleNames (h : plan.Adds fs names name key p fs') :
    ((plan.eligibleNames fs' names).filter fun x => x ∈ plan.eligibleNames fs names) =
      plan.eligibleNames fs names := by
  refine List.Perm.eq_of_pairwise (fun _ _ _ _ hab hba => List.le_antisymm hab hba)
    (pairwise_eligibleNames.filter _) pairwise_eligibleNames ?_
  refine (List.perm_ext_iff_of_nodup ((nodup_eligibleNames plan fs' names).filter _)
    (nodup_eligibleNames plan fs names)).2 fun x => ?_
  rw [List.mem_filter, decide_eq_true_eq]
  refine and_iff_right_of_imp fun hx => ?_
  exact mem_eligibleNames.2 (h.eligible_retained (mem_eligibleNames.1 hx))

theorem Gathers.exists_described (h : plan.Gathers fs names documents further)
    (hx : plan.IsEligibleFile fs names x) :
    ∃ c ∈ documents, plan.describe fs (memberPath names x) = .ok c := by
  exact Markup.exists_of_mem_right h.described.flip (mem_eligibleNames.2 hx)

theorem Adds.exists_claim (h : plan.Adds fs names name key p fs')
    (hw : plan.WithinLimits fs' names) (hg : plan.Gathers fs names documents further)
    (hx : plan.IsEligibleFile fs' names x) :
    ∃ c, plan.describe fs' (memberPath names x) = .ok c := by
  by_cases hold : plan.IsEligibleFile fs names x
  · obtain ⟨c, _, hc⟩ := hg.exists_described hold
    exact ⟨c, describe_retains h.retains hc⟩
  · exact ⟨⟨key, p, .document⟩, describe_eq_ok_iff.2 ⟨h.scans_of_joins hw hx hold, rfl⟩⟩

/-- Apart from the claims of the new key, a plan gathers the claims that it gathered before, in
the same order. -/
theorem Adds.gathers (h : plan.Adds fs names name key p fs') (hw : plan.WithinLimits fs' names)
    (hg : plan.Gathers fs names documents further) :
    ∃ documents', plan.Gathers fs' names documents' further ∧
      (documents'.filter fun c => c.key ≠ key) = documents.filter fun c => c.key ≠ key := by
  obtain ⟨_, hgains⟩ := h.gains
  obtain ⟨documents', hdescribed⟩ := exists_forall₂ fun x hx =>
    h.exists_claim hw hg (mem_eligibleNames.1 hx)
  have hnew : ∀ x ∈ plan.eligibleNames fs' names, ∀ c, plan.describe fs' (memberPath names x) = .ok c →
      decide (x ∈ plan.eligibleNames fs names) = false → decide (c.key ≠ key) = false := by
    intro x hx c hc hold
    have hscans := h.scans_of_joins hw (mem_eligibleNames.1 hx)
      fun hin => of_decide_eq_false hold (mem_eligibleNames.2 hin)
    have hclaim : plan.describe fs' (memberPath names x) = .ok ⟨key, p, .document⟩ :=
      describe_eq_ok_iff.2 ⟨hscans, rfl⟩
    cases hc.symm.trans hclaim
    simp
  obtain ⟨kept, hkept, heq⟩ := exists_kept hdescribed _ _ hnew
  have hsame : kept = documents := by
    rw [h.filter_eligibleNames] at hkept
    refine List.right_unique_forall₂' ?_ hkept (hg.described.imp fun _ _ => describe_retains h.retains)
    intro x c d hc hd
    exact Except.ok.inj (hc.symm.trans hd)
  refine ⟨documents', ?_, hsame ▸ heq.symm⟩
  exact
    { checked := checkDirectory_retains h.retains hg.checked
      supplied := List.ne_nil_of_mem (mem_eligibleNames.2 h.eligible)
      described := hdescribed
      identified := by
        obtain ⟨listed, identifiers, hlisted, hids, heq⟩ := hg.identified
        exact ⟨listed, identifiers,
          hlisted.imp fun _ _ => CatalogGathers.retained h.retains hgains.fileCount_le,
          hids.imp fun _ _ => targetClaim?_retains h.retains, heq⟩ }

end Gathering

section First

variable {R : Bytes → Claim → Prop} {l : List Bytes} {cs : List Claim} {key : String}

/-- In a sorted list, the first claim of a key is that of the least name that claims it. -/
theorem exists_first (hR : ∀ x c d, R x c → R x d → c = d) (h : List.Forall₂ R l cs)
    (hsorted : l.Pairwise (· ≤ ·)) (hsome : ∃ c ∈ cs, c.key = key) :
    ∃ first ∈ l, ∃ c, R first c ∧ c.key = key ∧ (Entries.claimsOf key cs).head? = some c ∧
      ∀ other ∈ l, ∀ d, R other d → d.key = key → first ≤ other := by
  induction h with
  | nil =>
      obtain ⟨c, hc, _⟩ := hsome
      exact absurd hc List.not_mem_nil
  | @cons a b l cs hab _ ih =>
      obtain ⟨hbefore, hsorted⟩ := List.pairwise_cons.1 hsorted
      by_cases hb : b.key = key
      · refine ⟨a, List.mem_cons_self, b, hab, hb, ?_, fun other hother d _ _ => ?_⟩
        · rw [Entries.claimsOf, List.filter_cons_of_pos (by simpa using hb), List.head?_cons]
        · rcases List.mem_cons.1 hother with rfl | hother
          · exact List.le_refl _
          · exact hbefore other hother
      · have hrest : ∃ c ∈ cs, c.key = key := by
          obtain ⟨c, hc, hk⟩ := hsome
          rcases List.mem_cons.1 hc with rfl | hc
          · exact absurd hk hb
          · exact ⟨c, hc, hk⟩
        obtain ⟨first, hfirst, c, hc, hk, hhead, hleast⟩ := ih hsorted hrest
        refine ⟨first, List.mem_cons_of_mem a hfirst, c, hc, hk, ?_, fun other hother d hd hdk => ?_⟩
        · rw [Entries.claimsOf, List.filter_cons_of_neg (by simpa using hb)]
          exact hhead
        · rcases List.mem_cons.1 hother with rfl | hother
          · cases hR _ _ _ hab hd
            exact absurd hdk hb
          · exact hleast other hother d hd hdk

end First

section Building

variable {plan : IndexPlan} {fs fs' : FileSystem} {names : List Bytes} {name : Bytes}
variable {key : String} {p : Path} {documents further : List Claim} {index : Index}

/-- Where the first claim wins, a key that a document claims has the path of the first document that
claims it, by name. -/
theorem Gathers.get?_of_declared (h : plan.Gathers fs names documents further)
    {entries : Entries}
    (hclaimed : (Entries.claimAll .firstWins ∅ (documents ++ further)).outcome = .ok entries)
    (hname : plan.IsEligibleFile fs names name) (hscans : plan.Scans fs names name key p) :
    ∃ first q, plan.ScansFirst fs names key first q ∧
      (entries.get? key).map IndexEntry.path = some q := by
  have hsome : ∃ c ∈ documents, c.key = key := by
    obtain ⟨c, hc, hdescribe⟩ := h.exists_described hname
    have hclaim : plan.describe fs (memberPath names name) = .ok ⟨key, p, .document⟩ :=
      describe_eq_ok_iff.2 ⟨hscans, rfl⟩
    cases hdescribe.symm.trans hclaim
    exact ⟨_, hc, rfl⟩
  obtain ⟨first, hfirst, c, hc, rfl, hhead, hleast⟩ := exists_first
    (fun x c d hc hd => Except.ok.inj (hc.symm.trans hd)) h.described pairwise_eligibleNames hsome
  obtain ⟨hdeclares, -⟩ := describe_eq_ok_iff.1 hc
  refine ⟨first, c.path, ⟨mem_eligibleNames.1 hfirst, hdeclares, fun other q hother hq => ?_⟩, ?_⟩
  · exact hleast other (mem_eligibleNames.2 hother) ⟨c.key, q, .document⟩
      (describe_eq_ok_iff.2 ⟨hq, rfl⟩) rfl
  · have hall : (Entries.claimsOf c.key (documents ++ further)).head? = some c := by
      rw [Entries.claimsOf, List.filter_append, List.head?_append]
      rw [Entries.claimsOf] at hhead
      rw [hhead, Option.some_or]
    rw [Entries.get?_of_firstWins hclaimed, hall]
    rfl

/-- Adding a document changes nothing under other keys, where the first claim wins. -/
theorem Adds.exists_index (h : plan.Adds fs names name key p fs') (hpolicy : plan.policy = .firstWins)
    (hw : plan.WithinLimits fs' names) (hbuilt : (plan.build fs).outcome = .ok index) :
    ∃ index', (plan.build fs').outcome = .ok index' ∧
      (∀ other, other ≠ key → index'.get? other = index.get? other) ∧
      (index'.namespaces.filter fun k => k ≠ key) = (index.namespaces.filter fun k => k ≠ key) ∧
      ∃ first q, plan.ScansFirst fs' names key first q ∧ index'.get? key = some q := by
  obtain ⟨names', documents, further, hg, -, hclaimed⟩ := gathers_of_build hbuilt
  cases hg.checked.symm.trans h.directory
  obtain ⟨documents', hg', hsame⟩ := h.gathers hw hg
  have hfilter : ((documents' ++ further).filter fun c => c.key ≠ key) =
      (documents ++ further).filter fun c => c.key ≠ key := by
    rw [List.filter_append, List.filter_append, hsame]
  rw [hpolicy] at hclaimed
  obtain ⟨entries', hclaimed', -⟩ := Entries.claimAll_firstWins (documents' ++ further)
  have hbuilt' : (plan.build fs').outcome = .ok ⟨Path.ofNames names, entries'⟩ := by
    rcases hg'.outcome_build with hmade | ⟨excess, hlimit⟩
    · rw [hmade, hpolicy, hclaimed']
      rfl
    · exact absurd hlimit (hw.built excess)
  refine ⟨_, hbuilt', fun other hother => ?_, Entries.keys_filter hclaimed hclaimed' hfilter,
    hg'.get?_of_declared hclaimed' h.eligible h.scans⟩
  exact congrArg (Option.map IndexEntry.path)
    (Entries.get?_filter hclaimed hclaimed' hfilter hother)

theorem Adds.scans_iff (h : plan.Adds fs names name key p fs')
    (hbuilt : (plan.build fs).outcome = .ok index) {x : Bytes}
    (hx : plan.IsEligibleFile fs names x) {k : String} {q : Path} :
    plan.Scans fs' names x k q ↔ plan.Scans fs names x k q := by
  refine ⟨fun hscans => ?_, Scans.retained h.retains⟩
  obtain ⟨names', documents, further, hg, -, -⟩ := gathers_of_build hbuilt
  cases hg.checked.symm.trans h.directory
  obtain ⟨c, -, hc⟩ := hg.exists_described hx
  have hclaim : plan.describe fs' (memberPath names x) = .ok ⟨k, q, .document⟩ :=
    describe_eq_ok_iff.2 ⟨hscans, rfl⟩
  cases (describe_retains h.retains hc).symm.trans hclaim
  exact (describe_eq_ok_iff.1 hc).1

/-- Adding a document that nothing refers to changes nothing else.  Where the first claim wins, an
index is built still, with the same under all other keys and in the same order.  The key of the new
document has the path of the file that declares it and whose name sorts first.  The files that become
eligible are the new one and the links that led nowhere and lead to it now.  A compilation that the
index serves results in the same schema set, if no document of it imports the namespace of the new
one and no location in it leads through the new entry. -/
theorem build_added (h : plan.Adds fs names name key p fs') (hpolicy : plan.policy = .firstWins)
    (hw : plan.WithinLimits fs' names) (hbuilt : (plan.build fs).outcome = .ok index) :
    ∃ index', (plan.build fs').outcome = .ok index' ∧
      (∀ other, other ≠ key → index'.get? other = index.get? other) ∧
      (index'.namespaces.filter fun k => k ≠ key) = (index.namespaces.filter fun k => k ≠ key) ∧
      (∃ first q, plan.ScansFirst fs' names key first q ∧ index'.get? key = some q) ∧
      (∀ x, plan.IsEligibleFile fs names x → plan.IsEligibleFile fs' names x ∧
        ∀ k q, plan.Scans fs' names x k q ↔ plan.Scans fs names x k q) ∧
      (∀ x, plan.IsEligibleFile fs' names x → ¬ plan.IsEligibleFile fs names x →
        Joins fs names name x ∧ plan.Scans fs' names x key p) ∧
      ∀ options entry c, ((index.setting fs options).compile entry).outcome = .ok c →
        (∀ d ∈ c.documents, ∀ r ∈ d.imports, r.uri ≠ some key) →
        (∀ d ∈ c.documents, ∀ q ∈ (index.setting fs options).hints d,
          ¬ fs'.LeadsThrough (names ++ [name]) q) →
        ((index'.setting fs' options).compile entry).outcome = .ok c := by
  obtain ⟨_, hgains⟩ := h.gains
  obtain ⟨index', hbuilt', hget, hkeys, hfirst⟩ := h.exists_index hpolicy hw hbuilt
  refine ⟨index', hbuilt', hget, hkeys, hfirst, ?_, ?_, ?_⟩
  · exact fun x hx => ⟨h.eligible_retained hx, fun k q => h.scans_iff hbuilt hx⟩
  · exact fun x hx hold => ⟨(h.joins_of_eligible hx hold).1, h.scans_of_joins hw hx hold⟩
  · intro options entry c hcompile himports hhints
    refine Index.compile_of_retains h.retains hget hcompile himports fun d hd q hq => ?_
    exact hgains.canonicalize_of_not_leadsThrough (hhints d hd q hq)

end Building

section Sample

/-- The files at the top that are eligible, and the index of them. -/
structure Indexes (plan : IndexPlan) (fs : FileSystem) (files : List Bytes) (index : Index) : Prop where
  listed : plan.eligibleNames fs [] = files
  built : (plan.build fs).outcome = .ok index

/-- What is built of the files at the top, by evaluating it. -/
theorem indexes_of_eval {plan : IndexPlan} {fs : FileSystem} {files : List Bytes} {entries : Entries}
    (hd : (checkDirectory fs plan.directory).toOption = some [])
    (hf : (fs.children []).filter (fun name =>
      fs.isFile (Path.ofNames ([] ++ [name])) && plan.isEligible name) = files)
    (hs : files.Pairwise (· ≤ ·)) (hsome : files.isEmpty = false)
    (he : (plan.enterAll fs (files.map (memberPath []))).outcome = .ok entries) :
    plan.Indexes fs files ⟨Path.ofNames [], entries⟩ := by
  have hlisted : plan.eligibleNames fs [] = files := by
    rw [eligibleNames, hf]
    exact List.mergeSort_of_pairwise (hs.imp decide_eq_true)
  have hdirectory := toOption_eq_some_iff.1 hd
  have hsupplied : plan.eligibleNames fs [] ≠ [] := by
    rw [hlisted]
    rintro rfl
    cases hsome
  have hpaths : plan.paths fs = files.map (memberPath []) := by
    rw [paths_of_checkDirectory hdirectory, hlisted]
    rfl
  refine ⟨hlisted, ?_⟩
  rw [outcome_build hdirectory ((paths_ne_nil hdirectory).2 hsupplied), hpaths, he]
  rfl

namespace Indexes

variable {plan : IndexPlan} {fs fs' : FileSystem} {files : List Bytes} {index : Index} {name : Bytes}

theorem eligible (h : plan.Indexes fs files index) (hname : name ∈ files) :
    plan.IsEligibleFile fs [] name :=
  mem_eligibleNames.1 (h.listed ▸ hname)

/-- What is known of an addition to the files at the top by evaluating it. -/
theorem adds (h : plan.Indexes fs' files index) {node : Node} {key : String} {p : Path}
    (hw : fs'.workingDirectory = fs.workingDirectory)
    (hn : fs'.nodes.entries.Perm (([name], node) :: fs.nodes.entries))
    (hs : ∀ names ∈ fs'.nodes.keys, ∀ x ∈ names,
      FileSystem.Move.ofPiece x = .down x ∧ Path.slash ∉ x)
    (hd : (checkDirectory fs plan.directory).toOption = some []) (hname : name ∈ files)
    (hc : (plan.describe fs' (memberPath [] name)).toOption = some ⟨key, p, .document⟩) :
    plan.Adds fs [] name key p fs' where
  gains := ⟨node, hw, hn, hs⟩
  directory := toOption_eq_some_iff.1 hd
  eligible := h.eligible hname
  scans := (describe_eq_ok_iff.1 (toOption_eq_some_iff.1 hc)).1

theorem withinLimits (h : plan.Indexes fs files index)
    (hc : ∀ name ∈ files, (fs.canonicalize (memberPath [] name)).toOption.isSome = true) :
    plan.WithinLimits fs [] where
  built := by
    intro excess hlimit
    cases h.built.symm.trans hlimit
  canonicalized := by
    intro name hname hlong
    have hsome := hc name (h.listed ▸ mem_eligibleNames.2 hname)
    rw [hlong] at hsome
    cases hsome

end Indexes

section Grove

/-- A document that imports a namespace and includes a part, with two documents to be indexed. -/
def groveFiles : List (String × Bytes) :=
  [("e", schemaOctets "targetNamespace='urn:e'"
      ["<import namespace='urn:o'/>", "<include schemaLocation='part'/>"]),
    ("part", schemaOctets "" []),
    ("m.xsd", schemaOctets "targetNamespace='urn:n'" []),
    ("o.xsd", schemaOctets "targetNamespace='urn:o'" [])]

def grove : FileSystem := topFiles groveFiles

/-- The same with a further document, in the namespace of one that is there. -/
def grown : FileSystem :=
  topFiles (("a.xsd", schemaOctets "targetNamespace='urn:n'" []) :: groveFiles)

/-- The index with one document for each of two namespaces. -/
def groveIndex (first : String) : Index :=
  ⟨Path.ofNames [], .ofList
    [("urn:n", ⟨topPath first, .document⟩), ("urn:o", ⟨topPath "o.xsd", .document⟩)]⟩

/-- What the first document compiles to. -/
def groveSet : CompiledSet where
  entry := topPath "e"
  documents :=
    [⟨topPath "e", some "urn:e", false,
        [⟨some "urn:o", none, some (topPath "o.xsd"), .resolved⟩], [topPath "part"]⟩,
      ⟨topPath "o.xsd", some "urn:o", false, [], []⟩,
      ⟨topPath "part", some "urn:e", true, [], []⟩]
  table := ⟨[], .ofList []⟩

theorem grove_indexes :
    shelfPlan.Indexes grove (["m.xsd", "o.xsd"].map Utf8.encode) (groveIndex "m.xsd") := by
  refine indexes_of_eval ?_ ?_ ?_ rfl ?_
  all_goals decide +kernel

theorem grown_indexes :
    shelfPlan.Indexes grown (["a.xsd", "m.xsd", "o.xsd"].map Utf8.encode) (groveIndex "a.xsd") := by
  refine indexes_of_eval ?_ ?_ ?_ rfl ?_
  all_goals decide +kernel

set_option maxRecDepth 10000 in
/-- The new document takes over the key of an old one, because its name sorts first. -/
theorem grove_added :
    (shelfPlan.build grove).outcome = .ok (groveIndex "m.xsd") ∧
      (((groveIndex "m.xsd").setting grove .standard).compile (topPath "e")).outcome =
        .ok groveSet ∧
      ∃ index', (shelfPlan.build grown).outcome = .ok index' ∧
        index'.get? "urn:o" = some (topPath "o.xsd") ∧
        (∃ first q, shelfPlan.ScansFirst grown [] "urn:n" first q ∧
          index'.get? "urn:n" = some q) ∧
        ((index'.setting grown .standard).compile (topPath "e")).outcome = .ok groveSet := by
  have hadds : shelfPlan.Adds grove [] (Utf8.encode "a.xsd") "urn:n" (topPath "a.xsd") grown := by
    refine @Indexes.adds _ _ _ _ _ _ grown_indexes
      (.file (schemaOctets "targetNamespace='urn:n'" [])) _ _ rfl ?_ ?_ ?_ ?_ ?_
    all_goals decide +kernel
  have hlimits : shelfPlan.WithinLimits grown [] := grown_indexes.withinLimits (by decide +kernel)
  have hcompiles : (((groveIndex "m.xsd").setting grove .standard).compile (topPath "e")).outcome =
      .ok groveSet := by decide +kernel
  obtain ⟨index', hbuilt', hget, -, hfirst, -, -, hcompile⟩ :=
    build_added hadds rfl hlimits grove_indexes.built
  refine ⟨grove_indexes.built, hcompiles, index', hbuilt', ?_, hfirst, ?_⟩
  · rw [hget "urn:o" (by decide)]
    decide +kernel
  · refine hcompile .standard (topPath "e") groveSet hcompiles (by decide) fun d hd q hq => ?_
    obtain ⟨_, hgains⟩ := hadds.gains
    have hlocated : ∀ d ∈ groveSet.documents,
        ∀ q ∈ ((groveIndex "m.xsd").setting grove .standard).hints d,
          (grove.canonicalize q).toOption.isSome = true := by decide +kernel
    obtain ⟨r, hr⟩ := Option.isSome_iff_exists.1 (hlocated d hd q hq)
    exact hgains.not_leadsThrough (toOption_eq_some_iff.1 hr)

end Grove

section Heir

/-- A document, and a link that leads nowhere. -/
def stale : FileSystem :=
  ⟨.ofList
    [([Utf8.encode "a.xsd"], .link (Path.ofString "zz.xsd")),
      ([Utf8.encode "m.xsd"], .file (schemaOctets "targetNamespace='urn:n'" []))], []⟩

/-- The same with the file that the link is for. -/
def mended : FileSystem :=
  ⟨.ofList
    [([Utf8.encode "a.xsd"], .link (Path.ofString "zz.xsd")),
      ([Utf8.encode "m.xsd"], .file (schemaOctets "targetNamespace='urn:n'" [])),
      ([Utf8.encode "zz.xsd"], .file (schemaOctets "targetNamespace='urn:n'" []))], []⟩

/-- The index with one document. -/
def staleIndex (name : String) : Index :=
  ⟨Path.ofNames [], .ofList [("urn:n", ⟨topPath name, .document⟩)]⟩

theorem stale_indexes :
    shelfPlan.Indexes stale [Utf8.encode "m.xsd"] (staleIndex "m.xsd") := by
  refine indexes_of_eval ?_ ?_ ?_ rfl ?_
  all_goals decide +kernel

theorem mended_indexes :
    shelfPlan.Indexes mended (["a.xsd", "m.xsd", "zz.xsd"].map Utf8.encode)
      (staleIndex "zz.xsd") := by
  refine indexes_of_eval ?_ ?_ ?_ rfl ?_
  all_goals decide +kernel

/-- The path under the key of a new document need not be that of the first by name among the old
documents and the new one: a link that sorts before all of them may lead to the new one. -/
theorem link_precedes :
    ∃ (plan : IndexPlan) (fs fs' : FileSystem) (names : List Bytes) (name : Bytes) (key : String)
      (p : Path) (index index' : Index),
      plan.Adds fs names name key p fs' ∧ plan.policy = .firstWins ∧
        plan.WithinLimits fs' names ∧ (plan.build fs).outcome = .ok index ∧
        (plan.build fs').outcome = .ok index' ∧
        ∃ old q, plan.IsEligibleFile fs names old ∧ plan.Scans fs names old key q ∧
          (∀ x, plan.IsEligibleFile fs names x ∨ x = name → old ≤ x) ∧
          index'.get? key ≠ some q := by
  have hadds : shelfPlan.Adds stale [] (Utf8.encode "zz.xsd") "urn:n" (topPath "zz.xsd") mended := by
    refine @Indexes.adds _ _ _ _ _ _ mended_indexes
      (.file (schemaOctets "targetNamespace='urn:n'" [])) _ _ rfl ?_ ?_ ?_ ?_ ?_
    all_goals decide +kernel
  have hdescribe : (shelfPlan.describe stale (memberPath [] (Utf8.encode "m.xsd"))).toOption =
      some ⟨"urn:n", topPath "m.xsd", .document⟩ := by decide +kernel
  refine ⟨shelfPlan, stale, mended, [], Utf8.encode "zz.xsd", "urn:n", topPath "zz.xsd",
    staleIndex "m.xsd", staleIndex "zz.xsd", hadds, rfl,
    mended_indexes.withinLimits (by decide +kernel), stale_indexes.built, mended_indexes.built,
    Utf8.encode "m.xsd", topPath "m.xsd", stale_indexes.eligible (List.mem_singleton_self _),
    (describe_eq_ok_iff.1 (toOption_eq_some_iff.1 hdescribe)).1, ?_, ?_⟩
  · rintro x (hx | rfl)
    · have hmem := mem_eligibleNames.2 hx
      rw [stale_indexes.listed, List.mem_singleton] at hmem
      exact hmem ▸ List.le_refl _
    · decide +kernel
  · decide +kernel

end Heir

end Sample

end IndexPlan
end SchemaSet
