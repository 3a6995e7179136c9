import SchemaSet.Proofs.CatalogClaims

/-!
# Keys that are claimed more than once

Claims are made in order where nothing is entered yet.  What stands under a key is decided by the
claims of that key, `Entries.claimsOf`.  A claim for the path that stands is passed over before the
policy is asked.  So where the last claim wins, the entry is the one that began the final run of
claims for its path.

Main facts:
* `keys_of_claimAll`: keys are listed in the order of their first claims, whatever the policy;
* `claimAll_firstWins`, `claimAll_lastWins`: what stands under each key;
* `claimAll_of_unanimous`: the policy does not matter if no key is claimed for two paths;
* `claimAll_of_clashes`: what is refused otherwise.
-/

namespace SchemaSet

namespace Entries

variable {policy : DuplicatePolicy} {entries entries' : Entries} {c first : Claim} {key : String}
variable {cs : List Claim}

section Definitions

/-- The claims of a key in order. -/
def claimsOf (key : String) (cs : List Claim) : List Claim := cs.filter fun c => c.key = key

/-- No key is claimed for two paths. -/
def Unanimous (cs : List Claim) : Prop :=
  ∀ c ∈ cs, ∀ d ∈ cs, c.key = d.key → c.path.same d.path = true

/-- The earliest claim of the final run of claims for one path. -/
def BeginsFinalRun (c : Claim) (cs : List Claim) : Prop :=
  ∃ before run, cs = before ++ c :: run ∧ (∀ d ∈ run, c.path.same d.path = true) ∧
    ∀ d ∈ before.getLast?, ¬ d.path.same c.path = true

/-- The earliest claim at odds with the ones before it, and the first claim of its key. -/
def Clashes (first c : Claim) (cs : List Claim) : Prop :=
  ∃ before after, cs = before ++ c :: after ∧ Unanimous before ∧
    (claimsOf c.key before).head? = some first ∧ ¬ first.path.same c.path = true

end Definitions

section Keys

theorem mem_claimsOf : c ∈ claimsOf key cs ↔ c ∈ cs ∧ c.key = key := by
  simp [claimsOf, List.mem_filter]

theorem claimsOf_snoc (key : String) (cs : List Claim) (c : Claim) :
    claimsOf key (cs ++ [c]) = if c.key = key then claimsOf key cs ++ [c] else claimsOf key cs := by
  by_cases h : c.key = key <;> simp [claimsOf, List.filter_append, h]

theorem head?_claimsOf_snoc (key : String) (cs : List Claim) (c : Claim) :
    (claimsOf key (cs ++ [c])).head? =
      (claimsOf key cs).head?.or (if c.key = key then some c else none) := by
  rw [claimsOf_snoc]
  split
  · rw [List.head?_append, List.head?_singleton]
  · rw [Option.or_none]

theorem claimAll_snoc (policy : DuplicatePolicy) (entries : Entries) (cs : List Claim) (c : Claim) :
    claimAll policy entries (cs ++ [c]) =
      claimAll policy entries cs >>= fun entries => claim policy entries c := by
  rw [claimAll_append]
  exact congrArg _ (funext fun entries => Journal.bind_done _)

theorem keys_of_claim (h : (claim policy entries c).outcome = .ok entries') :
    entries'.keys = if c.key ∈ entries.keys then entries.keys else entries.keys ++ [c.key] := by
  rcases claim_cases h with ⟨rfl, old, hold, _⟩ | rfl
  · have hmem : c.key ∈ entries'.keys := by
      by_contra hnew
      rw [(OrderedMap.get?_eq_none_iff _ _).2 hnew] at hold
      cases hold
    rw [if_pos hmem]
  · exact OrderedMap.keys_insert _ _ _

/-- Keys are listed in the order of their first claims, whatever the policy. -/
theorem keys_of_claimAll (h : (claimAll policy ∅ cs).outcome = .ok entries) :
    entries.keys = (cs.map Claim.key).eraseDups := by
  induction cs using List.reverseRecOn generalizing entries with
  | nil =>
      cases h
      rfl
  | append_singleton cs c ih =>
      rw [claimAll_snoc] at h
      obtain ⟨mid, hmid, hc⟩ := Journal.outcome_bind_eq_ok_iff.1 h
      rw [keys_of_claim hc, ih hmid, List.map_append, List.map_singleton]
      by_cases hk : c.key ∈ cs.map Claim.key
      · rw [if_pos (List.mem_eraseDups.2 hk), eraseDups_snoc_of_mem hk]
      · rw [if_neg (hk ∘ List.mem_eraseDups.1), eraseDups_snoc_of_notMem hk]

end Keys

section FirstWins

theorem claim_firstWins (entries : Entries) (c : Claim) :
    ∃ entries', (claim .firstWins entries c).outcome = .ok entries' ∧
      ∀ key, entries'.get? key =
        (entries.get? key).or (if c.key = key then some ⟨c.path, c.origin⟩ else none) := by
  cases hold : entries.get? c.key with
  | none =>
      refine ⟨entries.insert c.key ⟨c.path, c.origin⟩, by rw [claim_new _ _ _ hold]; rfl, ?_⟩
      intro key
      rw [OrderedMap.get?_insert]
      by_cases hk : c.key = key
      · rw [if_pos hk, if_pos hk, ← hk, hold, Option.none_or]
      · rw [if_neg hk, if_neg hk, Option.or_none]
  | some old =>
      have hsettled : Settled .firstWins entries c := ⟨old, hold, .inr rfl⟩
      refine ⟨entries, hsettled.outcome_claim, fun key => ?_⟩
      by_cases hk : c.key = key
      · rw [← hk, hold, Option.some_or]
      · rw [if_neg hk, Option.or_none]

/-- Where the first claim wins, each key has the path and the origin of its first claim. -/
theorem claimAll_firstWins (cs : List Claim) :
    ∃ entries, (claimAll .firstWins ∅ cs).outcome = .ok entries ∧
      ∀ key, entries.get? key = (claimsOf key cs).head?.map fun c => ⟨c.path, c.origin⟩ := by
  induction cs using List.reverseRecOn with
  | nil => exact ⟨∅, rfl, fun _ => rfl⟩
  | append_singleton cs c ih =>
      obtain ⟨entries, hcs, hget⟩ := ih
      obtain ⟨entries', hc, hget'⟩ := claim_firstWins entries c
      refine ⟨entries', ?_, fun key => ?_⟩
      · rw [claimAll_snoc]
        exact Journal.outcome_bind_eq_ok_iff.2 ⟨entries, hcs, hc⟩
      · rw [hget' key, hget key, head?_claimsOf_snoc, Option.map_or]
        split <;> rfl

end FirstWins

section LastWins

theorem claim_lastWins (entries : Entries) (c : Claim) :
    ∃ entries', (claim .lastWins entries c).outcome = .ok entries' ∧
      (∀ key, c.key ≠ key → entries'.get? key = entries.get? key) ∧
      entries'.get? c.key =
        match entries.get? c.key with
        | some old => if old.path.same c.path then some old else some ⟨c.path, c.origin⟩
        | none => some ⟨c.path, c.origin⟩ := by
  have hinsert : ∀ key, c.key ≠ key →
      (entries.insert c.key ⟨c.path, c.origin⟩).get? key = entries.get? key := by
    intro key hk
    rw [OrderedMap.get?_insert, if_neg hk]
  have hself : (entries.insert c.key ⟨c.path, c.origin⟩).get? c.key = some ⟨c.path, c.origin⟩ := by
    rw [OrderedMap.get?_insert, if_pos rfl]
  cases hold : entries.get? c.key with
  | none => exact ⟨_, by rw [claim_new _ _ _ hold]; rfl, hinsert, hself⟩
  | some old =>
      by_cases hp : old.path.same c.path = true
      · refine ⟨entries, by rw [claim_same _ _ _ _ hold hp]; rfl, fun _ _ => rfl, ?_⟩
        dsimp only
        rw [if_pos hp, hold]
      · refine ⟨_, by simp only [claim, hold, hp]; rfl, hinsert, ?_⟩
        dsimp only
        rw [if_neg hp, hself]

theorem beginsFinalRun_singleton (c : Claim) : BeginsFinalRun c [c] :=
  ⟨[], [], rfl, fun _ h => absurd h List.not_mem_nil, fun _ h => absurd h (by simp)⟩

/-- A further claim for the path that stands makes the final run longer. -/
theorem BeginsFinalRun.continue {d : Claim} (h : BeginsFinalRun c cs)
    (hd : c.path.same d.path = true) : BeginsFinalRun c (cs ++ [d]) := by
  obtain ⟨before, run, rfl, hrun, hbefore⟩ := h
  refine ⟨before, run ++ [d], by simp, fun x hx => ?_, hbefore⟩
  rcases List.mem_append.1 hx with hx | hx
  · exact hrun x hx
  · rw [List.mem_singleton.1 hx]
    exact hd

/-- A claim for another path begins a new one. -/
theorem BeginsFinalRun.restart {d : Claim} (h : BeginsFinalRun c cs)
    (hd : ¬ c.path.same d.path = true) : BeginsFinalRun d (cs ++ [d]) := by
  obtain ⟨before, run, rfl, hrun, -⟩ := h
  refine ⟨before ++ c :: run, [], rfl, fun _ hx => absurd hx List.not_mem_nil, fun x hx hsame => ?_⟩
  have hlast : (c :: run).getLast? = some x := by
    rwa [List.getLast?_append_of_ne_nil _ (List.cons_ne_nil c run)] at hx
  rcases List.mem_cons.1 (List.mem_of_getLast? hlast) with rfl | hx
  · exact hd hsame
  · exact hd (Path.same_trans (hrun x hx) hsame)

theorem BeginsFinalRun.same_getLast (h : BeginsFinalRun c cs) :
    ∃ last, cs.getLast? = some last ∧ c.path.same last.path = true := by
  obtain ⟨before, run, rfl, hrun, -⟩ := h
  obtain ⟨last, hlast⟩ : ∃ last, (c :: run).getLast? = some last :=
    ⟨_, List.getLast?_eq_some_getLast (List.cons_ne_nil c run)⟩
  refine ⟨last, ?_, ?_⟩
  · rwa [List.getLast?_append_of_ne_nil _ (List.cons_ne_nil c run)]
  · rcases List.mem_cons.1 (List.mem_of_getLast? hlast) with rfl | hmem
    · exact Path.same_refl _
    · exact hrun last hmem

/-- What stands under a key of which some claims were made, if the last one wins. -/
def Lasts (cs : List Claim) (e : Option IndexEntry) : Prop :=
  (cs = [] ∧ e = none) ∨ ∃ c, BeginsFinalRun c cs ∧ e = some ⟨c.path, c.origin⟩

/-- Where the last claim wins, each key has the entry that the final run of its claims began. -/
theorem claimAll_lastWins (cs : List Claim) :
    ∃ entries, (claimAll .lastWins ∅ cs).outcome = .ok entries ∧
      ∀ key, Lasts (claimsOf key cs) (entries.get? key) := by
  induction cs using List.reverseRecOn with
  | nil => exact ⟨∅, rfl, fun _ => .inl ⟨rfl, rfl⟩⟩
  | append_singleton cs c ih =>
      obtain ⟨entries, hcs, hget⟩ := ih
      obtain ⟨entries', hc, hother, hself⟩ := claim_lastWins entries c
      refine ⟨entries', ?_, fun key => ?_⟩
      · rw [claimAll_snoc]
        exact Journal.outcome_bind_eq_ok_iff.2 ⟨entries, hcs, hc⟩
      · rw [claimsOf_snoc]
        by_cases hk : c.key = key
        · subst hk
          rw [if_pos rfl, hself]
          right
          rcases hget c.key with ⟨hnil, hnone⟩ | ⟨d, hd, hsome⟩
          · rw [hnil, hnone]
            exact ⟨c, beginsFinalRun_singleton c, rfl⟩
          · rw [hsome]
            dsimp only
            by_cases hp : d.path.same c.path = true
            · exact ⟨d, hd.continue hp, if_pos hp⟩
            · exact ⟨c, hd.restart hp, if_neg hp⟩
        · rw [if_neg hk, hother key hk]
          exact hget key

end LastWins

section Unanimity

theorem Unanimous.of_append {before after : List Claim} (h : Unanimous (before ++ after)) :
    Unanimous before :=
  fun c hc d hd => h c (List.mem_append_left _ hc) d (List.mem_append_left _ hd)

/-- The policy does not matter if no key is claimed for two paths. -/
theorem claimAll_of_unanimous (h : Unanimous cs) :
    ∃ entries : Entries, (∀ policy, claimAll policy ∅ cs = .done entries) ∧
      ∀ key, entries.get? key = (claimsOf key cs).head?.map fun c => ⟨c.path, c.origin⟩ := by
  induction cs using List.reverseRecOn with
  | nil => exact ⟨∅, fun _ => rfl, fun _ => rfl⟩
  | append_singleton cs c ih =>
      obtain ⟨entries, hcs, hget⟩ := ih h.of_append
      -- what the claims of the list so far leave is what it leaves where the first claim wins
      obtain ⟨entries', hc, hget'⟩ := claim_firstWins entries c
      have hlast : ∀ policy, claim policy entries c = .done entries' := by
        intro policy
        cases hold : entries.get? c.key with
        | none =>
            rw [claim_new _ _ _ hold] at hc ⊢
            rw [Except.ok.inj hc]
        | some old =>
            have hsame : old.path.same c.path = true := by
              rw [hget] at hold
              obtain ⟨first, hfirst, rfl⟩ := Option.map_eq_some_iff.1 hold
              obtain ⟨hmem, hkey⟩ := mem_claimsOf.1 (List.mem_of_head? hfirst)
              exact h first (List.mem_append_left _ hmem) c (by simp) hkey
            rw [claim_same _ _ _ _ hold hsame] at hc ⊢
            rw [Except.ok.inj hc]
      refine ⟨entries', fun policy => ?_, fun key => ?_⟩
      · rw [claimAll_snoc, hcs policy]
        exact (Journal.done_bind _ _).trans (hlast policy)
      · rw [hget' key, hget key, head?_claimsOf_snoc, Option.map_or]
        split <;> rfl

/-- If some key is claimed for two paths, there is an earliest claim at odds with those before. -/
theorem exists_clashes (h : ¬ Unanimous cs) : ∃ first c, Clashes first c cs := by
  induction cs using List.reverseRecOn with
  | nil => exact absurd (fun _ hc => absurd hc List.not_mem_nil) h
  | append_singleton cs c ih =>
      by_cases hcs : Unanimous cs
      · obtain ⟨d, hd, hkey, hdiffers⟩ :
            ∃ d ∈ cs, d.key = c.key ∧ ¬ d.path.same c.path = true := by
          by_contra hnone
          push Not at hnone
          refine h fun x hx y hy hxy => ?_
          rcases List.mem_append.1 hx with hx | hx <;> rcases List.mem_append.1 hy with hy | hy
          · exact hcs x hx y hy hxy
          · rw [List.mem_singleton.1 hy] at hxy ⊢
            exact hnone x hx hxy
          · rw [List.mem_singleton.1 hx] at hxy ⊢
            exact Path.same_symm (hnone y hy hxy.symm)
          · rw [List.mem_singleton.1 hx, List.mem_singleton.1 hy]
            exact Path.same_refl _
        have hclaimed : d ∈ claimsOf c.key cs := mem_claimsOf.2 ⟨hd, hkey⟩
        obtain ⟨first, hfirst⟩ : ∃ first, (claimsOf c.key cs).head? = some first :=
          ⟨_, List.head?_eq_some_head (List.ne_nil_of_mem hclaimed)⟩
        obtain ⟨hmem, hfirstKey⟩ := mem_claimsOf.1 (List.mem_of_head? hfirst)
        refine ⟨first, c, cs, [], rfl, hcs, hfirst, fun hsame => hdiffers ?_⟩
        exact Path.same_trans (hcs d hd first hmem (hkey.trans hfirstKey.symm)) hsame
      · obtain ⟨first, d, before, after, rfl, hrest⟩ := ih hcs
        exact ⟨first, d, before, after ++ [c], by simp, hrest⟩

/-- Where repeated keys are refused, it is the earliest claim at odds with those before that is
refused, against the first claim of its key. -/
theorem claimAll_of_clashes (h : Clashes first c cs) :
    (claimAll .reject ∅ cs).outcome = .error (.duplicateNamespace c.key first.path c.path) := by
  obtain ⟨before, after, rfl, hbefore, hfirst, hdiffers⟩ := h
  obtain ⟨entries, hdone, hget⟩ := claimAll_of_unanimous hbefore
  have hold : entries.get? c.key = some ⟨first.path, first.origin⟩ := by
    rw [hget, hfirst]
    rfl
  have hclaim : claim .reject entries c =
      .fail (.duplicateNamespace c.key first.path c.path) := by
    simp only [claim, hold]
    exact if_neg hdiffers
  rw [claimAll_append, hdone]
  refine Journal.outcome_bind_eq_error_iff.2 (.inr ⟨entries, rfl, ?_⟩)
  refine Journal.outcome_bind_eq_error_iff.2 (.inl ?_)
  rw [hclaim]
  rfl

end Unanimity

/-- What is entered after all claims of a list, policy by policy.  Keys stand in the order of
their first claims.  Where the first claim wins, each key has the path and the origin of its first
claim; where the last one wins, it has the path of its last claim, with the origin of the claim that
began the final run for that path.  Where repeated keys are refused, all is entered if no key is
claimed for two paths, and else the earliest claim at odds with those before is refused.  If no key
is claimed for two paths, the policy does not matter. -/
theorem claimAll_settles (cs : List Claim) :
    (∀ policy entries, (claimAll policy ∅ cs).outcome = .ok entries →
      entries.keys = (cs.map Claim.key).eraseDups) ∧
    (∃ entries, (claimAll .firstWins ∅ cs).outcome = .ok entries ∧
      ∀ key ∈ cs.map Claim.key, ∃ first, (claimsOf key cs).head? = some first ∧
        entries.get? key = some ⟨first.path, first.origin⟩) ∧
    (∃ entries, (claimAll .lastWins ∅ cs).outcome = .ok entries ∧
      ∀ key ∈ cs.map Claim.key, ∃ c last, BeginsFinalRun c (claimsOf key cs) ∧
        (claimsOf key cs).getLast? = some last ∧ c.path.same last.path = true ∧
        entries.get? key = some ⟨c.path, c.origin⟩) ∧
    ((∃ entries, (claimAll .reject ∅ cs).outcome = .ok entries) ↔ Unanimous cs) ∧
    (¬ Unanimous cs → ∃ first c, Clashes first c cs ∧
      (claimAll .reject ∅ cs).outcome = .error (.duplicateNamespace c.key first.path c.path)) ∧
    (Unanimous cs → ∃ entries, ∀ policy, claimAll policy ∅ cs = .done entries) := by
  have hclaimed : ∀ key ∈ cs.map Claim.key, ∃ c, c ∈ claimsOf key cs := by
    intro key hkey
    obtain ⟨c, hc, hk⟩ := List.mem_map.1 hkey
    exact ⟨c, mem_claimsOf.2 ⟨hc, hk⟩⟩
  have hrefused : ¬ Unanimous cs → ∃ first c, Clashes first c cs ∧
      (claimAll .reject ∅ cs).outcome =
        .error (.duplicateNamespace c.key first.path c.path) := by
    intro h
    obtain ⟨first, c, hclash⟩ := exists_clashes h
    exact ⟨first, c, hclash, claimAll_of_clashes hclash⟩
  refine ⟨fun policy entries h => keys_of_claimAll h, ?_, ?_, ⟨?_, ?_⟩, hrefused, ?_⟩
  · obtain ⟨entries, hdone, hget⟩ := claimAll_firstWins cs
    refine ⟨entries, hdone, fun key hkey => ?_⟩
    obtain ⟨c, hc⟩ := hclaimed key hkey
    have hfirst := List.head?_eq_some_head (List.ne_nil_of_mem hc)
    exact ⟨_, hfirst, by rw [hget, hfirst]; rfl⟩
  · obtain ⟨entries, hdone, hget⟩ := claimAll_lastWins cs
    refine ⟨entries, hdone, fun key hkey => ?_⟩
    obtain ⟨c, hc⟩ := hclaimed key hkey
    rcases hget key with ⟨hnil, _⟩ | ⟨d, hd, hsome⟩
    · rw [hnil] at hc
      exact absurd hc List.not_mem_nil
    · obtain ⟨last, hlast, hsame⟩ := hd.same_getLast
      exact ⟨d, last, hd, hlast, hsame, hsome⟩
  · rintro ⟨entries, hdone⟩
    by_contra h
    obtain ⟨first, c, -, herror⟩ := hrefused h
    rw [hdone] at herror
    cases herror
  · intro h
    obtain ⟨entries, hdone, -⟩ := claimAll_of_unanimous h
    exact ⟨entries, by rw [hdone]; rfl⟩
  · intro h
    obtain ⟨entries, hdone, -⟩ := claimAll_of_unanimous h
    exact ⟨entries, hdone⟩

section Sample

instance (cs : List Claim) : Decidable (Unanimous cs) :=
  inferInstanceAs (Decidable (∀ c ∈ cs, ∀ d ∈ cs, c.key = d.key → c.path.same d.path = true))

/-- Claims of a key for two paths, of which the second is spelled in two ways, and of a further key
in between. -/
def contested : List Claim :=
  [⟨"k", topPath "one", .document⟩, ⟨"j", topPath "one", .document⟩,
    ⟨"k", topPath "two", .catalog⟩, ⟨"k", ⟨Utf8.encode "/two/"⟩, .document⟩]

/-- What is entered where the last claim wins. -/
def contestedEntries : Entries :=
  .ofList [("k", ⟨topPath "two", .catalog⟩), ("j", ⟨topPath "one", .document⟩)]

theorem contested_settles :
    (claimAll .lastWins ∅ contested).outcome = .ok contestedEntries ∧
      contestedEntries.keys = (contested.map Claim.key).eraseDups ∧
      ¬ Unanimous contested ∧
      (∃ first c, Clashes first c contested ∧ (claimAll .reject ∅ contested).outcome =
        .error (.duplicateNamespace c.key first.path c.path)) ∧
      Unanimous (contested.drop 1) ∧
      ∃ entries, ∀ policy, claimAll policy ∅ (contested.drop 1) = .done entries := by
  have hlast : (claimAll .lastWins ∅ contested).outcome = .ok contestedEntries := by decide +kernel
  have hcontested : ¬ Unanimous contested := by decide +kernel
  have hrest : Unanimous (contested.drop 1) := by decide +kernel
  obtain ⟨hkeys, -, -, -, hrefused, -⟩ := claimAll_settles contested
  obtain ⟨-, -, -, -, -, hagreed⟩ := claimAll_settles (contested.drop 1)
  exact ⟨hlast, hkeys _ _ hlast, hcontested, hrefused hcontested, hrest, hagreed hrest⟩

end Sample

end Entries
end SchemaSet
