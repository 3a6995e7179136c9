import SchemaSet.Proofs.Curtailment
import SchemaSet.Proofs.IndexedImports

/-!
# Tighter limits and thorough scans

A compilation, or the building of an index, is made under two choices of limits, of which the first
are the tighter; and an index is built with thorough scans and without.

A check of a limit lets the work go on or ends it.  So under tighter limits the same is done, up to
the first number that exceeds its bound (`Catalog.ofFile_cutShort`, `build_cutShort`).  A thorough
scan may end the work as well, but it reads a document as a whole where the other scan reads it
block by block.

`limits_only_reject` says that what succeeds under tighter limits has the same result under wider
ones, that an error that is no excess stays, and that thorough scans that succeed can be left out,
unless a document is misread without them.  The last sample is a document that is misread.
-/

namespace SchemaSet

section Limits

/-- Some limits are at most as wide as others. -/
instance : LE Limits := ⟨fun l l' => ∀ what, l.bound what ≤ l'.bound what⟩

/-- Whether an error says that a number exceeds its bound. -/
def Error.isExcess : Error → Bool
  | .limit _ => true
  | _ => false

/-- Tighter limits only add errors that tell of an excess. -/
theorem Limits.narrows_of_le {l l' : Limits} (h : l ≤ l') :
    l.Narrows (fun e => e.isExcess = true) l' := by
  intro what n
  have hbound := h what
  unfold Limits.check
  by_cases hn : l.bound what < n
  · rw [if_pos hn]
    exact .inr ⟨_, rfl, rfl⟩
  · rw [if_neg hn, if_neg (Nat.not_lt.2 (Nat.le_trans (Nat.not_lt.1 hn) hbound))]
    exact .refl _

theorem Limits.Narrows.refl (P : Error → Prop) (l : Limits) : l.Narrows P l :=
  fun _ _ => .refl _

end Limits

open Journal (CutShort)

namespace Catalog

variable {P : Error → Prop} {l l' : Limits} {fs : FileSystem}
variable {nested nested' : Path → Reading → Journal Notice Error Reading}

theorem fileItems_guards (h : l.Narrows P l') (path : Path) :
    Guards P (fileItems fs l path) (fileItems fs l' path) :=
  (fs.loadEncoded_guards h path).bind fun _ _ => .refl _

theorem follow_cutShort (hn : ∀ p s, CutShort P (nested p s) (nested' p s))
    (is : List CatalogItem) (s : Reading) :
    CutShort P (follow nested is s) (follow nested' is s) := by
  induction is generalizing s with
  | nil => exact .refl _
  | cons i rest ih =>
      cases i with
      | mapping kind id target => exact ih _
      | next path => exact (hn path s).bind fun s' _ => ih s'

theorem visit_cutShort (h : l.Narrows P l') (hn : ∀ p s, CutShort P (nested p s) (nested' p s))
    (path : Path) (s : Reading) :
    CutShort P (visit fs l nested path s) (visit fs l' nested' path s) := by
  refine .after fun canonical _ => ?_
  split
  · exact .refl _
  · exact CutShort.bind (.lift (fileItems_guards h canonical)) fun is _ =>
      follow_cutShort hn is _

theorem load_cutShort (h : l.Narrows P l') (levels : Nat) (path : Path) (s : Reading) :
    CutShort P (load fs l levels path s) (load fs l' levels path s) := by
  induction levels generalizing path s with
  | zero => exact .refl _
  | succ levels ih => exact visit_cutShort h ih path s

/-- Reading catalogs is cut short by tighter limits. -/
theorem ofFile_cutShort (h : l.Narrows P l') (path : Path) :
    CutShort P (ofFile fs l path) (ofFile fs l' path) :=
  (load_cutShort h _ path _).bind fun _ _ => .refl _

end Catalog

namespace IndexPlan

/-- The same plan with other limits, and with scans that are thorough or not. -/
def under (plan : IndexPlan) (limits : Limits) (verify : Bool) : IndexPlan :=
  { plan with limits := limits, verify := verify }

theorem eligibleNames_under (plan : IndexPlan) (limits : Limits) (verify : Bool)
    (fs : FileSystem) (directory : List Bytes) :
    (plan.under limits verify).eligibleNames fs directory = plan.eligibleNames fs directory := rfl

section Building

variable {P : Error → Prop} {plan : IndexPlan} {fs : FileSystem} {l l' : Limits} {v v' : Bool}

/-- Some limits and scans refuse all that others refuse; the errors that they add satisfy `P`. -/
structure Narrows (P : Error → Prop) (plan : IndexPlan) (fs : FileSystem) (l l' : Limits)
    (v v' : Bool) : Prop where
  limits : l.Narrows P l'
  scans : ∀ p ∈ plan.paths fs, ∀ q, fs.canonicalize p = .ok q →
    Guards P ((plan.under l v).scanRoot fs q) ((plan.under l' v').scanRoot fs q)

theorem scanRoot_guards (h : l.Narrows P l') (p : Path) :
    Guards P ((plan.under l v).scanRoot fs p) ((plan.under l' v).scanRoot fs p) := by
  unfold scanRoot
  cases v with
  | true => exact (fs.readPath_guards h p).bind fun _ _ => .refl _
  | false => exact (fs.openPath_guards h p).bind fun _ _ => .refl _

theorem narrows_of_limits (h : l.Narrows P l') : plan.Narrows P fs l l' v v :=
  ⟨h, fun _ _ q _ => scanRoot_guards h q⟩

theorem describe_guards (h : plan.Narrows P fs l l' v v') {p : Path} (hp : p ∈ plan.paths fs) :
    Guards P ((plan.under l v).describe fs p) ((plan.under l' v').describe fs p) := by
  refine Guards.bind (.refl _) fun q hq => ?_
  exact (h.scans p hp q (mapError_eq_ok_iff.1 hq)).bind fun _ _ => .refl _

theorem enter_cutShort (h : l.Narrows P l') (entries : Entries) (c : Claim) :
    CutShort P ((plan.under l v).enter entries c) ((plan.under l' v').enter entries c) :=
  .after fun _ _ => CutShort.bind (.lift (h .indexEntries _)) fun _ _ => .refl _

theorem enterDocuments_cutShort (h : plan.Narrows P fs l l' v v') {ps : List Path}
    (hps : ps ⊆ plan.paths fs) (entries : Entries) :
    CutShort P ((plan.under l v).enterDocuments fs entries ps)
      ((plan.under l' v').enterDocuments fs entries ps) := by
  induction ps generalizing entries with
  | nil => exact .refl _
  | cons p rest ih =>
      have hdescribe := describe_guards h (hps List.mem_cons_self)
      refine CutShort.bind (.lift hdescribe) fun c _ => .after fun _ _ => ?_
      exact (enter_cutShort h.limits entries c).bind fun entered _ =>
        ih (fun q hq => hps (List.mem_cons_of_mem _ hq)) entered

theorem enterTargets_cutShort (h : l.Narrows P l') (tell : String → Path → Notice)
    (targets : List (String × Path)) (entries : Entries) :
    CutShort P ((plan.under l v).enterTargets fs tell entries targets)
      ((plan.under l' v').enterTargets fs tell entries targets) := by
  induction targets generalizing entries with
  | nil => exact .refl _
  | cons target rest ih =>
      refine .after fun canonical _ => .after fun _ _ => ?_
      exact (enter_cutShort h entries _).bind fun entered _ => ih entered

theorem enterCatalogs_cutShort (h : l.Narrows P l') (ps : List Path) (entries : Entries) :
    CutShort P ((plan.under l v).enterCatalogs fs entries ps)
      ((plan.under l' v').enterCatalogs fs entries ps) := by
  induction ps generalizing entries with
  | nil => exact .refl _
  | cons p rest ih =>
      refine (Catalog.ofFile_cutShort h p).bind fun catalog _ => ?_
      have hrest : ∀ entries, CutShort P
          ((plan.under l v).enterTargets fs .catalogEntry entries catalog.entries >>=
            fun entered => (plan.under l v).enterCatalogs fs entered rest)
          ((plan.under l' v').enterTargets fs .catalogEntry entries catalog.entries >>=
            fun entered => (plan.under l' v').enterCatalogs fs entered rest) :=
        fun entries => (enterTargets_cutShort h _ _ entries).bind fun entered _ => ih entered
      dsimp only
      split
      · exact .after fun _ _ => hrest entries
      · exact hrest entries

/-- Building an index is cut short by tighter limits and by scans that refuse more. -/
theorem build_cutShort (h : plan.Narrows P fs l l' v v') :
    CutShort P ((plan.under l v).build fs) ((plan.under l' v').build fs) := by
  refine .after fun names hnames => ?_
  have hdirectory : checkDirectory fs plan.directory = .ok names := hnames
  have hpaths : (plan.eligibleNames fs names).map (fun name => (Path.ofNames names).join ⟨name⟩) ⊆
      plan.paths fs := by
    rw [paths_of_checkDirectory hdirectory]
    exact List.Subset.refl _
  dsimp only
  rw [eligibleNames_under, eligibleNames_under]
  by_cases hempty : (plan.eligibleNames fs names).isEmpty = true
  · rw [if_pos hempty, if_pos hempty]
    refine .after fun _ hthrow => ?_
    cases hthrow
  · rw [if_neg hempty, if_neg hempty]
    refine (enterDocuments_cutShort h hpaths ∅).bind fun entries _ => ?_
    refine (enterCatalogs_cutShort h.limits _ entries).bind fun entries _ => ?_
    exact (enterTargets_cutShort h.limits _ _ entries).bind fun _ _ => .refl _

end Building

section Thorough

variable {plan : IndexPlan} {fs : FileSystem} {limits : Limits}

/-- A thorough scan that succeeds has the same result as the other one, unless that one misreads the
document. -/
theorem scanRoot_of_thorough {p : Path} {r : Markup.RootScan}
    (hm : ¬ (plan.under limits false).Misreads fs p)
    (h : (plan.under limits true).scanRoot fs p = .ok r) :
    (plan.under limits false).scanRoot fs p = .ok r := by
  obtain ⟨bs, hread, hscan⟩ := bind_eq_ok_iff.1 h
  have hentry := FileSystem.entry_of_readPath hread
  have hwhole := Markup.RootScan.scan_of_scanWellFormed (mapError_eq_ok_iff.1 hscan)
  have hblocks : Markup.RootScan.scanFile bs = .ok r := by
    -- else the document is too long for one block, and is misread
    by_contra hne
    have hdiffers : Markup.RootScan.scanFile bs ≠ Markup.RootScan.scan bs := hwhole ▸ hne
    have hlong : Markup.RootScan.blockLength < bs.length :=
      Nat.lt_of_not_le fun hshort => hdiffers (Markup.scanFile_of_short hshort)
    exact hm ⟨rfl, bs, hentry, hlong, hdiffers⟩
  refine bind_eq_ok_iff.2 ⟨.ok bs, FileSystem.openPath_of_readPath hread, ?_⟩
  exact bind_eq_ok_iff.2 ⟨bs, rfl, mapError_eq_ok_iff.2 hblocks⟩

/-- Thorough scans refuse more than others, unless these misread a document. -/
theorem narrows_of_thorough
    (h : ∀ p ∈ plan.paths fs, ∀ q, fs.canonicalize p = .ok q →
      ¬ (plan.under limits false).Misreads fs q) :
    plan.Narrows (fun _ => True) fs limits limits true false where
  limits := .refl _ _
  scans := by
    intro p hp q hq
    cases hscan : (plan.under limits true).scanRoot fs q with
    | error e => exact .inr ⟨e, trivial, rfl⟩
    | ok r => exact .inl (scanRoot_of_thorough (h p hp q hq) hscan).symm

end Thorough

end IndexPlan

/-- Limits only ever reject.  What is compiled under tighter limits is compiled alike under
wider ones, and an error that tells of no excess stays the same; so it is with indexes.  An index
that is built with thorough scans is built without them too, unless a document is misread then. -/
theorem limits_only_reject {l l' : Limits} (h : l ≤ l') :
    (∀ (s : Setting) (strict : Bool) (entry : Path),
      (∀ c, ((s.under ⟨strict, l⟩).compile entry).outcome = .ok c →
        ((s.under ⟨strict, l'⟩).compile entry).outcome = .ok c) ∧
      ∀ e, ((s.under ⟨strict, l⟩).compile entry).outcome = .error e → e.isExcess = false →
        ((s.under ⟨strict, l'⟩).compile entry).outcome = .error e) ∧
    (∀ (plan : IndexPlan) (verify : Bool) (fs : FileSystem),
      (∀ index, ((plan.under l verify).build fs).outcome = .ok index →
        ((plan.under l' verify).build fs).outcome = .ok index) ∧
      ∀ e, ((plan.under l verify).build fs).outcome = .error e → e.isExcess = false →
        ((plan.under l' verify).build fs).outcome = .error e) ∧
    ∀ (plan : IndexPlan) (fs : FileSystem),
      (∀ p ∈ plan.paths fs, ∀ q, fs.canonicalize p = .ok q →
        ¬ (plan.under l false).Misreads fs q) →
      ∀ index, ((plan.under l true).build fs).outcome = .ok index →
        ((plan.under l false).build fs).outcome = .ok index := by
  have hnarrows := Limits.narrows_of_le h
  refine ⟨fun s strict entry => ?_, fun plan verify fs => ?_, fun plan fs hread index hbuilt => ?_⟩
  · have hoptions : CompileOptions.Narrows (fun e => e.isExcess = true) ⟨strict, l⟩ ⟨strict, l'⟩ :=
      ⟨hnarrows, .inl rfl⟩
    have hguards := (s.compile_cutShort hoptions entry).guards
    exact ⟨fun c hc => hguards.ok hc, fun e he hother => hguards.error he (by simp [hother])⟩
  · have hplan : plan.Narrows (fun e => e.isExcess = true) fs l l' verify verify :=
      IndexPlan.narrows_of_limits hnarrows
    have hguards := (IndexPlan.build_cutShort hplan).guards
    exact ⟨fun c hc => hguards.ok hc, fun e he hother => hguards.error he (by simp [hother])⟩
  · exact (IndexPlan.build_cutShort (IndexPlan.narrows_of_thorough hread)).guards.ok hbuilt

set_option maxRecDepth 10000 in
theorem plain_limits_only_reject :
    Limits.strict ≤ Limits.standard ∧
      (((sample.under ⟨true, .strict⟩).compile (topPath "main")).outcome = .ok sampleSet ∧
        ((sample.under ⟨true, .standard⟩).compile (topPath "main")).outcome = .ok sampleSet) ∧
      (((sample.under ⟨true, .strict⟩).compile (topPath "absent")).outcome =
          .error (.resource (.schema (topPath "absent") .notFound)) ∧
        ((sample.under ⟨true, .standard⟩).compile (topPath "absent")).outcome =
          .error (.resource (.schema (topPath "absent") .notFound))) ∧
      (((shelfPlan.under .strict true).build (shelf "urn:b" plain)).outcome =
          .ok (shelfIndex "urn:b") ∧
        ((shelfPlan.under .standard true).build (shelf "urn:b" plain)).outcome =
          .ok (shelfIndex "urn:b")) ∧
      (((shelfPlan.under .strict true).build ⟨∅, []⟩).outcome =
          .error (.configuration (.noDocuments (Path.ofNames []) ["xsd"])) ∧
        ((shelfPlan.under .standard true).build ⟨∅, []⟩).outcome =
          .error (.configuration (.noDocuments (Path.ofNames []) ["xsd"]))) ∧
      ((shelfPlan.under .strict false).build (shelf "urn:b" plain)).outcome =
        .ok (shelfIndex "urn:b") := by
  have hle : Limits.strict ≤ Limits.standard := by
    intro what
    cases what <;> decide
  have hsample : ((sample.under ⟨true, .strict⟩).compile (topPath "main")).outcome =
      .ok sampleSet := by
    decide +kernel
  have habsent : ((sample.under ⟨true, .strict⟩).compile (topPath "absent")).outcome =
      .error (.resource (.schema (topPath "absent") .notFound)) := by
    decide +kernel
  have hplain : ((shelfPlan.under .strict true).build (shelf "urn:b" plain)).outcome =
      .ok (shelfIndex "urn:b") := by
    rw [← toOption_eq_some_iff]
    decide +kernel
  have hempty : ((shelfPlan.under .strict true).build ⟨∅, []⟩).outcome =
      .error (.configuration (.noDocuments (Path.ofNames []) ["xsd"])) := by
    decide +kernel
  have hcontent : ∀ p ∈ shelfPlan.paths (shelf "urn:b" plain),
      ((shelf "urn:b" plain).canonicalize p).bind (shelf "urn:b" plain).entry =
        .ok (.file plain) := by
    decide +kernel
  have hshort : plain.length ≤ Markup.RootScan.blockLength := by
    decide +kernel
  have hread : ∀ p ∈ shelfPlan.paths (shelf "urn:b" plain), ∀ q,
      (shelf "urn:b" plain).canonicalize p = .ok q →
        ¬ (shelfPlan.under .strict false).Misreads (shelf "urn:b" plain) q := by
    rintro p hp q hq ⟨_, bs, hentry, hlong, _⟩
    have hplain := hcontent p hp
    rw [hq] at hplain
    cases hentry.symm.trans hplain
    exact absurd hshort (Nat.not_le.2 hlong)
  obtain ⟨hcompile, hbuild, hthorough⟩ := limits_only_reject hle
  exact ⟨hle, ⟨hsample, (hcompile sample true _).1 _ hsample⟩,
    ⟨habsent, (hcompile sample true _).2 _ habsent rfl⟩,
    ⟨hplain, (hbuild shelfPlan true _).1 _ hplain⟩,
    ⟨hempty, (hbuild shelfPlan true _).2 _ hempty rfl⟩,
    hthorough shelfPlan _ hread _ hplain⟩

set_option maxRecDepth 10000 in
/-- A document can be misread: an index holds it under the namespace that its root declares if the
scan is thorough, and else under that of a tag inside its document type declaration. -/
theorem thorough_scan_differs :
    ∃ (plan : IndexPlan) (fs : FileSystem) (limits : Limits) (index index' : Index),
      ((plan.under limits true).build fs).outcome = .ok index ∧
        ((plan.under limits false).build fs).outcome = .ok index' ∧ index ≠ index' := by
  refine ⟨shelfPlan, shelf "urn:a" covered, .standard, shelfIndex "urn:b", shelfIndex "urn:a",
    ?_, ?_, ?_⟩
  · rw [← toOption_eq_some_iff]
    decide +kernel
  · rw [← toOption_eq_some_iff]
    decide +kernel
  · decide

end SchemaSet
