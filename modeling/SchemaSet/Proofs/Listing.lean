import SchemaSet.Index.Builder
import SchemaSet.Proofs.Overwriting
import SchemaSet.Proofs.Revision

/-!
# File systems that list their entries in another order

`FileSystem.Relists` says that two file systems have the same entries and differ at most in the
order in which the entries of a directory are listed.

Whatever is looked up by name is the same in both: a path leads to the same place
(`Relists.locate`, `Relists.entry`, `Relists.canonicalize`).  The files of a directory are sorted
before they are indexed, and a list with an order on it has only one sorted form.  So whatever the
plan, the same index is built, with the same notes on the way (`build_relists`).
-/

namespace SchemaSet

namespace FileSystem

/-- The same entries, listed in another order. -/
structure Relists (fs fs' : FileSystem) : Prop where
  workingDirectory : fs'.workingDirectory = fs.workingDirectory
  /-- The entries are the same. -/
  nodes : fs'.nodes.entries.Perm fs.nodes.entries

section Walks

variable {fs fs' : FileSystem}

theorem Relists.revises (h : fs.Relists fs') : fs.Revises (fun _ => Eq) fs' where
  workingDirectory := h.workingDirectory
  nodes := by
    intro names
    rw [OrderedMap.get?_of_perm h.nodes]
    cases fs.nodes.get? names with
    | none => exact .none
    | some node =>
        refine .some ?_
        cases node with
        | file content => exact .file rfl
        | directory => exact .directory
        | link target => exact .link target

/-- Two walks that meet, with equal contents, are the same. -/
theorem Meets.eq {x y : Except Fault Place} (h : Meets (fun _ => Eq) x y) : x = y := by
  cases h with
  | error f => rfl
  | ok hnode =>
      cases hnode with
      | file hc => rw [hc]
      | directory => rfl
      | link target => rfl

variable (h : fs.Relists fs')
include h

theorem Relists.locate : fs'.locate = fs.locate :=
  funext fun p => (locate_meets h.revises p).eq.symm

theorem Relists.canonicalize : fs'.canonicalize = fs.canonicalize := funext h.revises.canonicalize_eq

theorem Relists.entry : fs'.entry = fs.entry := by
  funext p
  rw [FileSystem.entry, FileSystem.entry, h.locate]

theorem Relists.isFile : fs'.isFile = fs.isFile := by
  funext p
  rw [FileSystem.isFile, FileSystem.isFile, h.entry]

theorem Relists.children (names : List Bytes) : (fs'.children names).Perm (fs.children names) :=
  (h.nodes.map Prod.fst).filterMap _

theorem Relists.fileCount : fs'.fileCount = fs.fileCount :=
  (h.nodes.map Prod.snd).countP_eq _

theorem Relists.openPath (limits : Limits) : fs'.openPath limits = fs.openPath limits := by
  funext p
  rw [FileSystem.openPath, FileSystem.openPath, h.entry]

theorem Relists.readPath (limits : Limits) : fs'.readPath limits = fs.readPath limits := by
  funext p
  rw [FileSystem.readPath, FileSystem.readPath, h.entry]

theorem Relists.loadEncoded (limits : Limits) : fs'.loadEncoded limits = fs.loadEncoded limits := by
  funext l
  have hoctets : fs'.loadOctets limits l = fs.loadOctets limits l := by
    cases l with
    | path p => rw [loadOctets, loadOctets, h.readPath]
    | url u => rfl
    | memory s => rfl
  rw [FileSystem.loadEncoded, FileSystem.loadEncoded, hoctets]

end Walks

end FileSystem

namespace Catalog

variable {fs fs' : FileSystem} (h : fs.Relists fs') (limits : Limits)
include h

theorem fileItems_relists : fileItems fs' limits = fileItems fs limits := by
  funext p
  rw [fileItems, fileItems, h.loadEncoded]

theorem load_relists (levels : Nat) : load fs' limits levels = load fs limits levels := by
  induction levels with
  | zero => rfl
  | succ levels ih =>
      funext p s
      rw [load, load, ih, visit, visit, h.canonicalize, fileItems_relists h]

theorem ofFile_relists : ofFile fs' limits = ofFile fs limits := by
  funext p
  rw [ofFile, ofFile, h.fileCount, load_relists h]

end Catalog

namespace IndexPlan

theorem pairwise_mergeSort (names : List Bytes) :
    (names.mergeSort fun a b => a ≤ b).Pairwise (· ≤ ·) := by
  have htrans : ∀ a b c : Bytes, decide (a ≤ b) = true → decide (b ≤ c) = true →
      decide (a ≤ c) = true := by
    intro a b c hab hbc
    exact decide_eq_true (List.le_trans (of_decide_eq_true hab) (of_decide_eq_true hbc))
  have htotal : ∀ a b : Bytes, (decide (a ≤ b) || decide (b ≤ a)) = true := by
    intro a b
    simpa using List.le_total a b
  exact (List.pairwise_mergeSort htrans htotal names).imp of_decide_eq_true

/-- A list of names has only one sorted form. -/
theorem mergeSort_of_perm {names names' : List Bytes} (h : names'.Perm names) :
    names'.mergeSort (fun a b => a ≤ b) = names.mergeSort fun a b => a ≤ b :=
  List.Perm.eq_of_pairwise (fun _ _ _ _ hab hba => List.le_antisymm hab hba)
    (pairwise_mergeSort names') (pairwise_mergeSort names)
    (((List.mergeSort_perm _ _).trans h).trans (List.mergeSort_perm _ _).symm)

variable (plan : IndexPlan) {fs fs' : FileSystem} (h : fs.Relists fs')
include h

/-- The same files are indexed in the same order, however the directory is listed. -/
theorem eligibleNames_relists (names : List Bytes) :
    plan.eligibleNames fs' names = plan.eligibleNames fs names := by
  rw [IndexPlan.eligibleNames, IndexPlan.eligibleNames, h.isFile]
  exact mergeSort_of_perm ((h.children names).filter _)

theorem describe_relists : plan.describe fs' = plan.describe fs := by
  funext p
  have hroot : plan.scanRoot fs' = plan.scanRoot fs := by
    funext q
    rw [scanRoot, scanRoot, h.readPath, h.openPath]
  rw [describe, describe, canonicalTarget, canonicalTarget, h.canonicalize, hroot]

theorem enterDocuments_relists (entries : Entries) (ps : List Path) :
    plan.enterDocuments fs' entries ps = plan.enterDocuments fs entries ps := by
  induction ps generalizing entries with
  | nil => rfl
  | cons p ps ih => simp only [enterDocuments, describe_relists plan h, ih]

theorem enterTargets_relists (tell : String → Path → Notice) (entries : Entries)
    (es : List (String × Path)) :
    plan.enterTargets fs' tell entries es = plan.enterTargets fs tell entries es := by
  induction es generalizing entries with
  | nil => rfl
  | cons e es ih => simp only [enterTargets, canonicalTarget, h.canonicalize, ih]

theorem enterCatalogs_relists (entries : Entries) (ps : List Path) :
    plan.enterCatalogs fs' entries ps = plan.enterCatalogs fs entries ps := by
  induction ps generalizing entries with
  | nil => rfl
  | cons p ps ih =>
      simp only [enterCatalogs, Catalog.ofFile_relists h, enterTargets_relists plan h, ih]

/-- Building an index does not depend on the order in which directories are listed. -/
theorem build_relists : plan.build fs' = plan.build fs := by
  have hdirectory : checkDirectory fs' plan.directory = checkDirectory fs plan.directory := by
    rw [checkDirectory, checkDirectory, h.locate]
  simp only [build, hdirectory, eligibleNames_relists plan h, enterDocuments_relists plan h,
    enterCatalogs_relists plan h, enterTargets_relists plan h]

end IndexPlan
end SchemaSet
