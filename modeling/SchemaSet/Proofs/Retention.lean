import SchemaSet.Proofs.Addition
import SchemaSet.Proofs.CatalogTermination
import SchemaSet.Proofs.Construction

/-!
# What is found stays found

`FileSystem.Retains` says of two file systems that what a path leads to in the first, it leads to in
the second.  A file system with one more entry is an instance (`Gains.retains`).

Whatever ends well in the first ends in the same way in the second: looking up, reading, describing
a document, following a catalog.  Only what ended in an error may end otherwise.  So what a plan
gathers is gathered still (`describe_retains`, `ofFile_retains`).

For catalogs the invariant is that those read so far are distinct files of the first file system,
`Catalog.Reading.Regular`.  So catalogs nest no deeper than there are files, and more room to nest
makes no difference.
-/

namespace SchemaSet

namespace FileSystem

/-- What a path leads to in one file system, it leads to in the other. -/
def Retains (fs fs' : FileSystem) : Prop :=
  ∀ fits p place, fs.walkPath fits p = .ok place → fs'.walkPath fits p = .ok place

variable {fs fs' : FileSystem} {limits : Limits} {p q : Path}

theorem Gains.retains {names : List Bytes} {name : Bytes} {node : Node}
    (h : fs.Gains names name node fs') : fs.Retains fs' := by
  intro fits p place hp
  rcases h.walkPath_eq_or fits p with heq | ⟨hnone, _⟩
  · rw [heq, hp]
  · rw [hnone] at hp
    cases hp

theorem Gains.fileCount_le {names : List Bytes} {name : Bytes} {node : Node}
    (h : fs.Gains names name node fs') : fs.fileCount ≤ fs'.fileCount := by
  have hvalues : fs'.nodes.values.Perm (node :: fs.nodes.values) := h.nodes.map Prod.snd
  rw [fileCount, fileCount, hvalues.countP_eq, List.countP_cons]
  exact Nat.le_add_right _ _

namespace Retains

variable (h : fs.Retains fs')
include h

theorem locate {place : Place} (hp : fs.locate p = .ok place) : fs'.locate p = .ok place := by
  unfold FileSystem.locate at hp ⊢
  split at hp
  · cases hp
  · rename_i hshort
    rw [if_neg hshort]
    exact h _ p place hp

theorem canonicalize (hp : fs.canonicalize p = .ok q) : fs'.canonicalize p = .ok q := by
  obtain ⟨place, hplace, rfl⟩ := canonicalize_ofNames hp
  have hplace' : fs'.canonicalPlace p = .ok place := h _ p place hplace
  rw [FileSystem.canonicalize, hplace']
  rfl

theorem entry {node : Node} (hp : fs.entry p = .ok node) : fs'.entry p = .ok node := by
  obtain ⟨place, hplace, rfl⟩ := exists_place_of_entry hp
  rw [FileSystem.entry, h.locate hplace]
  rfl

theorem isFile (hp : fs.isFile p = true) : fs'.isFile p = true := by
  unfold FileSystem.isFile at hp
  split at hp
  · rename_i content hentry
    rw [FileSystem.isFile, h.entry hentry]
  · cases hp

theorem readPath {bs : Bytes} (hp : fs.readPath limits p = .ok bs) :
    fs'.readPath limits p = .ok bs := by
  have hentry := entry_of_readPath hp
  rw [FileSystem.readPath, hentry] at hp
  rw [FileSystem.readPath, h.entry hentry, hp]

theorem openPath {opened : Except Fault Bytes} (hp : fs.openPath limits p = .ok opened) :
    fs'.openPath limits p = .ok opened := by
  cases hentry : fs.entry p with
  | error f =>
      rw [FileSystem.openPath, hentry] at hp
      cases hp
  | ok node =>
      rw [FileSystem.openPath, hentry] at hp
      rw [FileSystem.openPath, h.entry hentry, hp]

theorem loadEncoded {l : Location} {bs : Bytes} (hl : fs.loadEncoded limits l = .ok bs) :
    fs'.loadEncoded limits l = .ok bs := by
  obtain ⟨octets, hoctets, hdecode⟩ := bind_eq_ok_iff.1 hl
  refine bind_eq_ok_iff.2 ⟨octets, ?_, hdecode⟩
  cases l with
  | path p => exact h.readPath hoctets
  | url u => exact hoctets
  | memory s => exact hoctets

end Retains

end FileSystem

namespace Catalog

variable {fs fs' : FileSystem} {limits : Limits}

/-- From a regular reading with some levels left, `nested'` ends as `nested` does, at a regular
reading of no fewer files. -/
def Continues (fs : FileSystem) (levels : Nat)
    (nested nested' : Path → Reading → Journal Notice Error Reading) : Prop :=
  ∀ ⦃p : Path⦄ ⦃s s' : Reading⦄, s.Regular fs → fs.fileCount < levels + s.read.length →
    (nested p s).outcome = .ok s' →
    (nested' p s).outcome = .ok s' ∧ s'.Regular fs ∧ s.read.length ≤ s'.read.length

theorem fileItems_retains (h : fs.Retains fs') {p : Path} {is : List CatalogItem}
    (hp : fileItems fs limits p = .ok is) : fileItems fs' limits p = .ok is := by
  obtain ⟨octets, hload, hread⟩ := bind_eq_ok_iff.1 hp
  exact bind_eq_ok_iff.2 ⟨octets, h.loadEncoded hload, hread⟩

theorem follow_continues {levels : Nat}
    {nested nested' : Path → Reading → Journal Notice Error Reading}
    (hn : Continues fs levels nested nested') {is : List CatalogItem} {s s' : Reading}
    (hs : s.Regular fs) (hlevels : fs.fileCount < levels + s.read.length)
    (h : (follow nested is s).outcome = .ok s') :
    (follow nested' is s).outcome = .ok s' ∧ s'.Regular fs ∧ s.read.length ≤ s'.read.length := by
  induction is generalizing s with
  | nil =>
      cases h
      exact ⟨rfl, hs, Nat.le_refl _⟩
  | cons i is ih =>
      cases i with
      | mapping kind id target => exact ih ⟨hs.nodup, hs.known⟩ hlevels h
      | next q =>
          obtain ⟨mid, hmid, hrest⟩ := Journal.outcome_bind_eq_ok_iff.1 h
          obtain ⟨hmid', hregular, hgrown⟩ := hn hs hlevels hmid
          obtain ⟨hrest', hregular', hgrown'⟩ := ih hregular (by omega) hrest
          exact ⟨Journal.outcome_bind_eq_ok_iff.2 ⟨mid, hmid', hrest'⟩, hregular',
            Nat.le_trans hgrown hgrown'⟩

theorem visit_continues (h : fs.Retains fs') {levels : Nat}
    {nested nested' : Path → Reading → Journal Notice Error Reading}
    (hn : Continues fs levels nested nested') :
    Continues fs (levels + 1) (visit fs limits nested) (visit fs' limits nested') := by
  intro q s s' hs hlevels hvisit
  obtain ⟨p, hp, hvisit⟩ := Journal.outcome_bind_eq_ok_iff.1 hvisit
  have hcanonical : fs.canonicalize q = .ok p := mapError_eq_ok_iff.1 hp
  have hcanonical' := h.canonicalize hcanonical
  by_cases hread : s.read.contains p = true
  · rw [if_pos hread] at hvisit
    cases hvisit
    refine ⟨?_, hs, Nat.le_refl _⟩
    refine Journal.outcome_bind_eq_ok_iff.2 ⟨p, mapError_eq_ok_iff.2 hcanonical', ?_⟩
    rw [if_pos hread]
    rfl
  · rw [if_neg hread] at hvisit
    obtain ⟨is, hitems, hfollow⟩ := Journal.outcome_bind_eq_ok_iff.1 hvisit
    have hlength : (s.read ++ [p]).length = s.read.length + 1 := by simp
    have hpush := hs.push hcanonical hitems fun hmem => hread (List.contains_iff_mem.2 hmem)
    have hlevels' : fs.fileCount < levels + (s.read ++ [p]).length := by omega
    obtain ⟨hfollow', hregular, hgrown⟩ := follow_continues hn hpush hlevels' hfollow
    have hread' : s.read.length ≤ (s.read ++ [p]).length := by omega
    refine ⟨?_, hregular, Nat.le_trans hread' hgrown⟩
    refine Journal.outcome_bind_eq_ok_iff.2 ⟨p, mapError_eq_ok_iff.2 hcanonical', ?_⟩
    rw [if_neg hread]
    exact Journal.outcome_bind_eq_ok_iff.2 ⟨is, fileItems_retains h hitems, hfollow'⟩

/-- Catalogs that could be read can be read still, also with more levels to nest. -/
theorem load_continues (h : fs.Retains fs') (levels more : Nat) :
    Continues fs levels (load fs limits levels) (load fs' limits (levels + more)) := by
  induction levels with
  | zero =>
      intro p s s' hs hlevels _
      have := hs.length_le
      omega
  | succ levels ih =>
      rw [Nat.add_right_comm]
      exact visit_continues h ih

theorem ofFile_retains (h : fs.Retains fs') (hcount : fs.fileCount ≤ fs'.fileCount) {p : Path}
    {catalog : Catalog} (hp : (ofFile fs limits p).outcome = .ok catalog) :
    (ofFile fs' limits p).outcome = .ok catalog := by
  obtain ⟨s, hload, hs⟩ := Journal.outcome_bind_eq_ok_iff.1 hp
  obtain ⟨more, hmore⟩ := Nat.exists_eq_add_of_le (Nat.succ_le_succ hcount)
  obtain ⟨hload', _⟩ := load_continues h (fs.fileCount + 1) more regular_empty (by simp) hload
  refine Journal.outcome_bind_eq_ok_iff.2 ⟨s, ?_, hs⟩
  rw [show fs'.fileCount + 1 = fs.fileCount + 1 + more from hmore]
  exact hload'

end Catalog

namespace IndexPlan

variable {plan : IndexPlan} {fs fs' : FileSystem}

theorem locate_of_checkDirectory {directory : Path} {names : List Bytes}
    (h : checkDirectory fs directory = .ok names) : fs.locate directory = .ok ⟨names, .directory⟩ := by
  unfold checkDirectory at h
  split at h
  · cases h
  · cases h
  · rename_i heq
    cases h
    exact heq
  · cases h

variable (h : fs.Retains fs')
include h

theorem checkDirectory_retains {directory : Path} {names : List Bytes}
    (hd : checkDirectory fs directory = .ok names) : checkDirectory fs' directory = .ok names := by
  rw [checkDirectory, h.locate (locate_of_checkDirectory hd)]

theorem scanRoot_retains {p : Path} {root : Markup.RootScan} (hp : plan.scanRoot fs p = .ok root) :
    plan.scanRoot fs' p = .ok root := by
  unfold scanRoot at hp ⊢
  split at hp
  · rename_i hverify
    obtain ⟨octets, hread, hscan⟩ := bind_eq_ok_iff.1 hp
    rw [if_pos hverify]
    exact bind_eq_ok_iff.2 ⟨octets, h.readPath hread, hscan⟩
  · rename_i hverify
    obtain ⟨opened, hopen, hscan⟩ := bind_eq_ok_iff.1 hp
    rw [if_neg hverify]
    exact bind_eq_ok_iff.2 ⟨opened, h.openPath hopen, hscan⟩

theorem Scans.retained {names : List Bytes} {name : Bytes} {key : String} {p : Path}
    (hs : plan.Scans fs names name key p) : plan.Scans fs' names name key p := by
  obtain ⟨hp, root, hroot, hkey⟩ := hs
  exact ⟨h.canonicalize hp, root, scanRoot_retains h hroot, hkey⟩

theorem describe_retains {names : List Bytes} {name : Bytes} {c : Claim}
    (hc : plan.describe fs (memberPath names name) = .ok c) :
    plan.describe fs' (memberPath names name) = .ok c := by
  obtain ⟨hscans, horigin⟩ := describe_eq_ok_iff.1 hc
  exact describe_eq_ok_iff.2 ⟨hscans.retained h, horigin⟩

theorem targetClaim?_retains {e : String × Path} {c : Claim} (hc : targetClaim? fs e = some c) :
    targetClaim? fs' e = some c := by
  obtain ⟨hp, hkey, horigin⟩ := targetClaim?_eq_some_iff.1 hc
  exact targetClaim?_eq_some_iff.2 ⟨h.canonicalize hp, hkey, horigin⟩

theorem CatalogGathers.retained (hcount : fs.fileCount ≤ fs'.fileCount) {p : Path} {cs : List Claim}
    (hp : plan.CatalogGathers fs p cs) : plan.CatalogGathers fs' p cs := by
  obtain ⟨catalog, hread, hclaims⟩ := hp
  exact ⟨catalog, Catalog.ofFile_retains h hcount hread,
    hclaims.imp fun _ _ => targetClaim?_retains h⟩

end IndexPlan
end SchemaSet
