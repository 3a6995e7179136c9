import Mathlib.Data.List.Nodup
import SchemaSet.Catalog
import SchemaSet.Proofs.CanonicalPath

/-!
# Reading a catalog ends

Catalogs may mention each other in circles.  `Catalog.loadSteps cut` reads catalogs as
`Catalog.load` does, notes every document that it opens, and does `cut` when no level is left.  A
reading that is the same for all `cut` never comes to it.

The files read so far are distinct files, `Catalog.Reading.Regular`.  So while there are more levels
than files still unread, levels do not run out (`loadSteps_mirrors`).  `Catalog.Opens` says of a
part of a reading, whether it ends in an error or not, that it opens distinct documents that were
not open before.

Both are used for `ofFile_ends`: for any file system and any path, reading a catalog never runs out
of levels, opens each document at most once, and no more files than there are.
-/

namespace SchemaSet

/-- What happens while a catalog is read. -/
inductive CatalogStep
  | told (notice : Notice)
  /-- The document at a canonical path is opened. -/
  | opened (document : Path)

namespace CatalogStep

def notices : CatalogStep → List Notice
  | .told notice => [notice]
  | .opened _ => []

def document? : CatalogStep → Option Path
  | .told _ => none
  | .opened document => some document

end CatalogStep

namespace Journal

variable {ν μ ε α β : Type} {f : ν → List μ}

@[simp] theorem outcome_mapNotes (f : ν → List μ) (j : Journal ν ε α) :
    (j.mapNotes f).outcome = j.outcome := rfl

theorem ok_bind (a : α) (k : α → Journal ν ε β) :
    (liftM (Except.ok a : Except ε α) : Journal ν ε α) >>= k = k a :=
  done_bind a k

/-- A sequence with its notes rewritten is the sequence of both parts rewritten. -/
theorem mapNotes_bind (j : Journal ν ε α) (k : α → Journal ν ε β) :
    (j >>= k).mapNotes f = j.mapNotes f >>= fun a => (k a).mapNotes f := by
  cases h : j.outcome with
  | error e => rw [bind_of_error h, bind_of_error (j := j.mapNotes f) h, mapNotes, mapNotes]
  | ok a =>
      rw [bind_of_ok h, bind_of_ok (j := j.mapNotes f) h]
      simp [mapNotes]

end Journal

namespace Catalog

section Steps

variable (fs : FileSystem) (limits : Limits)

/-- Opens the catalog file at a canonical path. -/
def openFile (p : Path) : Journal CatalogStep Error (List CatalogItem) := do
  Journal.note (.opened p)
  fileItems fs limits p

/-- Follows items as `follow` does. -/
def followSteps (nested : Path → Reading → Journal CatalogStep Error Reading) :
    List CatalogItem → Reading → Journal CatalogStep Error Reading
  | [], s => .done s
  | .mapping kind id target :: r, s =>
      followSteps nested r { s with catalog := s.catalog.insert kind id target }
  | .next path :: r, s => do
      let s ← nested path s
      followSteps nested r s

/-- Reads a catalog as `visit` does. -/
def visitSteps (nested : Path → Reading → Journal CatalogStep Error Reading) (path : Path)
    (s : Reading) : Journal CatalogStep Error Reading := do
  let canonical ← (fs.canonicalize path).mapError fun f => Error.resource (.catalog path f)
  if s.read.contains canonical then
    Journal.note (.told (.catalogRepeated canonical))
    return s
  let items ← openFile fs limits canonical
  followSteps nested items { s with read := s.read ++ [canonical] }

/-- Reads a catalog as `load` does; `cut` is done when no level is left. -/
def loadSteps (cut : Path → Reading → Journal CatalogStep Error Reading) :
    (n : Nat) → Path → Reading → Journal CatalogStep Error Reading
  | 0, path, s => cut path s
  | n + 1, path, s => visitSteps fs limits (loadSteps cut n) path s

/-- Reads the catalog of a file as `ofFile` does, with `n` levels. -/
def ofFileSteps (cut : Path → Reading → Journal CatalogStep Error Reading) (n : Nat)
    (path : Path) : Journal CatalogStep Error Catalog := do
  let s ← loadSteps fs limits cut n path ⟨empty, []⟩
  return s.catalog

end Steps

/-- The documents that some steps open, oldest first. -/
def openedOf (steps : List CatalogStep) : List Path := steps.filterMap CatalogStep.document?

section Regular

variable {fs : FileSystem} {limits : Limits} {s : Reading} {p q : Path}

/-- The files read so far are distinct files. -/
structure Reading.Regular (fs : FileSystem) (s : Reading) : Prop where
  nodup : s.read.Nodup
  known : s.read ⊆ fs.filePaths

theorem regular_empty : Reading.Regular fs ⟨empty, []⟩ := ⟨List.nodup_nil, List.nil_subset _⟩

/-- No more files are read than there are. -/
theorem Reading.Regular.length_le (hs : s.Regular fs) : s.read.length ≤ fs.fileCount := by
  rw [← FileSystem.length_filePaths]
  exact hs.nodup.length_le_of_subset hs.known

/-- A catalog file that was not read before is one of the files. -/
theorem Reading.Regular.push (hs : s.Regular fs) {is : List CatalogItem}
    (hq : fs.canonicalize q = .ok p) (hp : fileItems fs limits p = .ok is) (hnew : p ∉ s.read) :
    Reading.Regular fs { s with read := s.read ++ [p] } where
  nodup := by simpa using List.Nodup.concat hnew hs.nodup
  known := by
    obtain ⟨octets, hload, _⟩ := bind_eq_ok_iff.1 hp
    obtain ⟨read, hread, _⟩ := bind_eq_ok_iff.1 hload
    have hfile : p ∈ fs.filePaths :=
      FileSystem.mem_filePaths hq (FileSystem.entry_of_readPath hread)
    exact List.append_subset.2 ⟨hs.known, by simpa using hfile⟩

end Regular

section Opening

variable {fs : FileSystem} {limits : Limits} {s : Reading}
variable {j : Journal CatalogStep Error Reading}
variable {f : Reading → Journal CatalogStep Error Reading}

/-- A part of a reading, also one that ends in an error, opens distinct documents at canonical paths
that were not open before; if it ends well, they are the files that were read on the way. -/
structure Opens (fs : FileSystem) (s : Reading) (j : Journal CatalogStep Error Reading) :
    Prop where
  /-- No document is opened that was read. -/
  distinct : (s.read ++ openedOf j.notes).Nodup
  canonical : ∀ p ∈ openedOf j.notes, ∃ q, fs.canonicalize q = .ok p
  /-- The documents opened come after those that were read. -/
  value : ∀ s', j.outcome = .ok s' → s'.Regular fs ∧ s'.read = s.read ++ openedOf j.notes

theorem opens_done (hs : s.Regular fs) : Opens fs s (.done s) where
  distinct := by simpa [Journal.done, openedOf] using hs.nodup
  canonical := by simp [Journal.done, openedOf]
  value := by
    rintro _ h
    cases h
    exact ⟨hs, by simp [Journal.done, openedOf]⟩

/-- A part that opens nothing and fails, or tells something and ends where it began. -/
theorem Opens.quiet (hs : s.Regular fs) (hq : openedOf j.notes = [])
    (hv : ∀ s', j.outcome = .ok s' → s' = s) : Opens fs s j where
  distinct := by simpa [hq] using hs.nodup
  canonical := by simp [hq]
  value := by
    intro s' h
    cases hv s' h
    exact ⟨hs, by simp [hq]⟩

theorem openedOf_bind {α β : Type} (k : Journal CatalogStep Error α)
    (g : α → Journal CatalogStep Error β) :
    openedOf (k >>= g).notes =
      openedOf k.notes ++ openedOf (k.outcome.toOption.elim [] fun a => (g a).notes) := by
  rw [Journal.notes_bind, openedOf, List.filterMap_append, ← openedOf, ← openedOf]

/-- What one part opens and then another one is opened by both. -/
theorem Opens.bind (h : Opens fs s j) (hf : ∀ s', j.outcome = .ok s' → Opens fs s' (f s')) :
    Opens fs s (j >>= f) := by
  cases hj : j.outcome with
  | error e =>
      rw [Journal.bind_of_error hj]
      exact ⟨h.distinct, h.canonical, by simp⟩
  | ok mid =>
      obtain ⟨_, hread⟩ := h.value mid hj
      have hnext := hf mid hj
      have hopened : openedOf (j >>= f).notes = openedOf j.notes ++ openedOf (f mid).notes := by
        rw [openedOf_bind, hj]
        rfl
      refine ⟨?_, ?_, ?_⟩
      · rw [hopened, ← List.append_assoc, ← hread]
        exact hnext.distinct
      · intro p hp
        rw [hopened] at hp
        rcases List.mem_append.1 hp with hp | hp
        · exact h.canonical p hp
        · exact hnext.canonical p hp
      · intro s' hs'
        rw [Journal.outcome_bind, hj] at hs'
        obtain ⟨hregular, hread'⟩ := hnext.value s' hs'
        exact ⟨hregular, by rw [hread', hread, hopened, List.append_assoc]⟩

/-- No more files are opened than there are. -/
theorem Opens.length_files_le (h : Opens fs s j) :
    ((openedOf j.notes).filter fs.isFile).length ≤ fs.fileCount := by
  rw [← FileSystem.length_filePaths]
  have hdistinct : (openedOf j.notes).Nodup := h.distinct.of_append_right
  refine (hdistinct.filter _).length_le_of_subset fun p hp => ?_
  obtain ⟨hp, hfile⟩ := List.mem_filter.1 hp
  obtain ⟨q, hq⟩ := h.canonical p hp
  unfold FileSystem.isFile at hfile
  split at hfile
  · rename_i content hentry
    exact FileSystem.mem_filePaths hq hentry
  · cases hfile

/-- While more levels are left than files unread, the steps are those of the reading, and they open
distinct documents. -/
def Mirrors (fs : FileSystem) (levels : Nat)
    (nested : Path → Reading → Journal CatalogStep Error Reading)
    (nested' : Path → Reading → Journal Notice Error Reading) : Prop :=
  ∀ ⦃p : Path⦄ ⦃s : Reading⦄, s.Regular fs → fs.fileCount < levels + s.read.length →
    (nested p s).mapNotes CatalogStep.notices = nested' p s ∧ Opens fs s (nested p s)

variable {levels : Nat} {nested : Path → Reading → Journal CatalogStep Error Reading}
variable {nested' : Path → Reading → Journal Notice Error Reading}

theorem followSteps_mirrors (hn : Mirrors fs levels nested nested') {is : List CatalogItem}
    (hs : s.Regular fs) (hlevels : fs.fileCount < levels + s.read.length) :
    (followSteps nested is s).mapNotes CatalogStep.notices = follow nested' is s ∧
      Opens fs s (followSteps nested is s) := by
  induction is generalizing s with
  | nil => exact ⟨rfl, opens_done hs⟩
  | cons i is ih =>
      cases i with
      | mapping kind id target =>
          obtain ⟨hmirror, hopens⟩ :=
            @ih { s with catalog := s.catalog.insert kind id target } ⟨hs.nodup, hs.known⟩ hlevels
          exact ⟨hmirror, hopens.distinct, hopens.canonical, hopens.value⟩
      | next q =>
          obtain ⟨hmirror, hopens⟩ := hn (p := q) hs hlevels
          -- what the further catalog reads leaves fewer files unread
          have hrest : ∀ mid, (nested q s).outcome = .ok mid →
              mid.Regular fs ∧ fs.fileCount < levels + mid.read.length := by
            intro mid hmid
            obtain ⟨hregular, hread⟩ := hopens.value mid hmid
            have hgrown : mid.read.length = s.read.length + _ :=
              (congrArg List.length hread).trans List.length_append
            exact ⟨hregular, by omega⟩
          constructor
          · show (nested q s >>= followSteps nested is).mapNotes CatalogStep.notices = _
            rw [Journal.mapNotes_bind, hmirror]
            refine Journal.bind_congr_ok fun mid hmid => ?_
            rw [← hmirror, Journal.outcome_mapNotes] at hmid
            exact (ih (hrest mid hmid).1 (hrest mid hmid).2).1
          · exact hopens.bind fun mid hmid => (ih (hrest mid hmid).1 (hrest mid hmid).2).2

/-- Opening a document that was not read and following its items. -/
theorem opens_openFile {p : Path} (hs : s.Regular fs) (hc : ∃ q, fs.canonicalize q = .ok p)
    (hnew : p ∉ s.read) (hf : ∀ is, fileItems fs limits p = .ok is →
      Opens fs { s with read := s.read ++ [p] }
        (followSteps nested is { s with read := s.read ++ [p] })) :
    Opens fs s (openFile fs limits p >>= fun is =>
      followSteps nested is { s with read := s.read ++ [p] }) := by
  have hdistinct : (s.read ++ [p]).Nodup := by simpa using List.Nodup.concat hnew hs.nodup
  cases hitems : fileItems fs limits p with
  | error e =>
      have hfail : openFile fs limits p = ⟨[.opened p], .error e⟩ := by
        rw [openFile, hitems]
        rfl
      rw [hfail]
      refine ⟨hdistinct, ?_, by rintro _ ⟨⟩⟩
      intro r hr
      cases List.mem_singleton.1 hr
      exact hc
  | ok is =>
      have hopen : openFile fs limits p = ⟨[.opened p], .ok is⟩ := by
        rw [openFile, hitems]
        rfl
      have hnext := hf is hitems
      rw [hopen]
      refine ⟨?_, ?_, ?_⟩
      · have := hnext.distinct
        rwa [List.append_assoc] at this
      · intro r hr
        rcases List.mem_cons.1 hr with rfl | hr
        · exact hc
        · exact hnext.canonical r hr
      · intro s' hs'
        obtain ⟨hregular, hread⟩ := hnext.value s' hs'
        exact ⟨hregular, by rw [hread, List.append_assoc]; rfl⟩

theorem visitSteps_mirrors (hn : Mirrors fs levels nested nested') :
    Mirrors fs (levels + 1) (visitSteps fs limits nested) (visit fs limits nested') := by
  intro q s hs hlevels
  unfold visitSteps visit
  cases hc : fs.canonicalize q with
  | error fault => exact ⟨rfl, .quiet hs rfl (by rintro _ ⟨⟩)⟩
  | ok p =>
      rw [show (Except.ok p : Except FileSystem.Fault Path).mapError
        (fun f => Error.resource (.catalog q f)) = .ok p from rfl, Journal.ok_bind, Journal.ok_bind]
      by_cases hread : s.read.contains p = true
      · rw [if_pos hread, if_pos hread]
        refine ⟨rfl, .quiet hs rfl ?_⟩
        rintro _ ⟨⟩
        rfl
      · have hnew : p ∉ s.read := fun hmem => hread (List.contains_iff_mem.2 hmem)
        rw [if_neg hread, if_neg hread]
        have hroom : fs.fileCount < levels + (s.read ++ [p]).length := by
          rw [List.length_append, List.length_singleton]
          omega
        constructor
        · rw [Journal.mapNotes_bind]
          refine Journal.bind_congr_ok fun is hitems => ?_
          exact (followSteps_mirrors hn (hs.push hc hitems hnew) hroom).1
        · exact opens_openFile hs ⟨q, hc⟩ hnew fun is hitems =>
            (followSteps_mirrors hn (hs.push hc hitems hnew) hroom).2

/-- With more levels than there are files, the steps are those of the reading, whatever is done
when no level is left. -/
theorem loadSteps_mirrors (fs : FileSystem) (limits : Limits)
    (cut : Path → Reading → Journal CatalogStep Error Reading) (levels extra : Nat) :
    Mirrors fs levels (loadSteps fs limits cut (levels + extra)) (load fs limits levels) := by
  induction levels with
  | zero =>
      intro p s hs hlevels
      have := hs.length_le
      omega
  | succ levels ih =>
      rw [Nat.add_right_comm]
      exact visitSteps_mirrors ih

/-- Reading a catalog ends on every graph of catalogs.  Whatever is done when the levels are used
up, a reading with one level more than there are files, or with any more, is the same, so that it
never comes to that.  Whether it ends in an error or not, it opens distinct documents, each at its
canonical path, and no more files than there are. -/
theorem ofFile_ends (fs : FileSystem) (limits : Limits) (p : Path)
    (cut : Path → Reading → Journal CatalogStep Error Reading) (extra : Nat) :
    let run := ofFileSteps fs limits cut (fs.fileCount + 1 + extra) p
    run.mapNotes CatalogStep.notices = ofFile fs limits p ∧
      (openedOf run.notes).Nodup ∧
      (∀ q ∈ openedOf run.notes, ∃ r, fs.canonicalize r = .ok q) ∧
      ((openedOf run.notes).filter fs.isFile).length ≤ fs.fileCount := by
  obtain ⟨hmirror, hopens⟩ := loadSteps_mirrors fs limits cut (fs.fileCount + 1) extra (p := p)
    regular_empty (by simp)
  have hopened : openedOf (ofFileSteps fs limits cut (fs.fileCount + 1 + extra) p).notes =
      openedOf (loadSteps fs limits cut (fs.fileCount + 1 + extra) p ⟨empty, []⟩).notes := by
    rw [ofFileSteps, openedOf_bind]
    cases (loadSteps fs limits cut (fs.fileCount + 1 + extra) p ⟨empty, []⟩).outcome <;>
      exact List.append_nil _
  refine ⟨?_, ?_, ?_, ?_⟩
  · rw [ofFileSteps, Journal.mapNotes_bind, hmirror]
    rfl
  · rw [hopened]
    exact hopens.distinct
  · rw [hopened]
    exact hopens.canonical
  · rw [hopened]
    exact hopens.length_files_le

end Opening

end Catalog
end SchemaSet
