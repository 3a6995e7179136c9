import Mathlib.Data.List.Basic
import SchemaSet.Loading

/-!
# One canonical path for each file

A place is `Place.Settled` when its names can be spelled as a path, lead over directories only, and
end at an entry that is no link.  Every walk from the top of a file system ends at such a place, so
walking its names once more leads nowhere else.

Hence a canonical path leads to the place that it was made from (`canonicalPlace_of_locate`).  The
canonical path of a file is spelled by the names under which the file stands, so a file system has
no more of them than files (`mem_filePaths`).
-/

namespace SchemaSet
namespace FileSystem

/-- Names that stand for themselves when a path spells them. -/
def Spellable (name : Bytes) : Prop :=
  Move.ofPiece name = .down name ∧ Path.slash ∉ name

/-- A place that its names lead to without links. -/
structure Place.Settled (fs : FileSystem) (place : Place) : Prop where
  /-- A path can spell the names. -/
  spellable : ∀ name ∈ place.names, Spellable name
  /-- Every step is taken in a directory. -/
  above : ∀ k < place.names.length, fs.node? (place.names.take k) = some .directory
  /-- The names lead to the entry. -/
  here : fs.node? place.names = some place.node
  /-- The entry is no link. -/
  unlinked : ∀ target, place.node ≠ .link target

/-- A move that a piece of a path can give. -/
def Move.Spelled (m : Move) : Prop :=
  ∀ name, m = .down name → Spellable name

section Moves

theorem ofPiece_spelled {piece : Bytes} (h : Path.slash ∉ piece) :
    (Move.ofPiece piece).Spelled := by
  intro name hm
  have hp : piece = name := by
    unfold Move.ofPiece at hm
    split at hm
    · cases hm
    · split at hm
      · cases hm
      · exact Move.down.inj hm
  subst hp
  exact ⟨hm, h⟩

/-- The moves of a path are spelled by its pieces. -/
theorem moves_spelled (p : Path) : ∀ m ∈ moves p, m.Spelled := by
  intro m hm
  obtain ⟨piece, hp, rfl⟩ := List.mem_map.1 hm
  have hmem : piece ∈ p.pieces := by
    split at hp
    · exact List.mem_of_mem_tail hp
    · exact hp
  refine ofPiece_spelled fun hs => ?_
  have := Text.not_mem_pieces _ hmem _ hs
  simp at this

theorem isAbsolute_ofNames (names : List Bytes) : (Path.ofNames names).isAbsolute = true := by
  simp [Path.isAbsolute, Path.ofNames]

/-- The pieces of the path that spells some names are the names, after an empty one. -/
theorem pieces_ofNames {names : List Bytes} (hn : names ≠ [])
    (h : ∀ name ∈ names, Path.slash ∉ name) :
    (Path.ofNames names).pieces = [] :: names := by
  have hp : Text.pieces (· == Path.slash) (Text.join Path.slash names) = names :=
    Text.pieces_join Path.slash hn h
  simp [Path.pieces, Path.ofNames, Text.pieces, hp]

/-- The path that spells some names moves down along them. -/
theorem moves_ofNames {names : List Bytes} (hn : names ≠ [])
    (h : ∀ name ∈ names, Spellable name) :
    moves (Path.ofNames names) = names.map .down := by
  rw [moves, isAbsolute_ofNames, pieces_ofNames hn fun x hx => (h x hx).2]
  exact List.map_congr_left fun x hx => (h x hx).1

end Moves

section Settled

variable {fs : FileSystem}

theorem settled_top : Place.Settled fs ⟨[], .directory⟩ where
  spellable := by simp
  above := by simp
  here := rfl
  unlinked := by simp

/-- The directory above a directory that a walk has come to. -/
theorem Place.Settled.up {names : List Bytes} (h : Place.Settled fs ⟨names, .directory⟩) :
    Place.Settled fs ⟨names.dropLast, .directory⟩ where
  spellable := fun name hn => h.spellable name (List.dropLast_subset _ hn)
  above := by
    intro k hk
    have hk' : k < names.length - 1 := by simpa using hk
    have ht : names.dropLast.take k = names.take k := by
      rw [List.dropLast_eq_take, List.take_take, Nat.min_eq_left (by omega)]
    rw [ht]
    exact h.above k (by show k < names.length; omega)
  here := by
    cases names with
    | nil => rfl
    | cons x r =>
        show fs.node? (x :: r).dropLast = some .directory
        rw [List.dropLast_eq_take]
        exact h.above _ (by simp)
  unlinked := by simp

/-- An entry in a directory that a walk has come to. -/
theorem Place.Settled.down {names : List Bytes} (h : Place.Settled fs ⟨names, .directory⟩)
    {name : Bytes} (hn : Spellable name) {node : Node}
    (hf : fs.node? (names ++ [name]) = some node) (hl : ∀ target, node ≠ .link target) :
    Place.Settled fs ⟨names ++ [name], node⟩ where
  spellable := by
    intro x hx
    rcases List.mem_append.1 hx with hx | hx
    · exact h.spellable x hx
    · rw [List.mem_singleton.1 hx]
      exact hn
  above := by
    intro k hk
    have hk' : k ≤ names.length := by
      have : k < names.length + 1 := by simpa using hk
      omega
    show fs.node? ((names ++ [name]).take k) = some .directory
    rw [List.take_append_of_le_length hk']
    rcases Nat.lt_or_eq_of_le hk' with hlt | heq
    · exact h.above k hlt
    · rw [heq, List.take_length]
      exact h.here
  here := hf
  unlinked := hl

variable {fits : List Bytes → Bool}

/-- One walk without links ends at a settled place, if what follows a link does. -/
theorem walkFrom_settled {follow : List Bytes → List Move → Except Fault Place}
    (hf : ∀ names ms place, Place.Settled fs ⟨names, .directory⟩ → (∀ m ∈ ms, m.Spelled) →
      follow names ms = .ok place → Place.Settled fs place)
    {names : List Bytes} {node : Node} {ms : List Move} {place : Place}
    (hs : Place.Settled fs ⟨names, node⟩) (hm : ∀ m ∈ ms, m.Spelled)
    (h : fs.walkFrom fits follow names node ms = .ok place) :
    Place.Settled fs place := by
  induction ms generalizing names node with
  | nil =>
      cases Except.ok.inj h
      exact hs
  | cons m rest ih =>
      have hrest : ∀ m ∈ rest, m.Spelled := fun x hx => hm x (List.mem_cons_of_mem m hx)
      cases node with
      | file _ => simp [walkFrom] at h
      | link _ => simp [walkFrom] at h
      | directory =>
          cases m with
          | stay => exact ih hs hrest h
          | up => exact ih hs.up hrest h
          | down name =>
              have hname : Spellable name := hm _ List.mem_cons_self name rfl
              simp only [walkFrom] at h
              split at h
              · cases h
              · split at h
                · cases h
                · rename_i target _
                  refine hf _ _ _ ?_ ?_ h
                  · unfold start
                    split
                    · exact settled_top
                    · exact hs
                  · intro m hmem
                    rcases List.mem_append.1 hmem with hmem | hmem
                    · exact moves_spelled target m hmem
                    · exact hrest m hmem
                · rename_i hlink hnext
                  exact ih (hs.down hname hnext hlink) hrest h

/-- Every walk from a settled directory ends at a settled place. -/
theorem walk_settled {links : Nat} {names : List Bytes} {ms : List Move} {place : Place}
    (hs : Place.Settled fs ⟨names, .directory⟩) (hm : ∀ m ∈ ms, m.Spelled)
    (h : fs.walk fits links names ms = .ok place) :
    Place.Settled fs place := by
  induction links generalizing names ms place with
  | zero =>
      refine walkFrom_settled ?_ hs hm h
      intro _ _ _ _ _ hfollow
      cases hfollow
  | succ links ih => exact walkFrom_settled (fun _ _ _ hs hm h => ih hs hm h) hs hm h

/-- A walk down the names of a settled place does not leave them. -/
theorem walkFrom_names {follow : List Bytes → List Move → Except Fault Place} {goal : Place}
    (hg : Place.Settled fs goal) {ahead names : List Bytes} {node : Node} {place : Place}
    (hn : names ++ ahead = goal.names) (hnode : fs.node? names = some node)
    (h : fs.walkFrom fits follow names node (ahead.map .down) = .ok place) :
    place = goal := by
  induction ahead generalizing names node with
  | nil =>
      rw [List.append_nil] at hn
      rw [hn, hg.here] at hnode
      cases Except.ok.inj h
      cases Option.some.inj hnode
      rw [hn]
  | cons name rest ih =>
      have hdir : node = .directory := by
        have := hg.above names.length (by rw [← hn]; simp)
        rw [← hn, List.take_left, hnode] at this
        exact Option.some.inj this
      subst hdir
      have hn' : (names ++ [name]) ++ rest = goal.names := by simpa using hn
      simp only [List.map_cons, walkFrom] at h
      split at h
      · cases h
      · split at h
        · cases h
        · rename_i target hlink
          cases rest with
          | nil =>
              rw [List.append_nil] at hn'
              rw [hn', hg.here] at hlink
              exact absurd (Option.some.inj hlink) (hg.unlinked target)
          | cons next rest =>
              have hdir := hg.above (names ++ [name]).length (by rw [← hn']; simp)
              rw [← hn', List.take_left, hlink] at hdir
              cases Option.some.inj hdir
        · rename_i hnext
          exact ih hn' hnext h

end Settled

section Canonical

variable {fs : FileSystem} {p q : Path} {place : Place}

theorem walkPath_settled {fits : List Bytes → Bool} (h : fs.walkPath fits p = .ok place) :
    Place.Settled fs place := by
  unfold walkPath at h
  split at h
  · cases h
  · split at h
    · cases h
    · exact walk_settled settled_top (moves_spelled _) h

/-- Canonicalizing ends at a settled place. -/
theorem canonicalPlace_settled (h : fs.canonicalPlace p = .ok place) :
    Place.Settled fs place :=
  walkPath_settled h

/-- What is found is found by a walk. -/
theorem walkPath_of_locate (h : fs.locate p = .ok place) :
    fs.walkPath (fun _ => true) p = .ok place := by
  unfold locate at h
  split at h
  · cases h
  · exact h

/-- Walking the names of a settled place leads nowhere else. -/
theorem walkPath_ofNames {fits : List Bytes → Bool} {goal : Place} (hg : Place.Settled fs goal)
    (h : fs.walkPath fits (Path.ofNames goal.names) = .ok place) :
    place = goal := by
  have habs : fs.absolute (Path.ofNames goal.names) = Path.ofNames goal.names :=
    Path.join_of_isAbsolute _ (by simp [Path.isAbsolute, Path.ofNames])
  unfold walkPath at h
  split at h
  · cases h
  · split at h
    · cases h
    · rw [habs] at h
      by_cases hn : goal.names = []
      · have hnode : goal.node = .directory := by
          have := hg.here
          rw [hn] at this
          exact (Option.some.inj this).symm
        rw [hn] at h
        obtain rfl : place = ⟨[], .directory⟩ := (Except.ok.inj h).symm
        cases goal
        simp_all
      · rw [moves_ofNames hn hg.spellable] at h
        -- the walk meets no link, so its shape does not depend on how many it may follow
        exact walkFrom_names hg (List.nil_append _) rfl h

/-- A path that spells the names of a settled place leads nowhere else. -/
theorem locate_ofNames {goal : Place} (hg : Place.Settled fs goal)
    (h : fs.locate (Path.ofNames goal.names) = .ok place) :
    place = goal :=
  walkPath_ofNames hg (walkPath_of_locate h)

/-- The canonical path of a canonical path is that path. -/
theorem canonicalize_idem {t : Path} (hc : fs.canonicalize q = .ok p)
    (h : fs.canonicalize p = .ok t) : t = p := by
  obtain ⟨goal, hgoal, rfl⟩ := canonicalize_ofNames hc
  obtain ⟨place, hplace, rfl⟩ := canonicalize_ofNames h
  rw [walkPath_ofNames (canonicalPlace_settled hgoal) hplace]

/-- A canonical path leads to the place that it was made from. -/
theorem canonicalPlace_of_locate (hc : fs.canonicalize q = .ok p)
    (h : fs.locate p = .ok place) :
    fs.canonicalPlace q = .ok place ∧ p = Path.ofNames place.names := by
  obtain ⟨goal, hgoal, rfl⟩ := canonicalize_ofNames hc
  have heq := locate_ofNames (canonicalPlace_settled hgoal) h
  subst heq
  exact ⟨hgoal, rfl⟩

end Canonical

/-- The paths that spell where the regular files stand. -/
def filePaths (fs : FileSystem) : List Path :=
  (fs.nodes.entries.filter fun e => e.2.isFile).map fun e => Path.ofNames e.1

theorem length_filePaths (fs : FileSystem) : fs.filePaths.length = fs.fileCount := by
  rw [filePaths, List.length_map, fileCount, OrderedMap.values, List.countP_map,
    ← List.countP_eq_length_filter]
  rfl

/-- A file that a path leads to stands under the names that the walk ends at. -/
theorem mem_entries_of_locate {fs : FileSystem} {p : Path} {place : Place} {content : Bytes}
    (h : fs.locate p = .ok place) (hnode : place.node = .file content) :
    (place.names, Node.file content) ∈ fs.nodes.entries := by
  have hhere := (walkPath_settled (walkPath_of_locate h)).here
  rw [hnode] at hhere
  have hnames : place.names.isEmpty = false := by
    cases hn : place.names with
    | nil => rw [hn] at hhere; cases hhere
    | cons _ _ => rfl
  rw [node?, hnames] at hhere
  exact OrderedMap.mem_entries_of_get? hhere

/-- A path that can be opened leads to some place. -/
theorem exists_place_of_entry {fs : FileSystem} {p : Path} {node : Node}
    (h : fs.entry p = .ok node) :
    ∃ place, fs.locate p = .ok place ∧ place.node = node := by
  cases hl : fs.locate p with
  | error f => simp [entry, hl, Except.map] at h
  | ok place => exact ⟨place, rfl, by simpa [entry, hl, Except.map] using h⟩

theorem mem_values_of_entry {fs : FileSystem} {p : Path} {content : Bytes}
    (h : fs.entry p = .ok (.file content)) :
    Node.file content ∈ fs.nodes.values := by
  obtain ⟨place, hl, hnode⟩ := exists_place_of_entry h
  exact List.mem_map.2 ⟨_, mem_entries_of_locate hl hnode, rfl⟩

/-- The canonical path of a file that can be opened spells where the file stands. -/
theorem mem_filePaths {fs : FileSystem} {p q : Path} {content : Bytes}
    (hc : fs.canonicalize q = .ok p) (h : fs.entry p = .ok (.file content)) :
    p ∈ fs.filePaths := by
  obtain ⟨place, hl, hnode⟩ := exists_place_of_entry h
  obtain ⟨_, rfl⟩ := canonicalPlace_of_locate hc hl
  exact List.mem_map.2
    ⟨_, List.mem_filter.2 ⟨mem_entries_of_locate hl hnode, rfl⟩, rfl⟩

end FileSystem
end SchemaSet
