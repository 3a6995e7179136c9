import SchemaSet.Proofs.Directory
import SchemaSet.Proofs.Walks

/-!
# File systems with one more entry

`FileSystem.Gains` says that a file system is another one with one more entry.  A walk that does not
look up the new entry is the same in both, and one that does found nothing before.  So what could be
found is found still.

For a walk this is `Gains.walk_of_not_passes` and `Gains.walk_of_passes`.  For a whole path,
`LeadsThrough` says that it looks up some names on its way: paths apart from the new entry lead
where they led (`Gains.canonicalize_of_not_leadsThrough`), and `Gains.locate_cases` says what the
others lead to.
-/

namespace SchemaSet

namespace Path

variable {name : Bytes}

theorem join_snoc {names : List Bytes} (hn : names ≠ []) (name : Bytes) :
    Text.join slash (names ++ [name]) = Text.join slash names ++ slash :: name := by
  induction names with
  | nil => exact absurd rfl hn
  | cons x rest ih =>
      cases rest with
      | nil => rfl
      | cons y rest =>
          show x ++ slash :: Text.join slash ((y :: rest) ++ [name]) = _
          rw [ih (List.cons_ne_nil _ _)]
          simp [Text.join]

theorem ofNames_snoc (names : List Bytes) (name : Bytes) :
    (ofNames (names ++ [name])).octets =
      (if names = [] then [] else (ofNames names).octets) ++ slash :: name := by
  by_cases hn : names = []
  · rw [if_pos hn, hn]
    rfl
  · rw [if_neg hn, ofNames, join_snoc hn]
    rfl

theorem ne_nil_of_spellable (h : FileSystem.Spellable name) : name ≠ [] := by
  rintro rfl
  cases h.1

/-- Only the top has a path that ends in a slash. -/
theorem getLast?_ofNames {names : List Bytes} (hn : names ≠ [])
    (hnames : ∀ x ∈ names, FileSystem.Spellable x) :
    (ofNames names).octets.getLast? ≠ some slash := by
  obtain ⟨front, last, rfl⟩ := (List.eq_nil_or_concat' names).resolve_left hn
  have hlast := hnames last (by simp)
  rw [ofNames_snoc, List.getLast?_append_of_ne_nil _ (List.cons_ne_nil _ _),
    ← List.singleton_append, List.getLast?_append_of_ne_nil _ (ne_nil_of_spellable hlast)]
  exact fun hslash => hlast.2 (List.mem_of_getLast? hslash)

/-- The path of an entry of a directory is spelled by the names that lead to it. -/
theorem join_ofNames {names : List Bytes} (hnames : ∀ x ∈ names, FileSystem.Spellable x)
    (hname : FileSystem.Spellable name) :
    (ofNames names).join ⟨name⟩ = ofNames (names ++ [name]) := by
  have hrelative : ¬ (⟨name⟩ : Path).isAbsolute = true := by
    rw [isAbsolute, beq_iff_eq]
    exact fun hslash => hname.2 (List.mem_of_head? hslash)
  rw [join, if_neg hrelative]
  by_cases hn : names = []
  · rw [hn]
    rfl
  · have hend : ¬ ((ofNames names).octets.isEmpty ||
        (ofNames names).octets.getLast? == some slash) = true := by
      rw [Bool.or_eq_true, beq_iff_eq, not_or]
      exact ⟨Bool.false_ne_true, getLast?_ofNames hn hnames⟩
    rw [if_neg hend]
    refine congrArg Path.mk ((ofNames_snoc names name).trans ?_).symm
    rw [if_neg hn]

end Path

namespace FileSystem

/-- The same entries and one more, with a name in a directory.  Names are such that a path can spell
them. -/
structure Gains (fs : FileSystem) (names : List Bytes) (name : Bytes) (node : Node)
    (fs' : FileSystem) : Prop where
  workingDirectory : fs'.workingDirectory = fs.workingDirectory
  /-- The new entry may be listed anywhere. -/
  nodes : fs'.nodes.entries.Perm ((names ++ [name], node) :: fs.nodes.entries)
  spellable : ∀ key ∈ fs'.nodes.keys, ∀ x ∈ key, Spellable x

/-- A path that can be walked leads to an entry, or through it. -/
structure LeadsThrough (fs : FileSystem) (goal : List Bytes) (p : Path) : Prop where
  spelled : p.octets.contains 0 = false
  nonempty : p.octets.isEmpty = false
  /-- The walk to its canonical path looks up the names of the entry. -/
  passes : fs.Passes isShort goal linkBudget [] (moves (fs.absolute p))

namespace Gains

variable {fs fs' : FileSystem} {names : List Bytes} {name : Bytes} {node : Node}

section Entries

theorem fresh (h : fs.Gains names name node fs') : names ++ [name] ∉ fs.nodes.keys := by
  have hkeys := (h.nodes.map Prod.fst).nodup_iff.1 fs'.nodes.distinct
  exact (List.nodup_cons.1 hkeys).1

theorem mem_entries_iff (h : fs.Gains names name node fs') {key : List Bytes} {other : Node} :
    (key, other) ∈ fs'.nodes.entries ↔
      (key = names ++ [name] ∧ other = node) ∨ (key, other) ∈ fs.nodes.entries := by
  rw [h.nodes.mem_iff, List.mem_cons, Prod.mk.injEq]

/-- The new entry was not there before. -/
theorem node?_before (h : fs.Gains names name node fs') : fs.node? (names ++ [name]) = none := by
  have hsome : (names ++ [name]).isEmpty = false := by simp
  rw [node?, hsome]
  exact (OrderedMap.get?_eq_none_iff _ _).2 h.fresh

theorem node?_eq (h : fs.Gains names name node fs') {key : List Bytes}
    (hk : key ≠ names ++ [name]) : fs'.node? key = fs.node? key := by
  have hget : fs'.nodes.get? key = fs.nodes.get? key := by
    refine Option.ext fun other => ?_
    rw [OrderedMap.get?_eq_some_iff, OrderedMap.get?_eq_some_iff, h.mem_entries_iff]
    exact or_iff_right fun hnew => hk hnew.1
  rw [node?, node?, hget]

theorem children_perm (h : fs.Gains names name node fs') :
    (fs'.children names).Perm (name :: fs.children names) := by
  have hkeys : fs'.nodes.keys.Perm ((names ++ [name]) :: fs.nodes.keys) := h.nodes.map Prod.fst
  refine (hkeys.filterMap _).trans ?_
  rw [List.filterMap_cons]
  simp [children]

end Entries

section Walks

variable {fits : List Bytes → Bool} {links : Nat} {front : List Bytes} {ms : List Move}
variable {p q : Path}

/-- A walk that looks up the new entry found nothing before. -/
theorem walk_of_passes (h : fs.Gains names name node fs')
    (hp : fs.Passes fits (names ++ [name]) links front ms) :
    fs.walk fits links front ms = .error .notFound := by
  induction hp with
  | here hm heq => rw [walk_down hm, heq, h.node?_before]
  | stay _ ih => rw [walk_stay, ih]
  | up _ ih => rw [walk_up, ih]
  | down hm hnode _ ih => rw [walk_down hm, hnode, ih]
  | link hm hnode _ ih =>
      rw [walk_down hm, hnode]
      exact ih

/-- A walk that does not look up the new entry is the same as before. -/
theorem walk_of_not_passes (h : fs.Gains names name node fs')
    (hp : ¬ fs.Passes fits (names ++ [name]) links front ms) :
    fs'.walk fits links front ms = fs.walk fits links front ms := by
  revert hp
  induction links, front, ms using fs.walk_induction with
  | nil links front => exact fun _ => walk_nil.trans walk_nil.symm
  | stay links front rest ih =>
      intro hp
      rw [walk_stay, walk_stay]
      exact ih fun hrest => hp (.stay hrest)
  | up links front rest ih =>
      intro hp
      rw [walk_up, walk_up]
      exact ih fun hrest => hp (.up hrest)
  | down links front x rest ihdown ihlink =>
      intro hp
      by_cases hm : MayLookUp fits front x
      · have hnode : fs'.node? (front ++ [x]) = fs.node? (front ++ [x]) :=
          h.node?_eq fun heq => hp (.here hm heq)
        rw [walk_down hm, walk_down hm, hnode]
        cases hfound : fs.node? (front ++ [x]) with
        | none => rfl
        | some found =>
            cases found with
            | file content => rfl
            | directory => exact ihdown hfound fun hrest => hp (.down hm hfound hrest)
            | link target =>
                cases links with
                | zero => rfl
                | succ fewer =>
                    exact ihlink fewer target rfl hfound fun hrest => hp (.link hm hfound hrest)
      · rw [walk_down_long hm, walk_down_long hm]

/-- A walk looks up the new entry in the one file system as in the other. -/
theorem passes_iff (h : fs.Gains names name node fs') :
    fs'.Passes fits (names ++ [name]) links front ms ↔
      fs.Passes fits (names ++ [name]) links front ms := by
  constructor
  · intro hp
    induction hp with
    | here hm heq => exact .here hm heq
    | stay _ ih => exact .stay ih
    | up _ ih => exact .up ih
    | @down _ front x _ hm hnode _ ih =>
        by_cases heq : front ++ [x] = names ++ [name]
        · exact .here hm heq
        · exact .down hm (h.node?_eq heq ▸ hnode) ih
    | @link _ front x _ _ hm hnode _ ih =>
        by_cases heq : front ++ [x] = names ++ [name]
        · exact .here hm heq
        · exact .link hm (h.node?_eq heq ▸ hnode) ih
  · intro hp
    have hold : ∀ {key : List Bytes} {found : Node}, fs.node? key = some found →
        fs'.node? key = some found := by
      intro key found hfound
      rw [h.node?_eq, hfound]
      rintro rfl
      cases hfound.symm.trans h.node?_before
    induction hp with
    | here hm heq => exact .here hm heq
    | stay _ ih => exact .stay ih
    | up _ ih => exact .up ih
    | down hm hnode _ ih => exact .down hm (hold hnode) ih
    | link hm hnode _ ih => exact .link hm (hold hnode) ih

theorem absolute_eq (h : fs.Gains names name node fs') : fs'.absolute p = fs.absolute p := by
  rw [absolute, absolute, h.workingDirectory]

theorem walkPath_spelled (fits : List Bytes → Bool) (h0 : p.octets.contains 0 = false)
    (hsome : p.octets.isEmpty = false) :
    fs.walkPath fits p = fs.walk fits linkBudget [] (moves (fs.absolute p)) := by
  rw [walkPath, h0, hsome, if_neg Bool.false_ne_true, if_neg Bool.false_ne_true]

/-- A path leads to the same place as before, or else led nowhere and looks up the new entry. -/
theorem walkPath_eq_or (h : fs.Gains names name node fs') (fits : List Bytes → Bool) (p : Path) :
    fs'.walkPath fits p = fs.walkPath fits p ∨
      fs.walkPath fits p = .error .notFound ∧ p.octets.contains 0 = false ∧
        p.octets.isEmpty = false ∧
        fs.Passes fits (names ++ [name]) linkBudget [] (moves (fs.absolute p)) := by
  cases h0 : p.octets.contains 0 with
  | true =>
      left
      rw [walkPath, walkPath, if_pos h0, if_pos h0]
  | false =>
      cases hsome : p.octets.isEmpty with
      | true =>
          left
          rw [walkPath, walkPath, if_pos hsome, if_pos hsome]
      | false =>
          rw [walkPath_spelled fits h0 hsome, walkPath_spelled fits h0 hsome, h.absolute_eq]
          by_cases hp : fs.Passes fits (names ++ [name]) linkBudget [] (moves (fs.absolute p))
          · exact .inr ⟨h.walk_of_passes hp, rfl, rfl, hp⟩
          · exact .inl (h.walk_of_not_passes hp)

theorem canonicalize_of_not_leadsThrough (h : fs.Gains names name node fs')
    (hp : ¬ fs'.LeadsThrough (names ++ [name]) p) : fs'.canonicalize p = fs.canonicalize p := by
  rcases h.walkPath_eq_or isShort p with heq | ⟨_, h0, hsome, hpasses⟩
  · rw [canonicalize, canonicalize, canonicalPlace, canonicalPlace, heq]
  · refine absurd ⟨h0, hsome, ?_⟩ hp
    rw [h.absolute_eq]
    exact h.passes_iff.2 hpasses

/-- A path that led somewhere before does not lead through the new entry. -/
theorem not_leadsThrough (h : fs.Gains names name node fs') (hp : fs.canonicalize p = .ok q) :
    ¬ fs'.LeadsThrough (names ++ [name]) p := by
  rintro ⟨h0, hsome, hpasses⟩
  rw [h.absolute_eq, h.passes_iff] at hpasses
  rw [canonicalize, canonicalPlace, walkPath_spelled isShort h0 hsome, h.walk_of_passes hpasses] at hp
  cases hp

end Walks

end Gains

section Members

variable {fs fs' : FileSystem} {names : List Bytes} {name x : Bytes} {node : Node}
variable {fits : List Bytes → Bool} {place goal : Place} {p : Path}

section Children

theorem Gains.spellable_child (h : fs.Gains names name node fs') (hx : x ∈ fs'.children names) :
    Spellable x :=
  h.spellable _ (IndexPlan.mem_children_iff.1 hx) x (by simp)

/-- A walk to an entry of a directory goes on from the directory. -/
theorem reaches_of_walkPath (hd : Place.Settled fs ⟨names, .directory⟩) (hx : Spellable x)
    (h : fs.walkPath fits (Path.ofNames (names ++ [x])) = .ok place) :
    fs.Reaches names [.down x] place := by
  have habs : fs.absolute (Path.ofNames (names ++ [x])) = Path.ofNames (names ++ [x]) :=
    Path.join_of_isAbsolute _ (by simp [Path.isAbsolute, Path.ofNames])
  have hspellable : ∀ y ∈ names ++ [x], Spellable y := by
    intro y hy
    rcases List.mem_append.1 hy with hy | hy
    · exact hd.spellable y hy
    · rw [List.mem_singleton.1 hy]
      exact hx
  unfold walkPath at h
  split at h
  · cases h
  · split at h
    · cases h
    · rw [habs, moves_ofNames (by simp) hspellable, List.map_append] at h
      exact .of_down hd (List.nil_append names) (reaches_of_walk h)

end Children

section Lengths

theorem walkPath_of_fits_or (fits : List Bytes → Bool) (p : Path) :
    fs.walkPath fits p = .error .nameTooLong ∨
      fs.walkPath fits p = fs.walkPath (fun _ => true) p := by
  unfold walkPath
  split
  · exact .inr rfl
  · split
    · exact .inr rfl
    · exact walk_of_fits_or _

/-- A path that can be located is canonical, unless what leads there is too long. -/
theorem canonicalize_of_locate (h : fs.locate p = .ok place) :
    fs.canonicalize p = .error .nameTooLong ∨ fs.canonicalize p = .ok (Path.ofNames place.names) := by
  rcases fs.walkPath_of_fits_or isShort p with hlong | hsame
  · left
    rw [canonicalize, canonicalPlace, hlong]
    rfl
  · right
    rw [canonicalize, canonicalPlace, hsame, walkPath_of_locate h]
    rfl

/-- Whether a path is too long to be located does not depend on the entries. -/
theorem locate_eq_walkPath (h : fs'.locate p = .ok place) :
    fs.locate p = fs.walkPath (fun _ => true) p := by
  unfold locate at h ⊢
  split at h
  · cases h
  · rename_i hshort
    rw [if_neg hshort]

end Lengths

section Joining

/-- What is found now and was not found before is what the new entry leads to, if that is a
file. -/
theorem Gains.walkPath_cases (h : fs.Gains names name node fs')
    (hgoal : fs'.Reaches names [.down name] goal) (hfile : goal.node.isFile = true)
    (hp : fs'.walkPath fits p = .ok place) :
    fs.walkPath fits p = .ok place ∨ fs.walkPath fits p = .error .notFound ∧ place = goal := by
  rcases h.walkPath_eq_or fits p with heq | ⟨hnone, h0, hsome, hpasses⟩
  · left
    rw [← heq, hp]
  · right
    rw [walkPath_spelled fits h0 hsome, h.absolute_eq] at hp
    obtain ⟨rest, hrest⟩ := (h.passes_iff.2 hpasses).reaches (reaches_of_walk hp)
    exact ⟨hnone, (hgoal.unique hfile hrest).2⟩

theorem Gains.locate_cases (h : fs.Gains names name node fs')
    (hgoal : fs'.Reaches names [.down name] goal) (hfile : goal.node.isFile = true)
    (hp : fs'.locate p = .ok place) :
    fs.locate p = .ok place ∨ fs.locate p = .error .notFound ∧ place = goal := by
  rw [locate_eq_walkPath hp]
  exact h.walkPath_cases hgoal hfile (walkPath_of_locate hp)

/-- An old entry of the directory that leads to a file now, and led nowhere before, is a link. -/
theorem Gains.exists_target (h : fs.Gains names name node fs')
    (hd : Place.Settled fs ⟨names, .directory⟩) (hd' : Place.Settled fs' ⟨names, .directory⟩)
    (hx : Spellable x) (hne : x ≠ name)
    (hold : fs.locate (Path.ofNames (names ++ [x])) = .error .notFound)
    (hnew : fs'.locate (Path.ofNames (names ++ [x])) = .ok place)
    (hfile : place.node.isFile = true) :
    ∃ target, fs.node? (names ++ [x]) = some (.link target) := by
  have hwalk := walkPath_of_locate hnew
  have hnode : fs'.node? (names ++ [x]) = fs.node? (names ++ [x]) := by
    refine h.node?_eq fun heq => hne ?_
    simpa using heq
  rw [← hnode]
  rcases reaches_down_iff.1 (reaches_of_walkPath hd' hx hwalk) with
    ⟨_, hdone⟩ | ⟨content, hcontent, -, rfl⟩ | ⟨target, hlink, -⟩
  · cases hdone
    cases hfile
  · -- a file could be found before
    have hsettled : Place.Settled fs ⟨names ++ [x], .file content⟩ :=
      hd.down hx (hnode ▸ hcontent) nofun
    have h0 : ¬ (Path.ofNames (names ++ [x])).octets.contains 0 := by
      intro h0
      rw [walkPath, if_pos h0] at hwalk
      cases hwalk
    rw [locate_eq_walkPath hnew, walkPath_ofNames_eq_ok hsettled (walkPath_fits hwalk) h0] at hold
    cases hold
  · exact ⟨target, hlink⟩

theorem isFile_iff : fs.isFile p = true ↔ ∃ place, fs.locate p = .ok place ∧ place.node.isFile = true := by
  rw [isFile, entry]
  cases fs.locate p with
  | error f => simp [Except.map]
  | ok place =>
      obtain ⟨names, node⟩ := place
      cases node <;> simp [Except.map, Node.isFile]

end Joining

end Members

end FileSystem
end SchemaSet
