import SchemaSet.Proofs.CanonicalPath

/-!
# Walks through a file system

A walk goes from a place along the parts of a path.  It only comes to names that fit,
`FileSystem.Fits`: none is too long, and neither is a path to any of them (`walk_fits`).  A walk is
cut short by the length of names, or not at all (`walk_of_fits_or`).

Names that fit and lead over directories only are walked one by one (`walkFrom_down`).  So a
canonical path can be canonicalized again, unless it holds a NUL: what canonicalizing results in is
canonical (`canonical_of_canonicalize`).

`Passes` says that a walk looks up some names on its way, and `Reaches` follows a walk that ends,
whatever it must not exceed.  A walk that passes a file ends there (`Reaches.unique`,
`Passes.reaches`).
-/

namespace SchemaSet
namespace FileSystem

/-- Names that are not too long to be walked. -/
def Fits (fits : List Bytes → Bool) (names : List Bytes) : Prop :=
  ∀ front name rest, names = front ++ name :: rest →
    name.length ≤ nameBound ∧ fits (front ++ [name]) = true

/-- A path that spells the names of a place where it leads without links, and that canonicalizing
leaves as it is. -/
structure Canonical (fs : FileSystem) (p : Path) : Prop where
  settled : ∃ place, Place.Settled fs place ∧ p = Path.ofNames place.names
  /-- Canonicalizing leaves it as it is. -/
  fixed : ¬ p.octets.contains 0 → fs.canonicalize p = .ok p

variable {fs : FileSystem} {fits : List Bytes → Bool}

section Fitting

theorem fits_top : Fits fits [] := by
  intro front name rest h
  simp at h

theorem Fits.up {names : List Bytes} (h : Fits fits names) : Fits fits names.dropLast := by
  intro front name rest heq
  rcases List.eq_nil_or_concat' names with rfl | ⟨init, last, rfl⟩
  · simp at heq
  · rw [List.dropLast_concat] at heq
    exact h front name (rest ++ [last]) (by simp [heq])

theorem Fits.down {names : List Bytes} (h : Fits fits names) {name : Bytes}
    (hn : name.length ≤ nameBound) (hf : fits (names ++ [name]) = true) :
    Fits fits (names ++ [name]) := by
  intro front x rest heq
  rcases List.eq_nil_or_concat' rest with rfl | ⟨init, last, rfl⟩
  · obtain ⟨rfl, hx⟩ := List.append_inj' heq rfl
    cases hx
    exact ⟨hn, hf⟩
  · have hinit : names ++ [name] = (front ++ x :: init) ++ [last] := by simp [heq]
    exact h front x init (List.append_inj' hinit rfl).1

/-- One walk without links ends at names that fit, if what follows a link does. -/
theorem walkFrom_fits {follow : List Bytes → List Move → Except Fault Place}
    (hf : ∀ names ms place, Fits fits names → follow names ms = .ok place → Fits fits place.names)
    {names : List Bytes} {node : Node} {ms : List Move} {place : Place} (hn : Fits fits names)
    (h : fs.walkFrom fits follow names node ms = .ok place) :
    Fits fits place.names := by
  induction ms generalizing names node with
  | nil =>
      cases Except.ok.inj h
      exact hn
  | cons m rest ih =>
      cases node with
      | file _ => cases h
      | link _ => cases h
      | directory =>
          cases m with
          | stay => exact ih hn h
          | up => exact ih hn.up h
          | down name =>
              simp only [walkFrom] at h
              split at h
              · cases h
              · rename_i hfits
                simp only [Bool.or_eq_true, decide_eq_true_eq, Bool.not_eq_true', not_or,
                  Bool.not_eq_false, Nat.not_lt] at hfits
                split at h
                · cases h
                · refine hf _ _ _ ?_ h
                  unfold start
                  split
                  · exact fits_top
                  · exact hn
                · exact ih (hn.down hfits.1 hfits.2) h

/-- A walk ends at names that fit. -/
theorem walk_fits {links : Nat} {names : List Bytes} {ms : List Move} {place : Place}
    (hn : Fits fits names) (h : fs.walk fits links names ms = .ok place) :
    Fits fits place.names := by
  induction links generalizing names ms place with
  | zero =>
      refine walkFrom_fits ?_ hn h
      intro _ _ _ _ hfollow
      cases hfollow
  | succ links ih => exact walkFrom_fits (fun _ _ _ hn h => ih hn h) hn h

theorem walkPath_fits {p : Path} {place : Place} (h : fs.walkPath fits p = .ok place) :
    Fits fits place.names := by
  unfold walkPath at h
  split at h
  · cases h
  · split at h
    · cases h
    · exact walk_fits fits_top h

end Fitting

section Descending

variable {goal : Place}

/-- A walk down along the names of a settled place goes on from there. -/
theorem walkFrom_down (hg : Place.Settled fs goal) (hf : Fits fits goal.names)
    (follow : List Bytes → List Move → Except Fault Place) {ahead names : List Bytes} {node : Node}
    (hn : names ++ ahead = goal.names) (hnode : fs.node? names = some node) (rest : List Move) :
    fs.walkFrom fits follow names node (ahead.map .down ++ rest) =
      fs.walkFrom fits follow goal.names goal.node rest := by
  induction ahead generalizing names node with
  | nil =>
      rw [List.append_nil] at hn
      rw [hn, hg.here] at hnode
      cases Option.some.inj hnode
      rw [hn]
      rfl
  | cons name ahead ih =>
      have hdir : node = .directory := by
        have := hg.above names.length (by rw [← hn]; simp)
        rw [← hn, List.take_left, hnode] at this
        exact Option.some.inj this
      subst hdir
      obtain ⟨hlength, hfits⟩ := hf names name ahead hn.symm
      have hn' : (names ++ [name]) ++ ahead = goal.names := by simpa using hn
      have hshort : ¬ ((decide (nameBound < name.length) || !fits (names ++ [name])) = true) := by
        simp [hfits, hlength]
      simp only [List.map_cons, List.cons_append, walkFrom]
      rw [if_neg hshort]
      cases ahead with
      | nil =>
          rw [List.append_nil] at hn'
          have hlast : fs.node? (names ++ [name]) = some goal.node := hn' ▸ hg.here
          rw [hlast]
          split
          · rename_i heq
            cases heq
          · rename_i target heq
            exact absurd (Option.some.inj heq) (hg.unlinked target)
          · rename_i next _ heq
            cases Option.some.inj heq
            exact ih (by rw [List.append_nil]; exact hn') hlast
      | cons next ahead =>
          have hmid := hg.above (names ++ [name]).length (by rw [← hn']; simp)
          rw [← hn', List.take_left] at hmid
          rw [hmid]
          exact ih hn' hmid

/-- A path that spells the names of a settled place leads there, if it may. -/
theorem walkPath_ofNames_eq_ok (hg : Place.Settled fs goal) (hf : Fits fits goal.names)
    (h0 : ¬ (Path.ofNames goal.names).octets.contains 0) :
    fs.walkPath fits (Path.ofNames goal.names) = .ok goal := by
  have habs : fs.absolute (Path.ofNames goal.names) = Path.ofNames goal.names :=
    Path.join_of_isAbsolute _ (by simp [Path.isAbsolute, Path.ofNames])
  have hsome : ¬ (Path.ofNames goal.names).octets.isEmpty = true := by simp [Path.ofNames]
  rw [walkPath, if_neg h0, if_neg hsome, habs]
  by_cases hn : goal.names = []
  · have hnode : goal.node = .directory := by
      have := hg.here
      rw [hn] at this
      exact (Option.some.inj this).symm
    obtain ⟨names, node⟩ := goal
    cases hn
    cases hnode
    rfl
  · rw [moves_ofNames hn hg.spellable]
    have hdown := fun follow => walkFrom_down hg hf follow (List.nil_append _) rfl []
    simp only [List.append_nil] at hdown
    exact hdown _

/-- What canonicalizing results in is canonical. -/
theorem canonical_of_canonicalize {p q : Path} (h : fs.canonicalize q = .ok p) :
    Canonical fs p := by
  obtain ⟨place, hplace, rfl⟩ := canonicalize_ofNames h
  have hsettled := canonicalPlace_settled hplace
  refine ⟨⟨place, hsettled, rfl⟩, fun h0 => ?_⟩
  rw [canonicalize, canonicalPlace, walkPath_ofNames_eq_ok hsettled (walkPath_fits hplace) h0]
  rfl

end Descending

section Walking

variable (fs : FileSystem) (fits : List Bytes → Bool)

/-- A name in a directory is not too long to be looked up. -/
def MayLookUp (names : List Bytes) (name : Bytes) : Prop :=
  (nameBound < name.length || !fits (names ++ [name])) = false

instance (names : List Bytes) (name : Bytes) : Decidable (MayLookUp fits names name) :=
  inferInstanceAs (Decidable (_ = false))

/-- A walk that may follow some more links looks up the names of an entry. -/
inductive Passes (goal : List Bytes) : (links : Nat) → List Bytes → List Move → Prop
  | here {links : Nat} {names : List Bytes} {name : Bytes} {rest : List Move} :
      MayLookUp fits names name → names ++ [name] = goal → Passes goal links names (.down name :: rest)
  | stay {links : Nat} {names : List Bytes} {rest : List Move} :
      Passes goal links names rest → Passes goal links names (.stay :: rest)
  | up {links : Nat} {names : List Bytes} {rest : List Move} :
      Passes goal links names.dropLast rest → Passes goal links names (.up :: rest)
  | down {links : Nat} {names : List Bytes} {name : Bytes} {rest : List Move} :
      MayLookUp fits names name → fs.node? (names ++ [name]) = some .directory →
      Passes goal links (names ++ [name]) rest → Passes goal links names (.down name :: rest)
  | link {links : Nat} {names : List Bytes} {name : Bytes} {rest : List Move} {target : Path} :
      MayLookUp fits names name → fs.node? (names ++ [name]) = some (.link target) →
      Passes goal links (start names target) (moves target ++ rest) →
      Passes goal (links + 1) names (.down name :: rest)

/-- A walk ends at a place. -/
inductive Reaches : List Bytes → List Move → Place → Prop
  | done (names : List Bytes) : Reaches names [] ⟨names, .directory⟩
  | stay {names : List Bytes} {rest : List Move} {place : Place} :
      Reaches names rest place → Reaches names (.stay :: rest) place
  | up {names : List Bytes} {rest : List Move} {place : Place} :
      Reaches names.dropLast rest place → Reaches names (.up :: rest) place
  | down {names : List Bytes} {name : Bytes} {rest : List Move} {place : Place} :
      fs.node? (names ++ [name]) = some .directory → Reaches (names ++ [name]) rest place →
      Reaches names (.down name :: rest) place
  | file {names : List Bytes} {name content : Bytes} :
      fs.node? (names ++ [name]) = some (.file content) →
      Reaches names [.down name] ⟨names ++ [name], .file content⟩
  | link {names : List Bytes} {name : Bytes} {rest : List Move} {target : Path} {place : Place} :
      fs.node? (names ++ [name]) = some (.link target) →
      Reaches (start names target) (moves target ++ rest) place →
      Reaches names (.down name :: rest) place

variable {fs fits} {links : Nat} {names : List Bytes} {name : Bytes} {rest : List Move}

/-- What is shown of a walk move by move, and of what follows a link, is shown of all walks. -/
theorem walk_induction (fs : FileSystem) {P : Nat → List Bytes → List Move → Prop}
    (nil : ∀ links names, P links names [])
    (stay : ∀ links names rest, P links names rest → P links names (.stay :: rest))
    (up : ∀ links names rest, P links names.dropLast rest → P links names (.up :: rest))
    (down : ∀ links names name rest,
      (fs.node? (names ++ [name]) = some .directory → P links (names ++ [name]) rest) →
      (∀ fewer target, links = fewer + 1 → fs.node? (names ++ [name]) = some (.link target) →
        P fewer (start names target) (moves target ++ rest)) →
      P links names (.down name :: rest)) :
    ∀ links names ms, P links names ms := by
  intro links
  induction links with
  | zero =>
      intro names ms
      induction ms generalizing names with
      | nil => exact nil 0 names
      | cons m rest ih =>
          cases m with
          | stay => exact stay 0 names rest (ih names)
          | up => exact up 0 names rest (ih _)
          | down name => exact down 0 names name rest (fun _ => ih _) nofun
  | succ links ihl =>
      intro names ms
      induction ms generalizing names with
      | nil => exact nil _ names
      | cons m rest ih =>
          cases m with
          | stay => exact stay _ names rest (ih names)
          | up => exact up _ names rest (ih _)
          | down name =>
              refine down _ names name rest (fun _ => ih _) fun fewer target heq _ => ?_
              cases heq
              exact ihl _ _

theorem walk_nil : fs.walk fits links names [] = .ok ⟨names, .directory⟩ := by cases links <;> rfl

theorem walk_stay :
    fs.walk fits links names (.stay :: rest) = fs.walk fits links names rest := by
  cases links <;> rfl

theorem walk_up :
    fs.walk fits links names (.up :: rest) = fs.walk fits links names.dropLast rest := by
  cases links <;> rfl

theorem walk_down_long (h : ¬ MayLookUp fits names name) :
    fs.walk fits links names (.down name :: rest) = .error .nameTooLong := by
  rw [MayLookUp, Bool.not_eq_false] at h
  cases links <;> simp only [walk, walkFrom, h, if_true]

theorem walk_down (h : MayLookUp fits names name) :
    fs.walk fits links names (.down name :: rest) =
      match fs.node? (names ++ [name]) with
      | none => .error .notFound
      | some .directory => fs.walk fits links (names ++ [name]) rest
      | some (.file content) =>
          if rest = [] then .ok ⟨names ++ [name], .file content⟩ else .error .notDirectory
      | some (.link target) =>
          match links with
          | 0 => .error .tooManyLinks
          | fewer + 1 => fs.walk fits fewer (start names target) (moves target ++ rest) := by
  rw [MayLookUp] at h
  cases links with
  | zero =>
      simp only [walk, walkFrom, h]
      cases fs.node? (names ++ [name]) with
      | none => rfl
      | some node =>
          cases node with
          | file content => cases rest <;> rfl
          | directory => rfl
          | link target => rfl
  | succ links =>
      simp only [walk, walkFrom, h]
      cases fs.node? (names ++ [name]) with
      | none => rfl
      | some node =>
          cases node with
          | file content => cases rest <;> rfl
          | directory => rfl
          | link target => rfl

/-- A walk that ends reaches a place. -/
theorem reaches_of_walk {ms : List Move} {place : Place} (h : fs.walk fits links names ms = .ok place) :
    fs.Reaches names ms place := by
  revert h
  induction links, names, ms using fs.walk_induction with
  | nil links names =>
      intro h
      rw [walk_nil] at h
      cases h
      exact .done names
  | stay links names rest ih =>
      rw [walk_stay]
      exact fun h => .stay (ih h)
  | up links names rest ih =>
      rw [walk_up]
      exact fun h => .up (ih h)
  | down links names name rest ihdown ihlink =>
      intro h
      by_cases hm : MayLookUp fits names name
      · rw [walk_down hm] at h
        cases hnode : fs.node? (names ++ [name]) with
        | none =>
            rw [hnode] at h
            cases h
        | some node =>
            rw [hnode] at h
            cases node with
            | file content =>
                dsimp only at h
                split at h
                · rename_i hrest
                  cases h
                  subst hrest
                  exact .file hnode
                · cases h
            | directory => exact .down hnode (ihdown hnode h)
            | link target =>
                cases links with
                | zero => cases h
                | succ fewer => exact .link hnode (ihlink fewer target rfl hnode h)
      · rw [walk_down_long hm] at h
        cases h

/-- A walk is cut short by the length of names, or not at all. -/
theorem walk_of_fits_or (ms : List Move) :
    fs.walk fits links names ms = .error .nameTooLong ∨
      fs.walk fits links names ms = fs.walk (fun _ => true) links names ms := by
  induction links, names, ms using fs.walk_induction with
  | nil links names => exact .inr (by rw [walk_nil, walk_nil])
  | stay links names rest ih => rwa [walk_stay, walk_stay]
  | up links names rest ih => rwa [walk_up, walk_up]
  | down links names name rest ihdown ihlink =>
      by_cases hm : MayLookUp fits names name
      · have hm' : MayLookUp (fun _ => true) names name := by
          simp only [MayLookUp, Bool.or_eq_false_iff] at hm
          simp [MayLookUp, hm.1]
        rw [walk_down hm, walk_down hm']
        cases hnode : fs.node? (names ++ [name]) with
        | none => exact .inr rfl
        | some node =>
            cases node with
            | file content => exact .inr rfl
            | directory => exact ihdown hnode
            | link target =>
                cases links with
                | zero => exact .inr rfl
                | succ fewer => exact ihlink fewer target rfl hnode
      · exact .inl (walk_down_long hm)

end Walking

section Ends

variable {fs : FileSystem} {fits : List Bytes → Bool} {links : Nat} {names : List Bytes}
variable {name : Bytes} {ms rest : List Move} {goal place : Place}

theorem reaches_down_iff :
    fs.Reaches names (.down name :: rest) place ↔
      (fs.node? (names ++ [name]) = some .directory ∧ fs.Reaches (names ++ [name]) rest place) ∨
      (∃ content, fs.node? (names ++ [name]) = some (.file content) ∧ rest = [] ∧
        place = ⟨names ++ [name], .file content⟩) ∨
      ∃ target, fs.node? (names ++ [name]) = some (.link target) ∧
        fs.Reaches (start names target) (moves target ++ rest) place := by
  constructor
  · generalize hms : Move.down name :: rest = ms
    intro h
    cases h with
    | done _ => cases hms
    | stay _ => cases hms
    | up _ => cases hms
    | down hnode h =>
        cases hms
        exact .inl ⟨hnode, h⟩
    | file hnode =>
        cases hms
        exact .inr (.inl ⟨_, hnode, rfl, rfl⟩)
    | link hnode h =>
        cases hms
        exact .inr (.inr ⟨_, hnode, h⟩)
  · rintro (⟨hnode, h⟩ | ⟨content, hnode, rfl, rfl⟩ | ⟨target, hnode, h⟩)
    · exact .down hnode h
    · exact .file hnode
    · exact .link hnode h

theorem Reaches.of_directory (h : fs.Reaches names (.down name :: rest) place)
    (hnode : fs.node? (names ++ [name]) = some .directory) :
    fs.Reaches (names ++ [name]) rest place := by
  rcases reaches_down_iff.1 h with ⟨_, h⟩ | ⟨_, hother, _⟩ | ⟨_, hother, _⟩
  · exact h
  · cases hnode.symm.trans hother
  · cases hnode.symm.trans hother

theorem Reaches.of_file {content : Bytes} (h : fs.Reaches names (.down name :: rest) place)
    (hnode : fs.node? (names ++ [name]) = some (.file content)) :
    rest = [] ∧ place = ⟨names ++ [name], .file content⟩ := by
  rcases reaches_down_iff.1 h with ⟨hother, _⟩ | ⟨_, hsame, hend⟩ | ⟨_, hother, _⟩
  · cases hnode.symm.trans hother
  · cases hnode.symm.trans hsame
    exact hend
  · cases hnode.symm.trans hother

theorem Reaches.of_link {target : Path} (h : fs.Reaches names (.down name :: rest) place)
    (hnode : fs.node? (names ++ [name]) = some (.link target)) :
    fs.Reaches (start names target) (moves target ++ rest) place := by
  rcases reaches_down_iff.1 h with ⟨hother, _⟩ | ⟨_, hother, _⟩ | ⟨_, hsame, h⟩
  · cases hnode.symm.trans hother
  · cases hnode.symm.trans hother
  · cases hnode.symm.trans hsame
    exact h

/-- A walk that comes to a file ends there. -/
theorem Reaches.unique (h : fs.Reaches names ms goal) (hfile : goal.node.isFile = true)
    (h' : fs.Reaches names (ms ++ rest) place) : rest = [] ∧ place = goal := by
  induction h generalizing place with
  | done names => cases hfile
  | stay _ ih =>
      cases h' with
      | stay h' => exact ih hfile h'
  | up _ ih =>
      cases h' with
      | up h' => exact ih hfile h'
  | down hnode _ ih => exact ih hfile (of_directory h' hnode)
  | file hnode => exact of_file h' hnode
  | link hnode _ ih =>
      refine ih hfile ?_
      rw [List.append_assoc]
      exact of_link h' hnode

/-- A walk that passes an entry goes on from there. -/
theorem Passes.reaches {directory : List Bytes}
    (h : fs.Passes fits (directory ++ [name]) links names ms) (h' : fs.Reaches names ms place) :
    ∃ rest, fs.Reaches directory (.down name :: rest) place := by
  induction h with
  | here _ heq =>
      obtain ⟨rfl, hname⟩ := List.append_inj' heq rfl
      cases hname
      exact ⟨_, h'⟩
  | stay _ ih =>
      cases h' with
      | stay h' => exact ih h'
  | up _ ih =>
      cases h' with
      | up h' => exact ih h'
  | down _ hnode _ ih => exact ih (h'.of_directory hnode)
  | link _ hnode _ ih => exact ih (h'.of_link hnode)

/-- A walk down along the names of a directory goes on from there. -/
theorem Reaches.of_down (hg : Place.Settled fs ⟨names, .directory⟩) {front ahead : List Bytes}
    (heq : front ++ ahead = names) (h : fs.Reaches front (ahead.map .down ++ ms) place) :
    fs.Reaches names ms place := by
  induction ahead generalizing front with
  | nil =>
      rw [List.append_nil] at heq
      exact heq ▸ h
  | cons name ahead ih =>
      have heq' : (front ++ [name]) ++ ahead = names := by simpa using heq
      have hnode : fs.node? (front ++ [name]) = some .directory := by
        cases ahead with
        | nil =>
            rw [List.append_nil] at heq'
            exact heq' ▸ hg.here
        | cons next ahead =>
            have habove : (front ++ [name]).length < names.length := by
              rw [← heq']
              simp
            have hmid := hg.above _ habove
            rwa [show (⟨names, .directory⟩ : Place).names = names from rfl, ← heq',
              List.take_left] at hmid
      exact ih heq' (h.of_directory hnode)

end Ends

end FileSystem
end SchemaSet
