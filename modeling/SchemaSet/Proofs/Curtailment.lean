import SchemaSet.Schema.Compiler

/-!
# Computations that are cut short

One computation is made under two options, of which the first allow less than the second.
`Guards P x y` says that `x` ends as `y` does, or in an error that satisfies `P`.  `CutShort P j k`
says the same of journals, and that `j` notes what `k` notes up to that error.  Sequences of
computations that are cut short are cut short (`CutShort.bind`).

Options narrow others if every check that they add to a compilation fails with an error that
satisfies `P`.  No check is asked for anything but whether to go on, so that all parts of a
compilation under the narrow options are cut short, through any number of levels of documents:
`load_cutShort` for a traversal, `compile_cutShort` for a compilation.
-/

namespace SchemaSet

section Guards

variable {ε α β : Type} {P : ε → Prop} {x y : Except ε α}

/-- A result is another one, unless it is an error that satisfies `P`. -/
def Guards (P : ε → Prop) (x y : Except ε α) : Prop := x = y ∨ ∃ e, P e ∧ x = .error e

theorem Guards.refl (x : Except ε α) : Guards P x x := .inl rfl

theorem Guards.bind {f g : α → Except ε β} (h : Guards P x y)
    (hf : ∀ a, x = .ok a → Guards P (f a) (g a)) : Guards P (x >>= f) (y >>= g) := by
  rcases h with rfl | ⟨e, he, rfl⟩
  · cases x with
    | error e => exact .refl _
    | ok a => exact hf a rfl
  · exact .inr ⟨e, he, rfl⟩

theorem Guards.ok {a : α} (h : Guards P x y) (hx : x = .ok a) : y = .ok a := by
  rcases h with rfl | ⟨e, _, rfl⟩
  · exact hx
  · cases hx

theorem Guards.error {e : ε} (h : Guards P x y) (hx : x = .error e) (he : ¬ P e) :
    y = .error e := by
  rcases h with rfl | ⟨e', he', rfl⟩
  · exact hx
  · cases hx
    exact absurd he' he

end Guards

namespace Journal

variable {ν ε α β : Type} {P : ε → Prop} {j k : Journal ν ε α}

/-- A computation is another one, unless it stops on the way with an error that satisfies `P`. -/
def CutShort (P : ε → Prop) (j k : Journal ν ε α) : Prop :=
  j = k ∨ ∃ e, P e ∧ j.outcome = .error e ∧ j.notes <+: k.notes

namespace CutShort

theorem refl (j : Journal ν ε α) : CutShort P j j := .inl rfl

theorem lift {x y : Except ε α} (h : Guards P x y) :
    CutShort P (liftM x : Journal ν ε α) (liftM y) := by
  rcases h with rfl | ⟨e, he, rfl⟩
  · exact .refl _
  · exact .inr ⟨e, he, rfl, List.nil_prefix⟩

/-- A computation that fails is cut short. -/
theorem fail {e : ε} (he : P e) (f : α → Journal ν ε β) (k : Journal ν ε β) :
    CutShort P ((liftM (.error e : Except ε α) : Journal ν ε α) >>= f) k :=
  .inr ⟨e, he, rfl, List.nil_prefix⟩

/-- Sequences of computations that are cut short are cut short. -/
theorem bind {f g : α → Journal ν ε β} (h : CutShort P j k)
    (hf : ∀ a, j.outcome = .ok a → CutShort P (f a) (g a)) : CutShort P (j >>= f) (k >>= g) := by
  rcases h with rfl | ⟨e, he, ho, hnotes⟩
  · cases ho : j.outcome with
    | error e => exact .inl (by rw [bind_of_error ho, bind_of_error ho])
    | ok a =>
        rw [bind_of_ok ho, bind_of_ok ho]
        rcases hf a ho with heq | ⟨e, he, hoe, hprefix⟩
        · exact .inl (by rw [heq])
        · exact .inr ⟨e, he, hoe, (List.prefix_append_right_inj _).2 hprefix⟩
  · -- what comes next only adds notes to the longer computation
    rw [bind_of_error ho]
    refine .inr ⟨e, he, rfl, hnotes.trans ?_⟩
    rw [notes_bind]
    exact List.prefix_append _ _

/-- What comes after the same computation is cut short. -/
theorem after {f g : α → Journal ν ε β} (hf : ∀ a, j.outcome = .ok a → CutShort P (f a) (g a)) :
    CutShort P (j >>= f) (j >>= g) :=
  .bind (.refl j) hf

theorem guards (h : CutShort P j k) : Guards P j.outcome k.outcome := by
  rcases h with rfl | ⟨e, he, ho, _⟩
  · exact .refl _
  · exact .inr ⟨e, he, ho⟩

end CutShort

end Journal

/-- Some limits refuse all that others refuse; the errors that they add satisfy `P`. -/
def Limits.Narrows (P : Error → Prop) (l l' : Limits) : Prop :=
  ∀ what n, Guards P ((l.check what n).mapError Error.limit) ((l'.check what n).mapError .limit)

/-- Some options refuse all that others refuse; the errors that they add satisfy `P`. -/
structure CompileOptions.Narrows (P : Error → Prop) (o o' : CompileOptions) : Prop where
  limits : o.limits.Narrows P o'.limits
  /-- What cannot be located is an error under both or under none, or else of that kind. -/
  strict : o.strict = o'.strict ∨
    o.strict = true ∧ (∀ uri base, P (.unresolvedImport uri base)) ∧
      ∀ location base, P (.resource (.missingInclude location base))

namespace FileSystem

variable {P : Error → Prop} {l l' : Limits}

theorem readPath_guards (fs : FileSystem) (h : l.Narrows P l') (p : Path) :
    Guards P (fs.readPath l p) (fs.readPath l' p) := by
  unfold readPath
  split
  · exact .refl _
  · exact (h .documentSize _).bind fun _ _ => .refl _

theorem openPath_guards (fs : FileSystem) (h : l.Narrows P l') (p : Path) :
    Guards P (fs.openPath l p) (fs.openPath l' p) := by
  unfold openPath
  split
  · exact .refl _
  · split
    · exact .refl _
    · exact (h .documentSize _).bind fun _ _ => .refl _

theorem loadEncoded_guards (fs : FileSystem) (h : l.Narrows P l') (p : Path) :
    Guards P (fs.loadEncoded l (.path p)) (fs.loadEncoded l' (.path p)) :=
  (fs.readPath_guards h p).bind fun _ _ => .refl _

end FileSystem

namespace Setting

/-- The same documents and the same resolver under other options. -/
def under (s : Setting) (o : CompileOptions) : Setting := { s with options := o }

@[simp] theorem under_options (s : Setting) (o : CompileOptions) : (s.under o).options = o := rfl

open Journal (CutShort)

section Walking

variable {s : Setting} {P : Error → Prop} {o o' : CompileOptions}
variable {nested nested' : Path → Reason → Nat → List SchemaNode → Walk}

theorem readRoot_guards (h : o.Narrows P o') (p : Path) :
    Guards P ((s.under o).readRoot p) ((s.under o').readRoot p) :=
  (s.files.loadEncoded_guards h.limits p).bind fun _ _ => .refl _

/-- What `nested` opens is cut short. -/
def NestsShort (P : Error → Prop) (nested nested' : Path → Reason → Nat → List SchemaNode → Walk) :
    Prop :=
  ∀ p reason depth seen, CutShort P (nested p reason depth seen) (nested' p reason depth seen)

theorem followImport_cutShort (h : o.Narrows P o') (hn : NestsShort P nested nested')
    (n : SchemaNode) (depth : Nat) (seen : List SchemaNode) (uri location : Option String) :
    CutShort P ((s.under o).followImport nested n depth seen uri location)
      ((s.under o').followImport nested' n depth seen uri location) := by
  unfold followImport
  by_cases hown : uri = n.uri
  · rw [if_pos hown, if_pos hown]
    refine .after fun _ hthrow => ?_
    cases hthrow
  · rw [if_neg hown, if_neg hown]
    refine .after fun answer _ => ?_
    obtain ⟨target, named⟩ := answer
    refine .after fun _ _ => ?_
    cases target with
    | some p => exact hn p _ _ _
    | none =>
        dsimp only
        split
        · exact .refl _
        · rcases h.strict with hs | ⟨hs, himport, _⟩
          · rw [under_options, under_options, hs]
            exact .refl _
          · rw [under_options, if_pos hs]
            exact .inr ⟨_, himport _ _, rfl, List.nil_prefix⟩

theorem followInclude_cutShort (h : o.Narrows P o') (hn : NestsShort P nested nested')
    (n : SchemaNode) (depth : Nat) (seen : List SchemaNode) (element : String)
    (location : Option String) :
    CutShort P ((s.under o).followInclude nested n depth seen element location)
      ((s.under o').followInclude nested' n depth seen element location) := by
  cases location with
  | none => exact .refl _
  | some l =>
      refine .after fun answer _ => ?_
      obtain ⟨target, named⟩ := answer
      cases target with
      | some p => exact .after fun _ _ => hn p _ _ _
      | none =>
          rcases h.strict with hs | ⟨hs, _, hinclude⟩
          · dsimp only
            rw [under_options, under_options, hs]
            exact .refl _
          · dsimp only
            rw [under_options, if_pos hs]
            exact .inr ⟨_, hinclude _ _, rfl, List.nil_prefix⟩

theorem followItem_cutShort (h : o.Narrows P o') (hn : NestsShort P nested nested')
    (n : SchemaNode) (depth : Nat) (seen : List SchemaNode) (i : Schema.Item) :
    CutShort P ((s.under o).followItem nested n depth seen i)
      ((s.under o').followItem nested' n depth seen i) := by
  cases i with
  | importing uri location => exact followImport_cutShort h hn n depth seen uri location
  | including location => exact followInclude_cutShort h hn n depth seen "include" location
  | redefining location ds =>
      exact (followInclude_cutShort h hn n depth seen "redefine" location).bind fun _ _ => .refl _
  | declaring d => exact .refl _

theorem followItems_cutShort (h : o.Narrows P o') (hn : NestsShort P nested nested')
    (n : SchemaNode) (depth : Nat) (seen : List SchemaNode) (is : List Schema.Item) :
    CutShort P ((s.under o).followItems nested n depth seen is)
      ((s.under o').followItems nested' n depth seen is) := by
  induction is generalizing seen with
  | nil => exact .refl _
  | cons i rest ih => exact (followItem_cutShort h hn n depth seen i).bind fun out _ => ih out

theorem enter_cutShort (h : o.Narrows P o') (hn : NestsShort P nested nested')
    (n : SchemaNode) (root : Markup.Element) (depth : Nat) (seen : List SchemaNode) :
    CutShort P ((s.under o).enter nested n root depth seen)
      ((s.under o').enter nested' n root depth seen) := by
  refine CutShort.bind (.lift (h.limits .documents _)) fun _ _ => ?_
  refine .after fun _ _ => .after fun _ _ => ?_
  exact (followItems_cutShort h hn n depth _ _).bind fun _ _ => .refl _

theorem visit_cutShort (h : o.Narrows P o') (hn : NestsShort P nested nested') (p : Path)
    (reason : Reason) (depth : Nat) (seen : List SchemaNode) :
    CutShort P ((s.under o).visit nested p reason depth seen)
      ((s.under o').visit nested' p reason depth seen) := by
  unfold visit
  by_cases hany : reason.expected.any (fun uri => seen.contains ⟨p, uri⟩) = true
  · rw [if_pos hany, if_pos hany]
    exact .refl _
  · rw [if_neg hany, if_neg hany]
    refine CutShort.bind (.lift (h.limits .schemaDepth depth)) fun _ _ => ?_
    refine CutShort.bind (.lift (readRoot_guards h p)) fun root _ => .after fun uri _ => ?_
    split
    · exact .refl _
    · exact enter_cutShort h hn _ root depth seen

/-- Documents that are opened under narrower options are opened alike, up to an error that these
options add. -/
theorem load_cutShort (h : o.Narrows P o') (levels : Nat) :
    NestsShort P ((s.under o).load levels) ((s.under o').load levels) := by
  induction levels with
  | zero => exact fun _ _ _ _ => .refl _
  | succ levels ih => exact fun p reason depth seen => visit_cutShort h ih p reason depth seen

theorem register_guards {l l' : Limits} (h : l.Narrows P l') (t : Table) (c : Component) :
    Guards P (t.register l c) (t.register l' c) := by
  unfold Table.register
  split
  · exact .refl _
  · exact (h .schemaComponents _).bind fun _ _ => .refl _

theorem assemble_cutShort {l l' : Limits} (h : l.Narrows P l') (t : Table) (steps : List Step) :
    CutShort P (assemble l t steps) (assemble l' t steps) := by
  induction steps generalizing t with
  | nil => exact .refl _
  | cons step rest ih =>
      refine .after fun _ _ => ?_
      cases step with
      | declared c => exact CutShort.bind (.lift (register_guards h t c)) fun u _ => ih u
      | _ => exact ih t

/-- A compilation under narrower options is the same, up to an error that these options add. -/
theorem compile_cutShort (s : Setting) (h : o.Narrows P o') (entry : Path) :
    CutShort P ((s.under o).compile entry) ((s.under o').compile entry) := by
  refine .after fun answer _ => .after fun start _ => ?_
  have hwalk : CutShort P ((s.under o).traverse start) ((s.under o').traverse start) :=
    load_cutShort h _ start .entry 0 []
  dsimp only
  rcases hwalk with heq | ⟨e, he, ho, rest, hnotes⟩
  · rw [heq]
    exact (assemble_cutShort h.limits ∅ _).bind fun _ _ => .refl _
  · -- what was noted before the error is registered under both options
    rw [← hnotes, assemble_append, bind_assoc, ho]
    exact (assemble_cutShort h.limits ∅ _).bind fun _ _ => .fail he _ _

end Walking

end Setting
end SchemaSet
