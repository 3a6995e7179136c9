import SchemaSet.Proofs.Compiled
import SchemaSet.Proofs.Termination

/-!
# Imports that are not located

An import is not located if the resolver names no document for it and its written location leads to
no regular file.  It changes nothing, unless it is an error under the options, or its location is an
obstacle: a `file` URL that stands for no path, or a path that leads to something else than a file.

`Setting.traverseOver` opens documents as `Setting.traverse` does, but passes over some of their
imports.  `Alike` says of two computations that they end alike and that, apart from what concerns
imports only, they note the same.  A traversal and one that passes over some unlocated imports are
alike (`load_alike`).

So passing over unlocated imports does not change what a compilation ends in, apart from their
records; in a set that compiles they are recorded without a target, and none of their locations is
an obstacle (`unlocated_imports_pass`).  The last sample has a location that is one.
-/

namespace SchemaSet

/-- Whether a text is a `file` URL that stands for no path. -/
def Location.isForeign (s : String) : Bool :=
  match Url.parse s with
  | .ok u => u.scheme == "file" && u.toPath.isNone
  | .error _ => false

namespace Location

theorem join_of_isForeign {reference : String} (base : Path) (h : isForeign reference = true) :
    (Location.path base).join reference = .error (.resource (.foreignHost reference)) := by
  unfold isForeign at h
  unfold join parse
  cases hu : Url.parse reference with
  | error f => simp [hu] at h
  | ok u =>
      simp only [hu, Bool.and_eq_true, Option.isNone_iff_eq_none] at h
      simp only [h.1, h.2, if_true]
      rfl

theorem exists_parse {s : String} (h : isForeign s = false) : ∃ l, parse s = .ok l := by
  unfold isForeign at h
  unfold parse
  cases hu : Url.parse s with
  | error f => exact ⟨_, rfl⟩
  | ok u =>
      simp only [hu] at h
      by_cases hfile : (u.scheme == "file") = true
      · rw [hfile, Bool.true_and, Option.isNone_eq_false_iff] at h
        obtain ⟨p, hp⟩ := Option.isSome_iff_exists.1 h
        exact ⟨.path p, by simp [hfile, hp]⟩
      · by_cases hscheme : 1 < u.scheme.length
        · exact ⟨.url u, by simp [hfile, hscheme]⟩
        · exact ⟨.path (Path.ofString s), by simp [hfile, hscheme]⟩

theorem exists_join {reference : String} (base : Path) (h : isForeign reference = false) :
    ∃ l, (Location.path base).join reference = .ok l := by
  obtain ⟨l, hl⟩ := exists_parse h
  cases l with
  | path p =>
      by_cases ha : p.isAbsolute = true
      · exact ⟨.path p, join_path_of_isAbsolute hl ha⟩
      · refine ⟨.path ((base.parent.getD ⟨[]⟩).join p), ?_⟩
        simp [join, hl, ha, bind, Except.bind, pure, Except.pure]
  | url u => exact ⟨.url u, by simp [join, hl, bind, Except.bind, pure, Except.pure]⟩
  | memory text => exact ⟨.memory text, by simp [join, hl, bind, Except.bind, pure, Except.pure]⟩

end Location

/-- Whether a step has a part in what is compiled besides the records of imports. -/
def Step.isBare : Step → Bool
  | .opened _ _ => true
  | .included _ _ => true
  | .declared _ => true
  | .referred _ => true
  | _ => false

/-- The steps that have a part in what is compiled besides the records of imports. -/
def bare (steps : List Step) : List Step := steps.filter Step.isBare

def SchemaDocument.withoutImports (d : SchemaDocument) : SchemaDocument := { d with imports := [] }

/-- The same set without the records of imports. -/
def CompiledSet.withoutImports (c : CompiledSet) : CompiledSet :=
  { c with documents := c.documents.map SchemaDocument.withoutImports }

section Bare

theorem bare_append (a b : List Step) : bare (a ++ b) = bare a ++ bare b := List.filter_append ..

/-- A view that passes over all other steps can be taken of these. -/
theorem filterMap_bare {α : Type} {f : Step → Option α}
    (hf : ∀ step, step.isBare = false → f step = none) (steps : List Step) :
    (bare steps).filterMap f = steps.filterMap f := by
  induction steps with
  | nil => rfl
  | cons step rest ih =>
      cases hs : step.isBare with
      | true =>
          rw [bare, List.filter_cons_of_pos (by simpa using hs), List.filterMap_cons,
            List.filterMap_cons, ← ih, bare]
      | false =>
          rw [bare, List.filter_cons_of_neg (by simp [hs]), List.filterMap_cons_none (hf step hs),
            ← ih, bare]

theorem includesOf_bare (n : SchemaNode) (steps : List Step) :
    includesOf n (bare steps) = includesOf n steps :=
  filterMap_bare (fun step hs => by cases step <;> first | rfl | cases hs) steps

theorem referencesOf_bare (steps : List Step) : referencesOf (bare steps) = referencesOf steps :=
  filterMap_bare (fun step hs => by cases step <;> first | rfl | cases hs) steps

theorem declaredOf_bare (steps : List Step) : declaredOf (bare steps) = declaredOf steps :=
  filterMap_bare (fun step hs => by cases step <;> first | rfl | cases hs) steps

theorem documentsOf_bare (steps : List Step) :
    (documentsOf (bare steps)).map SchemaDocument.withoutImports =
      (documentsOf steps).map SchemaDocument.withoutImports := by
  unfold documentsOf
  rw [List.map_filterMap, List.map_filterMap, filterMap_bare]
  · simp only [includesOf_bare]
    congr 1
    funext step
    cases step <;> rfl
  · intro step hs
    cases step <;> first | rfl | cases hs

end Bare

/-- Two computations end alike and note the same apart from what concerns imports only. -/
structure Alike {α : Type} (j k : Journal Step Error α) : Prop where
  outcome : j.outcome = k.outcome
  notes : bare j.notes = bare k.notes

namespace Alike

variable {α β : Type} {j k : Journal Step Error α} {f g : α → Journal Step Error β}

theorem refl (j : Journal Step Error α) : Alike j j := ⟨rfl, rfl⟩

/-- Sequences of computations that are alike are alike. -/
theorem bind (h : Alike j k) (hf : ∀ a, j.outcome = .ok a → Alike (f a) (g a)) :
    Alike (j >>= f) (k >>= g) := by
  cases ho : j.outcome with
  | error e =>
      rw [Journal.bind_of_error ho, Journal.bind_of_error (h.outcome ▸ ho)]
      exact ⟨rfl, h.notes⟩
  | ok a =>
      rw [Journal.bind_of_ok ho, Journal.bind_of_ok (h.outcome ▸ ho)]
      refine ⟨(hf a ho).outcome, ?_⟩
      show bare (_ ++ _) = bare (_ ++ _)
      rw [bare_append, bare_append, h.notes, (hf a ho).notes]

theorem after (hf : ∀ a, j.outcome = .ok a → Alike (f a) (g a)) : Alike (j >>= f) (j >>= g) :=
  .bind (.refl j) hf

/-- A computation that adds nothing can be left out. -/
theorem skip {a : α} {m : Journal Step Error β} (h : Alike j (pure a)) (hf : Alike (f a) m) :
    Alike (j >>= f) m := by
  have hbind : Alike (j >>= f) (pure a >>= f) := .bind h fun b _ => .refl (f b)
  rw [pure_bind] at hbind
  exact ⟨hbind.outcome.trans hf.outcome, hbind.notes.trans hf.notes⟩

/-- A step of another kind adds nothing. -/
theorem note {step : Step} (h : step.isBare = false) :
    Alike (Journal.note step) (pure ()) where
  outcome := rfl
  notes := by
    show [step].filter Step.isBare = []
    simp [h]

end Alike

namespace Setting

section Passing

variable (s : Setting)

/-- Whether the target of an import in the document at `base` is not located: the resolver does not
name it, and the written location does not lead to a regular file. -/
def isUnlocated (base : Path) (uri location : Option String) : Bool :=
  !s.isNamed base uri location && !(location.bind (s.hinted? base)).any s.files.isFile

/-- Whether a location written in the document at `base` is an obstacle if it leads to no regular
file: it is a `file` URL that stands for no path, or leads to something else. -/
def isObstacle (base : Path) (location : Option String) : Bool :=
  location.any fun l => Location.isForeign l || (s.hinted? base l).isSome

/-- Whether an item of a node is an unlocated import that is no error. -/
def passes (n : SchemaNode) : Schema.Item → Bool
  | .importing uri location =>
      uri != n.uri && s.isUnlocated n.path uri location && !s.isObstacle n.path location &&
        (!s.options.strict || needsNoDocument uri)
  | _ => false

variable (skips : SchemaNode → Schema.Item → Bool)

/-- Opens a node as `enter` does, but passes over some of its items. -/
def enterOver (nested : Path → Reason → Nat → List SchemaNode → Walk) (node : SchemaNode)
    (root : Markup.Element) (depth : Nat) (seen : List SchemaNode) : Walk := do
  let seen := seen ++ [node]
  (s.options.limits.check .documents seen.length).mapError Error.limit
  let chameleon := Schema.adopts root node.uri
  Journal.note (.opened node chameleon)
  Journal.note (.told (.documentOpened node.path node.uri chameleon depth))
  let seen ← s.followItems nested node depth seen
    ((Schema.items root).filter fun i => !skips node i)
  referAll node.path (Schema.adopted root node.uri) (Schema.tokens root)
  return seen

/-- Opens a document as `visit` does, but passes over some items. -/
def visitOver (nested : Path → Reason → Nat → List SchemaNode → Walk) (p : Path)
    (reason : Reason) (depth : Nat) (seen : List SchemaNode) : Walk := do
  if reason.expected.any (fun uri => seen.contains ⟨p, uri⟩) then return seen
  (s.options.limits.check .schemaDepth depth).mapError Error.limit
  let root ← s.readRoot p
  let uri ← effective p reason (Schema.declaredNamespace root)
  if seen.contains ⟨p, uri⟩ then return seen
  s.enterOver skips nested ⟨p, uri⟩ root depth seen

/-- Opens a document as `load` does, but passes over some items. -/
def loadOver : (n : Nat) → Path → Reason → Nat → List SchemaNode → Walk
  | 0, _, _, _, seen => .done seen
  | n + 1, p, reason, depth, seen => s.visitOver skips (loadOver n) p reason depth seen

/-- Opens the entry document and all that it leads to, but passes over some items. -/
def traverseOver (entry : Path) : Walk := s.loadOver skips s.budget entry .entry 0 []

/-- Without items to pass over, documents are opened as by `load`. -/
theorem loadOver_nothing (levels : Nat) : s.loadOver (fun _ _ => false) levels = s.load levels := by
  induction levels with
  | zero => rfl
  | succ levels ih =>
      funext p reason depth seen
      rw [loadOver, load, ih]
      simp only [visitOver, visit, enterOver, enter, Bool.not_false, List.filter_true]

end Passing

section Unlocated

variable {s : Setting} {base : Path} {uri location : Option String}

/-- A written location that is neither a foreign URL nor leads anywhere is passed over. -/
theorem locateHint_of_hinted? {l : String} (hforeign : Location.isForeign l = false)
    (hhinted : s.hinted? base l = none) :
    Alike (s.locateHint base l) (pure none) := by
  obtain ⟨target, htarget⟩ := Location.exists_join base hforeign
  unfold hinted? at hhinted
  unfold locateHint
  rw [htarget] at hhinted ⊢
  refine .skip (a := target) (.refl _) ?_
  cases target with
  | path p =>
      cases hc : s.files.canonicalize p with
      | ok found => simp [hc, Except.toOption] at hhinted
      | error f =>
          simp only [hc]
          exact .skip (.note rfl) (.refl _)
  | url u => exact .skip (.note rfl) (.refl _)
  | memory text => exact .refl _

/-- An unlocated reference is looked for without effect. -/
theorem find_of_isUnlocated (hu : s.isUnlocated base uri location = true)
    (ho : s.isObstacle base location = false) :
    Alike (s.find base uri location) (pure (none, false)) := by
  have hwritten : Alike (s.locateWritten base location) (pure none) := by
    cases location with
    | none => exact .refl _
    | some l =>
        obtain ⟨hforeign, hhinted⟩ : Location.isForeign l = false ∧ s.hinted? base l = none := by
          simpa [isObstacle] using ho
        exact locateHint_of_hinted? hforeign hhinted
  have hnamed : (s.resolver (referenceRequest base uri location)).isResolved = false := by
    simp only [isUnlocated, isNamed, Bool.and_eq_true, Bool.not_eq_true'] at hu
    exact hu.1
  have hask : Alike (s.ask (referenceRequest base uri location))
      (pure (s.resolver (referenceRequest base uri location))) :=
    .skip (.note rfl) (.refl _)
  refine hask.skip ?_
  cases hr : s.resolver (referenceRequest base uri location) with
  | resolved e => simp [hr, Resolution.isResolved] at hnamed
  | skip => exact hwritten.skip (.refl _)
  | unresolved key => exact hwritten.skip (.refl _)

/-- An unlocated import that is no error opens nothing, and adds nothing but its record. -/
theorem followItem_of_passes {nested : Path → Reason → Nat → List SchemaNode → Walk}
    {n : SchemaNode} {i : Schema.Item} (h : s.passes n i = true) (depth : Nat)
    (seen : List SchemaNode) :
    Alike (s.followItem nested n depth seen i) (pure seen) := by
  cases i with
  | importing uri location =>
      simp only [passes, Bool.and_eq_true, bne_iff_ne, ne_eq, Bool.not_eq_true',
        Bool.or_eq_true] at h
      obtain ⟨⟨⟨hown, hunlocated⟩, hobstacle⟩, hallowed⟩ := h
      show Alike (s.followImport nested n depth seen uri location) (pure seen)
      unfold followImport
      rw [if_neg hown]
      refine (find_of_isUnlocated hunlocated hobstacle).skip ?_
      -- the record of the import is no bare step
      refine .skip (.note rfl) ?_
      by_cases hbuiltIn : needsNoDocument uri = true
      · rw [if_pos (by simp [ImportOutcome.of, hbuiltIn])]
        exact .skip (.note rfl) (.refl _)
      · rw [if_neg (by simp [ImportOutcome.of, hbuiltIn]),
          if_neg (by simpa using hallowed.resolve_right hbuiltIn)]
        exact .skip (.note rfl) (.refl _)
  | including location => cases h
  | redefining location ds => cases h
  | declaring d => cases h

end Unlocated

section Over

variable {s : Setting} {skips : SchemaNode → Schema.Item → Bool}
variable {nested nested' : Path → Reason → Nat → List SchemaNode → Walk}
variable {n : SchemaNode} {depth : Nat} {seen : List SchemaNode}

def NestsAlike (nested nested' : Path → Reason → Nat → List SchemaNode → Walk) : Prop :=
  ∀ p reason depth seen, Alike (nested p reason depth seen) (nested' p reason depth seen)

theorem followImport_alike (hn : NestsAlike nested nested') (uri location : Option String) :
    Alike (s.followImport nested n depth seen uri location)
      (s.followImport nested' n depth seen uri location) := by
  unfold followImport
  by_cases hown : uri = n.uri
  · rw [if_pos hown, if_pos hown]
    refine .after fun _ hthrow => ?_
    cases hthrow
  · rw [if_neg hown, if_neg hown]
    refine .after fun answer _ => ?_
    obtain ⟨target, named⟩ := answer
    refine .after fun _ _ => ?_
    cases target with
    | some p => exact hn p _ _ _
    | none => exact .refl _

theorem followInclude_alike (hn : NestsAlike nested nested') (element : String)
    (location : Option String) :
    Alike (s.followInclude nested n depth seen element location)
      (s.followInclude nested' n depth seen element location) := by
  cases location with
  | none => exact .refl _
  | some l =>
      refine .after fun answer _ => ?_
      obtain ⟨target, named⟩ := answer
      cases target with
      | some p => exact .after fun _ _ => hn p _ _ _
      | none => exact .refl _

theorem followItem_alike (hn : NestsAlike nested nested') (i : Schema.Item) :
    Alike (s.followItem nested n depth seen i) (s.followItem nested' n depth seen i) := by
  cases i with
  | importing uri location => exact followImport_alike hn uri location
  | including location => exact followInclude_alike hn "include" location
  | redefining location ds =>
      exact (followInclude_alike hn "redefine" location).bind fun _ _ => .refl _
  | declaring d => exact .refl _

/-- Items can be passed over that are unlocated imports and no errors. -/
theorem followItems_alike (hn : NestsAlike nested nested')
    (hskips : ∀ i, skips n i = true → s.passes n i = true) (is : List Schema.Item) :
    Alike (s.followItems nested n depth seen is)
      (s.followItems nested' n depth seen (is.filter fun i => !skips n i)) := by
  induction is generalizing seen with
  | nil => exact .refl _
  | cons i rest ih =>
      by_cases hi : skips n i = true
      · rw [List.filter_cons_of_neg (by simp [hi])]
        exact (followItem_of_passes (hskips i hi) depth seen).skip ih
      · rw [List.filter_cons_of_pos (by simp [hi])]
        exact (followItem_alike hn i).bind fun out _ => ih

theorem enterOver_alike (hn : NestsAlike nested nested')
    (hskips : ∀ i, skips n i = true → s.passes n i = true) (root : Markup.Element) :
    Alike (s.enter nested n root depth seen) (s.enterOver skips nested' n root depth seen) := by
  refine .after fun _ _ => .after fun _ _ => .after fun _ _ => ?_
  exact (followItems_alike hn hskips _).bind fun _ _ => .refl _

theorem visitOver_alike (hn : NestsAlike nested nested')
    (hskips : ∀ n i, skips n i = true → s.passes n i = true) (p : Path) (reason : Reason) :
    Alike (s.visit nested p reason depth seen) (s.visitOver skips nested' p reason depth seen) := by
  unfold visit visitOver
  by_cases hany : reason.expected.any (fun uri => seen.contains ⟨p, uri⟩) = true
  · rw [if_pos hany, if_pos hany]
    exact .refl _
  · rw [if_neg hany, if_neg hany]
    refine .after fun _ _ => .after fun root _ => .after fun uri _ => ?_
    split
    · exact .refl _
    · exact enterOver_alike hn (hskips _) root

/-- A traversal and one that passes over some unlocated imports are alike. -/
theorem load_alike (hskips : ∀ n i, skips n i = true → s.passes n i = true) (levels : Nat) :
    NestsAlike (s.load levels) (s.loadOver skips levels) := by
  induction levels with
  | zero => exact fun _ _ _ _ => .refl _
  | succ levels ih => exact fun p reason _ _ => visitOver_alike ih hskips p reason

end Over

section Whole

variable {s : Setting}

/-- What comes next only matters as far as it shows in the end. -/
theorem map_bind_congr {ε α β γ : Type} {x : Except ε α} {f g : α → Except ε β} {t : β → γ}
    (h : ∀ a, (f a).map t = (g a).map t) :
    (x >>= f).map t = (x >>= g).map t := by
  cases x with
  | error e => rfl
  | ok a => exact h a

/-- Traversals that are alike compile to the same, apart from the records of imports. -/
theorem compileWith_of_alike {f g : Path → Walk} (h : ∀ start, Alike (f start) (g start))
    (entry : Path) :
    (s.compileWith f entry).outcome.map CompiledSet.withoutImports =
      (s.compileWith g entry).outcome.map CompiledSet.withoutImports := by
  rw [outcome_compileWith, outcome_compileWith]
  refine map_bind_congr fun start => ?_
  have hdeclared : declaredOf (f start).notes = declaredOf (g start).notes := by
    rw [← declaredOf_bare, (h start).notes, declaredOf_bare]
  have hreferences : referencesOf (f start).notes = referencesOf (g start).notes := by
    rw [← referencesOf_bare, (h start).notes, referencesOf_bare]
  have hdocuments : (documentsOf (f start).notes).map SchemaDocument.withoutImports =
      (documentsOf (g start).notes).map SchemaDocument.withoutImports := by
    rw [← documentsOf_bare, (h start).notes, documentsOf_bare]
  rw [hdeclared, hreferences, (h start).outcome]
  refine map_bind_congr fun table => map_bind_congr fun _ => map_bind_congr fun _ => ?_
  show Except.ok _ = Except.ok _
  rw [CompiledSet.withoutImports, CompiledSet.withoutImports, hdocuments]

end Whole

section Records

variable {s : Setting} {base : Path} {uri location : Option String}

theorem isNamed_of_isUnlocated (h : s.isUnlocated base uri location = true) :
    s.isNamed base uri location = false := by
  simp only [isUnlocated, Bool.and_eq_true, Bool.not_eq_true'] at h
  exact h.1

/-- An import that the resolver does not name leads where its location leads. -/
theorem found?_of_not_isNamed (h : s.isNamed base uri location = false) :
    s.found? base uri location = location.bind (s.hinted? base) := by
  unfold isNamed at h
  unfold found?
  cases hr : s.resolver (referenceRequest base uri location) with
  | resolved e => simp [hr, Resolution.isResolved] at h
  | skip => rfl
  | unresolved key => rfl

/-- Looking for the target of an import that the resolver does not name ends in an error if its
location is a URL that stands for no path. -/
theorem not_isForeign_of_findable {l : String} (hn : s.isNamed base uri (some l) = false)
    (h : s.Findable base uri (some l)) :
    Location.isForeign l = false := by
  obtain ⟨answer, hanswer⟩ := h
  obtain ⟨resolution, hask, hfind⟩ := Journal.outcome_bind_eq_ok_iff.1 hanswer
  have hresolution : s.resolver (referenceRequest base uri (some l)) = resolution :=
    Except.ok.inj hask
  have hjoined : ∀ {a : Option Path × Bool}, (do
      let target ← s.locateWritten base (some l)
      return (target, false)).outcome = Except.ok a → Location.isForeign l = false := by
    intro a ha
    obtain ⟨_, hlocate, _⟩ := Journal.outcome_bind_eq_ok_iff.1 ha
    obtain ⟨target, hjoin, _⟩ := Journal.outcome_bind_eq_ok_iff.1 hlocate
    rw [Bool.eq_false_iff]
    intro hforeign
    cases (Location.join_of_isForeign base hforeign).symm.trans hjoin
  rw [isNamed, hresolution] at hn
  cases resolution with
  | resolved e => cases hn
  | skip => exact hjoined hfind
  | unresolved key => exact hjoined hfind

/-- An unlocated import of a document in a compiled set leads nowhere. -/
theorem Compiles.found?_eq_none {entry : Path} {c : CompiledSet} {start : SchemaNode}
    {es : List Step} (h : s.Compiles entry c start es) {d : SchemaDocument}
    {root : Markup.Element} (hd : d ∈ c.documents) (hroot : s.readRoot d.node.path = .ok root)
    (hi : .importing uri location ∈ Schema.items root)
    (hu : s.isUnlocated d.node.path uri location = true) :
    s.found? d.node.path uri location = none := by
  cases hf : s.found? d.node.path uri location with
  | none => rfl
  | some p =>
      -- what it leads to would be a document of the set, and so a regular file
      have hlead : s.leadsTo d.node (.importing uri location) = some ⟨p, uri⟩ := by
        rw [leadsTo, hf]
        rfl
      obtain ⟨root', hroot'⟩ := h.admitted ⟨p, uri⟩ (h.leads hd hroot hi hlead)
      obtain ⟨content, hentry, _⟩ := content_of_readRoot hroot'.read
      have hhinted := found?_of_not_isNamed (isNamed_of_isUnlocated hu)
      simp [isUnlocated, ← hhinted, hf, FileSystem.isFile, hentry] at hu

end Records

/-- Unlocated imports pass unless they are errors or their locations are obstacles.  Passing
over any of them changes nothing but their records.  In a set that compiles, no location of an
unlocated import is an obstacle, and each of these imports is recorded without a target. -/
theorem unlocated_imports_pass (s : Setting) (entry : Path) :
    (∀ chosen : SchemaNode → Schema.Item → Bool,
      (s.compileWith (s.traverseOver fun n i => chosen n i && s.passes n i) entry).outcome.map
          CompiledSet.withoutImports =
        (s.compile entry).outcome.map CompiledSet.withoutImports) ∧
    ∀ c, (s.compile entry).outcome = .ok c →
      ∀ d ∈ c.documents, ∀ root, s.readRoot d.path = .ok root →
        ∀ uri location, .importing uri location ∈ Schema.items root →
          s.isUnlocated d.path uri location = true →
            s.isObstacle d.path location = false ∧
            (s.options.strict = true → needsNoDocument uri = true) ∧
            ⟨uri, location, none, if needsNoDocument uri then .builtIn else .missing⟩ ∈
              d.imports := by
  constructor
  · intro chosen
    have hskips : ∀ n i, (chosen n i && s.passes n i) = true → s.passes n i = true :=
      fun n i h => (Bool.and_eq_true _ _ ▸ h).2
    rw [← compileWith_traverse]
    exact (compileWith_of_alike (fun start => load_alike hskips _ start .entry 0 []) entry).symm
  · intro c hcompile d hd root hroot uri location hi hunlocated
    obtain ⟨start, es, hc⟩ := compiles hcompile
    have hmem : d.node ∈ c.nodes := List.mem_map_of_mem hd
    obtain ⟨root', ha, hl⟩ := hc.permitted.admitted d.node hmem
    cases Except.ok.inj (hroot.symm.trans ha.read)
    obtain ⟨hfindable, hstrict⟩ := hl _ hi
    have hnamed := isNamed_of_isUnlocated hunlocated
    have hfound : s.found? d.path uri location = none :=
      hc.found?_eq_none hd ha.read hi hunlocated
    have hhinted := found?_of_not_isNamed hnamed
    refine ⟨?_, ?_, ?_⟩
    · cases location with
      | none => rfl
      | some l =>
          have hforeign := not_isForeign_of_findable hnamed hfindable
          have hnone : s.hinted? d.path l = none := (hhinted.symm.trans hfound)
          simp [isObstacle, hforeign, hnone]
    · intro his
      exact (hstrict his).resolve_left (by simp [SchemaDocument.node, hfound])
    · have hrecord : s.recordOf d.path uri location =
          ⟨uri, location, none, if needsNoDocument uri then .builtIn else .missing⟩ := by
        simp [recordOf, hfound, ImportOutcome.of]
      rw [hc.documents] at hd
      rw [(mem_documentsOf_iff.1 hd).2.1, mem_importsOf_iff, ← hrecord]
      exact hc.mem_events hmem ha.read
        (report_mem_rootTasks_iff.2 (.inr (.inl ⟨_, hi, .tail _ (.head _)⟩)))

section Lenient

/-- One document with some imports, which need not be located. -/
def lenient (imports : List String) : Setting where
  files := topFiles [("main", schemaOctets "targetNamespace='urn:m'" imports)]
  resolver := Resolution.miss
  options := ⟨false, .standard⟩

/-- Imports without a location, of no file, of a remote file, and of a namespace that needs no
document. -/
def unlocatedTags : List String :=
  ["<import namespace='urn:a'/>", "<import namespace='urn:b' schemaLocation='absent'/>",
    "<import namespace='urn:c' schemaLocation='http://h/c'/>",
    "<import namespace='http://www.w3.org/XML/1998/namespace'/>"]

/-- What a document with these imports compiles to. -/
def unlocatedSet : CompiledSet where
  entry := topPath "main"
  documents :=
    [⟨topPath "main", some "urn:m", false,
        [⟨some "urn:a", none, none, .missing⟩, ⟨some "urn:b", some "absent", none, .missing⟩,
          ⟨some "urn:c", some "http://h/c", none, .missing⟩,
          ⟨some Vocabulary.xml, none, none, .builtIn⟩], []⟩]
  table := ∅

set_option maxRecDepth 10000 in
theorem missing_imports_pass :
    ((lenient unlocatedTags).compile (topPath "main")).outcome = .ok unlocatedSet ∧
      ((lenient unlocatedTags).compileWith ((lenient unlocatedTags).traverseOver
          fun n i => true && (lenient unlocatedTags).passes n i) (topPath "main")).outcome.map
          CompiledSet.withoutImports =
        ((lenient unlocatedTags).compile (topPath "main")).outcome.map
          CompiledSet.withoutImports ∧
      ∃ d ∈ unlocatedSet.documents, ∃ root, (lenient unlocatedTags).readRoot d.path = .ok root ∧
        .importing (some "urn:b") (some "absent") ∈ Schema.items root ∧
        (lenient unlocatedTags).isUnlocated d.path (some "urn:b") (some "absent") = true ∧
        (lenient unlocatedTags).isObstacle d.path (some "absent") = false ∧
        ((lenient unlocatedTags).options.strict = true →
          needsNoDocument (some "urn:b") = true) ∧
        ⟨some "urn:b", some "absent", none, .missing⟩ ∈ d.imports := by
  have hcompiles : ((lenient unlocatedTags).compile (topPath "main")).outcome =
      .ok unlocatedSet := by
    decide +kernel
  have hitems : ((lenient unlocatedTags).readRoot (topPath "main")).toOption.any (fun root =>
      (Schema.items root).contains (.importing (some "urn:b") (some "absent"))) = true := by
    decide +kernel
  have hunlocated : (lenient unlocatedTags).isUnlocated (topPath "main") (some "urn:b")
      (some "absent") = true := by
    decide +kernel
  obtain ⟨hover, hrecords⟩ := unlocated_imports_pass (lenient unlocatedTags) (topPath "main")
  refine ⟨hcompiles, hover fun _ _ => true, _, List.mem_cons_self, ?_⟩
  cases hroot : (lenient unlocatedTags).readRoot (topPath "main") with
  | error e => simp [hroot, Except.toOption] at hitems
  | ok root =>
      have hmem : .importing (some "urn:b") (some "absent") ∈ Schema.items root := by
        simpa [hroot, Except.toOption] using hitems
      exact ⟨root, rfl, hmem, hunlocated,
        hrecords _ hcompiles _ List.mem_cons_self root hroot _ _ hmem hunlocated⟩

/-- An import of a namespace that needs no document, with a location. -/
def hintedTags (location : String) : List String :=
  ["<import namespace='http://www.w3.org/XML/1998/namespace' schemaLocation='", location, "'/>"]

set_option maxRecDepth 10000 in
/-- A location can be an obstacle: a `file` URL on another host, or one that leads to a directory.
The import is not located, its namespace needs no document, and nothing need be located, but the
compilation ends in an error. -/
theorem obstacle_fails :
    (∀ location ∈ ["file://host/xml", ""],
      (lenient (hintedTags location)).options.strict = false ∧
        ((lenient (hintedTags location)).readRoot (topPath "main")).toOption.map Schema.items =
          some [.importing (some Vocabulary.xml) (some location)] ∧
        (lenient (hintedTags location)).isUnlocated (topPath "main") (some Vocabulary.xml)
          (some location) = true ∧
        needsNoDocument (some Vocabulary.xml) = true) ∧
      ((lenient (hintedTags "file://host/xml")).compile (topPath "main")).outcome =
        .error (.resource (.foreignHost "file://host/xml")) ∧
      ((lenient (hintedTags "")).compile (topPath "main")).outcome =
        .error (.resource (.reading (Path.ofNames []) .isDirectory)) := by
  refine ⟨?_, ?_, ?_⟩
  · decide +kernel
  · decide +kernel
  · decide +kernel

end Lenient

end Setting
end SchemaSet
