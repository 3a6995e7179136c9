import SchemaSet.Proofs.Faults
import SchemaSet.Proofs.Reachability
import SchemaSet.Proofs.SymbolTable

/-!
# What stops a compilation

`Setting.Reachable` says which nodes the entry document leads to.  An error that stops the traversal
is met at one of them: a document that it refers to cannot be read or is out of place, one of its
items is refused, or one of its names is (`Obstructs`).  Else the declarations that were noted do
not fit together, or a reference lands nowhere.  `compile_error_cases` lists these four places.

The proof goes through all parts of a traversal, which may end in an error.
`Journal.Satisfies N E V` says that all notes of a computation satisfy `N`, its error satisfies `E`
and its value `V`.  It passes through sequences, where `V` may be used for what follows.  The
invariant is that the nodes that were opened are distinct and can be reached (`Gathered`), and that
whatever is noted or asked comes from a node that can be reached (`Grounded`).  Every part preserves
it, and stops for one of the reasons above (`load_sound`).
-/

namespace SchemaSet

namespace Journal

variable {ν ε α β : Type} {N : ν → Prop} {E : ε → Prop} {V : α → Prop} {W : β → Prop}

/-- What a computation notes, the errors in which it may end and its values satisfy conditions. -/
structure Satisfies (N : ν → Prop) (E : ε → Prop) (V : α → Prop) (j : Journal ν ε α) : Prop where
  notes : ∀ n ∈ j.notes, N n
  error : ∀ e, j.outcome = .error e → E e
  value : ∀ a, j.outcome = .ok a → V a

/-- A condition on values that holds after the first of two computations may be used for the
second. -/
theorem Satisfies.bind {j : Journal ν ε α} {f : α → Journal ν ε β} (h : Satisfies N E V j)
    (hf : ∀ a, j.outcome = .ok a → V a → Satisfies N E W (f a)) :
    Satisfies N E W (j >>= f) := by
  cases ho : j.outcome with
  | error e =>
      rw [bind_of_error ho]
      refine ⟨h.notes, ?_, ?_⟩
      · rintro _ ⟨⟩
        exact h.error e ho
      · rintro _ ⟨⟩
  | ok a =>
      have h' := hf a ho (h.value a ho)
      rw [bind_of_ok ho]
      refine ⟨?_, h'.error, h'.value⟩
      intro n hn
      rcases List.mem_append.1 hn with hn | hn
      · exact h.notes n hn
      · exact h'.notes n hn

theorem satisfies_pure {a : α} (h : V a) : Satisfies N E V (pure a : Journal ν ε α) where
  notes := fun _ hn => absurd hn List.not_mem_nil
  error := fun _ he => by cases he
  value := by
    rintro _ ⟨⟩
    exact h

theorem satisfies_throw {e : ε} (h : E e) : Satisfies N E V (throw e : Journal ν ε α) where
  notes := fun _ hn => absurd hn List.not_mem_nil
  error := by
    rintro _ ⟨⟩
    exact h
  value := fun _ ha => by cases ha

/-- A computation without notes satisfies conditions if its result does. -/
theorem satisfies_lift {x : Except ε α} (h : ∀ e, x = .error e → E e) :
    Satisfies N E (fun a => x = .ok a) (liftM x : Journal ν ε α) where
  notes := fun _ hn => absurd hn List.not_mem_nil
  error := h
  value := fun _ ha => ha

/-- Noting something first adds a note. -/
theorem Satisfies.after {n : ν} {j : Journal ν ε α} (hn : N n) (h : Satisfies N E V j) :
    Satisfies N E V (do note n; j) where
  notes := by
    intro m hm
    rcases List.mem_cons.1 hm with rfl | hm
    · exact hn
    · exact h.notes m hm
  error := h.error
  value := h.value

end Journal

namespace Setting

section Reached

variable (s : Setting) (entry : Path)

/-- The document that a compilation opens first, in the namespace that it declares. -/
structure Starts (start : SchemaNode) : Prop where
  /-- The entry document is the one that the resolver names, or else the one given. -/
  canonical : s.files.canonicalize ((s.resolver (entryRequest entry)).systemId.getD entry) =
    .ok start.path
  declared : ∃ root, s.readRoot start.path = .ok root ∧ Schema.declaredNamespace root = start.uri

/-- A chain of located imports, includes and redefines leads from the entry document to a node. -/
def Reachable (n : SchemaNode) : Prop :=
  ∃ start, s.Starts entry start ∧ Relation.ReflTransGen s.Edge start n

/-- Nodes that were opened are distinct and can be reached. -/
structure Gathered (seen : List SchemaNode) : Prop where
  nodup : seen.Nodup
  reachable : ∀ n ∈ seen, s.Reachable entry n

/-- A node that can be reached, with the root of its document. -/
structure Stands (n : SchemaNode) (root : Markup.Element) : Prop where
  reachable : s.Reachable entry n
  read : s.readRoot n.path = .ok root

/-- A document is to be opened for a reason: it is the entry document, or a document that can be
reached refers to it. -/
inductive Summons : Path → Reason → Prop
  | entry {p : Path} :
      s.files.canonicalize ((s.resolver (entryRequest entry)).systemId.getD entry) = .ok p →
      Summons p .entry
  | imported {n : SchemaNode} {root : Markup.Element} {uri location : Option String} {p : Path} :
      s.Stands entry n root → .importing uri location ∈ Schema.items root →
      s.found? n.path uri location = some p →
      Summons p (.imported uri (s.isNamed n.path uri location))
  | included {n : SchemaNode} {root : Markup.Element} {i : Schema.Item} {p : Path} :
      s.Stands entry n root → i ∈ Schema.items root → s.leadsTo n i = some ⟨p, n.uri⟩ →
      Summons p (.included n.uri)

/-- An item of a node is refused with an error, whatever is opened for it. -/
inductive Refuses (n : SchemaNode) : Schema.Item → Error → Prop
  | ownNamespace (location : Option String) :
      Refuses n (.importing n.uri location) (Error.inDocument n.path (.ownNamespace n.uri))
  | notFound {i : Schema.Item} {uri location : Option String} {e : Error} :
      i.inquiry? = some (uri, location) → (s.find n.path uri location).outcome = .error e →
      Refuses n i e
  | missingImport {uri location : Option String} :
      s.options.strict = true → s.found? n.path uri location = none →
      needsNoDocument uri = false →
      Refuses n (.importing uri location) (.unresolvedImport (uri.getD "") n.path.display)
  | missingInclude {i : Schema.Item} {l : String} :
      s.options.strict = true → i.inquiry? = some (none, some l) →
      s.found? n.path none (some l) = none →
      Refuses n i (.resource (.missingInclude l n.path))
  | unwrittenInclude :
      Refuses n (.including none) (Error.inDocument n.path (.missingLocation "include"))
  | unwrittenRedefine (ds : List Schema.Declaration) :
      Refuses n (.redefining none ds) (Error.inDocument n.path (.missingLocation "redefine"))
  | declaration {i : Schema.Item} {d : Schema.Declaration} {redefined : Bool} {e : Error} :
      d ∈ i.declarations → component n redefined d = .error e → Refuses n i e

/-- What stops a traversal with an error. -/
inductive Obstructs : Error → Prop
  | depth {levels : Nat} {x : Limits.Excess} :
      s.options.limits.check .schemaDepth levels = .error x → Obstructs (.limit x)
  | count {seen : List SchemaNode} {x : Limits.Excess} :
      s.Gathered entry seen → s.options.limits.check .documents seen.length = .error x →
      Obstructs (.limit x)
  | unread {p : Path} {reason : Reason} {e : Error} :
      s.Summons entry p reason → s.readRoot p = .error e → Obstructs e
  | misplaced {p : Path} {reason : Reason} {root : Markup.Element} {e : Error} :
      s.Summons entry p reason → s.readRoot p = .ok root →
      effective p reason (Schema.declaredNamespace root) = .error e → Obstructs e
  | item {n : SchemaNode} {root : Markup.Element} {i : Schema.Item} {e : Error} :
      s.Stands entry n root → i ∈ Schema.items root → s.Refuses n i e → Obstructs e
  | name {n : SchemaNode} {root : Markup.Element} {t : Schema.Token} {e : Error} :
      s.Stands entry n root → t ∈ Schema.tokens root →
      t.resolve n.path (Schema.adopted root n.uri) = .error e → Obstructs e

/-- A request is that of a reference in the document of a node that can be reached. -/
def Refers (n : SchemaNode) (r : Request) : Prop :=
  ∃ root i uri location, s.Stands entry n root ∧ i ∈ Schema.items root ∧
    i.inquiry? = some (uri, location) ∧ r = referenceRequest n.path uri location

/-- What is noted comes from a node that can be reached. -/
def Grounded : Step → Prop
  | .asked r _ => ∃ n, s.Refers entry n r
  | .opened n _ => s.Reachable entry n
  | .declared c => ∃ n, s.Reachable entry n ∧ s.Declares n c
  | .referred r => ∃ n root t, s.Stands entry n root ∧ t ∈ Schema.tokens root ∧
      t.resolve n.path (Schema.adopted root n.uri) = .ok r
  | _ => True

/-- The notes of a part of a traversal come from nodes that can be reached, and so does what stops
it. -/
def Sound {α : Type} (V : α → Prop) (j : Journal Step Error α) : Prop :=
  j.Satisfies (s.Grounded entry) (s.Obstructs entry) V

variable {s entry}

theorem Reachable.tail {m n : SchemaNode} (h : s.Reachable entry m) (he : s.Edge m n) :
    s.Reachable entry n := by
  obtain ⟨start, hstart, hpath⟩ := h
  exact ⟨start, hstart, hpath.tail he⟩

/-- A document that can be reached has a canonical path. -/
theorem Reachable.canonical {n : SchemaNode} (h : s.Reachable entry n) :
    ∃ q, s.files.canonicalize q = .ok n.path := by
  obtain ⟨start, hstart, hpath⟩ := h
  cases hpath with
  | refl => exact ⟨_, hstart.canonical⟩
  | tail _ he => exact canonical_of_edge he

theorem uri_of_effective_imported {p : Path} {uri declared out : Option String} {named : Bool}
    (h : effective p (.imported uri named) declared = .ok out) : out = uri := by
  unfold effective at h
  dsimp only at h
  split at h
  · rename_i heq
    exact (Except.ok.inj h).symm.trans heq
  · split at h <;> cases h

theorem uri_of_effective_included {p : Path} {uri declared out : Option String}
    (h : effective p (.included uri) declared = .ok out) : out = uri := by
  unfold effective at h
  cases declared with
  | none => exact (Except.ok.inj h).symm
  | some d =>
      dsimp only at h
      split at h
      · rename_i heq
        exact (Except.ok.inj h).symm.trans heq
      · cases h

/-- A document that is to be opened can be reached in the namespace that it takes part in. -/
theorem Summons.reachable {p : Path} {reason : Reason} {root : Markup.Element}
    {uri : Option String} (h : s.Summons entry p reason) (hroot : s.readRoot p = .ok root)
    (heff : effective p reason (Schema.declaredNamespace root) = .ok uri) :
    s.Reachable entry ⟨p, uri⟩ := by
  cases h with
  | entry hcanonical =>
      cases heff
      have hstarts : s.Starts entry ⟨p, Schema.declaredNamespace root⟩ :=
        ⟨hcanonical, root, hroot, rfl⟩
      exact ⟨_, hstarts, .refl⟩
  | imported hn hi ht =>
      obtain rfl := uri_of_effective_imported heff
      exact hn.reachable.tail (edge_iff.2 ⟨_, _, hn.read, hi, by rw [leadsTo, ht]; rfl⟩)
  | included hn hi ht =>
      obtain rfl := uri_of_effective_included heff
      exact hn.reachable.tail (edge_iff.2 ⟨_, _, hn.read, hi, ht⟩)

end Reached

section Walking

variable {s : Setting} {entry : Path} {n : SchemaNode} {root : Markup.Element} {depth : Nat}
variable {seen : List SchemaNode} {nested : Path → Reason → Nat → List SchemaNode → Walk}

/-- Looking for a document notes the request and notices, and fails plainly. -/
theorem find_plain {N : Step → Prop} {base : Path} {uri location : Option String}
    (hasked : ∀ answer, N (.asked (referenceRequest base uri location) answer))
    (htold : ∀ notice, N (.told notice)) :
    (s.find base uri location).Satisfies N (fun e => e.isPlain = true) (fun _ => True) := by
  have hlift : ∀ {α : Type} {x : Except Error α}, FailsPlainly x →
      (liftM x : Journal Step Error α).Satisfies N (fun e => e.isPlain = true)
        (fun a => x = .ok a) :=
    fun h => Journal.satisfies_lift h
  have hwritten : (s.locateWritten base location).Satisfies N
      (fun e => e.isPlain = true) (fun _ => True) := by
    cases location with
    | none => exact Journal.satisfies_pure trivial
    | some l =>
        refine (hlift (Location.join_failsPlainly _ l)).bind fun target _ _ => ?_
        split
        · split
          · exact Journal.satisfies_pure trivial
          · exact .after (htold _) (Journal.satisfies_pure trivial)
        · exact .after (htold _) (Journal.satisfies_pure trivial)
        · exact Journal.satisfies_pure trivial
  have hask : (s.ask (referenceRequest base uri location)).Satisfies N
      (fun e => e.isPlain = true) (fun _ => True) :=
    .after (hasked _) (Journal.satisfies_pure trivial)
  refine hask.bind fun answer _ _ => ?_
  split
  · exact (hlift (canonical_failsPlainly _)).bind fun _ _ _ => Journal.satisfies_pure trivial
  · exact hwritten.bind fun _ _ _ => Journal.satisfies_pure trivial

/-- The target of an item is looked for. -/
theorem find_sound (hn : s.Stands entry n root) {i : Schema.Item} (hi : i ∈ Schema.items root)
    {uri location : Option String} (hinquiry : i.inquiry? = some (uri, location)) :
    s.Sound entry (fun answer => answer =
      (s.found? n.path uri location, s.isNamed n.path uri location))
      (s.find n.path uri location) where
  notes := (find_plain (N := s.Grounded entry)
    (fun _ => ⟨n, root, i, uri, location, hn, hi, hinquiry, rfl⟩) fun _ => trivial).notes
  error := fun _ he => .item hn hi (.notFound hinquiry he)
  value := fun _ ha => find_value ha

theorem declareAll_sound (hn : s.Stands entry n root) {i : Schema.Item}
    (hi : i ∈ Schema.items root) {redefined : Bool} {ds : List Schema.Declaration}
    (hds : ds ⊆ i.declarations) (hdeclares : componentsOf n redefined ds ⊆ declares n i) :
    s.Sound entry (fun _ => True) (declareAll n redefined ds) := by
  induction ds with
  | nil => exact Journal.satisfies_pure trivial
  | cons d rest ih =>
      have hlift : s.Sound entry (fun c => component n redefined d = .ok c)
          (liftM (component n redefined d) : Journal Step Error Component) :=
        Journal.satisfies_lift fun _ he =>
          .item hn hi (.declaration (hds List.mem_cons_self) he)
      refine hlift.bind fun c _ hc => ?_
      have hmem : c ∈ componentsOf n redefined (d :: rest) :=
        List.mem_filterMap.2 ⟨d, List.mem_cons_self, toOption_eq_some_iff.2 hc⟩
      refine .after ⟨n, hn.reachable, declares_of_mem hn.read hi (hdeclares hmem)⟩ ?_
      refine ih (fun x hx => hds (List.mem_cons_of_mem _ hx)) fun x hx => hdeclares ?_
      obtain ⟨d', hd', hx⟩ := List.mem_filterMap.1 hx
      exact List.mem_filterMap.2 ⟨d', List.mem_cons_of_mem _ hd', hx⟩

theorem referAll_sound (hn : s.Stands entry n root) {ts : List Schema.Token}
    (hts : ts ⊆ Schema.tokens root) :
    s.Sound entry (fun _ => True) (referAll n.path (Schema.adopted root n.uri) ts) := by
  induction ts with
  | nil => exact Journal.satisfies_pure trivial
  | cons t rest ih =>
      have ht : t ∈ Schema.tokens root := hts List.mem_cons_self
      have hlift : s.Sound entry (fun r => t.resolve n.path (Schema.adopted root n.uri) = .ok r)
          (liftM (t.resolve n.path (Schema.adopted root n.uri)) :
            Journal Step Error Schema.Reference) :=
        Journal.satisfies_lift fun _ he => .name hn ht he
      refine hlift.bind fun r _ hr => ?_
      exact .after ⟨n, root, t, hn, ht, hr⟩ (ih fun x hx => hts (List.mem_cons_of_mem _ hx))

/-- `nested` is sound wherever a document is to be opened. -/
def OpensSoundly (s : Setting) (entry : Path)
    (nested : Path → Reason → Nat → List SchemaNode → Walk) : Prop :=
  ∀ ⦃p : Path⦄ ⦃reason : Reason⦄ (depth : Nat) ⦃seen : List SchemaNode⦄,
    s.Summons entry p reason → s.Gathered entry seen →
    s.Sound entry (s.Gathered entry) (nested p reason depth seen)

theorem followImport_sound (hf : s.OpensSoundly entry nested) (hn : s.Stands entry n root)
    (hs : s.Gathered entry seen) {uri location : Option String}
    (hi : .importing uri location ∈ Schema.items root) :
    s.Sound entry (s.Gathered entry) (s.followImport nested n depth seen uri location) := by
  unfold followImport
  -- an import of the document's own namespace is refused before anything is asked
  by_cases hown : uri = n.uri
  · subst hown
    rw [if_pos rfl]
    exact (Journal.satisfies_throw (.item hn hi (.ownNamespace location))).bind
      fun _ _ (hthrow : False) => hthrow.elim
  · rw [if_neg hown]
    refine (find_sound hn hi rfl).bind fun answer _ hanswer => ?_
    subst hanswer
    refine .after trivial ?_
    cases ht : s.found? n.path uri location with
    | some t => exact hf _ (.imported hn hi ht) hs
    | none =>
        dsimp only
        split
        · exact .after trivial (Journal.satisfies_pure hs)
        · rename_i houtcome
          split
          · rename_i hstrict
            refine Journal.satisfies_throw (.item hn hi (.missingImport hstrict ht ?_))
            cases hneeds : needsNoDocument uri with
            | false => rfl
            | true => exact absurd (by simp [ImportOutcome.of, hneeds]) houtcome
          · exact .after trivial (Journal.satisfies_pure hs)

theorem followInclude_sound (hf : s.OpensSoundly entry nested) (hn : s.Stands entry n root)
    (hs : s.Gathered entry seen) {element : String} {location : Option String} {i : Schema.Item}
    (hi : i ∈ Schema.items root) (hlead : s.leadsTo n i = s.leadsTo n (.including location))
    (hinquiry : i.inquiry? = location.map fun l => (none, some l))
    (hunwritten : location = none →
      s.Refuses n i (Error.inDocument n.path (.missingLocation element))) :
    s.Sound entry (s.Gathered entry) (s.followInclude nested n depth seen element location) := by
  cases location with
  | none => exact Journal.satisfies_throw (.item hn hi (hunwritten rfl))
  | some l =>
      refine (find_sound hn hi hinquiry).bind fun answer _ hanswer => ?_
      subst hanswer
      cases ht : s.found? n.path none (some l) with
      | some t =>
          refine .after trivial (hf _ (.included hn hi ?_) hs)
          rw [hlead, leadsTo, ht]
          rfl
      | none =>
          dsimp only
          split
          · rename_i hstrict
            exact Journal.satisfies_throw (.item hn hi (.missingInclude hstrict hinquiry ht))
          · exact .after trivial (Journal.satisfies_pure hs)

theorem followItem_sound (hf : s.OpensSoundly entry nested) (hn : s.Stands entry n root)
    (hs : s.Gathered entry seen) {i : Schema.Item} (hi : i ∈ Schema.items root) :
    s.Sound entry (s.Gathered entry) (s.followItem nested n depth seen i) := by
  cases i with
  | importing uri location => exact followImport_sound hf hn hs hi
  | including location =>
      refine followInclude_sound hf hn hs hi rfl rfl ?_
      rintro rfl
      exact .unwrittenInclude
  | redefining location ds =>
      have hunwritten : location = none → s.Refuses n (.redefining location ds)
          (Error.inDocument n.path (.missingLocation "redefine")) := by
        rintro rfl
        exact .unwrittenRedefine ds
      have hincluded : s.Sound entry (s.Gathered entry)
          (s.followInclude nested n depth seen "redefine" location) :=
        followInclude_sound hf hn hs hi (leadsTo_redefining location ds) rfl hunwritten
      refine hincluded.bind fun out _ hout => ?_
      exact (declareAll_sound hn hi (List.Subset.refl _) (List.Subset.refl _)).bind
        fun _ _ _ => Journal.satisfies_pure hout
  | declaring d =>
      exact (declareAll_sound hn hi (List.Subset.refl _) (List.Subset.refl _)).bind
        fun _ _ _ => Journal.satisfies_pure hs

theorem followItems_sound (hf : s.OpensSoundly entry nested) (hn : s.Stands entry n root)
    (hs : s.Gathered entry seen) {is : List Schema.Item} (his : is ⊆ Schema.items root) :
    s.Sound entry (s.Gathered entry) (s.followItems nested n depth seen is) := by
  induction is generalizing seen with
  | nil => exact Journal.satisfies_pure hs
  | cons i rest ih =>
      exact (followItem_sound hf hn hs (his List.mem_cons_self)).bind fun out _ hout =>
        ih hout fun x hx => his (List.mem_cons_of_mem _ hx)

theorem Gathered.push (hs : s.Gathered entry seen) (hn : s.Reachable entry n) (hmem : n ∉ seen) :
    s.Gathered entry (seen ++ [n]) where
  nodup := by simpa using hs.nodup.concat hmem
  reachable := by
    intro m hm
    rcases List.mem_append.1 hm with hm | hm
    · exact hs.reachable m hm
    · rw [List.mem_singleton.1 hm]
      exact hn

theorem check_sound {what : Limits.Measure} {size : Nat}
    (h : ∀ x, s.options.limits.check what size = .error x → s.Obstructs entry (.limit x)) :
    s.Sound entry (fun _ => True)
      (liftM ((s.options.limits.check what size).mapError Error.limit) :
        Journal Step Error Unit) := by
  refine ⟨fun _ hn => absurd hn List.not_mem_nil, fun e he => ?_, fun _ _ => trivial⟩
  have hcheck : (s.options.limits.check what size).mapError Error.limit = .error e := he
  cases hx : s.options.limits.check what size with
  | ok u =>
      rw [hx] at hcheck
      cases hcheck
  | error x =>
      rw [hx] at hcheck
      cases hcheck
      exact h x hx

theorem enter_sound (hf : s.OpensSoundly entry nested) (hn : s.Stands entry n root)
    (hs : s.Gathered entry seen) (hmem : n ∉ seen) :
    s.Sound entry (s.Gathered entry) (s.enter nested n root depth seen) := by
  have hpush := hs.push hn.reachable hmem
  refine (check_sound fun _ hx => .count hpush hx).bind fun _ _ _ => ?_
  refine .after hn.reachable (.after trivial ?_)
  refine (followItems_sound hf hn hpush (List.Subset.refl _)).bind fun out _ hout => ?_
  exact (referAll_sound hn (List.Subset.refl _)).bind fun _ _ _ => Journal.satisfies_pure hout

/-- What is noted while documents are opened comes from nodes that can be reached, and so does
the error that stops it. -/
theorem load_sound (s : Setting) (entry : Path) (levels : Nat) :
    s.OpensSoundly entry (s.load levels) := by
  induction levels with
  | zero => exact fun _ _ _ _ _ hs => Journal.satisfies_pure hs
  | succ levels ih =>
      intro p reason depth seen hp hs
      show s.Sound entry (s.Gathered entry) (s.visit (s.load levels) p reason depth seen)
      unfold visit
      split
      · exact Journal.satisfies_pure hs
      -- each check of the document is an obstruction of its own, and none of them notes anything
      refine (check_sound fun _ hx => .depth hx).bind fun _ _ _ => ?_
      have hread : s.Sound entry (fun root => s.readRoot p = .ok root)
          (liftM (s.readRoot p) : Journal Step Error Markup.Element) :=
        Journal.satisfies_lift fun _ he => .unread hp he
      refine hread.bind fun root _ hroot => ?_
      have hplaced : s.Sound entry
          (fun uri => effective p reason (Schema.declaredNamespace root) = .ok uri)
          (liftM (effective p reason (Schema.declaredNamespace root)) :
            Journal Step Error (Option String)) :=
        Journal.satisfies_lift fun _ he => .misplaced hp hroot he
      refine hplaced.bind fun uri _ heff => ?_
      split
      · exact Journal.satisfies_pure hs
      · rename_i hmem
        have hn : s.Stands entry ⟨p, uri⟩ root := ⟨hp.reachable hroot heff, hroot⟩
        exact enter_sound ih hn hs (by simpa using hmem)

end Walking

section Kinds

variable {s : Setting} {entry : Path} {e : Error}

theorem Refuses.isPlain {n : SchemaNode} {i : Schema.Item} (h : s.Refuses n i e) :
    e.isPlain = true := by
  cases h with
  | notFound _ he =>
      exact (find_plain (N := fun _ => True) (fun _ => trivial) fun _ => trivial).error e he
  | declaration _ he => exact component_failsPlainly _ _ e he
  | _ => rfl

/-- A document has no place for plain reasons, or it was named for an import of another
namespace. -/
theorem effective_eq_error {p : Path} {reason : Reason} {declared : Option String}
    (h : effective p reason declared = .error e) :
    e.isPlain = true ∨ ∃ uri, reason = .imported uri true ∧ declared ≠ uri ∧
      e = .consistency ⟨.namespaceMismatch declared uri, some p⟩ := by
  cases reason with
  | entry => cases h
  | imported uri resolved =>
      simp only [effective] at h
      split at h
      · cases h
      · rename_i hne
        split at h
        · rename_i hresolved
          cases h
          exact .inr ⟨uri, by rw [hresolved], hne, rfl⟩
        · cases h
          exact .inl rfl
  | included uri =>
      cases declared with
      | none => cases h
      | some d =>
          simp only [effective] at h
          split at h
          · cases h
          · cases h
            exact .inl rfl

/-- A traversal stops for plain reasons, for too many documents, for a document that was named
for an import of another namespace, or for an unbound label. -/
theorem Obstructs.cases (h : s.Obstructs entry e) :
    e.isPlain = true ∨
      (∃ seen, s.Gathered entry seen ∧ s.options.limits.maxDocuments < seen.length ∧
        e = .limit (.over .documents seen.length s.options.limits.maxDocuments)) ∨
      (∃ p uri root, s.Summons entry p (.imported uri true) ∧ s.readRoot p = .ok root ∧
        Schema.declaredNamespace root ≠ uri ∧
        e = .consistency ⟨.namespaceMismatch (Schema.declaredNamespace root) uri, some p⟩) ∨
      ∃ n root t label rest, s.Stands entry n root ∧ t ∈ Schema.tokens root ∧
        Name.splitColon t.text = some (label, rest) ∧ t.scope.lookup label = none ∧
        e = .consistency ⟨.unboundLabel ⟨label⟩ t.key t.value, some n.path⟩ := by
  cases h with
  | depth hx =>
      unfold Limits.check at hx
      split at hx
      · cases hx
        exact .inl rfl
      · cases hx
  | count hseen hx =>
      unfold Limits.check at hx
      split at hx
      · rename_i hover
        cases hx
        exact .inr (.inl ⟨_, hseen, hover, rfl⟩)
      · cases hx
  | unread _ he => exact .inl (readRoot_failsPlainly _ e he)
  | misplaced hp hroot he =>
      rcases effective_eq_error he with hplain | ⟨uri, rfl, hne, rfl⟩
      · exact .inl hplain
      · exact .inr (.inr (.inl ⟨_, uri, _, hp, hroot, hne, rfl⟩))
  | item _ _ he => exact .inl he.isPlain
  | name hn ht he =>
      rcases resolve_eq_error he with ⟨f, rfl⟩ | ⟨label, rest, hsplit, hlookup, rfl⟩
      · exact .inl rfl
      · exact .inr (.inr (.inr ⟨_, _, _, label, rest, hn, ht, hsplit, hlookup, rfl⟩))

/-- A document that was named for an import was looked for by a document that can be reached. -/
theorem Summons.named {p : Path} {uri : Option String}
    (h : s.Summons entry p (.imported uri true)) :
    ∃ n root location, s.Stands entry n root ∧ .importing uri location ∈ Schema.items root ∧
      s.isNamed n.path uri location = true ∧ s.found? n.path uri location = some p := by
  generalize hreason : Reason.imported uri true = reason at h
  cases h with
  | entry _ => cases hreason
  | imported hn hi ht =>
      obtain ⟨rfl, hnamed⟩ := Reason.imported.inj hreason
      exact ⟨_, _, _, hn, hi, hnamed.symm, ht⟩
  | included _ _ _ => cases hreason

end Kinds

section Whole

variable {s : Setting} {entry start : Path} {e : Error}

/-- The traversal of a compilation is sound. -/
theorem traverse_sound
    (h : s.files.canonicalize ((s.resolver (entryRequest entry)).systemId.getD entry) =
      .ok start) :
    s.Sound entry (s.Gathered entry) (s.traverse start) :=
  load_sound s entry _ 0 (.entry h) ⟨List.nodup_nil, nofun⟩

/-- What stops a compilation that opens `start` first. -/
inductive Stops (s : Setting) (entry start : Path) : Error → Prop
  | traversal {e : Error} :
      (s.traverse start).outcome = .error e → s.Obstructs entry e → Stops s entry start e
  | table {e : Error} :
      (declaredOf (s.traverse start).notes).foldlM (Table.register s.options.limits) ∅ =
        .error e →
      Stops s entry start e
  | reference {t : Table} {opened : List SchemaNode} {r : Schema.Reference} :
      (assemble s.options.limits ∅ (s.traverse start).notes).outcome = .ok t →
      (s.traverse start).outcome = .ok opened →
      r ∈ referencesOf (s.traverse start).notes → lands t r = false →
      Stops s entry start (.consistency ⟨.danglingReference r.space r.name, some r.document⟩)

/-- A compilation that fails does not find the entry document, or is stopped by what it leads
to: by the traversal, by a declaration or by a reference. -/
theorem compile_error_cases (h : (s.compile entry).outcome = .error e) :
    s.canonical ((s.resolver (entryRequest entry)).systemId.getD entry) = .error e ∨
      ∃ start,
        s.files.canonicalize ((s.resolver (entryRequest entry)).systemId.getD entry) = .ok start ∧
          s.Stops entry start e := by
  unfold compile at h
  -- the parts of a compilation, in order, and that each of them may be the one that fails
  rcases Journal.outcome_bind_eq_error_iff.1 h with hask | ⟨answer, hask, h⟩
  · cases hask
  cases hask
  rcases Journal.outcome_bind_eq_error_iff.1 h with hc | ⟨start, hc, h⟩
  · exact .inl hc
  have hcanonical := canonicalize_of_canonical hc
  refine .inr ⟨start, hcanonical, ?_⟩
  rcases Journal.outcome_bind_eq_error_iff.1 h with htable | ⟨t, htable, h⟩
  · exact .table ((outcome_assemble _ _ _).symm.trans htable)
  rcases Journal.outcome_bind_eq_error_iff.1 h with hwalk | ⟨opened, hwalk, h⟩
  · exact .traversal hwalk ((traverse_sound hcanonical).error e hwalk)
  rcases Journal.outcome_bind_eq_error_iff.1 h with hcheck | ⟨_, _, h⟩
  · obtain ⟨r, hr, hlands, rfl⟩ := checkReferences_eq_error hcheck
    exact .reference htable hwalk hr hlands
  cases h

end Whole

end Setting
end SchemaSet
