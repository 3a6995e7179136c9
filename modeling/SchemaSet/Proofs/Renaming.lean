import SchemaSet.Proofs.Completion
import SchemaSet.Proofs.Reachability
import SchemaSet.Proofs.References
import SchemaSet.Proofs.Revision
import SchemaSet.Proofs.SymbolTable

/-!
# Chameleon inclusion is a renaming

The entry document of a compilation declares no namespace and only includes documents, and none of
the documents imports anything.  It is compared with the compilation where the entry document
declares a namespace `u` and nothing else is changed.

All documents of the first set take part in no namespace.  `SchemaNode.into`, `Component.into` and
their siblings move nodes, components, references and steps into `u`.  Each part of the second
compilation is that of the first moved into `u`: the agenda of a node, the traversal
(`descent_into`), and the table (`Table.Renames`, which registering a declaration preserves).

Hence the second compilation succeeds, and its set is the first one moved into `u`
(`compile_into`).
-/

namespace SchemaSet

section Into

variable (u : String)

/-- The node of the same document in the namespace `u`. -/
def SchemaNode.into (n : SchemaNode) : SchemaNode := ⟨n.path, some u⟩

/-- The component with its name in the namespace `u`. -/
def Component.into (x : Component) : Component := { x with name := ⟨some u, x.name.localName⟩ }

/-- The reference with its name in the namespace `u` if it is in none. -/
def Schema.Reference.into (r : Schema.Reference) : Schema.Reference :=
  { r with name := { r.name with uri := r.name.uri.or (some u) } }

/-- The document in the namespace `u`, which all but the entry document adopt. -/
def SchemaDocument.into (entry : Path) (d : SchemaDocument) : SchemaDocument :=
  { d with targetNamespace := some u, chameleon := d.path ≠ entry }

/-- The step with all that it mentions in the namespace `u`. -/
def Step.into (entry : Path) : Step → Step
  | .opened n _ => .opened (n.into u) (n.path ≠ entry)
  | .imported n r => .imported (n.into u) r
  | .included n p => .included (n.into u) p
  | .declared x => .declared (x.into u)
  | .referred r => .referred (r.into u)
  | step => step

/-- A task with what it mentions in the namespace `u`. -/
def Task.into (entry : Path) : Task SchemaNode Step → Task SchemaNode Step :=
  Task.map (·.into u) (·.into u entry)

end Into

/-- The document that a step tells something of. -/
def Step.about? : Step → Option SchemaNode
  | .opened n _ => some n
  | .imported n _ => some n
  | .included n _ => some n
  | _ => none

section Views

variable {u : String} {entry : Path} {es : List Step}

theorem SchemaNode.into_inj {m n : SchemaNode} (hm : m.uri = none) (hn : n.uri = none)
    (h : m.into u = n.into u) : m = n := by
  have hpath : (m.into u).path = (n.into u).path := congrArg SchemaNode.path h
  exact SchemaNode.ext hpath (hm.trans hn.symm)

theorem declaredOf_into :
    declaredOf (es.map (·.into u entry)) = (declaredOf es).map (·.into u) := by
  rw [declaredOf, declaredOf, List.filterMap_map, List.map_filterMap]
  congr 1
  funext step
  cases step <;> rfl

theorem referencesOf_into :
    referencesOf (es.map (·.into u entry)) = (referencesOf es).map (·.into u) := by
  rw [referencesOf, referencesOf, List.filterMap_map, List.map_filterMap]
  congr 1
  funext step
  cases step <;> rfl

section About

variable (h : ∀ step ∈ es, ∀ m, step.about? = some m → m.uri = none)
include h

theorem importsOf_into {n : SchemaNode} (hn : n.uri = none) :
    importsOf (n.into u) (es.map (·.into u entry)) = importsOf n es := by
  rw [importsOf, importsOf, List.filterMap_map]
  refine List.filterMap_congr fun step hstep => ?_
  cases step with
  | imported m r =>
      have hiff : m.into u = n.into u ↔ m = n :=
        ⟨SchemaNode.into_inj (h _ hstep m rfl) hn, fun heq => heq ▸ rfl⟩
      simp [Step.into, hiff]
  | _ => rfl

theorem includesOf_into {n : SchemaNode} (hn : n.uri = none) :
    includesOf (n.into u) (es.map (·.into u entry)) = includesOf n es := by
  rw [includesOf, includesOf, List.filterMap_map]
  refine List.filterMap_congr fun step hstep => ?_
  cases step with
  | included m p =>
      have hiff : m.into u = n.into u ↔ m = n :=
        ⟨SchemaNode.into_inj (h _ hstep m rfl) hn, fun heq => heq ▸ rfl⟩
      simp [Step.into, hiff]
  | _ => rfl

/-- The documents that moved steps open are those that the steps open, moved. -/
theorem documentsOf_into :
    documentsOf (es.map (·.into u entry)) = (documentsOf es).map (·.into u entry) := by
  rw [documentsOf, documentsOf, List.filterMap_map, List.map_filterMap]
  refine List.filterMap_congr fun step hstep => ?_
  cases step with
  | opened n chameleon =>
      have hn := h _ hstep n rfl
      show some (SchemaDocument.mk _ _ _ _ _) = some (SchemaDocument.into u entry _)
      rw [importsOf_into h hn, includesOf_into h hn]
      rfl
  | _ => rfl

end About

end Views

namespace Table

/-- A table with its components in the namespace `u` instead of none. -/
structure Renames (u : String) (t t' : Table) : Prop where
  components : t'.components = t.components.map (·.into u)
  /-- What stands under a name in no namespace stands under the same name in `u`. -/
  lookup : ∀ space localName,
    t'.lookup.get? (space, ⟨some u, localName⟩) = t.lookup.get? (space, ⟨none, localName⟩)

section Renames

variable {u : String} {t t' v : Table} {limits : Limits}

theorem renames_empty : Renames u ∅ ∅ := ⟨rfl, fun _ _ => rfl⟩

theorem Renames.component? (h : Renames u t t') (space : SymbolSpace) (localName : String) :
    t'.component? space ⟨some u, localName⟩ =
      (t.component? space ⟨none, localName⟩).map (·.into u) := by
  show (t'.lookup.get? _).bind (fun i => t'.components[i]?) = _
  rw [h.lookup, h.components]
  show _ = ((t.lookup.get? _).bind fun i => t.components[i]?).map _
  cases t.lookup.get? (space, ⟨none, localName⟩) <;> simp

theorem key_into (x : Component) : (x.into u).key = (x.kind.space, ⟨some u, x.name.localName⟩) :=
  rfl

theorem key_of_uri_eq_none {x : Component} (hx : x.name.uri = none) :
    x.key = (x.kind.space, ⟨none, x.name.localName⟩) := by
  rw [Component.key, ← hx]

/-- One more declaration keeps tables alike. -/
theorem Renames.register {x : Component} (h : Renames u t t') (hx : x.name.uri = none)
    (hv : t.register limits x = .ok v) :
    ∃ v', t'.register limits (x.into u) = .ok v' ∧ Renames u v v' := by
  have hlookup : t'.lookup.get? (x.into u).key = t.lookup.get? x.key := by
    rw [key_into, h.lookup, key_of_uri_eq_none hx]
  have hsize : (t'.append (x.into u)).size = (t.append x).size := by
    simp [size, append, h.components]
  unfold Table.register at hv ⊢
  rw [hlookup]
  cases hl : t.lookup.get? x.key with
  | some i =>
      simp only [hl] at hv ⊢
      split at hv
      · rename_i hr
        cases hv
        refine ⟨t'.replace i (x.into u), if_pos hr, ?_, h.lookup⟩
        show t'.components.set i _ = (t.components.set i x).map _
        rw [h.components, List.map_set]
      · cases hv
  | none =>
      simp only [hl, hsize] at hv ⊢
      obtain ⟨_, hcheck, hv⟩ := bind_eq_ok_iff.1 hv
      cases Except.ok.inj hv
      refine ⟨t'.append (x.into u), bind_eq_ok_iff.2 ⟨(), hcheck, rfl⟩, ?_, ?_⟩
      · show t'.components ++ [_] = (t.components ++ [x]).map _
        rw [h.components, List.map_append, List.map_singleton]
      · intro space localName
        show (t'.lookup.insert (x.into u).key _).get? _ = (t.lookup.insert x.key _).get? _
        rw [OrderedMap.get?_insert, OrderedMap.get?_insert, key_into, key_of_uri_eq_none hx,
          h.lookup, h.components, List.length_map]
        simp

/-- Registering declarations in a namespace instead of none makes the same table in it. -/
theorem Renames.foldlM {xs : List Component} (h : Renames u t t')
    (hxs : ∀ x ∈ xs, x.name.uri = none) (hv : xs.foldlM (Table.register limits) t = .ok v) :
    ∃ v', (xs.map (·.into u)).foldlM (Table.register limits) t' = .ok v' ∧ Renames u v v' := by
  induction xs generalizing t t' with
  | nil =>
      cases Except.ok.inj hv
      exact ⟨t', rfl, h⟩
  | cons x rest ih =>
      rw [List.foldlM_cons] at hv
      obtain ⟨w, hw, hv⟩ := bind_eq_ok_iff.1 hv
      obtain ⟨w', hw', hrenames⟩ := h.register (hxs x List.mem_cons_self) hw
      obtain ⟨v', hv', hresult⟩ := ih hrenames (fun y hy => hxs y (List.mem_cons_of_mem _ hy)) hv
      refine ⟨v', ?_, hresult⟩
      rw [List.map_cons, List.foldlM_cons]
      exact bind_eq_ok_iff.2 ⟨w', hw', hv'⟩

end Renames

end Table

namespace Schema

open Markup

/-- An element that includes a document and holds nothing. -/
def IsBareInclude (e : Element) : Prop :=
  e.isXsd = true ∧ e.name.localName = "include" ∧ e.children = []

/-- Elements that only include documents refer to no components. -/
theorem tokens_of_bare {root : Element} (h : ∀ e ∈ root.children, IsBareInclude e) :
    tokens root = [] := by
  refine List.flatMap_eq_nil_iff.2 fun e he => tokensOf_eq_nil ?_
  obtain ⟨f, hf, hef⟩ := List.mem_flatMap.1 (referring_eq_flatMap _ ▸ he)
  obtain ⟨hxsd, hname, hchildren⟩ := h f hf
  rw [referringOf_of_refers ⟨hxsd, by rw [hname]; decide⟩, hchildren] at hef
  rw [List.mem_singleton.1 hef, hname]
  decide

end Schema

namespace Setting

section Agenda

variable {u : String} {s : Setting} {n : SchemaNode} {entry : Path}

theorem component_into (hu : u ≠ "") (redefined : Bool)
    (d : Schema.Declaration) :
    component (n.into u) redefined d = (component n redefined d).map (·.into u) := by
  have hname : ∀ name, QName.of (some u) name = ⟨some u, name⟩ := by
    intro name
    simp [QName.of, nonEmpty, Option.filter, hu]
  unfold component
  cases d.name with
  | none => rfl
  | some name =>
      show (Except.mapError _ _ >>= _) = (Except.mapError _ _ >>= _).map _
      cases Name.validate name with
      | error f => rfl
      | ok _ =>
          show Except.ok (Component.mk _ (QName.of (some u) name) _ _) = _
          rw [hname]
          rfl

theorem componentsOf_into (hu : u ≠ "") (redefined : Bool)
    (ds : List Schema.Declaration) :
    componentsOf (n.into u) redefined ds = (componentsOf n redefined ds).map (·.into u) := by
  rw [componentsOf, componentsOf, List.map_filterMap]
  congr 1
  funext d
  rw [component_into hu]
  cases component n redefined d <;> rfl

theorem declareTasks_into (hu : u ≠ "") (redefined : Bool)
    (ds : List Schema.Declaration) :
    declareTasks (n.into u) redefined ds =
      (declareTasks n redefined ds).map (Task.into u entry) := by
  rw [declareTasks, declareTasks, componentsOf_into hu, List.map_map, List.map_map]
  rfl

theorem includeTasks_into (location : Option String) :
    s.includeTasks (n.into u) location = (s.includeTasks n location).map (Task.into u entry) := by
  cases location with
  | none => rfl
  | some l =>
      have hpath : (n.into u).path = n.path := rfl
      cases hf : s.found? n.path none (some l) with
      | none => simp only [includeTasks, hpath, hf]; rfl
      | some t => simp only [includeTasks, hpath, hf]; rfl

/-- An item that imports nothing brings up the same in the namespace `u`. -/
theorem itemTasks_into (hu : u ≠ "") {i : Schema.Item}
    (hi : ∀ uri location, i ≠ .importing uri location) :
    s.itemTasks (n.into u) i = (s.itemTasks n i).map (Task.into u entry) := by
  cases i with
  | importing uri location => exact absurd rfl (hi uri location)
  | including location => exact includeTasks_into location
  | redefining location ds =>
      rw [itemTasks, itemTasks, List.map_append, includeTasks_into, declareTasks_into hu]
  | declaring d => exact declareTasks_into hu false [d]

/-- A name makes a reference into the namespace `u` if that is adopted. -/
theorem resolve_into (document : Path) (t : Schema.Token) :
    t.resolve document (some u) = (t.resolve document none).map (·.into u) := by
  unfold Schema.Token.resolve
  cases Name.validateQualified t.text with
  | error f => rfl
  | ok _ =>
      cases t.scope.resolve t.text with
      | error f => rfl
      | ok name =>
          show Except.ok (Schema.Reference.mk _ _ _) = Except.ok (Schema.Reference.mk _ _ _)
          rw [Option.or_none]

end Agenda

/-- A file that holds another document of a permitted size, whose root declares the namespace `u`
and has the same name and children. -/
def Retargets (limits : Limits) (u : String) (content content' : Bytes) : Prop :=
  content'.length ≤ limits.maxDocumentSize ∧ (∃ text, Utf8.decode content' = .ok text) ∧
    ∃ root root', Markup.readDocument content = .ok root ∧
      Markup.readDocument content' = .ok root' ∧ root'.name = root.name ∧
        root'.children = root.children ∧ Schema.declaredNamespace root' = some u

/-- The file at a path is given the namespace `u`, and all others are left alone. -/
def RetargetsAt (limits : Limits) (u : String) (p : Path) (names : List Bytes)
    (content content' : Bytes) : Prop :=
  if Path.ofNames names = p then Retargets limits u content content' else content' = content

theorem exists_retargeted {s : Setting} {files : FileSystem} {u : String} {entry p : Path}
    {root : Markup.Element}
    (hfiles : s.files.Revises (RetargetsAt s.options.limits u entry) files)
    (hp : ∃ q, s.files.canonicalize q = .ok p) (h : s.readRoot p = .ok root) :
    ∃ root', (s.on files).readRoot p = .ok root' ∧ root'.children = root.children ∧
      Schema.declaredNamespace root' =
        if p = entry then some u else Schema.declaredNamespace root := by
  obtain ⟨content, text, hentry, hsize, htext, hread, hschema⟩ := readRoot_eq_ok_iff.1 h
  obtain ⟨⟨names, node⟩, hlocate, rfl⟩ := FileSystem.exists_place_of_entry hentry
  obtain ⟨content', hr, hentry'⟩ := hfiles.exists_content hlocate
  obtain ⟨q, hq⟩ := hp
  obtain ⟨_, rfl⟩ := FileSystem.canonicalPlace_of_locate hq hlocate
  unfold RetargetsAt at hr
  split at hr
  · rename_i hnames
    obtain ⟨hsize', ⟨text', htext'⟩, root₀, root', hread₀, hread', hname, hchildren, hdeclared⟩ := hr
    cases Except.ok.inj (hread.symm.trans hread₀)
    have hschema' : Schema.isSchema root' = true := by
      rwa [Schema.isSchema, Markup.Element.isXsd, hname]
    exact ⟨root', readRoot_eq_ok_iff.2 ⟨content', text', hentry', hsize', htext', hread', hschema'⟩,
      hchildren, by rw [if_pos hnames]; exact hdeclared⟩
  · rename_i hnames
    subst hr
    exact ⟨root, readRoot_eq_ok_iff.2 ⟨content', text, hentry', hsize, htext, hread, hschema⟩, rfl,
      by rw [if_neg hnames]⟩

section Whole

variable {s : Setting} {files : FileSystem} {entry : Path} {c : CompiledSet} {u : String}
variable {start n : SchemaNode} {es : List Step} {root root' : Markup.Element}

theorem ne_importing_of_mem_items
    (h : ∀ e ∈ root.children, e.isXsd = true → e.name.localName ≠ "import")
    {i : Schema.Item} (hi : i ∈ Schema.items root) (uri location : Option String) :
    i ≠ .importing uri location := by
  rintro rfl
  obtain ⟨e, he, hitem⟩ := List.mem_filterMap.1 hi
  obtain ⟨hxsd, hname, _⟩ := Schema.ofElement_eq_importing_iff.1 hitem
  exact h e he hxsd hname

/-- Without imports, all documents take part in the namespace of the first. -/
theorem Compiles.uri_eq (hc : s.Compiles entry c start es)
    (himports : ∀ n ∈ c.nodes, ∀ root, s.readRoot n.path = .ok root →
      ∀ e ∈ root.children, e.isXsd = true → e.name.localName ≠ "import") :
    ∀ n ∈ c.nodes, n.uri = start.uri := by
  intro n hn
  have path := (hc.order.mem_iff_reachable n).1 hn
  clear hn
  induction path with
  | refl => rfl
  | @tail m n path hmn ih =>
      have hm : m ∈ c.nodes := (hc.order.mem_iff_reachable m).2 path
      obtain ⟨root, hroot⟩ := hc.admitted m hm
      obtain ⟨i, hi, hleads⟩ := (mem_agenda_enter_iff hroot.read n).1 hmn
      rw [← ih]
      cases i with
      | importing uri location =>
          exact absurd rfl (ne_importing_of_mem_items (himports m hm root hroot.read) hi _ _)
      | including location =>
          cases location with
          | none => cases hleads
          | some l =>
              obtain ⟨t, _, rfl⟩ := Option.map_eq_some_iff.1 hleads
              rfl
      | redefining location ds =>
          cases location with
          | none => cases hleads
          | some l =>
              obtain ⟨t, _, rfl⟩ := Option.map_eq_some_iff.1 hleads
              rfl
      | declaring d => cases hleads

/-- The root of a document under the new files, compared with that of a document that took part in
no namespace. -/
structure Moves (s : Setting) (files : FileSystem) (u : String) (entry : Path) (n : SchemaNode)
    (root root' : Markup.Element) : Prop where
  read : s.readRoot n.path = .ok root
  read' : (s.on files).readRoot n.path = .ok root'
  children : root'.children = root.children
  declared : Schema.declaredNamespace root = none
  declared' : Schema.declaredNamespace root' = if n.path = entry then some u else none
  /-- The entry document refers to no components. -/
  bare : n.path = entry → Schema.tokens root = []
  plain : ∀ e ∈ root.children, e.isXsd = true → e.name.localName ≠ "import"

theorem adopted_none (root : Markup.Element) : Schema.adopted root none = none := by
  simp [Schema.adopted]

namespace Moves

variable (h : s.Moves files u entry n root root')
include h

theorem items_eq : Schema.items root' = Schema.items root := by
  rw [Schema.items, Schema.items, h.children]

theorem tokens_eq : Schema.tokens root' = Schema.tokens root := by
  rw [Schema.tokens, Schema.tokens, h.children]

/-- All documents but the entry document adopt the namespace. -/
theorem adopts_eq : Schema.adopts root' (some u) = decide (n.path ≠ entry) := by
  rw [Schema.adopts, h.declared']
  by_cases hp : n.path = entry <;> simp [hp]

theorem adopted_eq (hp : n.path ≠ entry) : Schema.adopted root' (some u) = some u := by
  simp [Schema.adopted, h.adopts_eq, hp]

/-- The names of a moved document make the same references, moved. -/
theorem resolve_eq (hn : n.uri = none) {t : Schema.Token} (ht : t ∈ Schema.tokens root) :
    t.resolve n.path (Schema.adopted root' (some u)) =
      (t.resolve n.path (Schema.adopted root n.uri)).map (·.into u) := by
  have hp : n.path ≠ entry := by
    intro hp
    rw [h.bare hp] at ht
    exact absurd ht List.not_mem_nil
  rw [h.adopted_eq hp, hn, adopted_none, resolve_into]

theorem referencesOfRoot_eq (hn : n.uri = none) :
    referencesOfRoot (n.into u) root' = (referencesOfRoot n root).map (·.into u) := by
  rw [referencesOfRoot, referencesOfRoot, h.tokens_eq, List.map_filterMap]
  refine List.filterMap_congr fun t ht => ?_
  show (t.resolve n.path (Schema.adopted root' (some u))).toOption = _
  rw [h.resolve_eq hn ht]
  cases t.resolve n.path (Schema.adopted root n.uri) <;> rfl

/-- The agenda of a moved node is the agenda of the node, moved. -/
theorem agenda_eq (hfiles : ∀ p, files.canonicalize p = s.files.canonicalize p) (hu : u ≠ "")
    (hn : n.uri = none) :
    (s.on files).agenda (n.into u) = (s.agenda n).map (Task.into u entry) := by
  have hread' : (s.on files).readRoot (n.into u).path = .ok root' := h.read'
  have hitems : (Schema.items root).flatMap ((s.on files).itemTasks (n.into u)) =
      ((Schema.items root).flatMap (s.itemTasks n)).map (Task.into u entry) := by
    rw [List.map_flatMap]
    refine List.flatMap_congr fun i hi => ?_
    rw [itemTasks_on hfiles, itemTasks_into hu (ne_importing_of_mem_items h.plain hi)]
  rw [Setting.agenda_eq hread', Setting.agenda_eq h.read, rootTasks, rootTasks, h.items_eq, hitems,
    h.referencesOfRoot_eq hn, List.map_cons, List.map_append, List.map_map, List.map_map]
  show Task.report (Step.opened (n.into u) (Schema.adopts root' (some u))) :: _ = _
  rw [h.adopts_eq]
  rfl

/-- A moved document can be opened as well. -/
theorem admits (hfiles : ∀ p, files.canonicalize p = s.files.canonicalize p)
    (hn : n.uri = none) (ha : s.Admits n root) (hl : ∀ i ∈ Schema.items root, s.Locatable n i) :
    (s.on files).Admits (n.into u) root' ∧
      ∀ i ∈ Schema.items root', (s.on files).Locatable (n.into u) i := by
  obtain ⟨q, hq⟩ := ha.canonical
  rw [h.items_eq]
  refine ⟨⟨⟨q, (hfiles q).trans hq⟩, h.read', ?_, ?_, ?_⟩, fun i hi => ?_⟩
  · show _ = some u ∨ _
    rw [h.declared']
    split
    · exact .inl rfl
    · exact .inr rfl
  · rw [h.items_eq]
    intro i hi
    have hfollowable := ha.items i hi
    cases i with
    | importing uri location => exact absurd rfl (ne_importing_of_mem_items h.plain hi _ _)
    | including location => exact hfollowable
    | redefining location ds => exact hfollowable
    | declaring d => exact hfollowable
  · rw [h.tokens_eq]
    intro t ht
    obtain ⟨r, hr⟩ := ha.tokens t ht
    have hresolve := h.resolve_eq hn ht
    rw [hr] at hresolve
    exact ⟨_, hresolve⟩
  · have hlocatable : (s.on files).Locatable n i := (locatable_on_iff hfiles n i).2 (hl i hi)
    cases i with
    | importing uri location => exact hlocatable
    | including location => exact hlocatable
    | redefining location ds => exact hlocatable
    | declaring d => trivial

end Moves

/-- Moving nodes keeps the conditions on entering one from another. -/
theorem Enters.into {m : SchemaNode} {depth : Nat} (h : s.Enters m depth n) :
    (s.on files).Enters (m.into u) depth (n.into u) :=
  ⟨h.depth, .inl rfl⟩

/-- The names of the components that documents in no namespace declare are in none. -/
theorem Compiles.component_uri_eq_none (hc : s.Compiles entry c start es)
    (hnone : ∀ n ∈ c.nodes, n.uri = none) :
    (∀ x ∈ declaredOf es, x.name.uri = none) ∧ ∀ x ∈ c.components, x.name.uri = none := by
  have hdeclared : ∀ x ∈ declaredOf es, x.name.uri = none := by
    intro x hx
    obtain ⟨n, hn, _, _, name, _, _, _, _, hname, _⟩ := (mem_declaredOf_iff_declares hc x).1 hx
    rw [hname, hnone n hn]
    rfl
  refine ⟨hdeclared, fun x hx => hdeclared x ?_⟩
  have hrecords : c.table.Records (declaredOf es) := by
    simpa using Table.records_foldlM Table.records_empty hc.table
  exact List.mem_of_mem_filter (List.mem_of_getLast? (hrecords.latest x hx))

/-- The events of a set tell of its documents. -/
theorem Compiles.mem_nodes_of_about (hc : s.Compiles entry c start es) {step : Step}
    (he : step ∈ es) (hn : step.about? = some n) :
    n ∈ c.nodes := by
  obtain ⟨m, hm, root, _, ht⟩ := hc.reported he
  rcases report_mem_rootTasks_iff.1 ht with rfl | ⟨i, _, hi⟩ | ⟨r, _, rfl⟩
  · cases hn
    exact hm
  · cases reports_of_mem_itemTasks hi with
    | asked => cases hn
    | included _ =>
        cases hn
        exact hm
    | imported =>
        cases hn
        exact hm
    | declared _ => cases hn
  · cases hn

/-- A reference that lands among components in no namespace lands, moved, among the moved ones. -/
theorem lands_into {t t' : Table} (ht : t.Coupled) (hrenames : t.Renames u t')
    (hnone : ∀ x ∈ t.components, x.name.uri = none) {r : Schema.Reference}
    (hr : lands t r = true) :
    lands t' (r.into u) = true := by
  obtain ⟨space, ⟨uri, localName⟩, document⟩ := r
  cases uri with
  | none =>
      rw [lands, Bool.or_eq_true] at hr ⊢
      refine .inr ?_
      show (t'.component? space ⟨some u, localName⟩).isSome = true
      rw [hrenames.component?, Option.isSome_map]
      exact hr.resolve_left (by simp [Schema.isBuiltIn, QName.isXsd])
  | some v =>
      rw [lands, Bool.or_eq_true] at hr ⊢
      refine hr.imp id fun hsome => ?_
      -- no component has a name in a namespace
      obtain ⟨x, hx⟩ := Option.isSome_iff_exists.1 hsome
      obtain ⟨hmem, _, hname⟩ := (Table.component?_eq_some_iff ht _ _).1 hx
      have huri := hnone x hmem
      rw [hname] at huri
      cases huri

section Moving

variable (hc : s.Compiles entry c start es)
variable (hfiles : s.files.Revises (RetargetsAt s.options.limits u c.entry) files)
include hc hfiles

/-- What is known of every document of a set when the entry document is given a namespace. -/
theorem exists_moves
    (hentry : ∀ root, s.readRoot c.entry = .ok root → ∀ e ∈ root.children, Schema.IsBareInclude e)
    (himports : ∀ n ∈ c.nodes, ∀ root, s.readRoot n.path = .ok root →
      ∀ e ∈ root.children, e.isXsd = true → e.name.localName ≠ "import")
    (hnone : ∀ n ∈ c.nodes, n.uri = none) :
    ∀ n ∈ c.nodes, ∃ root root', s.Moves files u c.entry n root root' ∧
      s.Admits n root ∧ ∀ i ∈ Schema.items root, s.Locatable n i := by
  intro n hn
  obtain ⟨root, hroot, hl⟩ := hc.permitted.admitted n hn
  obtain ⟨root', hread', hchildren, hdeclared'⟩ :=
    exists_retargeted hfiles hroot.canonical hroot.read
  have hdeclared : Schema.declaredNamespace root = none := by
    rcases hroot.declared with hd | hd
    · rw [hd, hnone n hn]
    · exact hd
  rw [hdeclared] at hdeclared'
  have hbare : n.path = c.entry → Schema.tokens root = [] := by
    intro hp
    exact Schema.tokens_of_bare (hentry root (hp ▸ hroot.read))
  exact ⟨root, root', ⟨hroot.read, hread', hchildren, hdeclared, hdeclared', hbare,
    himports n hn root hroot.read⟩, hroot, hl⟩

variable (hnone : ∀ n ∈ c.nodes, n.uri = none)
variable (hmoves : ∀ n ∈ c.nodes, ∃ root root', s.Moves files u c.entry n root root' ∧
  s.Admits n root ∧ ∀ i ∈ Schema.items root, s.Locatable n i)
include hnone hmoves

/-- The traversal of the moved documents is the one of the documents, moved. -/
theorem descent_into (hu : u ≠ "") :
    Descent (s.on files).agenda (s.on files).Enters (start.into u) 0 [start.into u]
      ((s.on files).agenda (start.into u)) (es.map (·.into u c.entry)) (c.nodes.map (·.into u)) := by
  have hagenda : ∀ n ∈ c.nodes,
      (s.on files).agenda (n.into u) = (s.agenda n).map (Task.into u c.entry) := by
    intro n hn
    obtain ⟨root, root', hmove, _⟩ := hmoves n hn
    exact hmove.agenda_eq hfiles.canonicalize_eq hu (hnone n hn)
  have hstart : start ∈ c.nodes := hc.descent.depthFirst.seen_subset (by simp)
  rw [hagenda start hstart]
  exact hc.descent.map (fun m hm n hn => SchemaNode.into_inj (hnone m hm) (hnone n hn))
    List.mem_cons_self hagenda fun m _ n _ d => Enters.into

theorem permits_into : (s.on files).Permits (c.nodes.map (·.into u)) := by
  refine ⟨fun m hm => ?_, ?_⟩
  · obtain ⟨n, hn, rfl⟩ := List.mem_map.1 hm
    obtain ⟨root, root', hmove, hroot, hl⟩ := hmoves n hn
    exact ⟨root', hmove.admits hfiles.canonicalize_eq (hnone n hn) hroot hl⟩
  · rw [List.length_map]
    exact hc.permitted.counted

end Moving

end Whole

/-- Chameleon inclusion is a renaming.  Where an entry document without a namespace only
includes documents, and nothing is imported, giving it a namespace gives that namespace to all
documents and components of the set, and changes nothing else. -/
theorem compile_into {s : Setting} {files : FileSystem} {entry : Path} {c : CompiledSet}
    {u : String} (hcompiled : (s.compile entry).outcome = .ok c)
    (hentry : ∀ root, s.readRoot c.entry = .ok root →
      Schema.declaredNamespace root = none ∧ ∀ e ∈ root.children, Schema.IsBareInclude e)
    (himports : ∀ d ∈ c.documents, ∀ root, s.readRoot d.path = .ok root →
      ∀ e ∈ root.children, e.isXsd = true → e.name.localName ≠ "import")
    (hfiles : s.files.Revises (RetargetsAt s.options.limits u c.entry) files) :
    ∃ c', ((s.on files).compile entry).outcome = .ok c' ∧ c'.entry = c.entry ∧
      c'.documents = c.documents.map (·.into u c.entry) ∧
      c'.components = c.components.map (·.into u) ∧
      (∀ d ∈ c.documents, d.targetNamespace = none) ∧ ∀ x ∈ c.components, x.name.uri = none := by
  obtain ⟨start, es, hc⟩ := compiles hcompiled
  have himports' : ∀ n ∈ c.nodes, ∀ root, s.readRoot n.path = .ok root →
      ∀ e ∈ root.children, e.isXsd = true → e.name.localName ≠ "import" := by
    intro n hn
    obtain ⟨d, hd, rfl⟩ := List.mem_map.1 hn
    exact himports d hd
  have hnone : ∀ n ∈ c.nodes, n.uri = none := by
    intro n hn
    obtain ⟨root, hread, huri⟩ := hc.declared
    rw [hc.uri_eq himports' n hn, ← huri]
    exact (hentry root (hc.path ▸ hread)).1
  have hmoves := exists_moves hc hfiles (fun root hread => (hentry root hread).2) himports' hnone
  -- the entry document declares the namespace
  have hstart : start ∈ c.nodes := hc.descent.depthFirst.seen_subset (by simp)
  obtain ⟨root, root', hmove, _⟩ := hmoves start hstart
  have hdeclared : Schema.declaredNamespace root' = some u := by
    rw [hmove.declared', if_pos hc.path]
  have hu : u ≠ "" := by
    rintro rfl
    exact nonEmpty_ne _ hdeclared
  have hcanonical : (s.on files).files.canonicalize
      (((s.on files).resolver (entryRequest entry)).systemId.getD entry) =
        .ok (start.into u).path := by
    show files.canonicalize _ = .ok start.path
    rw [hc.path, ← hc.canonical]
    exact hfiles.canonicalize_eq _
  -- the components and the references are moved
  obtain ⟨hnamesDeclared, hnames⟩ := hc.component_uri_eq_none hnone
  obtain ⟨t, htable, hrenames⟩ := Table.renames_empty.foldlM hnamesDeclared hc.table
  have hcoupled := (Table.records_foldlM Table.records_empty hc.table).coupled
  have hlands : ∀ r ∈ referencesOf (es.map (·.into u c.entry)), lands t r = true := by
    rw [referencesOf_into]
    intro moved hmoved
    obtain ⟨r, hr, rfl⟩ := List.mem_map.1 hmoved
    exact lands_into hcoupled hrenames hnames (hc.lands r hr)
  have hdocuments :
      documentsOf (es.map (·.into u c.entry)) = c.documents.map (·.into u c.entry) := by
    rw [hc.documents]
    exact documentsOf_into fun step he n hn => hnone n (hc.mem_nodes_of_about he hn)
  rw [← declaredOf_into] at htable
  refine ⟨_, compile_completes hcanonical ⟨root', hmove.read', hdeclared⟩
    (descent_into hc hfiles hnone hmoves hu) (permits_into hc hfiles hnone hmoves) htable hlands,
    hc.path, hdocuments, hrenames.components, ?_, hnames⟩
  exact fun d hd => hnone d.node (List.mem_map_of_mem hd)

section Sample

/-- A document that includes another, with some attributes. -/
def namelessMain (attributes : String) : Bytes :=
  schemaOctets attributes ["<include schemaLocation='p'/>"]

/-- The files of a set, given the attributes of its entry document: a document is included that
redefines another one and includes the entry document. -/
def filesUnder (attributes : String) : FileSystem :=
  topFiles
    [("main", namelessMain attributes),
      ("p", schemaOctets ""
        ["<redefine schemaLocation='q'><simpleType name='t'/></redefine>",
          "<include schemaLocation='main'/>", "<element name='e' type='t'/>"]),
      ("q", schemaOctets "" ["<simpleType name='t'/>"])]

def nameless : Setting := ⟨filesUnder "", Resolution.miss, .standard⟩

/-- What the set compiles to. -/
def namelessSet : CompiledSet where
  entry := topPath "main"
  documents :=
    [⟨topPath "main", none, false, [], [topPath "p"]⟩,
      ⟨topPath "p", none, false, [], [topPath "q", topPath "main"]⟩,
      ⟨topPath "q", none, false, [], []⟩]
  table :=
    ⟨[⟨.simpleType, .bare "t", topPath "p", true⟩, ⟨.element, .bare "e", topPath "p", false⟩],
      .ofList [((.type, .bare "t"), 0), ((.element, .bare "e"), 1)]⟩

set_option maxRecDepth 10000 in
theorem nameless_compiles : (nameless.compile (topPath "main")).outcome = .ok namelessSet := by
  decide +kernel

theorem namelessMain_retargets :
    Retargets nameless.options.limits "n" (namelessMain "") (namelessMain "targetNamespace='n'") := by
  have hread : (Markup.readDocument (namelessMain "")).toOption.isSome = true ∧
      (Markup.readDocument (namelessMain "targetNamespace='n'")).toOption.isSome = true ∧
      (Utf8.decode (namelessMain "targetNamespace='n'")).toOption.isSome = true ∧
      (namelessMain "targetNamespace='n'").length ≤ nameless.options.limits.maxDocumentSize ∧
      (Markup.rootOf (namelessMain "targetNamespace='n'")).name =
        (Markup.rootOf (namelessMain "")).name ∧
      (Markup.rootOf (namelessMain "targetNamespace='n'")).children =
        (Markup.rootOf (namelessMain "")).children ∧
      Schema.declaredNamespace (Markup.rootOf (namelessMain "targetNamespace='n'")) = some "n" := by
    decide +kernel
  obtain ⟨hold, hnew, htext, hlength, hname, hchildren, hdeclared⟩ := hread
  obtain ⟨text, htext⟩ := Option.isSome_iff_exists.1 htext
  exact ⟨hlength, ⟨text, toOption_eq_some_iff.1 htext⟩, _, _, Markup.readDocument_rootOf hold,
    Markup.readDocument_rootOf hnew, hname, hchildren, hdeclared⟩

theorem filesUnder_revises :
    nameless.files.Revises
      (RetargetsAt nameless.options.limits "n" namelessSet.entry)
      (filesUnder "targetNamespace='n'") := by
  have hpaths : Path.ofNames [Utf8.encode "main"] = namelessSet.entry ∧
      Path.ofNames [Utf8.encode "p"] ≠ namelessSet.entry ∧
      Path.ofNames [Utf8.encode "q"] ≠ namelessSet.entry := by
    decide +kernel
  obtain ⟨hmain, hp, hq⟩ := hpaths
  refine FileSystem.revises_ofList (.cons ⟨rfl, .file ?_⟩ (.cons ⟨rfl, .file ?_⟩
    (.cons ⟨rfl, .file ?_⟩ .nil)))
  · exact (if_pos hmain).mpr namelessMain_retargets
  · exact (if_neg hp).mpr rfl
  · exact (if_neg hq).mpr rfl

/-- Giving the entry document a namespace moves the set into it. -/
theorem nameless_compile_into :
    (nameless.compile (topPath "main")).outcome = .ok namelessSet ∧
      ∃ c', ((nameless.on (filesUnder "targetNamespace='n'")).compile (topPath "main")).outcome =
          .ok c' ∧ c'.entry = namelessSet.entry ∧
        c'.documents = namelessSet.documents.map (·.into "n" namelessSet.entry) ∧
        c'.components = namelessSet.components.map (·.into "n") ∧
        (∀ d ∈ namelessSet.documents, d.targetNamespace = none) ∧
          ∀ x ∈ namelessSet.components, x.name.uri = none := by
  have hentry : ∀ root ∈ (nameless.readRoot namelessSet.entry).toOption,
      Schema.declaredNamespace root = none ∧
        ∀ e ∈ root.children, e.isXsd = true ∧ e.name.localName = "include" ∧ e.children = [] := by
    decide +kernel
  have himports : ∀ d ∈ namelessSet.documents, ∀ root ∈ (nameless.readRoot d.path).toOption,
      ∀ e ∈ root.children, e.isXsd = true → e.name.localName ≠ "import" := by
    decide +kernel
  exact ⟨nameless_compiles, compile_into nameless_compiles
    (fun root hroot => hentry root (toOption_eq_some_iff.2 hroot))
    (fun d hd root hroot => himports d hd root (toOption_eq_some_iff.2 hroot)) filesUnder_revises⟩

end Sample

end Setting
end SchemaSet
