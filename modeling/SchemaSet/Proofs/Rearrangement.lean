import Mathlib.Data.List.Perm.Basic
import SchemaSet.Proofs.Completion
import SchemaSet.Proofs.References
import SchemaSet.Proofs.Revision
import SchemaSet.Proofs.SymbolTable

/-!
# The order of references does not matter

`Schema.Rearranged` says that two roots hold the same elements that import or include, however
often, and the same other elements in any order.  This module compares a compilation that succeeds
with one of the same documents rearranged.

The agendas of a rearranged document hold the same tasks in another order, so the same nodes can be
reached, and any depth-first traversal of them opens all of these.  What they declare is the same up
to order (`declaredBy_rearranged`).  Declarations outside of redefinitions can be
registered exactly if no two have one key and there are not too many of them
(`Table.foldlM_register_iff_of_direct`), so the order in which they are registered does not matter.

Together, the compilation of the rearranged documents succeeds with the same contents
(`compile_rearranged`).
-/

namespace SchemaSet

namespace Table

section Direct

variable {limits : Limits} {t u : Table} {c : Component} {ds ds' : List Component}

theorem register_eq_ok_iff_of_direct (hc : c.redefined = false) :
    t.register limits c = .ok u ↔
      t.lookup.get? c.key = none ∧ t.size + 1 ≤ limits.maxSchemaComponents ∧ u = t.append c := by
  unfold register
  cases hl : t.lookup.get? c.key with
  | some i => simp [hc]
  | none =>
      have hsize : (t.append c).size = t.size + 1 := by simp [size, append]
      simp only [true_and, bind_eq_ok_iff, mapError_eq_ok_iff]
      constructor
      · rintro ⟨_, hcheck, hu⟩
        refine ⟨?_, (Except.ok.inj hu).symm⟩
        rw [← hsize]
        exact (Limits.check_ok_iff limits .schemaComponents _).1 hcheck
      · rintro ⟨hle, rfl⟩
        rw [← hsize] at hle
        exact ⟨(), (Limits.check_ok_iff limits .schemaComponents _).2 hle, rfl⟩

theorem lookup_append_eq_none_iff (key : SymbolSpace × QName) :
    (t.append c).lookup.get? key = none ↔ c.key ≠ key ∧ t.lookup.get? key = none := by
  show (t.lookup.insert c.key t.components.length).get? key = none ↔ _
  rw [OrderedMap.get?_insert]
  by_cases hk : c.key = key <;> simp [hk]

/-- Declarations outside of redefinitions can be registered exactly if their keys are new and
distinct and the table does not grow too large. -/
theorem foldlM_register_iff_of_direct (hd : ∀ c ∈ ds, c.redefined = false) :
    ds.foldlM (register limits) t = .ok u ↔
      (ds.map Component.key).Nodup ∧ (∀ c ∈ ds, t.lookup.get? c.key = none) ∧
        (ds = [] ∨ t.size + ds.length ≤ limits.maxSchemaComponents) ∧ u = ds.foldl append t := by
  induction ds generalizing t with
  | nil =>
      show Except.ok t = Except.ok u ↔ _
      simp [eq_comm]
  | cons c rest ih =>
      have hsize : (t.append c).size = t.size + 1 := by simp [size, append]
      have hrest := @ih (t.append c) fun x hx => hd x (List.mem_cons_of_mem _ hx)
      rw [List.foldlM_cons, bind_eq_ok_iff]
      constructor
      · rintro ⟨v, hv, hu⟩
        obtain ⟨hnew, hle, rfl⟩ :=
          (register_eq_ok_iff_of_direct (hd c List.mem_cons_self)).1 hv
        obtain ⟨hnodup, hall, hcount, rfl⟩ := hrest.1 hu
        have hother : ∀ x ∈ rest, c.key ≠ x.key ∧ t.lookup.get? x.key = none :=
          fun x hx => (lookup_append_eq_none_iff _).1 (hall x hx)
        refine ⟨List.nodup_cons.2 ⟨?_, hnodup⟩, ?_, .inr ?_, rfl⟩
        · intro hmem
          obtain ⟨x, hx, hk⟩ := List.mem_map.1 hmem
          exact (hother x hx).1 hk.symm
        · intro x hx
          rcases List.mem_cons.1 hx with rfl | hx
          · exact hnew
          · exact (hother x hx).2
        · rcases hcount with rfl | hcount
          · exact hle
          · rw [List.length_cons]
            omega
      · rintro ⟨hnodup, hall, hcount, rfl⟩
        obtain ⟨hfirst, hnodup⟩ := List.nodup_cons.1 hnodup
        have hle : t.size + (rest.length + 1) ≤ limits.maxSchemaComponents :=
          hcount.resolve_left (List.cons_ne_nil _ _)
        refine ⟨t.append c, ?_, hrest.2 ⟨hnodup, ?_, .inr (by omega), rfl⟩⟩
        · exact (register_eq_ok_iff_of_direct (hd c List.mem_cons_self)).2
            ⟨hall c List.mem_cons_self, by omega, rfl⟩
        · intro x hx
          refine (lookup_append_eq_none_iff _).2 ⟨?_, hall x (List.mem_cons_of_mem _ hx)⟩
          exact fun hk => hfirst (List.mem_map.2 ⟨x, hx, hk.symm⟩)

theorem components_foldl_append (t : Table) (ds : List Component) :
    (ds.foldl append t).components = t.components ++ ds := by
  induction ds generalizing t with
  | nil => simp
  | cons c rest ih =>
      rw [List.foldl_cons, ih]
      simp [append]

/-- Tables with the same components answer alike. -/
theorem component?_of_perm (h : t.Coupled) (h' : u.Coupled)
    (hp : u.components.Perm t.components) (space : SymbolSpace) (name : QName) :
    u.component? space name = t.component? space name := by
  refine Option.ext fun c => ?_
  rw [component?_eq_some_iff h, component?_eq_some_iff h', hp.mem_iff]

/-- Registering declarations outside of redefinitions in another order makes a table with the same
components. -/
theorem foldlM_register_perm (hd : ∀ c ∈ ds, c.redefined = false) (hp : ds'.Perm ds)
    (h : ds.foldlM (register limits) ∅ = .ok t) :
    ∃ u, ds'.foldlM (register limits) ∅ = .ok u ∧ u.components.Perm t.components ∧
      ∀ space name, u.component? space name = t.component? space name := by
  have hd' : ∀ c ∈ ds', c.redefined = false := fun c hc => hd c (hp.mem_iff.1 hc)
  obtain ⟨hnodup, hnew, hcount, ht⟩ := (foldlM_register_iff_of_direct hd).1 h
  have hcount' : ds' = [] ∨ size ∅ + ds'.length ≤ limits.maxSchemaComponents := by
    rcases hcount with rfl | hcount
    · exact .inl hp.eq_nil
    · exact .inr (hp.length_eq ▸ hcount)
  have h' : ds'.foldlM (register limits) ∅ = .ok (ds'.foldl append ∅) :=
    (foldlM_register_iff_of_direct hd').2
      ⟨(hp.map _).nodup_iff.2 hnodup, fun c hc => hnew c (hp.mem_iff.1 hc), hcount', rfl⟩
  have hcomponents : (ds'.foldl append ∅).components.Perm t.components := by
    rw [ht, components_foldl_append, components_foldl_append]
    exact hp.append_left _
  refine ⟨_, h', hcomponents, component?_of_perm ?_ ?_ hcomponents⟩
  · exact (records_foldlM records_empty h).coupled
  · exact (records_foldlM records_empty h').coupled

end Direct

end Table

namespace Schema

open Markup

/-- Whether an element directly inside a schema imports or includes a document. -/
def isReferral (e : Element) : Bool :=
  e.isXsd && (e.name.localName == "import" || e.name.localName == "include")

/-- Two roots with the same elements inside: those that import or include documents in any order
and number, the others in any order. -/
structure Rearranged (root root' : Element) : Prop where
  name : root'.name = root.name
  attributes : root'.attributes = root.attributes
  /-- The elements that import or include documents may be repeated. -/
  referrals : ∀ e, isReferral e = true → (e ∈ root'.children ↔ e ∈ root.children)
  /-- The other elements stand there as often. -/
  others : (root'.children.filter fun e => !isReferral e).Perm
    (root.children.filter fun e => !isReferral e)

namespace Rearranged

theorem refl (root : Element) : Rearranged root root :=
  ⟨rfl, rfl, fun _ _ => Iff.rfl, .refl _⟩

/-- Elements in another order, with some of those that import or include documents repeated. -/
theorem of_perm {root root' : Element} {repeated : List Element} (hn : root'.name = root.name)
    (ha : root'.attributes = root.attributes)
    (hr : ∀ e ∈ repeated, isReferral e = true ∧ e ∈ root.children)
    (hp : root'.children.Perm (root.children ++ repeated)) :
    Rearranged root root' where
  name := hn
  attributes := ha
  referrals := by
    intro e _
    rw [hp.mem_iff, List.mem_append]
    exact or_iff_left_of_imp fun he => (hr e he).2
  others := by
    have hnone : (repeated.filter fun e => !isReferral e) = [] := by
      rw [List.filter_eq_nil_iff]
      intro e he
      simp [(hr e he).1]
    simpa [List.filter_append, hnone] using hp.filter fun e => !isReferral e

variable {root root' : Element} (h : Rearranged root root')
include h

theorem mem_children_iff (e : Element) : e ∈ root'.children ↔ e ∈ root.children := by
  cases hr : isReferral e with
  | true => exact h.referrals e hr
  | false =>
      have hmem := h.others.mem_iff (a := e)
      simpa [List.mem_filter, hr] using hmem

theorem isSchema_eq : isSchema root' = isSchema root := by
  simp [isSchema, Element.isXsd, h.name]

theorem declaredNamespace_eq : declaredNamespace root' = declaredNamespace root := by
  simp [declaredNamespace, Element.attribute?, h.attributes]

theorem adopts_eq (uri : Option String) : adopts root' uri = adopts root uri := by
  simp [adopts, h.declaredNamespace_eq]

theorem adopted_eq (uri : Option String) : adopted root' uri = adopted root uri := by
  simp [adopted, h.adopts_eq]

theorem mem_items_iff (i : Item) : i ∈ items root' ↔ i ∈ items root := by
  simp only [items, List.mem_filterMap, h.mem_children_iff]

theorem mem_tokens_iff (t : Token) : t ∈ tokens root' ↔ t ∈ tokens root := by
  simp only [tokens, referring_eq_flatMap, List.mem_flatMap, h.mem_children_iff]

end Rearranged

/-- An element that imports or includes documents means nothing else. -/
theorem ofElement_of_isReferral {e : Element} {i : Item} (hr : isReferral e = true)
    (he : Item.ofElement e = some i) :
    (∃ uri location, i = .importing uri location) ∨ ∃ location, i = .including location := by
  obtain ⟨hx, hname⟩ : e.isXsd = true ∧
      (e.name.localName = "import" ∨ e.name.localName = "include") := by
    simpa [isReferral] using hr
  rw [Item.ofElement, if_pos hx] at he
  rcases hname with hname | hname
  · simp only [hname, if_true, Option.some.injEq] at he
    exact .inl ⟨_, _, he.symm⟩
  · simp only [hname, String.reduceEq, if_false, if_true, Option.some.injEq] at he
    exact .inr ⟨_, he.symm⟩

/-- What is made of the items that neither import nor include. -/
theorem items_flatMap {α : Type} {f : Item → List α}
    (himporting : ∀ uri location, f (.importing uri location) = [])
    (hincluding : ∀ location, f (.including location) = []) (l : List Element) :
    (l.filterMap Item.ofElement).flatMap f =
      ((l.filter fun e => !isReferral e).filterMap Item.ofElement).flatMap f := by
  induction l with
  | nil => rfl
  | cons e rest ih =>
      cases he : Item.ofElement e with
      | none =>
          rw [List.filterMap_cons_none he, ih]
          cases hr : isReferral e <;> simp [hr, he]
      | some i =>
          rw [List.filterMap_cons_some he, List.flatMap_cons, ih]
          cases hr : isReferral e with
          | false => simp [hr, he]
          | true =>
              have hnothing : f i = [] := by
                rcases ofElement_of_isReferral hr he with ⟨uri, location, rfl⟩ | ⟨location, rfl⟩
                · exact himporting uri location
                · exact hincluding location
              simp [hr, hnothing]

theorem Rearranged.items_flatMap_perm {α : Type} {f : Item → List α} {root root' : Element}
    (h : Rearranged root root') (himporting : ∀ uri location, f (.importing uri location) = [])
    (hincluding : ∀ location, f (.including location) = []) :
    ((items root').flatMap f).Perm ((items root).flatMap f) := by
  rw [items, items, items_flatMap himporting hincluding,
    items_flatMap himporting hincluding root.children]
  exact (h.others.filterMap _).flatMap_right _

end Schema

namespace Setting

/-- The components that a node declares, as often as it does. -/
def declaredBy (s : Setting) (n : SchemaNode) : List Component :=
  declaredOf ((s.agenda n).filterMap Task.event?)

section Tasks

variable {s : Setting} {n : SchemaNode} {root root' : Markup.Element}

/-- What an item declares is what it brings up to declare. -/
theorem declaredOf_itemTasks (i : Schema.Item) :
    declaredOf ((s.itemTasks n i).filterMap Task.event?) = declares n i := by
  simp [declaredOf, filterMap_itemTasks, askTask, Task.event?, Step.component?, Function.comp_def]

theorem declaredBy_eq (h : s.readRoot n.path = .ok root) :
    s.declaredBy n = (Schema.items root).flatMap (declares n) := by
  have hitem : ∀ i, (s.itemTasks n i).filterMap (fun t => t.event?.bind Step.component?) =
      declares n i := by
    intro i
    rw [← List.filterMap_filterMap]
    exact declaredOf_itemTasks i
  rw [declaredBy, agenda_eq h, declaredOf, List.filterMap_filterMap, filterMap_rootTasks]
  simp only [hitem]
  simp [Task.event?, Step.component?]

/-- What a traversal declares is what the nodes declare that it enters. -/
theorem declaredOf_perm {start : SchemaNode} {es : List Step} {out : List SchemaNode}
    (h : DepthFirst s.agenda [] [.enter start] es out) :
    (declaredOf es).Perm (out.flatMap s.declaredBy) := by
  have hperm := h.events_perm.filterMap Step.component?
  rwa [List.filterMap_flatMap] at hperm

/-- A rearranged document has the same tasks on its agenda. -/
theorem mem_rootTasks_of_rearranged (h : Schema.Rearranged root root')
    (task : Task SchemaNode Step) :
    task ∈ s.rootTasks n root' ↔ task ∈ s.rootTasks n root := by
  simp only [rootTasks, referencesOfRoot, List.mem_cons, List.mem_append, List.mem_flatMap,
    List.mem_map, List.mem_filterMap, h.adopts_eq, h.adopted_eq, h.mem_items_iff,
    h.mem_tokens_iff]

end Tasks

/-- A file that holds the same, or another document of a permitted size that is a rearrangement of
the one that it held. -/
def Rearranges (limits : Limits) (content content' : Bytes) : Prop :=
  content' = content ∨
    content'.length ≤ limits.maxDocumentSize ∧ (∃ text, Utf8.decode content' = .ok text) ∧
      ∃ root root', Markup.readDocument content = .ok root ∧
        Markup.readDocument content' = .ok root' ∧ Schema.Rearranged root root'

section Rearranging

variable {s : Setting} {files : FileSystem} {n : SchemaNode} {root root' : Markup.Element}
variable (hfiles : s.files.Revises (fun _ => Rearranges s.options.limits) files)
include hfiles

theorem exists_rearranged (h : s.readRoot n.path = .ok root) :
    ∃ root', (s.on files).readRoot n.path = .ok root' ∧ Schema.Rearranged root root' := by
  obtain ⟨content, text, hentry, hsize, htext, hread, hschema⟩ := readRoot_eq_ok_iff.1 h
  obtain ⟨⟨names, node⟩, hlocate, rfl⟩ := FileSystem.exists_place_of_entry hentry
  obtain ⟨content', hr, hentry'⟩ := hfiles.exists_content hlocate
  rcases hr with rfl | ⟨hsize', ⟨text', htext'⟩, root₀, root', hread₀, hread', hrearranged⟩
  · exact ⟨root, readRoot_eq_ok_iff.2 ⟨content', text, hentry', hsize, htext, hread, hschema⟩,
      .refl root⟩
  · cases Except.ok.inj (hread.symm.trans hread₀)
    rw [← hrearranged.isSchema_eq] at hschema
    exact ⟨root', readRoot_eq_ok_iff.2 ⟨content', text', hentry', hsize', htext', hread', hschema⟩,
      hrearranged⟩

/-- The agenda of a rearranged document. -/
theorem agenda_rearranged (h : (s.on files).readRoot n.path = .ok root') :
    (s.on files).agenda n = s.rootTasks n root' := by
  have hitems : (s.on files).itemTasks n = s.itemTasks n :=
    funext (itemTasks_on hfiles.canonicalize_eq n)
  rw [agenda_eq h, rootTasks, rootTasks, hitems]

theorem mem_agenda_rearranged (h : s.readRoot n.path = .ok root) (task : Task SchemaNode Step) :
    task ∈ (s.on files).agenda n ↔ task ∈ s.agenda n := by
  obtain ⟨root', h', hrearranged⟩ := exists_rearranged hfiles h
  rw [agenda_rearranged hfiles h', agenda_eq h, mem_rootTasks_of_rearranged hrearranged]

/-- A rearranged document declares the same components, as often. -/
theorem declaredBy_rearranged (h : s.readRoot n.path = .ok root) :
    ((s.on files).declaredBy n).Perm (s.declaredBy n) := by
  obtain ⟨root', h', hrearranged⟩ := exists_rearranged hfiles h
  rw [declaredBy_eq h, declaredBy_eq h']
  exact hrearranged.items_flatMap_perm (fun _ _ => rfl) fun _ => rfl

/-- A rearranged document can be opened as well. -/
theorem permits_rearranged (h : s.Admits n root)
    (hl : ∀ i ∈ Schema.items root, s.Locatable n i) :
    ∃ root', (s.on files).Admits n root' ∧
      ∀ i ∈ Schema.items root', (s.on files).Locatable n i := by
  obtain ⟨root', h', hrearranged⟩ := exists_rearranged hfiles h.read
  obtain ⟨q, hq⟩ := h.canonical
  refine ⟨root', ⟨⟨q, (hfiles.canonicalize_eq q).trans hq⟩, h', ?_, ?_, ?_⟩, ?_⟩
  · rw [hrearranged.declaredNamespace_eq]
    exact h.declared
  · exact fun i hi => h.items i ((hrearranged.mem_items_iff i).1 hi)
  · intro t ht
    rw [hrearranged.adopted_eq]
    exact h.tokens t ((hrearranged.mem_tokens_iff t).1 ht)
  · intro i hi
    exact (locatable_on_iff hfiles.canonicalize_eq n i).2
      (hl i ((hrearranged.mem_items_iff i).1 hi))

end Rearranging

section Whole

variable {s : Setting} {files : FileSystem} {entry : Path} {c : CompiledSet}
variable {start : SchemaNode} {es es' : List Step} {out : List SchemaNode}

/-- A set whose documents redefine nothing declares nothing inside of redefinitions. -/
theorem Compiles.direct (hc : s.Compiles entry c start es)
    (hredefine : ∀ n ∈ c.nodes, ∀ root, s.readRoot n.path = .ok root →
      ∀ e ∈ root.children, e.isXsd = true → e.name.localName ≠ "redefine") :
    ∀ x ∈ declaredOf es, x.redefined = false := by
  intro x hx
  obtain ⟨n, hn, root, e, _, hread, hdeclaration, _⟩ := (mem_declaredOf_iff_declares hc x).1 hx
  cases hr : x.redefined with
  | false => rfl
  | true =>
      rw [hr] at hdeclaration
      obtain ⟨_, r, hmem, hxsd, hname, _⟩ := hdeclaration
      exact absurd hname (hredefine n hn root hread r hmem hxsd)

variable (hfiles : s.files.Revises (fun _ => Rearranges s.options.limits) files)
variable (hc : s.Compiles entry c start es)
include hfiles hc

theorem mem_agenda_of_mem {n : SchemaNode} (hn : n ∈ c.nodes) (task : Task SchemaNode Step) :
    task ∈ (s.on files).agenda n ↔ task ∈ s.agenda n := by
  obtain ⟨root, hroot⟩ := hc.admitted n hn
  exact mem_agenda_rearranged hfiles hroot.read task

/-- The rearranged documents can be descended, and no others are reached. -/
theorem exists_descent_rearranged
    (hdeclared : ∀ n ∈ c.nodes,
      ∃ root, s.readRoot n.path = .ok root ∧ Schema.declaredNamespace root = n.uri)
    (hdepth : c.nodes.length ≤ s.options.limits.maxSchemaDepth) :
    ∃ es' out, Descent (s.on files).agenda (s.on files).Enters start 0 [start]
        ((s.on files).agenda start) es' out ∧
      out.Perm c.nodes ∧ (s.on files).Permits out := by
  have hstart : start ∈ c.nodes := hc.descent.depthFirst.seen_subset (by simp)
  have hclosed : ∀ m ∈ c.nodes, ∀ n, Leads (s.on files).agenda m n → n ∈ c.nodes :=
    fun m hm n hl =>
      hc.order.closed hm List.not_mem_nil ((mem_agenda_of_mem hfiles hc hm _).1 hl)
  have henters : ∀ m ∈ c.nodes, ∀ n, Leads (s.on files).agenda m n →
      ∀ d, d + 1 < c.nodes.length → (s.on files).Enters m d n := by
    intro m hm n hl d hd
    obtain ⟨root, hread, huri⟩ := hdeclared n (hclosed m hm n hl)
    obtain ⟨root', hread', hrearranged⟩ := exists_rearranged hfiles hread
    refine ⟨?_, .inr ⟨root', hread', hrearranged.declaredNamespace_eq.trans huri⟩⟩
    show d + 1 ≤ s.options.limits.maxSchemaDepth
    omega
  obtain ⟨es', out, hdescent, hnodup, hsub⟩ :=
    exists_descent hclosed henters c.nodes.length (List.nodup_singleton start)
      (by simpa using hstart) (Nat.le_add_left _ _) List.mem_cons_self Nat.one_pos
      (List.Subset.refl ((s.on files).agenda start))
  have horder : DepthFirst (s.on files).agenda [] [.enter start] es' out :=
    .enterOnly List.not_mem_nil hdescent.depthFirst
  have hsuper : c.nodes ⊆ out :=
    hc.order.subset_of_leads horder fun m hm n => (mem_agenda_of_mem hfiles hc hm _).2
  have hperm : out.Perm c.nodes :=
    (List.perm_ext_iff_of_nodup hnodup (hc.order.nodup List.nodup_nil)).2
      fun n => ⟨fun h => hsub h, fun h => hsuper h⟩
  refine ⟨es', out, hdescent, hperm, fun n hn => ?_, ?_⟩
  · obtain ⟨root, hroot, hl⟩ := hc.permitted.admitted n (hsub hn)
    exact permits_rearranged hfiles hroot hl
  · rw [hperm.length_eq]
    exact hc.permitted.counted

variable (horder : DepthFirst (s.on files).agenda [] [.enter start] es' out)
variable (hperm : out.Perm c.nodes)
include horder hperm

/-- The same is reported of the rearranged documents, however often. -/
theorem mem_events_rearranged (e : Step) : e ∈ es' ↔ e ∈ es := by
  rw [horder.reported_iff_of_start, hc.order.reported_iff_of_start]
  refine exists_congr fun n => ?_
  rw [hperm.mem_iff]
  exact and_congr_right fun hn => mem_agenda_of_mem hfiles hc hn _

/-- The same is declared by the rearranged documents, as often. -/
theorem declaredOf_rearranged : (declaredOf es').Perm (declaredOf es) := by
  have hnodes : (out.flatMap (s.on files).declaredBy).Perm (c.nodes.flatMap s.declaredBy) := by
    refine (hperm.flatMap_right _).trans (List.Perm.flatMap_left _ fun n hn => ?_)
    obtain ⟨root, hroot⟩ := hc.admitted n hn
    exact declaredBy_rearranged hfiles hroot.read
  exact (declaredOf_perm horder).trans (hnodes.trans (declaredOf_perm hc.order).symm)

end Whole

end Setting

/-- Two sets with the same documents, components and references between documents, in whatever
order. -/
structure CompiledSet.Resembles (c c' : CompiledSet) : Prop where
  entry : c'.entry = c.entry
  /-- The documents have the same paths and namespaces. -/
  nodes : c'.nodes.Perm c.nodes
  components : c'.components.Perm c.components
  /-- Looking up a component finds the same. -/
  lookup : ∀ space name, c'.component? space name = c.component? space name
  /-- Each document imports the same. -/
  imports : ∀ d ∈ c.documents, ∀ d' ∈ c'.documents, d'.node = d.node →
    ∀ r, r ∈ d'.imports ↔ r ∈ d.imports
  /-- Each document includes the same. -/
  includes : ∀ d ∈ c.documents, ∀ d' ∈ c'.documents, d'.node = d.node →
    ∀ t, t ∈ d'.includes ↔ t ∈ d.includes

namespace Setting

/-- Neither the order of references nor their number matters.  In a set without chameleon
documents and redefinitions, of no more documents than the nesting may be deep, documents may be
rearranged: the set has the same contents. -/
theorem compile_rearranged {s : Setting} {files : FileSystem} {entry : Path} {c : CompiledSet}
    (hfiles : s.files.Revises (fun _ => Rearranges s.options.limits) files)
    (hcompiled : (s.compile entry).outcome = .ok c)
    (hchameleon : ∀ d ∈ c.documents, d.chameleon = false)
    (hredefine : ∀ d ∈ c.documents, ∀ root, s.readRoot d.path = .ok root →
      ∀ e ∈ root.children, e.isXsd = true → e.name.localName ≠ "redefine")
    (hdepth : c.documents.length ≤ s.options.limits.maxSchemaDepth) :
    ∃ c', ((s.on files).compile entry).outcome = .ok c' ∧ c.Resembles c' := by
  obtain ⟨start, es, hc⟩ := compiles hcompiled
  have hdeclared : ∀ n ∈ c.nodes,
      ∃ root, s.readRoot n.path = .ok root ∧ Schema.declaredNamespace root = n.uri := by
    intro n hn
    obtain ⟨d, hd, rfl⟩ := List.mem_map.1 hn
    obtain ⟨_, root, hroot, hadopts⟩ := hc.document hd
    rw [hchameleon d hd] at hadopts
    exact ⟨root, hroot.read, hroot.declared_eq_iff.2 hadopts.symm⟩
  have hdirect : ∀ x ∈ declaredOf es, x.redefined = false := by
    refine hc.direct fun n hn => ?_
    obtain ⟨d, hd, rfl⟩ := List.mem_map.1 hn
    exact hredefine d hd
  obtain ⟨es', out, hdescent, hperm, hpermits⟩ :=
    exists_descent_rearranged hfiles hc hdeclared (by rwa [CompiledSet.nodes, List.length_map])
  have horder : DepthFirst (s.on files).agenda [] [.enter start] es' out :=
    .enterOnly List.not_mem_nil hdescent.depthFirst
  have hevents : ∀ e, e ∈ es' ↔ e ∈ es := mem_events_rearranged hfiles hc horder hperm
  obtain ⟨t, htable, hcomponents, hlookup⟩ :=
    Table.foldlM_register_perm hdirect (declaredOf_rearranged hfiles hc horder hperm) hc.table
  have hlands : ∀ r ∈ referencesOf es', lands t r = true := by
    intro r hr
    rw [mem_referencesOf_iff, hevents, ← mem_referencesOf_iff] at hr
    have hlanded := hc.lands r hr
    rwa [lands, ← hlookup] at hlanded
  have hcanonical : (s.on files).files.canonicalize
      (((s.on files).resolver (entryRequest entry)).systemId.getD entry) = .ok start.path := by
    rw [hc.path, ← hc.canonical]
    exact hfiles.canonicalize_eq _
  have hstart : ∃ root', (s.on files).readRoot start.path = .ok root' ∧
      Schema.declaredNamespace root' = start.uri := by
    obtain ⟨root, hread, huri⟩ := hc.declared
    obtain ⟨root', hread', hrearranged⟩ := exists_rearranged hfiles hread
    exact ⟨root', hread', hrearranged.declaredNamespace_eq.trans huri⟩
  refine ⟨_, compile_completes hcanonical hstart hdescent hpermits htable hlands, ?_⟩
  exact
    { entry := hc.path
      nodes := by
        show ((documentsOf es').map SchemaDocument.node).Perm c.nodes
        rwa [documentsOf_nodes_eq hdescent hpermits]
      components := hcomponents
      lookup := hlookup
      imports := by
        intro d hd d' hd' hnode r
        rw [hc.documents] at hd
        rw [(mem_documentsOf_iff.1 hd).2.1, (mem_documentsOf_iff.1 hd').2.1, hnode,
          mem_importsOf_iff, mem_importsOf_iff, hevents]
      includes := by
        intro d hd d' hd' hnode p
        rw [hc.documents] at hd
        rw [(mem_documentsOf_iff.1 hd).2.2, (mem_documentsOf_iff.1 hd').2.2, hnode,
          mem_includesOf_iff, mem_includesOf_iff, hevents] }

section Sample

/-- The main document of a set without chameleon documents and redefinitions. -/
def orderedMain : Bytes :=
  schemaOctets "targetNamespace='m'"
    ["<include schemaLocation='p'/>", "<import namespace='b' schemaLocation='b'/>",
      "<element name='e'/>"]

/-- The same document with its elements in another order and some of them repeated. -/
def shuffledMain : Bytes :=
  schemaOctets "targetNamespace='m'"
    ["<import namespace='b' schemaLocation='b'/>", "<element name='e'/>",
      "<include schemaLocation='p'/>", "<import namespace='b' schemaLocation='b'/>"]

/-- The files of a set, given its main document. -/
def filesAround (main : Bytes) : FileSystem :=
  topFiles
    [("main", main),
      ("p", schemaOctets "targetNamespace='m'" ["<simpleType name='t'/>"]),
      ("b", schemaOctets "targetNamespace='b'" ["<import namespace='m' schemaLocation='p'/>"])]

def ordered : Setting := ⟨filesAround orderedMain, Resolution.miss, .standard⟩

/-- What the set compiles to. -/
def orderedSet : CompiledSet where
  entry := topPath "main"
  documents :=
    [⟨topPath "main", some "m", false, [⟨some "b", some "b", some (topPath "b"), .located⟩],
        [topPath "p"]⟩,
      ⟨topPath "p", some "m", false, [], []⟩,
      ⟨topPath "b", some "b", false, [⟨some "m", some "p", some (topPath "p"), .located⟩], []⟩]
  table :=
    ⟨[⟨.simpleType, .of "m" "t", topPath "p", false⟩,
        ⟨.element, .of "m" "e", topPath "main", false⟩],
      .ofList [((.type, .of "m" "t"), 0), ((.element, .of "m" "e"), 1)]⟩

set_option maxRecDepth 10000 in
theorem ordered_compiles : (ordered.compile (topPath "main")).outcome = .ok orderedSet := by
  decide +kernel

theorem shuffledMain_rearranges :
    Rearranges ordered.options.limits orderedMain shuffledMain := by
  have hread : (Markup.readDocument orderedMain).toOption.isSome = true ∧
      (Markup.readDocument shuffledMain).toOption.isSome = true ∧
      (Utf8.decode shuffledMain).toOption.isSome = true ∧
      shuffledMain.length ≤ ordered.options.limits.maxDocumentSize ∧
      (Markup.rootOf shuffledMain).name = (Markup.rootOf orderedMain).name ∧
      (Markup.rootOf shuffledMain).attributes = (Markup.rootOf orderedMain).attributes ∧
      (∀ e ∈ ((Markup.rootOf orderedMain).children.drop 1).take 1,
        Schema.isReferral e = true ∧ e ∈ (Markup.rootOf orderedMain).children) ∧
      (Markup.rootOf shuffledMain).children.Perm
        ((Markup.rootOf orderedMain).children ++
          ((Markup.rootOf orderedMain).children.drop 1).take 1) := by
    decide +kernel
  obtain ⟨hmain, hshuffled, htext, hlength, hname, hattributes, hrepeated, hperm⟩ := hread
  obtain ⟨text, htext⟩ := Option.isSome_iff_exists.1 htext
  exact .inr ⟨hlength, ⟨text, toOption_eq_some_iff.1 htext⟩, _, _, Markup.readDocument_rootOf hmain,
    Markup.readDocument_rootOf hshuffled, .of_perm hname hattributes hrepeated hperm⟩

theorem filesAround_revises :
    ordered.files.Revises (fun _ => Rearranges ordered.options.limits)
      (filesAround shuffledMain) := by
  refine FileSystem.revises_ofList ?_
  exact .cons ⟨rfl, .file shuffledMain_rearranges⟩
    (.cons ⟨rfl, .file (.inl rfl)⟩ (.cons ⟨rfl, .file (.inl rfl)⟩ .nil))

/-- The document with its elements shuffled makes the same set, in another order. -/
theorem ordered_compile_rearranged :
    (ordered.compile (topPath "main")).outcome = .ok orderedSet ∧
      ∃ c', ((ordered.on (filesAround shuffledMain)).compile (topPath "main")).outcome = .ok c' ∧
        orderedSet.Resembles c' := by
  refine ⟨ordered_compiles, compile_rearranged filesAround_revises ordered_compiles ?_ ?_ ?_⟩
  · decide +kernel
  · have hplain : ∀ d ∈ orderedSet.documents, ∀ root ∈ (ordered.readRoot d.path).toOption,
        ∀ e ∈ root.children, e.isXsd = true → e.name.localName ≠ "redefine" := by
      decide +kernel
    exact fun d hd root hroot => hplain d hd root (toOption_eq_some_iff.2 hroot)
  · decide +kernel

end Sample
end Setting
end SchemaSet
