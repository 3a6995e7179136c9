import SchemaSet.Proofs.Compiled
import SchemaSet.Proofs.Overwriting

/-!
# What the table of components holds

Components are registered one after the other in a table that is empty at first.  Two invariants
carry this module.  `Table.Coupled` says that the lookup and the list of components agree on every
key and every position; `exact_of_coupled` is what it says of looking up a component.
`Table.Records` says that the table holds one component for each key that was declared, in the order
of the first declarations, and under each key the last one.

The components that are registered are those that the elements of the documents declare
(`mem_declaredOf_iff_declares`).  So every table that a compilation passes through is exact, and the
last one holds what the documents declare (`table_exact`).
-/

namespace SchemaSet
namespace Table

section Coupled

/-- The lookup leads exactly from the key of each component to its position. -/
def Coupled (t : Table) : Prop :=
  ∀ key i, t.lookup.get? key = some i ↔ t.components[i]?.map Component.key = some key

/-- Looking up a component in a table finds exactly what the table lists. -/
structure Exact (t : Table) : Prop where
  /-- No two components have the same symbol space and name. -/
  distinct : (t.components.map Component.key).Nodup
  /-- The lookup has one key for each component. -/
  keys : t.lookup.keys.Perm (t.components.map Component.key)
  /-- It leads from the key to the position. -/
  position : ∀ i c, t.components[i]? = some c → t.lookup.get? c.key = some i
  /-- It leads to no other position. -/
  inRange : ∀ key i, t.lookup.get? key = some i → i < t.size
  /-- A component is found under a symbol space and a name if and only if it is listed. -/
  found : ∀ space name c, t.component? space name = some c ↔
    c ∈ t.components ∧ c.kind.space = space ∧ c.name = name

variable {t u : Table} {c : Component}

theorem coupled_empty : Coupled ∅ := by
  intro key i
  show (none : Option Nat) = some i ↔ (none : Option Component).map Component.key = some key
  simp

/-- A component with a new key may be added. -/
theorem Coupled.append (h : t.Coupled) (hc : t.lookup.get? c.key = none) :
    (t.append c).Coupled := by
  intro key i
  show (t.lookup.insert c.key t.components.length).get? key = some i ↔ _
  rw [OrderedMap.get?_insert]
  show _ ↔ (t.components ++ [c])[i]?.map Component.key = some key
  by_cases hk : c.key = key
  · subst hk
    rw [if_pos rfl, Option.some.injEq]
    constructor
    · rintro rfl
      simp
    · intro hi
      -- the only other component with the key would have been looked up before
      by_contra hne
      have hold : t.components[i]?.map Component.key = some c.key := by
        rcases Nat.lt_or_gt_of_ne hne with hlt | hlt
        · rw [List.getElem?_eq_none (by simp; omega)] at hi
          cases hi
        · rwa [List.getElem?_append_left hlt] at hi
      rw [(h c.key i).2 hold] at hc
      cases hc
  · rw [if_neg hk, h key i]
    by_cases hi : i < t.components.length
    · rw [List.getElem?_append_left hi]
    · rw [List.getElem?_append_right (by omega), List.getElem?_eq_none (by omega)]
      cases i - t.components.length with
      | zero => simp [hk]
      | succ j => simp

/-- A component in the place of another one with the same key leaves the keys alone. -/
theorem keys_replace {i : Nat} (h : t.Coupled) (hi : t.lookup.get? c.key = some i) :
    (t.replace i c).components.map Component.key = t.components.map Component.key := by
  refine List.ext_getElem? fun j => ?_
  show ((t.components.set i c).map Component.key)[j]? = _
  rw [List.getElem?_map, List.getElem?_map, List.getElem?_set]
  by_cases hj : i = j
  · subst hj
    obtain ⟨old, hget, hkey⟩ := Option.map_eq_some_iff.1 ((h c.key i).1 hi)
    have hlt : i < t.components.length := (List.getElem?_eq_some_iff.1 hget).1
    rw [if_pos rfl, if_pos hlt, hget, Option.map_some, Option.map_some, hkey]
  · rw [if_neg hj]

theorem Coupled.replace {i : Nat} (h : t.Coupled) (hi : t.lookup.get? c.key = some i) :
    (t.replace i c).Coupled := by
  intro key j
  rw [← List.getElem?_map, keys_replace h hi, List.getElem?_map]
  exact h key j

/-- The table that is left when a declaration was met, whether or not it is accepted. -/
def attempt (t : Table) (c : Component) : Table :=
  match t.lookup.get? c.key with
  | some i => if c.redefined then t.replace i c else t
  | none => t.append c

theorem attempt_of_register {limits : Limits} (h : t.register limits c = .ok u) :
    u = t.attempt c := by
  rcases register_cases h with ⟨i, hi, hr, rfl⟩ | ⟨hn, rfl⟩
  · simp [attempt, hi, hr]
  · simp [attempt, hn]

/-- No declaration breaks the table, not even one that is refused. -/
theorem Coupled.attempt (h : t.Coupled) (c : Component) : (t.attempt c).Coupled := by
  unfold Table.attempt
  split
  · rename_i i hi
    split
    · exact h.replace hi
    · exact h
  · rename_i hn
    exact h.append hn

theorem mem_keys_iff (h : t.Coupled) (key : SymbolSpace × QName) :
    key ∈ t.lookup.keys ↔ key ∈ t.components.map Component.key := by
  have hkeys : key ∈ t.lookup.keys ↔ ∃ i, t.lookup.get? key = some i := by
    rw [← Option.isSome_iff_exists, ← Option.ne_none_iff_isSome, Ne,
      OrderedMap.get?_eq_none_iff, Classical.not_not]
  rw [hkeys, List.mem_iff_getElem?]
  exact exists_congr fun i => by rw [h key i, List.getElem?_map]

theorem Coupled.distinct (h : t.Coupled) : (t.components.map Component.key).Nodup := by
  rw [List.nodup_iff_getElem?_ne_getElem?]
  intro i j hij hj heq
  have hkey := List.getElem?_eq_getElem hj
  rw [hkey, List.getElem?_map] at heq
  rw [List.getElem?_map] at hkey
  have hi := (h _ i).2 heq
  rw [(h _ j).2 hkey] at hi
  exact absurd (Option.some.inj hi) (Nat.ne_of_gt hij)

theorem Coupled.eq_of_key {x y : Component} (h : t.Coupled) (hx : x ∈ t.components)
    (hy : y ∈ t.components) (hk : x.key = y.key) :
    x = y :=
  List.inj_on_of_nodup_map h.distinct hx hy hk

theorem component?_eq_some_iff (h : t.Coupled) (space : SymbolSpace) (name : QName) :
    t.component? space name = some c ↔
      c ∈ t.components ∧ c.kind.space = space ∧ c.name = name := by
  show (t.lookup.get? (space, name)).bind (fun i => t.components[i]?) = some c ↔ _
  rw [Option.bind_eq_some_iff]
  constructor
  · rintro ⟨i, hi, hc⟩
    have hkey := (h _ i).1 hi
    rw [hc] at hkey
    obtain ⟨hspace, hname⟩ := Prod.mk.inj (Option.some.inj hkey)
    exact ⟨List.mem_of_getElem? hc, hspace, hname⟩
  · rintro ⟨hc, rfl, rfl⟩
    obtain ⟨i, hi⟩ := List.mem_iff_getElem?.1 hc
    exact ⟨i, (h c.key i).2 (by rw [hi]; rfl), hi⟩

/-- A table whose parts agree is exact. -/
theorem exact_of_coupled (h : t.Coupled) : t.Exact where
  distinct := h.distinct
  keys := (List.perm_ext_iff_of_nodup t.lookup.distinct h.distinct).2 (mem_keys_iff h)
  position := fun i c hc => (h c.key i).2 (by rw [hc]; rfl)
  inRange := by
    intro key i hi
    obtain ⟨c, hc, _⟩ := Option.map_eq_some_iff.1 ((h key i).1 hi)
    exact (List.getElem?_eq_some_iff.1 hc).1
  found := fun space name c => component?_eq_some_iff h space name

end Coupled

section History

variable {limits : Limits}

/-- The tables that registering some components one after the other passes through, up to the
one that is left when a component is refused. -/
def history (limits : Limits) (t : Table) : List Component → List Table
  | [] => [t]
  | c :: r =>
      t :: match t.register limits c with
        | .ok u => history limits u r
        | .error _ => [t.attempt c]

theorem coupled_of_mem_history {t u : Table} {cs : List Component} (h : t.Coupled)
    (hu : u ∈ t.history limits cs) :
    u.Coupled := by
  induction cs generalizing t with
  | nil => exact List.mem_singleton.1 hu ▸ h
  | cons c rest ih =>
      rcases List.mem_cons.1 hu with rfl | hu
      · exact h
      · cases hr : t.register limits c with
        | ok v =>
            rw [hr] at hu
            exact ih (attempt_of_register hr ▸ h.attempt c) hu
        | error e =>
            rw [hr] at hu
            exact List.mem_singleton.1 hu ▸ h.attempt c

/-- If all components are accepted, the last table holds all of them. -/
theorem getLast?_history {t u : Table} {cs : List Component}
    (h : cs.foldlM (register limits) t = .ok u) :
    (t.history limits cs).getLast? = some u := by
  induction cs generalizing t with
  | nil =>
      cases Except.ok.inj h
      rfl
  | cons c rest ih =>
      rw [List.foldlM_cons] at h
      obtain ⟨v, hr, hrest⟩ := bind_eq_ok_iff.1 h
      rw [history, hr, List.getLast?_cons, ih hrest]
      rfl

end History

section Records

/-- The declarations under a key, among others. -/
def under (key : SymbolSpace × QName) (ds : List Component) : List Component :=
  ds.filter fun x => x.key = key

/-- A table records some declarations. -/
structure Records (t : Table) (ds : List Component) : Prop where
  /-- Its parts agree. -/
  coupled : t.Coupled
  /-- Its keys stand in the order of their first declarations. -/
  keys : t.components.map Component.key = (ds.map Component.key).eraseDups
  /-- Under each key stands the last declaration. -/
  latest : ∀ c ∈ t.components, (under c.key ds).getLast? = some c
  /-- All declarations under a key but the first are redefinitions. -/
  later : ∀ key, ∀ x ∈ (under key ds).tail, x.redefined = true

variable {limits : Limits} {t u : Table} {c : Component} {ds : List Component}

theorem records_empty : Records ∅ [] where
  coupled := coupled_empty
  keys := rfl
  latest := fun _ hc => absurd hc List.not_mem_nil
  later := fun _ _ hx => absurd hx List.not_mem_nil

theorem under_snoc_self : under c.key (ds ++ [c]) = under c.key ds ++ [c] := by
  simp [under, List.filter_append]

theorem under_snoc_of_ne {key : SymbolSpace × QName} (h : c.key ≠ key) :
    under key (ds ++ [c]) = under key ds := by
  simp [under, List.filter_append, h]

/-- Redefining a component records the redefinition. -/
theorem Records.replace {i : Nat} (h : t.Records ds) (hi : t.lookup.get? c.key = some i)
    (hr : c.redefined = true) :
    (t.replace i c).Records (ds ++ [c]) := by
  have hcoupled : (t.replace i c).Coupled := h.coupled.replace hi
  have hlisted : c ∈ (t.replace i c).components := by
    obtain ⟨old, hget, _⟩ := Option.map_eq_some_iff.1 ((h.coupled c.key i).1 hi)
    exact List.mem_set (List.getElem?_eq_some_iff.1 hget).1 c
  have hdeclared : c.key ∈ ds.map Component.key := by
    rw [← List.mem_eraseDups, ← h.keys, ← keys_replace h.coupled hi]
    exact List.mem_map_of_mem hlisted
  exact
    { coupled := hcoupled
      keys := by
        rw [keys_replace h.coupled hi, h.keys, List.map_append, List.map_singleton,
          eraseDups_snoc_of_mem hdeclared]
      latest := by
        intro x hx
        by_cases hk : x.key = c.key
        · rw [hcoupled.eq_of_key hx hlisted hk, under_snoc_self, List.getLast?_concat]
        · rw [under_snoc_of_ne (Ne.symm hk)]
          rcases List.mem_or_eq_of_mem_set hx with hx | rfl
          · exact h.latest x hx
          · exact absurd rfl hk
      later := by
        intro key x hx
        by_cases hk : c.key = key
        · subst hk
          have hne : under c.key ds ≠ [] := by
            obtain ⟨y, hy, hkey⟩ := List.mem_map.1 hdeclared
            exact List.ne_nil_of_mem (List.mem_filter.2 ⟨hy, decide_eq_true hkey⟩)
          rw [under_snoc_self, List.tail_append_of_ne_nil hne] at hx
          rcases List.mem_append.1 hx with hx | hx
          · exact h.later _ x hx
          · exact List.mem_singleton.1 hx ▸ hr
        · rw [under_snoc_of_ne hk] at hx
          exact h.later key x hx }

/-- Adding a component under a new key records its declaration. -/
theorem Records.append (h : t.Records ds) (hc : t.lookup.get? c.key = none) :
    (t.append c).Records (ds ++ [c]) := by
  have hnew : c.key ∉ t.components.map Component.key := by
    rw [← mem_keys_iff h.coupled, ← OrderedMap.get?_eq_none_iff]
    exact hc
  have hundeclared : c.key ∉ ds.map Component.key := by
    rwa [← List.mem_eraseDups, ← h.keys]
  have hnone : under c.key ds = [] := by
    refine List.filter_eq_nil_iff.2 fun x hx hk => hundeclared ?_
    exact List.mem_map.2 ⟨x, hx, of_decide_eq_true hk⟩
  exact
    { coupled := h.coupled.append hc
      keys := by
        show (t.components ++ [c]).map Component.key = _
        rw [List.map_append, List.map_append, List.map_singleton, h.keys,
          eraseDups_snoc_of_notMem hundeclared]
      latest := by
        intro x hx
        rcases List.mem_append.1 hx with hx | hx
        · have hk : c.key ≠ x.key := fun q => hnew (q ▸ List.mem_map_of_mem hx)
          rw [under_snoc_of_ne hk]
          exact h.latest x hx
        · rw [List.mem_singleton.1 hx, under_snoc_self, List.getLast?_concat]
      later := by
        intro key x hx
        by_cases hk : c.key = key
        · subst hk
          rw [under_snoc_self, hnone] at hx
          exact absurd hx List.not_mem_nil
        · rw [under_snoc_of_ne hk] at hx
          exact h.later key x hx }

/-- Registering components one after the other records all of them. -/
theorem records_foldlM {cs : List Component} (h : t.Records ds)
    (hu : cs.foldlM (register limits) t = .ok u) :
    u.Records (ds ++ cs) := by
  induction cs generalizing t ds with
  | nil =>
      cases Except.ok.inj hu
      rwa [List.append_nil]
  | cons c rest ih =>
      rw [List.foldlM_cons] at hu
      obtain ⟨v, hr, hrest⟩ := bind_eq_ok_iff.1 hu
      have hv : v.Records (ds ++ [c]) := by
        rcases register_cases hr with ⟨i, hi, hredefined, rfl⟩ | ⟨hn, rfl⟩
        · exact h.replace hi hredefined
        · exact h.append hn
      rw [← List.singleton_append, ← List.append_assoc]
      exact ih hv hrest

/-- Under a key stands its last redefinition, or else its only declaration. -/
theorem Records.value (h : t.Records ds) (hc : c ∈ t.components) :
    (c.redefined = true ∧
        (ds.filter fun x => x.key = c.key && x.redefined).getLast? = some c) ∨
      (c.redefined = false ∧ under c.key ds = [c]) := by
  obtain ⟨front, hfront⟩ := List.getLast?_eq_some_iff.1 (h.latest c hc)
  cases hr : c.redefined with
  | true =>
      left
      have hfilter : (ds.filter fun x => x.key = c.key && x.redefined) =
          (under c.key ds).filter Component.redefined := by
        rw [under, List.filter_filter]
        simp [Bool.and_comm]
      rw [hfilter, hfront, List.filter_append]
      simp [hr]
  | false =>
      right
      -- a declaration before it would make it a redefinition
      cases front with
      | nil => exact ⟨rfl, hfront⟩
      | cons x rest =>
          have hlater := h.later c.key c (by rw [hfront]; simp)
          rw [hr] at hlater
          cases hlater

end Records

section Refusals

variable {limits : Limits} {t : Table} {c : Component} {cs : List Component} {e : Error}

/-- Registering a component fails on a repeated key, or since the table grows too long. -/
theorem register_eq_error (h : t.register limits c = .error e) :
    (∃ i, t.lookup.get? c.key = some i ∧ c.redefined = false ∧
        e = clash (t.components.getD i c) c) ∨
      (t.lookup.get? c.key = none ∧ limits.maxSchemaComponents < (t.append c).size ∧
        e = .limit (.over .schemaComponents (t.append c).size limits.maxSchemaComponents)) := by
  unfold register at h
  cases hl : t.lookup.get? c.key with
  | some i =>
      simp only [hl] at h
      split at h
      · cases h
      · rename_i hredefined
        cases h
        exact .inl ⟨i, rfl, Bool.eq_false_iff.2 hredefined, rfl⟩
  | none =>
      right
      simp only [hl] at h
      unfold Limits.check at h
      split at h
      · rename_i hover
        cases h
        exact ⟨rfl, hover, rfl⟩
      · cases h

/-- The component that is refused first is refused by a table that records those before it. -/
theorem refused_of_foldlM {ds : List Component} (ht : t.Records ds)
    (h : cs.foldlM (register limits) t = .error e) :
    ∃ (front : List Component) (c : Component) (back : List Component) (u : Table),
      ds ++ cs = front ++ c :: back ∧ u.Records front ∧ u.register limits c = .error e := by
  induction cs generalizing t ds with
  | nil => cases h
  | cons c rest ih =>
      rw [List.foldlM_cons] at h
      cases hr : t.register limits c with
      | error e' =>
          rw [hr] at h
          cases h
          exact ⟨ds, c, rest, t, rfl, ht, hr⟩
      | ok u =>
          rw [hr] at h
          have hone : [c].foldlM (register limits) t = .ok u := by
            rw [List.foldlM_cons, hr]
            rfl
          have hu : u.Records (ds ++ [c]) := records_foldlM ht hone
          obtain ⟨front, d, back, v, heq, hv⟩ := ih hu h
          exact ⟨front, d, back, v, by rw [← heq, List.append_assoc]; rfl, hv⟩

/-- Registering components one after the other fails for two reasons only: a key comes again
without redefining, or there are too many keys. -/
theorem foldlM_eq_error (h : cs.foldlM (register limits) ∅ = .error e) :
    (∃ old ∈ cs, ∃ c ∈ cs, old.key = c.key ∧ c.redefined = false ∧ e = clash old c) ∨
      ∃ keys, keys.Nodup ∧ keys ⊆ cs.map Component.key ∧
        limits.maxSchemaComponents < keys.length ∧
        e = .limit (.over .schemaComponents keys.length limits.maxSchemaComponents) := by
  obtain ⟨front, c, back, t, heq, ht, hc⟩ := refused_of_foldlM records_empty h
  rw [List.nil_append] at heq
  subst heq
  rcases register_eq_error hc with ⟨i, hi, hredefined, rfl⟩ | ⟨hnew, hover, rfl⟩
  · left
    obtain ⟨old, hget, hkey⟩ := Option.map_eq_some_iff.1 ((ht.coupled c.key i).1 hi)
    have hold : old ∈ front := by
      have hlast := ht.latest old (List.mem_of_getElem? hget)
      exact (List.mem_filter.1 (List.mem_of_getLast? hlast)).1
    refine ⟨old, List.mem_append_left _ hold, c, by simp, hkey, hredefined, ?_⟩
    rw [List.getD_eq_getElem?_getD, hget, Option.getD_some]
  · right
    have happended := ht.append hnew
    refine ⟨_, happended.coupled.distinct, fun k hk => ?_, by simpa [size] using hover,
      by simp [size]⟩
    rw [happended.keys, List.mem_eraseDups] at hk
    refine List.map_subset _ (fun x hx => ?_) hk
    rcases List.mem_append.1 hx with hx | hx
    · exact List.mem_append_left _ hx
    · cases List.mem_singleton.1 hx
      exact List.mem_append_right _ List.mem_cons_self

end Refusals

end Table

/-- An element declares a component in a schema: it is of the schema language and stands
directly inside the root or, to redefine a component, directly inside a redefine there. -/
def Schema.IsDeclaration (root e : Markup.Element) (redefined : Bool) : Prop :=
  e.isXsd = true ∧
    match redefined with
    | false => e ∈ root.children
    | true => ∃ r ∈ root.children,
        r.isXsd = true ∧ r.name.localName = "redefine" ∧ e ∈ r.children

namespace Setting

section Declares

/-- The document of a node declares a component, named in the namespace of the node. -/
def Declares (s : Setting) (n : SchemaNode) (x : Component) : Prop :=
  ∃ root e name, s.readRoot n.path = .ok root ∧ Schema.IsDeclaration root e x.redefined ∧
    ComponentKind.ofLocalName e.name.localName = some x.kind ∧
    e.attribute? "name" = some name ∧ x.name = QName.of n.uri name ∧ x.document = n.path

variable {s : Setting} {n : SchemaNode} {root : Markup.Element} {x : Component}

theorem Declares.document (h : s.Declares n x) : x.document = n.path := by
  obtain ⟨_, _, _, _, _, _, _, _, hd⟩ := h
  exact hd

theorem mem_componentsOf_iff {redefined : Bool} {ds : List Schema.Declaration} :
    x ∈ componentsOf n redefined ds ↔
      ∃ d ∈ ds, ∃ name, d.name = some name ∧ Name.isUnqualified name = true ∧
        x = ⟨d.kind, QName.of n.uri name, n.path, redefined⟩ := by
  rw [componentsOf, List.mem_filterMap]
  refine exists_congr fun d => and_congr_right fun _ => ?_
  rw [← component_eq_ok_iff]
  cases component n redefined d <;> simp [Except.toOption]

/-- What an item of a document declares is declared by an element of it. -/
theorem declares_of_mem {i : Schema.Item} (hread : s.readRoot n.path = .ok root)
    (hi : i ∈ Schema.items root) (hx : x ∈ declares n i) : s.Declares n x := by
  obtain ⟨e, he, hie⟩ := List.mem_filterMap.1 hi
  cases i with
  | importing uri location => exact absurd hx List.not_mem_nil
  | including location => exact absurd hx List.not_mem_nil
  | declaring d =>
      obtain ⟨d', hd, name, hname, _, rfl⟩ := mem_componentsOf_iff.1 hx
      cases List.mem_singleton.1 hd
      obtain ⟨hxsd, hkind, hattribute⟩ :=
        Schema.declaration_eq_some_iff.1 (Schema.ofElement_eq_declaring_iff.1 hie)
      exact ⟨root, e, name, hread, ⟨hxsd, he⟩, hkind, hattribute.trans hname, rfl, rfl⟩
  | redefining location ds =>
      obtain ⟨d, hd, name, hname, _, rfl⟩ := mem_componentsOf_iff.1 hx
      obtain ⟨hxsd, hredefine, _, rfl⟩ := Schema.ofElement_eq_redefining_iff.1 hie
      obtain ⟨e', he', hde⟩ := List.mem_filterMap.1 hd
      obtain ⟨hxsd', hkind, hattribute⟩ := Schema.declaration_eq_some_iff.1 hde
      exact ⟨root, e', name, hread, ⟨hxsd', e, he, hxsd, hredefine, he'⟩, hkind,
        hattribute.trans hname, rfl, rfl⟩

/-- The components that the items of a document declare are those that its elements declare. -/
theorem mem_declares_iff (h : s.Admits n root) :
    (∃ i ∈ Schema.items root, x ∈ declares n i) ↔ s.Declares n x := by
  constructor
  · rintro ⟨i, hi, hx⟩
    exact declares_of_mem h.read hi hx
  · rintro ⟨root', e, name, hroot, ⟨hxsd, hplace⟩, hkind, hattribute, hname, hdocument⟩
    cases Except.ok.inj (h.read.symm.trans hroot)
    obtain ⟨kind, qname, document, redefined⟩ := x
    have hd : Schema.Declaration.ofElement e = some ⟨kind, some name⟩ :=
      Schema.declaration_eq_some_iff.2 ⟨hxsd, hkind, hattribute⟩
    subst hname hdocument
    cases redefined with
    | false =>
        have hi : Schema.Item.declaring ⟨kind, some name⟩ ∈ Schema.items root :=
          List.mem_filterMap.2 ⟨e, hplace, Schema.ofElement_eq_declaring_iff.2 hd⟩
        obtain ⟨_, hsome, hv⟩ := h.items _ hi
        cases Option.some.inj hsome
        exact ⟨_, hi, mem_componentsOf_iff.2 ⟨_, List.mem_cons_self, name, rfl, hv, rfl⟩⟩
    | true =>
        obtain ⟨r, hr, hrxsd, hredefine, he⟩ := hplace
        have hi : Schema.Item.redefining (r.attribute? "schemaLocation")
            (r.children.filterMap Schema.Declaration.ofElement) ∈ Schema.items root :=
          List.mem_filterMap.2
            ⟨r, hr, Schema.ofElement_eq_redefining_iff.2 ⟨hrxsd, hredefine, rfl, rfl⟩⟩
        have hmem : ⟨kind, some name⟩ ∈ r.children.filterMap Schema.Declaration.ofElement :=
          List.mem_filterMap.2 ⟨e, he, hd⟩
        obtain ⟨_, hsome, hv⟩ := (h.items _ hi).2 _ hmem
        cases Option.some.inj hsome
        exact ⟨_, hi, mem_componentsOf_iff.2 ⟨_, hmem, name, rfl, hv, rfl⟩⟩

/-- The components that a traversal notes are those that its documents declare. -/
theorem Covers.mem_declaredOf_iff {start : SchemaNode} {es : List Step} {nodes : List SchemaNode}
    (h : s.Covers start es nodes) (x : Component) :
    x ∈ declaredOf es ↔ ∃ n ∈ nodes, s.Declares n x := by
  rw [SchemaSet.mem_declaredOf_iff]
  constructor
  · intro hx
    obtain ⟨n, hn, root, hroot, he⟩ := h.reported hx
    refine ⟨n, hn, (mem_declares_iff hroot).1 ?_⟩
    rcases report_mem_rootTasks_iff.1 he with he | ⟨i, hi, he⟩ | ⟨_, _, he⟩
    · cases he
    · cases reports_of_mem_itemTasks he with
      | declared hx => exact ⟨i, hi, hx⟩
    · cases he
  · rintro ⟨n, hn, hx⟩
    obtain ⟨root, hroot⟩ := h.admitted n hn
    obtain ⟨i, hi, hx⟩ := (mem_declares_iff hroot).2 hx
    exact h.mem_events hn hroot.read
      (report_mem_rootTasks_iff.2 (.inr (.inl ⟨i, hi, declared_mem_itemTasks hx⟩)))

/-- The components that a compilation registers are those that its documents declare. -/
theorem mem_declaredOf_iff_declares {entry : Path} {c : CompiledSet} {start : SchemaNode}
    {es : List Step} (h : s.Compiles entry c start es) (x : Component) :
    x ∈ declaredOf es ↔ ∃ n ∈ c.nodes, s.Declares n x :=
  h.covers.mem_declaredOf_iff x

end Declares

section Tables

/-- The tables that a compilation passes through. -/
def tables (s : Setting) (entry : Path) : List Table :=
  match s.files.canonicalize ((s.resolver (entryRequest entry)).systemId.getD entry) with
  | .ok start => Table.history s.options.limits ∅ (declaredOf (s.traverse start).notes)
  | .error _ => []

/-- The components of a set are those that its documents declare; `es` are the events of its
traversal. -/
structure Tabulates (s : Setting) (c : CompiledSet) (es : List Step) : Prop where
  /-- The events declare what the documents declare. -/
  declared : ∀ x, x ∈ declaredOf es ↔ ∃ n ∈ c.nodes, s.Declares n x
  /-- The keys are those of the declarations. -/
  keys : ∀ key, key ∈ c.components.map Component.key ↔
    ∃ n ∈ c.nodes, ∃ x, s.Declares n x ∧ x.key = key
  /-- They stand in the order of their first declarations. -/
  order : c.components.map Component.key = ((declaredOf es).map Component.key).eraseDups
  /-- Under a key stands its last redefinition, or else its only declaration. -/
  value : ∀ x ∈ c.components,
    (x.redefined = true ∧
        ((declaredOf es).filter fun y => y.key = x.key && y.redefined).getLast? = some x) ∨
      (x.redefined = false ∧ (declaredOf es).filter (fun y => y.key = x.key) = [x])
  /-- Every component names the document that declares it. -/
  document : ∀ x ∈ c.components, ∃ n ∈ c.nodes, x.document = n.path ∧ s.Declares n x

/-- The table of components is exact: at every moment of every compilation its lookup fits
its list, and in the end it holds what the documents declare. -/
theorem table_exact (s : Setting) (entry : Path) :
    (∀ t ∈ s.tables entry, t.Exact) ∧
      ∀ c, (s.compile entry).outcome = .ok c →
        (s.tables entry).getLast? = some c.table ∧
          ∃ start es, start.path = c.entry ∧
            DepthFirst s.agenda [] [.enter start] es c.nodes ∧ s.Tabulates c es := by
  constructor
  · intro t ht
    unfold tables at ht
    split at ht
    · exact Table.exact_of_coupled (Table.coupled_of_mem_history Table.coupled_empty ht)
    · exact absurd ht List.not_mem_nil
  · intro c h
    obtain ⟨start, es, hc⟩ := compiles h
    have hdeclared := mem_declaredOf_iff_declares hc
    have hrecords : c.table.Records (declaredOf es) := by
      simpa using Table.records_foldlM Table.records_empty hc.table
    have hregistered : ∀ x ∈ c.components, x ∈ declaredOf es := by
      intro x hx
      exact (List.mem_filter.1 (List.mem_of_getLast? (hrecords.latest x hx))).1
    refine ⟨?_, start, es, hc.path, hc.order, ?_⟩
    · rw [tables, hc.canonical]
      refine Table.getLast?_history ?_
      rw [← declaredOf_events, ← hc.noted]
      exact hc.table
    · exact
        { declared := hdeclared
          keys := by
            intro key
            show key ∈ c.table.components.map Component.key ↔ _
            rw [hrecords.keys, List.mem_eraseDups, List.mem_map]
            constructor
            · rintro ⟨x, hx, hk⟩
              obtain ⟨n, hn, hd⟩ := (hdeclared x).1 hx
              exact ⟨n, hn, x, hd, hk⟩
            · rintro ⟨n, hn, x, hd, hk⟩
              exact ⟨x, (hdeclared x).2 ⟨n, hn, hd⟩, hk⟩
          order := hrecords.keys
          value := fun x hx => hrecords.value hx
          document := by
            intro x hx
            obtain ⟨n, hn, hd⟩ := (hdeclared x).1 (hregistered x hx)
            exact ⟨n, hn, hd.document, hd⟩ }

theorem sample_table_exact :
    (∀ t ∈ sample.tables (topPath "main"), t.Exact) ∧
      (sample.compile (topPath "main")).outcome = .ok sampleSet ∧
      (sample.tables (topPath "main")).getLast? = some sampleSet.table ∧
        ∃ start es, start.path = sampleSet.entry ∧
          DepthFirst sample.agenda [] [.enter start] es sampleSet.nodes ∧
          sample.Tabulates sampleSet es :=
  ⟨(table_exact sample (topPath "main")).1, sample_compiles,
    (table_exact sample (topPath "main")).2 sampleSet sample_compiles⟩

end Tables

end Setting
end SchemaSet
