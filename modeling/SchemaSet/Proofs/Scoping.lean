import SchemaSet.Proofs.Written

/-!
# Scopes of elements

The elements of the tree of a document correspond, in document order, to the events that begin an
element.  `openTags` are the tags that are open before an event, innermost first: those of the
elements around.

A label is bound by the innermost of these tags that declares it, and likewise the default
namespace.  Tags of elements beside or inside an element are not among them.

Main facts:
* `Nested.lookup_eq`, `Nested.default?_eq`: what is in scope at an element;
* `undeclared_of_unbound`: a label that is unbound is declared by none of these tags;
* `Nested.reordered`: name and scope do not depend on the order of attributes;
* `element_of_tag`: an event that begins an element has it at its own place in the tree;
* `readDocument_reflects`: a tree corresponds to its markup, with the scopes that the tags declare.
-/

namespace SchemaSet

namespace Scope

/-- Two scopes in which every name means the same. -/
structure Alike (s s' : Scope) : Prop where
  lookup : ∀ label, s'.lookup label = s.lookup label
  default? : s'.default? = s.default?

variable {s s' : Scope}

theorem Alike.resolve (h : s.Alike s') (name : String) : s'.resolve name = s.resolve name := by
  unfold Scope.resolve
  simp only [h.lookup, h.default?]

theorem Alike.resolveAttribute (h : s.Alike s') (name : String) :
    Markup.resolveAttribute s' name = Markup.resolveAttribute s name := by
  unfold Markup.resolveAttribute
  rw [h.resolve]

end Scope

namespace Markup

section Beginnings

variable {t : Tag} {outer : Option Scope} {e : Element} {scope : Scope}
variable {m m' : OrderedMap QName String} {as : List Attribute}

/-- Some attributes by expanded name, those with an unbound label left out. -/
def expanded (scope : Scope) (as : List Attribute) : List (QName × String) :=
  as.filterMap fun a => (resolveAttribute scope a.1).toOption.map fun name => (name, a.2)

theorem expanded_cons {a : Attribute} {name : QName}
    (ha : resolveAttribute scope a.1 = .ok name) :
    expanded scope (a :: as) = (name, a.2) :: expanded scope as := by
  rw [expanded, List.filterMap_cons, ha]
  rfl

/-- Attributes are written by expanded name in order, if all labels of their names are bound. -/
theorem expandAttributes_eq_ok_iff :
    expandAttributes scope m as = .ok m' ↔
      (∀ a ∈ as, ∃ name, resolveAttribute scope a.1 = .ok name) ∧
        m' = m.insertAll (expanded scope as) := by
  induction as generalizing m with
  | nil => simp [expandAttributes, expanded, OrderedMap.insertAll, eq_comm]
  | cons a as ih =>
      rw [List.forall_mem_cons]
      constructor
      · intro h
        obtain ⟨name, hname, h⟩ := bind_eq_ok_iff.1 h
        obtain ⟨hrest, rfl⟩ := ih.1 h
        exact ⟨⟨⟨name, hname⟩, hrest⟩, by rw [expanded_cons hname]; rfl⟩
      · rintro ⟨⟨⟨name, hname⟩, hrest⟩, rfl⟩
        exact bind_eq_ok_iff.2 ⟨name, hname, ih.2 ⟨hrest, by rw [expanded_cons hname]; rfl⟩⟩

/-- The scope inside a tag, where `outer` is the one around it. -/
def Tag.scopeIn (t : Tag) (outer : Option Scope) : Scope :=
  outer.elim t.declared.own (·.inherit t.declared.own)

/-- The element that a tag begins in a scope. -/
structure Tag.Yields (t : Tag) (outer : Option Scope) (e : Element) : Prop where
  legible : t.Legible
  scope : e.scope = t.scopeIn outer
  name : ∃ raw, Utf8.decode t.name = .ok raw ∧ e.scope.resolve raw = .ok e.name
  /-- The label of every attribute is bound. -/
  resolved : ∀ a ∈ t.plain, ∃ name, resolveAttribute e.scope a.1 = .ok name
  attributes : e.attributes = .ofList (expanded e.scope t.plain)
  children : e.children = []

theorem element_eq (t : Tag) (outer : Option Scope) :
    t.element outer = do
      let start ← t.read
      let scope := outer.elim start.own (·.inherit start.own)
      let name ← start.resolveName scope
      let attributes ← expandAttributes scope ∅ start.attributes
      return ⟨name, attributes, [], scope⟩ := by
  cases outer <;> rfl

/-- When a tag begins an element, and which one. -/
theorem element_eq_ok_iff : t.element outer = .ok e ↔ t.Yields outer e := by
  rw [element_eq]
  constructor
  · intro h
    obtain ⟨start, hread, h⟩ := bind_eq_ok_iff.1 h
    obtain ⟨hlegible, rfl⟩ := read_eq_ok_iff.1 hread
    obtain ⟨name, hname, h⟩ := bind_eq_ok_iff.1 h
    obtain ⟨attributes, hattributes, h⟩ := bind_eq_ok_iff.1 h
    obtain ⟨raw, hraw, hname⟩ := bind_eq_ok_iff.1 hname
    have hraw := mapError_eq_ok_iff.1 hraw
    rw [rawName_declared] at hraw
    rw [attributes_declared] at hattributes
    obtain ⟨hresolved, rfl⟩ := expandAttributes_eq_ok_iff.1 hattributes
    cases h
    exact ⟨hlegible, rfl, ⟨raw, hraw, mapError_eq_ok_iff.1 hname⟩, hresolved, rfl, rfl⟩
  · rintro ⟨hlegible, hscope, ⟨raw, hraw, hname⟩, hresolved, hattributes, hchildren⟩
    obtain ⟨name, attributes, children, scope⟩ := e
    cases hscope
    cases hchildren
    rw [← rawName_declared] at hraw
    have hattributes :
        expandAttributes (t.scopeIn outer) ∅ t.declared.attributes = .ok attributes := by
      rw [attributes_declared]
      exact expandAttributes_eq_ok_iff.2 ⟨hresolved, hattributes⟩
    have hname : t.declared.resolveName (t.scopeIn outer) = .ok name :=
      bind_eq_ok_iff.2 ⟨raw, mapError_eq_ok_iff.2 hraw, mapError_eq_ok_iff.2 hname⟩
    exact bind_eq_ok_iff.2 ⟨_, read_eq_ok_iff.2 ⟨hlegible, rfl⟩,
      bind_eq_ok_iff.2 ⟨name, hname, bind_eq_ok_iff.2 ⟨attributes, hattributes, rfl⟩⟩⟩

end Beginnings

section Scopes

variable {t : Tag} {tags : List Tag} {e : Element}

/-- What a tag declares for a label other than `xml`. -/
theorem lookup_declared (t : Tag) {label : String} (hl : label ≠ "xml") :
    t.declared.own.lookup label = t.written.get? ("xmlns:" ++ label) := by
  rw [Scope.lookup, if_neg hl, get?_labels_declared]

/-- A label is bound by the innermost tag that declares it, among the one that begins the
element and those around it. -/
theorem Nested.lookup_eq (h : Nested tags e) {label : String} (hl : label ≠ "xml") :
    e.scope.lookup label = tags.findSome? fun t => t.written.get? ("xmlns:" ++ label) := by
  induction h with
  | @top t e he =>
      rw [(element_eq_ok_iff.1 he).scope, Tag.scopeIn, Option.elim_none, lookup_declared t hl,
        List.findSome?_cons]
      cases t.written.get? ("xmlns:" ++ label) <;> rfl
  | @inside t tags outer e _ he ih =>
      rw [(element_eq_ok_iff.1 he).scope, Tag.scopeIn, Option.elim_some,
        Scope.lookup_inherit _ _ _ hl, lookup_declared t hl, ih, List.findSome?_cons]
      cases t.written.get? ("xmlns:" ++ label) <;> rfl

/-- The default namespace is that of the innermost tag that declares one, and none if that
declares the empty one. -/
theorem Nested.default?_eq (h : Nested tags e) :
    e.scope.default? = nonEmpty (tags.findSome? fun t => t.written.get? "xmlns") := by
  induction h with
  | @top t e he =>
      rw [(element_eq_ok_iff.1 he).scope, Tag.scopeIn, Option.elim_none, Scope.default?,
        fallback_declared, List.findSome?_cons]
      cases t.written.get? "xmlns" <;> rfl
  | @inside t tags outer e _ he ih =>
      rw [(element_eq_ok_iff.1 he).scope, Tag.scopeIn, Option.elim_some, Scope.default?_inherit, ih,
        Scope.default?, fallback_declared, List.findSome?_cons]
      cases t.written.get? "xmlns" <;> rfl

/-- The tag that begins an element does so in some scope. -/
theorem Nested.yields (h : Nested (t :: tags) e) : ∃ outer, t.Yields outer e := by
  cases h with
  | top he => exact ⟨none, element_eq_ok_iff.1 he⟩
  | inside _ he => exact ⟨_, element_eq_ok_iff.1 he⟩

/-- All tags around an element are legible. -/
theorem Nested.legible (h : Nested tags e) (ht : t ∈ tags) : t.Legible := by
  induction h with
  | top he =>
      cases List.mem_singleton.1 ht
      exact (element_eq_ok_iff.1 he).legible
  | inside _ he ih =>
      rcases List.mem_cons.1 ht with rfl | ht
      · exact (element_eq_ok_iff.1 he).legible
      · exact ih ht

/-- A label that a tag declares has a value there. -/
theorem Tag.Legible.isSome_of_declaresLabel {label : String} (h : t.Legible)
    (hd : t.DeclaresLabel label) : (t.written.get? ("xmlns:" ++ label)).isSome := by
  obtain ⟨a, ha, hkey⟩ := hd
  obtain ⟨⟨name, value⟩, hp⟩ := h.decoded a ha
  cases Except.ok.inj ((decode_eq_ok_iff.1 hp).1.symm.trans hkey)
  have hmem : ("xmlns:" ++ label, value) ∈ t.written.entries :=
    List.mem_filterMap.2 ⟨a, ha, toOption_eq_some_iff.2 hp⟩
  rw [OrderedMap.get?_eq_some_iff.2 hmem]
  rfl

/-- A label that is unbound at an element is declared by none of the tags around it. -/
theorem Nested.not_declaresLabel {label : String} (h : Nested tags e)
    (hunbound : e.scope.lookup label = none) (ht : t ∈ tags) : ¬ t.DeclaresLabel label := by
  intro hd
  have hl : label ≠ "xml" := by
    rintro rfl
    cases hunbound
  rw [h.lookup_eq hl, List.findSome?_eq_none_iff] at hunbound
  have hvalue := (h.legible ht).isSome_of_declaresLabel hd
  rw [hunbound t ht] at hvalue
  cases hvalue

/-- A label with a value in a tag is declared there. -/
theorem Tag.declaresLabel_of_get? {label value : String}
    (h : t.written.get? ("xmlns:" ++ label) = some value) : t.DeclaresLabel label := by
  obtain ⟨a, ha, hdecode⟩ := List.mem_filterMap.1 (OrderedMap.mem_entries_of_get? h)
  exact ⟨a, ha, (decode_eq_ok_iff.1 (toOption_eq_some_iff.1 hdecode)).1⟩

/-- A label that none of the tags around an element declares is unbound there. -/
theorem Nested.lookup_eq_none {label : String} (h : Nested tags e) (hl : label ≠ "xml")
    (hnone : ∀ t ∈ tags, ¬ t.DeclaresLabel label) : e.scope.lookup label = none := by
  rw [h.lookup_eq hl, List.findSome?_eq_none_iff]
  intro t ht
  by_contra hvalue
  obtain ⟨value, hvalue⟩ := Option.ne_none_iff_exists'.1 hvalue
  exact hnone t ht (Tag.declaresLabel_of_get? hvalue)

/-- A label that is unbound at an element of a document is declared by none of the tags around
it. -/
theorem undeclared_of_unbound {bs : Bytes} {root : Element} {depth : Nat} {label : String}
    (h : readDocument bs = .ok root) (he : (depth, e) ∈ root.preorder 0)
    (hunbound : e.scope.lookup label = none) :
    ∃ tags ∈ nestings [] (events .whole bs).notes, tags.length = depth + 1 ∧
      Nested tags e.head ∧ ∀ t ∈ tags, ¬ t.DeclaresLabel label := by
  have hmem : (depth, e.head) ∈ root.outline 0 := List.mem_map.2 ⟨_, he, rfl⟩
  obtain ⟨tags, htags, hlength, hnested⟩ := exists_of_mem_right (readDocument_outline h) hmem
  exact ⟨tags, htags, hlength, hnested, fun t ht => hnested.not_declaresLabel hunbound ht⟩

end Scopes

section Reordering

variable {t t' : Tag} {tags tags' : List Tag} {e : Element} {scope scope' own own' : Scope}
variable {outer outer' : Option Scope}

theorem alike_inherit (h : scope.Alike scope') (hown : own.Alike own')
    (hfallback : own'.fallback = own.fallback) :
    (scope.inherit own).Alike (scope'.inherit own') where
  lookup label := by
    by_cases hl : label = "xml"
    · simp [Scope.lookup, hl]
    · rw [Scope.lookup_inherit _ _ _ hl, Scope.lookup_inherit _ _ _ hl, hown.lookup, h.lookup]
  default? := by
    rw [Scope.default?_inherit, Scope.default?_inherit, hown.default?, h.default?, hfallback]

theorem Tag.Reordered.alike_declared (h : t.Reordered t') :
    t.declared.own.Alike t'.declared.own where
  lookup label := by
    by_cases hl : label = "xml"
    · simp [Scope.lookup, hl]
    · rw [lookup_declared t hl, lookup_declared t' hl, h.get?_written]
  default? := by
    rw [Scope.default?, Scope.default?, fallback_declared, fallback_declared, h.get?_written]

/-- In a scope in which names mean the same, the reordered tag begins an element with the same
name. -/
theorem Tag.Reordered.yields (h : t.Reordered t')
    (hscope : (t.scopeIn outer).Alike (t'.scopeIn outer')) (ht : t.Yields outer e) :
    ∃ e', t'.Yields outer' e' ∧ e'.name = e.name ∧ e.scope.Alike e'.scope := by
  obtain ⟨raw, hraw, hname⟩ := ht.name
  have hscope : e.scope.Alike (t'.scopeIn outer') := ht.scope ▸ hscope
  have hkept : ∀ a ∈ t'.plain, ∃ name, resolveAttribute (t'.scopeIn outer') a.1 = .ok name := by
    intro a ha
    rw [hscope.resolveAttribute]
    exact ht.resolved a (h.plain_perm.mem_iff.1 ha)
  refine ⟨⟨e.name, .ofList (expanded (t'.scopeIn outer') t'.plain), [], t'.scopeIn outer'⟩,
    ⟨h.legible ht.legible, rfl, ⟨raw, ?_, ?_⟩, hkept, rfl, rfl⟩, rfl, hscope⟩
  · rw [h.name]
    exact hraw
  · rw [← hname]
    exact hscope.resolve raw

/-- Name and scope of an element do not depend on the order of attributes, in its own tag and in
those around it. -/
theorem Nested.reordered (h : Nested tags e) (ht : List.Forall₂ Tag.Reordered tags tags') :
    ∃ e', Nested tags' e' ∧ e'.name = e.name ∧ e.scope.Alike e'.scope := by
  induction h generalizing tags' with
  | @top t e he =>
      cases ht with
      | @cons _ t' _ _ ht hnil =>
          cases hnil
          have hscope : (t.scopeIn none).Alike (t'.scopeIn none) := ht.alike_declared
          obtain ⟨e', he', hsame⟩ := ht.yields hscope (element_eq_ok_iff.1 he)
          exact ⟨e', .top (element_eq_ok_iff.2 he'), hsame⟩
  | @inside t tags outer e _ he ih =>
      cases ht with
      | @cons _ t' _ _ ht hrest =>
          obtain ⟨outer', houter, _, halike⟩ := ih hrest
          have hfallback : t'.declared.own.fallback = t.declared.own.fallback := by
            rw [fallback_declared, fallback_declared, ht.get?_written]
          have hscope : (t.scopeIn (some outer.scope)).Alike (t'.scopeIn (some outer'.scope)) :=
            alike_inherit halike ht.alike_declared hfallback
          obtain ⟨e', he', hsame⟩ := ht.yields hscope (element_eq_ok_iff.1 he)
          exact ⟨e', .inside houter (element_eq_ok_iff.2 he'), hsame⟩

end Reordering

section Correspondence

variable {bs : Bytes} {root : Element} {tags : List Tag} {t : Tag} {front back : List Occurrence}
variable {o : Occurrence}

/-- The tags of the events that begin an element, in order. -/
def begun (os : List Occurrence) : List Tag := os.filterMap fun o => o.event.tag?

theorem nestings_append (tags : List Tag) (front back : List Occurrence) :
    nestings tags (front ++ back) = nestings tags front ++ nestings (openTags tags front) back := by
  induction front generalizing tags with
  | nil => rfl
  | cons o r ih =>
      rw [List.cons_append, nestings, nestings, ih]
      cases o.event.tag? <;> rfl

theorem length_nestings (tags : List Tag) (os : List Occurrence) :
    (nestings tags os).length = (begun os).length := by
  induction os generalizing tags with
  | nil => rfl
  | cons o r ih =>
      rw [nestings, begun, List.filterMap_cons]
      cases o.event.tag? with
      | none => exact ih _
      | some t => exact congrArg Nat.succ (ih _)

theorem head?_nestings (tags : List Tag) (os : List Occurrence) :
    (nestings tags os).map List.head? = (begun os).map some := by
  induction os generalizing tags with
  | nil => rfl
  | cons o r ih =>
      rw [nestings, begun, List.filterMap_cons]
      cases o.event.tag? with
      | none => exact ih _
      | some t => exact congrArg (some t :: ·) (ih _)

theorem getElem?_of_forall₂ {α β : Type} {R : α → β → Prop} {l : List α} {m : List β} {i : Nat}
    {a : α} (h : List.Forall₂ R l m) (ha : l[i]? = some a) : ∃ b, m[i]? = some b ∧ R a b := by
  induction h generalizing i with
  | nil => cases ha
  | cons hab _ ih =>
      cases i with
      | zero =>
          cases ha
          exact ⟨_, rfl, hab⟩
      | succ i => exact ih ha

/-- An event that begins an element has it at its own place in the tree, as deep as there are
tags open before the event. -/
theorem element_of_tag (h : readDocument bs = .ok root)
    (hnotes : (events .whole bs).notes = front ++ o :: back) (ht : o.event.tag? = some t) :
    ∃ e, (root.preorder 0)[(begun front).length]? = some ((openTags [] front).length, e) ∧
      Nested (t :: openTags [] front) e.head := by
  have htags : (nestings [] (events .whole bs).notes)[(begun front).length]? =
      some (t :: openTags [] front) := by
    rw [hnotes, nestings_append, nestings, ht, ← length_nestings []]
    simp
  obtain ⟨⟨depth, head⟩, hget, hdepth, hnested⟩ :=
    getElem?_of_forall₂ (readDocument_outline h) htags
  rw [Element.outline, List.getElem?_map, Option.map_eq_some_iff] at hget
  obtain ⟨⟨depth', e⟩, he, heq⟩ := hget
  cases heq
  have hdepth : (openTags [] front).length = depth' := Nat.succ.inj hdepth
  refine ⟨e, ?_, hnested⟩
  rw [he, hdepth]

/-- An element is begun by the tag at its own place. -/
theorem tag_of_element {i depth : Nat} {e : Element} (h : readDocument bs = .ok root)
    (he : (root.preorder 0)[i]? = some (depth, e)) :
    ∃ t around, (begun (events .whole bs).notes)[i]? = some t ∧ Nested (t :: around) e.head := by
  have hhead : (root.outline 0)[i]? = some (depth, e.head) := by
    rw [Element.outline, List.getElem?_map, he]
    rfl
  obtain ⟨tags, htags, _, hnested⟩ := getElem?_of_forall₂ (readDocument_outline h).flip hhead
  cases tags with
  | nil => cases hnested
  | cons t around =>
      have hfirst := congrArg (·[i]?) (head?_nestings [] (events .whole bs).notes)
      simp only [List.getElem?_map, htags] at hfirst
      obtain ⟨t', ht', heq⟩ := Option.map_eq_some_iff.1 hfirst.symm
      cases heq
      exact ⟨t, around, ht', hnested⟩

/-- The tree has an element for each event that begins one. -/
theorem length_preorder (h : readDocument bs = .ok root) :
    (root.preorder 0).length = (begun (events .whole bs).notes).length := by
  rw [← length_nestings [], (readDocument_outline h).length_eq, Element.outline, List.length_map]

mutual

theorem le_depth_of_mem_preorder {p : Nat × Element} : (depth : Nat) → (e : Element) →
    p ∈ e.preorder depth → depth ≤ p.1
  | depth, ⟨name, attributes, children, scope⟩, hp => by
      rcases List.mem_cons.1 hp with rfl | hp
      · exact Nat.le_refl _
      · exact Nat.le_of_succ_le (le_depth_of_mem_preorderAll (depth + 1) children hp)

theorem le_depth_of_mem_preorderAll {p : Nat × Element} : (depth : Nat) → (l : List Element) →
    p ∈ Element.preorderAll depth l → depth ≤ p.1
  | _, [], hp => absurd hp List.not_mem_nil
  | depth, e :: r, hp => by
      rcases List.mem_append.1 hp with hp | hp
      · exact le_depth_of_mem_preorder depth e hp
      · exact le_depth_of_mem_preorderAll depth r hp

end

/-- Only the root is at the top. -/
theorem filter_top_preorder (root : Element) :
    ((root.preorder 0).filter fun p => p.1 = 0) = [(0, root)] := by
  obtain ⟨name, attributes, children, scope⟩ := root
  rw [Element.preorder, List.filter_cons_of_pos (by simp), List.filter_eq_nil_iff.2]
  intro p hp
  have := le_depth_of_mem_preorderAll _ _ hp
  simp only [decide_eq_true_eq]
  omega

end Correspondence

section Reflection

/-- The scope and the name of an element are those that its tag and the tags around it, innermost
first, say. -/
structure Scoped (t : Tag) (around : List Tag) (e : Element) : Prop where
  /-- A label stands for what the innermost tag that declares it says, or for nothing. -/
  labels : ∀ label, label ≠ "xml" →
    e.scope.lookup label = (t :: around).findSome? fun t => t.written.get? ("xmlns:" ++ label)
  default? : e.scope.default? = nonEmpty ((t :: around).findSome? fun t => t.written.get? "xmlns")
  name : ∃ raw, Utf8.decode t.name = .ok raw ∧ e.scope.resolve raw = .ok e.name
  /-- Another order of the attributes in these tags makes no difference. -/
  reordered : ∀ tags', List.Forall₂ Tag.Reordered (t :: around) tags' →
    ∃ e', Nested tags' e' ∧ e'.name = e.name ∧ e.scope.Alike e'.scope

theorem Nested.scoped {t : Tag} {around : List Tag} {e : Element}
    (h : Nested (t :: around) e.head) : Scoped t around e where
  labels _ hl := h.lookup_eq hl
  default? := h.default?_eq
  name := by
    obtain ⟨_, hyields⟩ := h.yields
    exact hyields.name
  reordered _ ht := h.reordered ht

/-- A tree in document order corresponds to the markup of a document. -/
structure Reflects (bs : Bytes) (root : Element) : Prop where
  /-- There is an element for each event that begins one. -/
  length : (root.preorder 0).length = (begun (events .whole bs).notes).length
  /-- The elements stand in the order of these events, as deep as there are tags open, and with the
  scopes that the open tags make. -/
  placed : ∀ front o back t, (events .whole bs).notes = front ++ o :: back →
    o.event.tag? = some t →
    ∃ e, (root.preorder 0)[(begun front).length]? = some ((openTags [] front).length, e) ∧
      Scoped t (openTags [] front) e
  /-- Exactly one element is at the top. -/
  top : ((root.preorder 0).filter fun p => p.1 = 0) = [(0, root)]

/-- The tree of a document and its scopes are those of its markup. -/
theorem readDocument_reflects {bs : Bytes} {root : Element} (h : readDocument bs = .ok root) :
    Reflects bs root where
  length := length_preorder h
  placed front o back t hnotes ht := by
    obtain ⟨e, hget, hnested⟩ := element_of_tag h hnotes ht
    exact ⟨e, hget, hnested.scoped⟩
  top := filter_top_preorder root

/-- A document that binds a label anew inside and undeclares the default namespace there. -/
def rebound : Bytes :=
  Utf8.encode ("<a xmlns='urn:d' xmlns:p='urn:1'><p:b xmlns:p='urn:2' xmlns=''><c/><p:c/></p:b>" ++
    "<p:d p:k='1'/></a>")

theorem rebound_reflects : ∃ root, readDocument rebound = .ok root ∧ Reflects rebound root := by
  have hread : (readDocument rebound).toOption.isSome = true := by decide +kernel
  obtain ⟨root, hroot⟩ := Option.isSome_iff_exists.1 hread
  have hroot := toOption_eq_some_iff.1 hroot
  exact ⟨root, hroot, readDocument_reflects hroot⟩

end Reflection

end Markup
end SchemaSet
