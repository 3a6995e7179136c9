import Mathlib.Data.List.Pairwise
import SchemaSet.Proofs.Scoping

/-!
# Attributes with one expanded name

The keys of a tag are distinct, but two of them may have one expanded name: two labels may be bound
to one namespace, and a label may be bound to the empty one, beside an attribute without a label.
Such a tag is not refused.  The later value is kept, in the place of the earlier.

`Collide` says when two attributes have one expanded name.  The main theorem is that an element
keeps all attributes of its tag exactly if no two of them collide.  It is followed by a document
that loses attributes in both ways.
-/

namespace SchemaSet
namespace Markup

section Collisions

variable {scope : Scope} {name name' label label' rest rest' uri uri' : String}

/-- Two names of attributes, as written, have one expanded name in a scope. -/
inductive Collide (scope : Scope) : String → String → Prop
  /-- Two labels are bound to one namespace. -/
  | labels {name name' label label' rest uri : String} :
      Name.splitColon name = some (label, rest) → Name.splitColon name' = some (label', rest) →
      scope.lookup label = some uri → scope.lookup label' = some uri → Collide scope name name'
  /-- A label is bound to the empty namespace. -/
  | unlabelled {name name' label : String} :
      Name.splitColon name = none → Name.splitColon name' = some (label, name) →
      scope.lookup label = some "" → Collide scope name name'
  | symm {name name' : String} : Collide scope name name' → Collide scope name' name

/-- Two names of attributes stand for one expanded name. -/
def SameName (scope : Scope) (name name' : String) : Prop :=
  ∃ q, resolveAttribute scope name = .ok q ∧ resolveAttribute scope name' = .ok q

theorem SameName.symm (h : SameName scope name name') : SameName scope name' name := by
  obtain ⟨q, hq, hq'⟩ := h
  exact ⟨q, hq', hq⟩

theorem resolveAttribute_of_unlabelled (h : Name.splitColon name = none) {q : QName} :
    resolveAttribute scope name = .ok q ↔ q = QName.bare name := by
  rw [resolveAttribute, h]
  simp [eq_comm]

theorem resolveAttribute_of_labelled (h : Name.splitColon name = some (label, rest)) {q : QName} :
    resolveAttribute scope name = .ok q ↔
      ∃ uri, scope.lookup label = some uri ∧ q = QName.of (some uri) rest := by
  rw [resolveAttribute, h]
  simp only
  rw [mapError_eq_ok_iff, Scope.resolve, h]
  simp only
  cases scope.lookup label with
  | none => simp
  | some uri => simp [eq_comm]

theorem of_inj : QName.of (some uri) rest = QName.of (some uri') rest' ↔
    uri = uri' ∧ rest = rest' := by
  by_cases hu : uri = ""
  · by_cases hu' : uri' = ""
    · simp [QName.of, hu, hu']
    · simp [QName.of, nonEmpty, Option.filter, hu, hu', Ne.symm hu']
  · by_cases hu' : uri' = ""
    · simp [QName.of, nonEmpty, Option.filter, hu, hu']
    · simp [QName.of, nonEmpty, Option.filter, hu, hu']

theorem Collide.sameName (h : Collide scope name name') : SameName scope name name' := by
  induction h with
  | @labels _ _ _ _ rest uri hname hname' hl hl' =>
      exact ⟨.of (some uri) rest, (resolveAttribute_of_labelled hname).2 ⟨uri, hl, rfl⟩,
        (resolveAttribute_of_labelled hname').2 ⟨uri, hl', rfl⟩⟩
  | @unlabelled name _ _ hname hname' hl =>
      exact ⟨.bare name, (resolveAttribute_of_unlabelled hname).2 rfl,
        (resolveAttribute_of_labelled hname').2 ⟨"", hl, (of_eq_bare_iff.2 ⟨rfl, rfl⟩).symm⟩⟩
  | symm _ ih => exact ih.symm

/-- Two names, written differently, have one expanded name exactly if they collide. -/
theorem sameName_iff (hne : name ≠ name') :
    SameName scope name name' ↔ Collide scope name name' := by
  refine ⟨?_, Collide.sameName⟩
  rintro ⟨q, hq, hq'⟩
  cases hname : Name.splitColon name with
  | none =>
      have hq := (resolveAttribute_of_unlabelled hname).1 hq
      cases hname' : Name.splitColon name' with
      | none =>
          have hq' := (resolveAttribute_of_unlabelled hname').1 hq'
          exact absurd (congrArg QName.localName (hq.symm.trans hq')) hne
      | some parts =>
          obtain ⟨uri, hl, hq'⟩ := (resolveAttribute_of_labelled hname').1 hq'
          obtain ⟨rfl, rfl⟩ := of_eq_bare_iff.1 (hq'.symm.trans hq)
          exact .unlabelled hname hname' hl
  | some parts =>
      obtain ⟨uri, hl, hq⟩ := (resolveAttribute_of_labelled hname).1 hq
      cases hname' : Name.splitColon name' with
      | none =>
          have hq' := (resolveAttribute_of_unlabelled hname').1 hq'
          obtain ⟨rfl, rfl⟩ := of_eq_bare_iff.1 (hq.symm.trans hq')
          exact .symm (.unlabelled hname' hname hl)
      | some parts' =>
          obtain ⟨uri', hl', hq'⟩ := (resolveAttribute_of_labelled hname').1 hq'
          obtain ⟨rfl, hrest⟩ := of_inj.1 (hq.symm.trans hq')
          obtain ⟨label, rest⟩ := parts
          obtain ⟨label', rest'⟩ := parts'
          cases hrest
          exact .labels hname hname' hl hl'

end Collisions

section Keeping

variable {t : Tag} {e : Element} {outer : Option Scope}

/-- An element keeps every attribute of a tag that declares no namespace. -/
structure KeepsAttributes (t : Tag) (e : Element) : Prop where
  size : e.attributes.size = t.plain.length
  /-- The value of an attribute is found under its expanded name. -/
  named : ∀ a ∈ t.plain, ∃ name, resolveAttribute e.scope a.1 = .ok name ∧
    e.attributeNamed? name = some a.2
  /-- The value of an attribute that is written without a label is found under its name. -/
  unlabelled : ∀ a ∈ t.plain, Name.splitColon a.1 = none → e.attribute? a.1 = some a.2

/-- The children of an element do not matter. -/
theorem keepsAttributes_head : KeepsAttributes t e.head ↔ KeepsAttributes t e :=
  ⟨fun h => ⟨h.size, h.named, h.unlabelled⟩, fun h => ⟨h.size, h.named, h.unlabelled⟩⟩

theorem mem_expanded_iff {scope : Scope} {as : List Attribute} {name : QName} {value : String} :
    (name, value) ∈ expanded scope as ↔
      ∃ a ∈ as, resolveAttribute scope a.1 = .ok name ∧ a.2 = value := by
  rw [expanded, List.mem_filterMap]
  refine exists_congr fun a => and_congr_right fun _ => ?_
  rw [Option.map_eq_some_iff]
  constructor
  · rintro ⟨_, hname, heq⟩
    cases heq
    exact ⟨toOption_eq_some_iff.1 hname, rfl⟩
  · rintro ⟨hname, rfl⟩
    exact ⟨name, toOption_eq_some_iff.2 hname, rfl⟩

theorem length_expanded (h : t.Yields outer e) :
    (expanded e.scope t.plain).length = t.plain.length := by
  refine List.filterMap_length_eq_length.2 fun a ha => ?_
  obtain ⟨name, hname⟩ := h.resolved a ha
  simp [toOption_eq_some_iff.2 hname]

/-- Expanded names are distinct exactly if no two attributes collide. -/
theorem nodup_expanded_iff (t : Tag) (scope : Scope) :
    ((expanded scope t.plain).map Prod.fst).Nodup ↔
      ∀ a ∈ t.plain, ∀ b ∈ t.plain, Collide scope a.1 b.1 → a = b := by
  have hpairs : ((expanded scope t.plain).map Prod.fst).Nodup ↔
      t.plain.Pairwise fun a b => ¬ SameName scope a.1 b.1 := by
    rw [List.Nodup, List.pairwise_map, expanded, List.pairwise_filterMap]
    refine List.Pairwise.iff fun a b => ?_
    constructor
    · rintro h ⟨q, hq, hq'⟩
      exact h (q, a.2) (by simp [hq, Except.toOption]) (q, b.2) (by simp [hq', Except.toOption]) rfl
    · rintro h x hx y hy heq
      obtain ⟨q, hq, rfl⟩ := Option.map_eq_some_iff.1 hx
      obtain ⟨q', hq', rfl⟩ := Option.map_eq_some_iff.1 hy
      cases heq
      exact h ⟨q, toOption_eq_some_iff.1 hq, toOption_eq_some_iff.1 hq'⟩
  rw [hpairs]
  have hnames := List.pairwise_map.1 (nodup_plain t)
  constructor
  · intro h a ha b hb hcollide
    by_contra hne
    have : Std.Symm fun a b : Attribute => ¬ SameName scope a.1 b.1 :=
      ⟨fun a b hno hsame => hno hsame.symm⟩
    exact h.forall ha hb hne hcollide.sameName
  · intro h
    refine hnames.imp_of_mem fun {a b} ha hb hne hsame => ?_
    exact hne (congrArg Prod.fst (h a ha b hb ((sameName_iff hne).1 hsame)))

/-- An element keeps the attributes of its tag exactly if no two of them collide. -/
theorem Tag.Yields.keepsAttributes_iff (h : t.Yields outer e) :
    KeepsAttributes t e ↔
      ∀ a ∈ t.plain, ∀ b ∈ t.plain, Collide e.scope a.1 b.1 → a = b := by
  rw [← nodup_expanded_iff, ← OrderedMap.size_ofList_eq_iff, ← h.attributes, length_expanded h]
  constructor
  · exact KeepsAttributes.size
  · intro hsize
    have hnodup : ((expanded e.scope t.plain).map Prod.fst).Nodup := by
      rw [← OrderedMap.size_ofList_eq_iff, ← h.attributes, length_expanded h]
      exact hsize
    have hnamed : ∀ a ∈ t.plain, ∀ name, resolveAttribute e.scope a.1 = .ok name →
        e.attributes.get? name = some a.2 := by
      intro a ha name hname
      rw [OrderedMap.get?_eq_some_iff, h.attributes, OrderedMap.entries_ofList_of_nodup hnodup]
      exact mem_expanded_iff.2 ⟨a, ha, hname, rfl⟩
    refine ⟨hsize, ?_, ?_⟩
    · intro a ha
      obtain ⟨name, hname⟩ := h.resolved a ha
      exact ⟨name, hname, hnamed a ha name hname⟩
    · intro a ha hbare
      rw [Element.attribute?_eq_get?]
      exact hnamed a ha _ ((resolveAttribute_of_unlabelled hbare).2 rfl)

end Keeping

section Documents

variable {bs : Bytes} {root e : Element} {i depth : Nat}

/-- An element keeps all attributes of its tag exactly if no two of them have one expanded name.
Otherwise it has the later values in the places of the earlier ones. -/
theorem attributes_kept_iff (h : readDocument bs = .ok root)
    (he : (root.preorder 0)[i]? = some (depth, e)) :
    ∃ t, (begun (events .whole bs).notes)[i]? = some t ∧
      e.attributes.entries = OrderedMap.lastly (expanded e.scope t.plain) ∧
      (KeepsAttributes t e ↔
        ∀ a ∈ t.plain, ∀ b ∈ t.plain, Collide e.scope a.1 b.1 → a = b) := by
  obtain ⟨t, around, ht, hnested⟩ := tag_of_element h he
  obtain ⟨outer, hyields⟩ := hnested.yields
  refine ⟨t, ht, ?_, ?_⟩
  · rw [← OrderedMap.entries_ofList]
    exact congrArg OrderedMap.entries hyields.attributes
  · rw [← keepsAttributes_head]
    exact hyields.keepsAttributes_iff

/-- A document whose only tag has two pairs of attributes with one expanded name each. -/
def doubled : Bytes :=
  Utf8.encode "<r xmlns:a='urn:x' xmlns:b='urn:x' xmlns:p='' k='1' p:k='2' a:m='3' b:m='4'/>"

/-- What its element has of them. -/
theorem doubled_read : ∃ root, readDocument doubled = .ok root ∧
    (root.preorder 0)[0]? = some (0, root) ∧
    root.attributes.entries = [(.bare "k", "2"), (.of (some "urn:x") "m", "4")] := by
  have hentries : (readDocument doubled).toOption.map (fun e => e.attributes.entries) =
      some [(.bare "k", "2"), (.of (some "urn:x") "m", "4")] := by
    decide +kernel
  obtain ⟨root, hroot, hattributes⟩ := Option.map_eq_some_iff.1 hentries
  refine ⟨root, toOption_eq_some_iff.1 hroot, ?_, hattributes⟩
  obtain ⟨name, attributes, children, scope⟩ := root
  rfl

theorem doubled_attributes_kept :
    ∃ root, readDocument doubled = .ok root ∧ (root.preorder 0)[0]? = some (0, root) ∧
      ∃ t, (begun (events .whole doubled).notes)[0]? = some t ∧
        root.attributes.entries = OrderedMap.lastly (expanded root.scope t.plain) ∧
        (KeepsAttributes t root ↔
          ∀ a ∈ t.plain, ∀ b ∈ t.plain, Collide root.scope a.1 b.1 → a = b) := by
  obtain ⟨root, hread, hroot, _⟩ := doubled_read
  exact ⟨root, hread, hroot, attributes_kept_iff hread hroot⟩

/-- Attributes are overwritten silently: a label that is bound to the empty namespace hides an
attribute without a label, and of two labels for one namespace one hides the other. -/
theorem attribute_overwritten :
    ∃ root t, readDocument doubled = .ok root ∧ (root.preorder 0)[0]? = some (0, root) ∧
      (begun (events .whole doubled).notes)[0]? = some t ∧
      t.plain = [("k", "1"), ("p:k", "2"), ("a:m", "3"), ("b:m", "4")] ∧
      root.attributes.size = 2 ∧ root.attribute? "k" = some "2" ∧ ¬ KeepsAttributes t root := by
  obtain ⟨root, hread, hroot, hentries⟩ := doubled_read
  have hplain : (begun (events .whole doubled).notes)[0]?.map Tag.plain =
      some [("k", "1"), ("p:k", "2"), ("a:m", "3"), ("b:m", "4")] := by
    decide +kernel
  obtain ⟨t, ht, hplain⟩ := Option.map_eq_some_iff.1 hplain
  have hsize : root.attributes.size = 2 := congrArg List.length hentries
  refine ⟨root, t, hread, hroot, ht, hplain, hsize, ?_, fun h => ?_⟩
  · rw [Element.attribute?, hentries]
    rfl
  · have hlength := h.size
    rw [hsize, hplain] at hlength
    cases hlength

end Documents

end Markup
end SchemaSet
