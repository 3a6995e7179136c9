import Mathlib.Data.List.Nodup
import SchemaSet.Proofs.Decoding
import SchemaSet.Proofs.Nesting
import SchemaSet.Proofs.Overwriting

/-!
# Attributes by their names as written

`Tag.written` maps the names of a tag's attributes, as they are written, to their values.  A tag
with a repeated key is refused at the repetition, and no two keys decode to one name, so the names
are distinct (`nodup_keys`).

A tag is read if all of its attributes can be, and says what it declares and what it keeps
(`read_eq_ok_iff`).  The labels and the default namespace that it declares and the attributes that
it keeps are looked up in what is written.  Reordering the attributes of a tag changes none of this
(`Tag.Reordered.legible`, `Tag.Reordered.get?_written`).
-/

namespace SchemaSet
namespace Markup

section Keys

variable {length n position : Nat} {bs : Bytes} {seen : List (Bytes × Nat)}

theorem notMem_of_refuseRepeated {key : Bytes} {u : Unit}
    (h : refuseRepeated seen key position = .ok u) : key ∉ seen.map Prod.fst := by
  unfold refuseRepeated at h
  split at h
  · cases h
  · rename_i hlookup
    intro hmem
    obtain ⟨⟨_, first⟩, hpair, rfl⟩ := List.mem_map.1 hmem
    exact absurd (List.lookup_eq_none_iff.1 hlookup _ hpair) (by simp)

theorem key_of_readAttribute {b : UInt8} {a : RawAttribute} {next : Nat × Bytes}
    (h : readAttribute length seen position b bs = .ok (a, next)) :
    a.key ∉ seen.map Prod.fst := by
  obtain ⟨⟨_, rest⟩, _, h⟩ := bind_eq_ok_iff.1 h
  obtain ⟨_, hkey, h⟩ := bind_eq_ok_iff.1 h
  obtain ⟨⟨value, _, _⟩, _, h⟩ := bind_eq_ok_iff.1 h
  cases h
  exact notMem_of_refuseRepeated hkey

/-- The keys read are distinct from each other and from those seen before. -/
theorem nodup_attributesFrom (hs : (seen.map Prod.fst).Nodup) :
    (seen.map Prod.fst ++
      (attributesFrom length n seen position bs).notes.map RawAttribute.key).Nodup := by
  induction n generalizing seen position bs with
  | zero => simpa [attributesFrom, Journal.done] using hs
  | succ n ih =>
      simp only [attributesFrom]
      split
      · simpa [Journal.done] using hs
      · rename_i b r _
        split
        · simpa [Journal.fail] using hs
        · rename_i a next rest ha
          -- the key read next is new, so that it may join those seen before
          have hnew := key_of_readAttribute ha
          have hgrown : ((seen ++ [(a.key, position + (skipBlanks bs).1)]).map Prod.fst).Nodup := by
            rw [List.map_append]
            simpa using List.Nodup.concat hnew hs
          have hrest := @ih next rest (seen ++ [(a.key, position + (skipBlanks bs).1)]) hgrown
          rw [List.map_append, List.append_assoc] at hrest
          exact hrest

theorem nodup_keys (t : Tag) : (t.attributes.notes.map RawAttribute.key).Nodup := by
  have hkeys := @nodup_attributesFrom (t.name.length + t.rest.length) (t.rest.length + 1)
    t.name.length t.rest [] List.nodup_nil
  rwa [List.map_nil, List.nil_append] at hkeys

theorem decode_eq_ok_iff {a : RawAttribute} {p : String × String} :
    a.decode = .ok p ↔ Utf8.decode a.key = .ok p.1 ∧ readValue a.value = .ok p.2 := by
  unfold RawAttribute.decode
  constructor
  · intro h
    obtain ⟨name, hname, h⟩ := bind_eq_ok_iff.1 h
    obtain ⟨value, hvalue, h⟩ := bind_eq_ok_iff.1 h
    cases h
    exact ⟨mapError_eq_ok_iff.1 hname, mapError_eq_ok_iff.1 hvalue⟩
  · rintro ⟨hname, hvalue⟩
    exact bind_eq_ok_iff.2 ⟨p.1, mapError_eq_ok_iff.2 hname,
      bind_eq_ok_iff.2 ⟨p.2, mapError_eq_ok_iff.2 hvalue, rfl⟩⟩

/-- The attributes of a tag that can be decoded, by name as written. -/
def Tag.written (t : Tag) : OrderedMap String String where
  entries := t.attributes.notes.filterMap fun a => a.decode.toOption
  distinct := by
    rw [List.Nodup, List.pairwise_map, List.pairwise_filterMap]
    refine (List.pairwise_map.1 (nodup_keys t)).imp ?_
    intro a b hkeys p hp q hq hnames
    have hp := (decode_eq_ok_iff.1 (toOption_eq_some_iff.1 hp)).1
    have hq := (decode_eq_ok_iff.1 (toOption_eq_some_iff.1 hq)).1
    exact hkeys (Utf8.decode_injective hp (hnames ▸ hq))

end Keys

section Declarations

/-- Whether an attribute of this name declares a namespace. -/
def declaresNamespace (name : String) : Bool :=
  name == "xmlns" || "xmlns:".toList.isPrefixOf name.toList

theorem eq_of_cut {α : Type} {p : α → Bool} {l front back : List α}
    (h : Text.cut p l = some (front, back)) : ∃ a, p a = true ∧ l = front ++ a :: back := by
  induction l generalizing front with
  | nil => cases h
  | cons a r ih =>
      rw [Text.cut] at h
      split at h
      · rename_i ha
        cases h
        exact ⟨a, ha, rfl⟩
      · obtain ⟨⟨front', back'⟩, hc, heq⟩ := Option.map_eq_some_iff.1 h
        cases heq
        obtain ⟨b, hb, rfl⟩ := ih hc
        exact ⟨b, hb, rfl⟩

/-- A text with a colon is made of its parts. -/
theorem eq_of_splitColon {s label rest : String} (h : Name.splitColon s = some (label, rest)) :
    s = label ++ ":" ++ rest := by
  obtain ⟨⟨front, back⟩, hcut, heq⟩ := Option.map_eq_some_iff.1 h
  obtain ⟨c, hc, hs⟩ := eq_of_cut hcut
  cases heq
  rw [beq_iff_eq.1 hc] at hs
  rw [← String.toList_inj]
  simp [hs]

/-- What an attribute declares is told by its name. -/
theorem ofAttribute_cases (name value : String) :
    (name = "xmlns" ∧ Declaration.ofAttribute name value = .fallback value) ∨
      (∃ label, name = "xmlns:" ++ label ∧
        Declaration.ofAttribute name value = .label label value) ∨
      (declaresNamespace name = false ∧
        Declaration.ofAttribute name value = .plain name value) := by
  by_cases hdefault : name = "xmlns"
  · exact .inl ⟨hdefault, by rw [Declaration.ofAttribute, if_pos hdefault]⟩
  by_cases hlabel : ∃ label, name = "xmlns:" ++ label
  · obtain ⟨label, rfl⟩ := hlabel
    exact .inr (.inl ⟨label, rfl, ofAttribute_xmlns label value⟩)
  · refine .inr (.inr ⟨?_, ?_⟩)
    · have hprefix : ¬ "xmlns:".toList <+: name.toList := by
        rintro ⟨rest, hrest⟩
        refine hlabel ⟨String.ofList rest, ?_⟩
        rw [← String.toList_inj]
        simpa using hrest.symm
      rw [declaresNamespace, Bool.or_eq_false_iff]
      exact ⟨by simpa using hdefault,
        Bool.eq_false_iff.2 fun h => hprefix (List.isPrefixOf_iff_prefix.1 h)⟩
    · rw [Declaration.ofAttribute, if_neg hdefault]
      split
      · rename_i declared hsplit
        exact absurd ⟨declared, eq_of_splitColon hsplit⟩ hlabel
      · rfl

theorem declaresNamespace_xmlns (label : String) :
    declaresNamespace ("xmlns:" ++ label) = true := by
  rw [declaresNamespace, Bool.or_eq_true, String.toList_append]
  exact .inr (List.isPrefixOf_iff_prefix.2 (List.prefix_append _ _))

theorem xmlns_append_inj {label label' : String} (h : "xmlns:" ++ label = "xmlns:" ++ label') :
    label = label' := by
  have hlist := congrArg String.toList h
  rw [String.toList_append, String.toList_append] at hlist
  exact String.toList_inj.1 (List.append_cancel_left hlist)

/-- A start tag with some attributes added, given by name and value. -/
def StartTag.declareAll (s : StartTag) (ps : List (String × String)) : StartTag :=
  ps.foldl (fun s p => s.push (Declaration.ofAttribute p.1 p.2)) s

variable {s s' : StartTag} {ps : List (String × String)}

theorem rawName_declareAll (s : StartTag) (ps : List (String × String)) :
    (s.declareAll ps).rawName = s.rawName := by
  induction ps generalizing s with
  | nil => rfl
  | cons p ps ih =>
      refine (ih _).trans ?_
      show (s.push (Declaration.ofAttribute p.1 p.2)).rawName = s.rawName
      cases Declaration.ofAttribute p.1 p.2 <;> rfl

/-- The attributes that declare no namespace are kept in order. -/
theorem attributes_declareAll (s : StartTag) (ps : List (String × String)) :
    (s.declareAll ps).attributes =
      s.attributes ++ ps.filter fun p => !declaresNamespace p.1 := by
  induction ps generalizing s with
  | nil => simp [StartTag.declareAll]
  | cons p ps ih =>
      obtain ⟨name, value⟩ := p
      refine (ih _).trans ?_
      simp only
      rcases ofAttribute_cases name value with ⟨rfl, heq⟩ | ⟨label, rfl, heq⟩ | ⟨hplain, heq⟩
      · rw [heq, List.filter_cons_of_neg (by simp [declaresNamespace])]
        rfl
      · rw [heq, List.filter_cons_of_neg (by simp [declaresNamespace_xmlns])]
        rfl
      · rw [heq, List.filter_cons_of_pos (by simp [hplain])]
        simp [StartTag.push]

/-- A label is bound by the last attribute that declares it. -/
theorem get?_labels_declareAll (s : StartTag) (ps : List (String × String)) (label : String) :
    (s.declareAll ps).own.labels.get? label =
      ((ps.reverse.find? fun p => p.1 = "xmlns:" ++ label).map Prod.snd).or
        (s.own.labels.get? label) := by
  induction ps generalizing s with
  | nil => simp [StartTag.declareAll]
  | cons p ps ih =>
      obtain ⟨name, value⟩ := p
      refine (ih _).trans ?_
      rw [List.reverse_cons, List.find?_append]
      simp only
      rcases ofAttribute_cases name value with ⟨rfl, heq⟩ | ⟨declared, rfl, heq⟩ | ⟨hplain, heq⟩
      · have hne : ¬ "xmlns" = "xmlns:" ++ label := by
          intro h
          have := (ofAttribute_xmlns label value).symm.trans (h ▸ heq)
          cases this
        rw [heq]
        simp [StartTag.push, Scope.bindDefault, hne]
      · rw [heq]
        show (Option.map _ _).or ((s.own.labels.insert declared value).get? label) = _
        rw [OrderedMap.get?_insert]
        by_cases hl : declared = label
        · subst hl
          cases ps.reverse.find? (fun p => decide (p.1 = "xmlns:" ++ declared)) <;> simp
        · have hne : ¬ "xmlns:" ++ declared = "xmlns:" ++ label := fun h => hl (xmlns_append_inj h)
          simp [hl, hne]
      · have hne : ¬ name = "xmlns:" ++ label := by
          rintro rfl
          rw [declaresNamespace_xmlns] at hplain
          cases hplain
        rw [heq]
        simp [StartTag.push, hne]

/-- The default namespace is set by the last attribute that declares it. -/
theorem fallback_declareAll (s : StartTag) (ps : List (String × String)) :
    (s.declareAll ps).own.fallback =
      ((ps.reverse.find? fun p => p.1 = "xmlns").map Prod.snd).or s.own.fallback := by
  induction ps generalizing s with
  | nil => simp [StartTag.declareAll]
  | cons p ps ih =>
      obtain ⟨name, value⟩ := p
      refine (ih _).trans ?_
      rw [List.reverse_cons, List.find?_append]
      simp only
      rcases ofAttribute_cases name value with ⟨rfl, heq⟩ | ⟨declared, rfl, heq⟩ | ⟨hplain, heq⟩
      · rw [heq]
        cases ps.reverse.find? (fun p => decide (p.1 = "xmlns")) <;>
          simp [StartTag.push, Scope.bindDefault]
      · have hne : ¬ "xmlns:" ++ declared = "xmlns" := by
          intro h
          have := (ofAttribute_xmlns declared value).symm
          rw [h, Declaration.ofAttribute, if_pos rfl] at this
          cases this
        rw [heq]
        simp [StartTag.push, Scope.bindLabel, hne]
      · have hne : ¬ name = "xmlns" := by
          rintro rfl
          cases hplain
        rw [heq]
        simp [StartTag.push, hne]

end Declarations

section Reading

variable {t t' : Tag} {start : StartTag}

/-- All attributes of a tag are well formed and can be decoded. -/
structure Tag.Legible (t : Tag) : Prop where
  formed : t.attributes.outcome = .ok ()
  decoded : ∀ a ∈ t.attributes.notes, ∃ p, a.decode = .ok p

/-- What the attributes of a tag declare, and those that declare nothing. -/
def Tag.declared (t : Tag) : StartTag := StartTag.declareAll ⟨t.name, [], ∅⟩ t.written.entries

/-- The attributes of a tag that declare no namespace, by name as written. -/
def Tag.plain (t : Tag) : List Attribute :=
  t.written.entries.filter fun p => !declaresNamespace p.1

theorem nodup_plain (t : Tag) : (t.plain.map Prod.fst).Nodup :=
  t.written.distinct.sublist (List.filter_sublist.map Prod.fst)

theorem pushAll_eq_ok_iff {s s' : StartTag} {as : List RawAttribute} :
    s.pushAll as = .ok s' ↔
      (∀ a ∈ as, ∃ p, a.decode = .ok p) ∧
        s' = s.declareAll (as.filterMap fun a => a.decode.toOption) := by
  induction as generalizing s with
  | nil => simp [StartTag.pushAll, StartTag.declareAll, eq_comm]
  | cons a as ih =>
      constructor
      · intro h
        obtain ⟨p, hp, h⟩ := bind_eq_ok_iff.1 h
        obtain ⟨hall, rfl⟩ := ih.1 h
        refine ⟨List.forall_mem_cons.2 ⟨⟨p, hp⟩, hall⟩, ?_⟩
        rw [List.filterMap_cons, toOption_eq_some_iff.2 hp]
        rfl
      · rintro ⟨hall, rfl⟩
        obtain ⟨⟨p, hp⟩, hrest⟩ := List.forall_mem_cons.1 hall
        refine bind_eq_ok_iff.2 ⟨p, hp, ih.2 ⟨hrest, ?_⟩⟩
        rw [List.filterMap_cons, toOption_eq_some_iff.2 hp]
        rfl

/-- A tag is read if it is legible. -/
theorem read_eq_ok_iff : t.read = .ok start ↔ t.Legible ∧ start = t.declared := by
  constructor
  · intro h
    obtain ⟨start', hpush, h⟩ := bind_eq_ok_iff.1 h
    obtain ⟨hdecoded, rfl⟩ := pushAll_eq_ok_iff.1 hpush
    split at h
    · rename_i hformed
      cases h
      exact ⟨⟨hformed, hdecoded⟩, rfl⟩
    · cases h
  · rintro ⟨⟨hformed, hdecoded⟩, rfl⟩
    refine bind_eq_ok_iff.2 ⟨_, pushAll_eq_ok_iff.2 ⟨hdecoded, rfl⟩, ?_⟩
    rw [hformed]
    rfl

theorem rawName_declared (t : Tag) : t.declared.rawName = t.name := rawName_declareAll _ _

theorem attributes_declared (t : Tag) : t.declared.attributes = t.plain := by
  rw [Tag.declared, attributes_declareAll]
  rfl

/-- A label is bound by the attribute that declares it. -/
theorem get?_labels_declared (t : Tag) (label : String) :
    t.declared.own.labels.get? label = t.written.get? ("xmlns:" ++ label) := by
  rw [Tag.declared, get?_labels_declareAll, OrderedMap.find?_reverse_entries]
  exact Option.or_none

theorem fallback_declared (t : Tag) : t.declared.own.fallback = t.written.get? "xmlns" := by
  rw [Tag.declared, fallback_declareAll, OrderedMap.find?_reverse_entries]
  exact Option.or_none

/-- The same tag with its attributes in another order. -/
structure Tag.Reordered (t t' : Tag) : Prop where
  name : t'.name = t.name
  formed : t'.attributes.outcome = .ok ()
  attributes : t'.attributes.notes.Perm t.attributes.notes

theorem Tag.Reordered.legible (h : t.Reordered t') (ht : t.Legible) : t'.Legible where
  formed := h.formed
  decoded a ha := ht.decoded a (h.attributes.mem_iff.1 ha)

theorem Tag.Reordered.get?_written (h : t.Reordered t') (name : String) :
    t'.written.get? name = t.written.get? name :=
  OrderedMap.get?_of_perm (h.attributes.filterMap _) name

theorem Tag.Reordered.plain_perm (h : t.Reordered t') : t'.plain.Perm t.plain :=
  (h.attributes.filterMap _).filter _

end Reading

end Markup
end SchemaSet
