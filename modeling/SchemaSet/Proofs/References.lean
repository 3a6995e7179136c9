import SchemaSet.Proofs.Compiled

/-!
# References land

`Schema.Holds` says that an element stands somewhere below some others, and that neither it nor
anything on the way to it is an annotation or an element of another language.  These are the
elements that may refer to components, and exactly these are searched for references
(`mem_referring_iff`).

In a set that compiles, every name in every such element of every document resolves, to a built-in
component or to one of the set (`references_closed`).
-/

namespace SchemaSet

open Markup

namespace Schema

/-- An element of the schema language that is no annotation. -/
def Refers (e : Element) : Prop := e.isXsd = true ∧ e.name.localName ≠ "annotation"

/-- Some elements hold an element at some depth, with all elements on the way to it and itself
free to refer. -/
inductive Holds : List Element → Element → Prop
  | here {l : List Element} {e : Element} :
      e ∈ l → Refers e → Holds l e
  | inside {l : List Element} {e f : Element} :
      e ∈ l → Refers e → Holds e.children f → Holds l f

section Holds

theorem isPassedOver_eq_false_iff (e : Element) : isPassedOver e = false ↔ Refers e := by
  simp [isPassedOver, Refers]

theorem referringOf_of_refers {e : Element} (h : Refers e) :
    referringOf e = e :: referring e.children := by
  obtain ⟨name, attributes, children, scope⟩ := e
  rw [referringOf, (isPassedOver_eq_false_iff _).2 h, if_neg Bool.false_ne_true]

theorem referringOf_of_not_refers {e : Element} (h : ¬ Refers e) : referringOf e = [] := by
  obtain ⟨name, attributes, children, scope⟩ := e
  rw [← isPassedOver_eq_false_iff, Bool.not_eq_false] at h
  rw [referringOf, h, if_pos rfl]

theorem referring_eq_flatMap (l : List Element) : referring l = l.flatMap referringOf := by
  induction l with
  | nil => rfl
  | cons e r ih => rw [referring, List.flatMap_cons, ih]

theorem Holds.mono {l m : List Element} {e : Element} (h : Holds l e) (hs : l ⊆ m) :
    Holds m e := by
  cases h with
  | here he hr => exact .here (hs he) hr
  | inside he hr hf => exact .inside (hs he) hr hf

mutual

theorem holds_of_mem_referringOf : (e : Element) → {f : Element} → f ∈ referringOf e →
    Holds [e] f
  | ⟨name, attributes, children, scope⟩, f, h => by
      by_cases hr : Refers ⟨name, attributes, children, scope⟩
      · rw [referringOf_of_refers hr] at h
        rcases List.mem_cons.1 h with rfl | h
        · exact .here List.mem_cons_self hr
        · exact .inside List.mem_cons_self hr (holds_of_mem_referring children h)
      · rw [referringOf_of_not_refers hr] at h
        exact absurd h List.not_mem_nil

theorem holds_of_mem_referring : (l : List Element) → {f : Element} → f ∈ referring l →
    Holds l f
  | [], _, h => absurd h List.not_mem_nil
  | e :: r, f, h => by
      rcases List.mem_append.1 h with h | h
      · exact (holds_of_mem_referringOf e h).mono (by simp)
      · exact (holds_of_mem_referring r h).mono (by simp)

end

theorem mem_referring_of_holds {l : List Element} {f : Element} (h : Holds l f) :
    f ∈ referring l := by
  induction h with
  | here he hr =>
      rw [referring_eq_flatMap]
      exact List.mem_flatMap.2 ⟨_, he, referringOf_of_refers hr ▸ List.mem_cons_self⟩
  | inside he hr _ ih =>
      rw [referring_eq_flatMap]
      exact List.mem_flatMap.2
        ⟨_, he, referringOf_of_refers hr ▸ List.mem_cons_of_mem _ ih⟩

/-- Exactly the elements that are held are searched for references. -/
theorem mem_referring_iff (l : List Element) (f : Element) : f ∈ referring l ↔ Holds l f :=
  ⟨holds_of_mem_referring l, mem_referring_of_holds⟩

end Holds

section Tokens

variable {e : Element} {row : ReferenceRow} {value text : String}

/-- The names that a row finds in an element are tokens of the element. -/
theorem mem_tokensOf (hrow : row ∈ referenceRows) (howner : e.name.localName = row.owner)
    (hvalue : e.attribute? row.key = some value) (htext : text ∈ Text.blankWords value) :
    (⟨row.space, row.key, value, text, e.scope⟩ : Token) ∈ tokensOf e := by
  refine List.mem_flatMap.2 ⟨row, hrow, ?_⟩
  rw [tokensOfRow, if_pos howner, hvalue]
  exact List.mem_map.2 ⟨text, htext, rfl⟩

/-- A name makes a reference exactly when it is a qualified name with a bound label. -/
theorem resolve_eq_ok_iff {t : Token} {document : Path} {adopted : Option String}
    {r : Reference} :
    t.resolve document adopted = .ok r ↔
      Name.isQualified t.text = true ∧
        ∃ name, t.scope.resolve t.text = .ok name ∧
          r = ⟨t.space, { name with uri := name.uri.or adopted }, document⟩ := by
  unfold Token.resolve
  rw [bind_eq_ok_iff]
  constructor
  · rintro ⟨_, hq, h⟩
    obtain ⟨name, hn, hr⟩ := bind_eq_ok_iff.1 h
    exact ⟨(Name.validateQualified_ok_iff _).1 (mapError_eq_ok_iff.1 hq), name,
      mapError_eq_ok_iff.1 hn, (Except.ok.inj hr).symm⟩
  · rintro ⟨hq, name, hn, rfl⟩
    refine ⟨(), mapError_eq_ok_iff.2 ((Name.validateQualified_ok_iff _).2 hq), ?_⟩
    exact bind_eq_ok_iff.2 ⟨name, mapError_eq_ok_iff.2 hn, rfl⟩

end Tokens

end Schema

/-- A name of a document as the schema set has it: in a document that adopts its namespace, the
names without one are in the adopted namespace. -/
def SchemaDocument.adopt (d : SchemaDocument) (name : QName) : QName :=
  if d.chameleon && name.uri.isNone then { name with uri := d.targetNamespace } else name

/-- The schema set has a component of a name, or the name needs none. -/
def CompiledSet.Knows (c : CompiledSet) (space : SymbolSpace) (name : QName) : Prop :=
  name.uri = some Vocabulary.xsd ∨ name.uri = some Vocabulary.xml ∨
    ∃ component, c.component? space name = some component

/-- The label of a name is bound in a scope, if the name has one. -/
def Scope.Binds (scope : Scope) (name : String) : Prop :=
  ∀ label rest, Name.splitColon name = some (label, rest) → (scope.lookup label).isSome

/-- A name in an attribute of an element of a document, which refers to a component in some
symbol space, lands: it is a qualified name, its label is bound at the element, and the set
knows what it stands for in the document. -/
def CompiledSet.Closes (c : CompiledSet) (d : SchemaDocument) (space : SymbolSpace)
    (scope : Scope) (name : String) : Prop :=
  Name.isQualified name = true ∧ scope.Binds name ∧
    ∃ q, scope.resolve name = .ok q ∧ c.Knows space (d.adopt q)

theorem knows_of_lands {c : CompiledSet} {r : Schema.Reference}
    (h : Setting.lands c.table r = true) :
    c.Knows r.space r.name := by
  simp only [Setting.lands, Schema.isBuiltIn, QName.isXsd, Bool.or_eq_true, beq_iff_eq] at h
  rcases h with (h | h) | h
  · exact .inl h
  · exact .inr (.inl h)
  · exact .inr (.inr (Option.isSome_iff_exists.1 h))

theorem adopt_eq {d : SchemaDocument} {root : Element}
    (h : d.chameleon = Schema.adopts root d.targetNamespace) (name : QName) :
    d.adopt name =
      { name with uri := name.uri.or (Schema.adopted root d.targetNamespace) } := by
  obtain ⟨uri, localName⟩ := name
  rw [SchemaDocument.adopt, Schema.adopted, h]
  cases Schema.adopts root d.targetNamespace with
  | false => simp
  | true => cases uri <;> simp

namespace Setting

/-- A name in a document of a set that compiles resolves to what the set knows. -/
theorem Compiles.knows_of_mem_tokens {s : Setting} {entry : Path} {c : CompiledSet}
    {start n : SchemaNode} {es : List Step} (h : s.Compiles entry c start es) (hn : n ∈ c.nodes)
    {root : Element} (hroot : s.readRoot n.path = .ok root) {t : Schema.Token}
    (ht : t ∈ Schema.tokens root) :
    Name.isQualified t.text = true ∧ ∃ q, t.scope.resolve t.text = .ok q ∧
      c.Knows t.space { q with uri := q.uri.or (Schema.adopted root n.uri) } := by
  obtain ⟨root', hadmits⟩ := h.admitted n hn
  cases hadmits.read.symm.trans hroot
  obtain ⟨r, hr⟩ := hadmits.tokens t ht
  -- the reference was noted when the document was opened
  have hnoted : Step.referred r ∈ es := by
    refine h.mem_events hn hroot (report_mem_rootTasks_iff.2 (.inr (.inr ⟨r, ?_, rfl⟩)))
    exact List.mem_filterMap.2 ⟨t, ht, by rw [hr]; rfl⟩
  have hlands := knows_of_lands (h.lands r (mem_referencesOf_iff.2 hnoted))
  obtain ⟨hqualified, q, hq, rfl⟩ := Schema.resolve_eq_ok_iff.1 hr
  exact ⟨hqualified, q, hq, hlands⟩

/-- Every reference of every document lands, whatever was opened before the document and
whatever was redefined after it. -/
theorem references_closed {s : Setting} {entry : Path} {c : CompiledSet}
    (h : (s.compile entry).outcome = .ok c) :
    ∀ d ∈ c.documents, ∃ root, s.readRoot d.path = .ok root ∧
      ∀ e, Schema.Holds root.children e →
        ∀ row ∈ Schema.referenceRows, e.name.localName = row.owner →
          ∀ value, e.attribute? row.key = some value →
            ∀ name ∈ Text.blankWords value, c.Closes d row.space e.scope name := by
  intro d hd
  obtain ⟨start, es, hc⟩ := compiles h
  obtain ⟨hn, root, hadmits, hchameleon⟩ := hc.document hd
  refine ⟨root, hadmits.read, ?_⟩
  intro e he row hrow howner value hvalue text htext
  have ht : (⟨row.space, row.key, value, text, e.scope⟩ : Schema.Token) ∈ Schema.tokens root :=
    List.mem_flatMap.2
      ⟨e, (Schema.mem_referring_iff _ e).2 he, Schema.mem_tokensOf hrow howner hvalue htext⟩
  obtain ⟨hqualified, q, hq, hknows⟩ := hc.knows_of_mem_tokens hn hadmits.read ht
  exact ⟨hqualified, (e.scope.resolve_ok_iff text).1 ⟨q, hq⟩, q, hq,
    adopt_eq hchameleon q ▸ hknows⟩

theorem sample_references_closed :
    (sample.compile (topPath "main")).outcome = .ok sampleSet ∧
      ∀ d ∈ sampleSet.documents, ∃ root, sample.readRoot d.path = .ok root ∧
        ∀ e, Schema.Holds root.children e →
          ∀ row ∈ Schema.referenceRows, e.name.localName = row.owner →
            ∀ value, e.attribute? row.key = some value →
              ∀ name ∈ Text.blankWords value, sampleSet.Closes d row.space e.scope name :=
  ⟨sample_compiles, references_closed sample_compiles⟩

end Setting
end SchemaSet
