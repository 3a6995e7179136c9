import SchemaSet.Proofs.Records
import SchemaSet.Proofs.Redefinition

/-!
# Where the namespaces of a schema set come from

In a set that compiles, a document whose root declares a namespace takes part in that one alone, and
is opened once (`Compiles.count_path`, `Compiles.takesPart`).  Any other takes part in none, or in
that of a document that includes it (`Compiles.adopts`).

A document is opened by one that was opened before.  If both take part in one namespace, the older
one includes the younger, since no document may import its own namespace (`Compiles.handed`).  This
is the step of the induction by which every namespace is handed on, include by include, from a
document that declares it (`Compiles.origin`).  `namespaces_founded` says both together, and that no
namespace is the empty string.
-/

namespace SchemaSet

/-- What holds of an element of a list once it holds of those before it holds of all. -/
theorem forall_mem_of_front {α : Type} {P : α → Prop} {l : List α}
    (h : ∀ front a back, l = front ++ a :: back → (∀ b ∈ front, P b) → P a) :
    ∀ a ∈ l, P a := by
  have hfront : ∀ front back, l = front ++ back → ∀ a ∈ front, P a := by
    intro front
    induction front using List.reverseRecOn with
    | nil => exact fun _ _ a ha => absurd ha List.not_mem_nil
    | append_singleton front a ih =>
        intro back hl b hb
        rw [List.append_assoc, List.singleton_append] at hl
        have hbefore := ih (a :: back) hl
        rcases List.mem_append.1 hb with hb | hb
        · exact hbefore b hb
        · exact List.mem_singleton.1 hb ▸ h front a back hl hbefore
  exact hfront l [] (List.append_nil l).symm

/-- A document of a set hands its namespace on to one that it includes and that is opened later. -/
structure CompiledSet.HandsOn (c : CompiledSet) (d e : SchemaDocument) : Prop where
  later : ∃ front back, c.documents = front ++ e :: back ∧ d ∈ front
  includes : e.path ∈ d.includes
  same : e.targetNamespace = d.targetNamespace

namespace Setting

/-- The root of the document at a path declares a namespace that is not empty. -/
def DeclaresAt (s : Setting) (p : Path) (uri : String) : Prop :=
  ∃ root, s.readRoot p = .ok root ∧ root.attribute? "targetNamespace" = some uri ∧ uri ≠ ""

/-- A document takes part in the namespace of one that includes it, and in the end of one that
declares it. -/
structure Adopts (s : Setting) (c : CompiledSet) (d : SchemaDocument) (uri : String) : Prop where
  chameleon : d.chameleon = true
  takesPart : d.targetNamespace = some uri
  nonempty : uri ≠ ""
  includer : ∃ e ∈ c.documents, e.targetNamespace = some uri ∧ d.path ∈ e.includes
  origin : ∃ e ∈ c.documents, s.DeclaresAt e.path uri ∧ Relation.TransGen c.HandsOn e d

/-- The namespaces in a set are well founded. -/
structure Founded (s : Setting) (c : CompiledSet) : Prop where
  /-- What the root declares counts, and such a document is opened once. -/
  declared : ∀ d ∈ c.documents, ∀ uri, s.DeclaresAt d.path uri →
    d.targetNamespace = some uri ∧ d.chameleon = false ∧
      (c.documents.map SchemaDocument.path).count d.path = 1
  /-- Any other document takes part in no namespace or adopts one. -/
  undeclared : ∀ d ∈ c.documents, (∀ uri, ¬ s.DeclaresAt d.path uri) →
    (d.targetNamespace = none ∧ d.chameleon = false) ∨ ∃ uri, s.Adopts c d uri
  /-- No namespace is empty. -/
  documents : ∀ d ∈ c.documents, d.targetNamespace ≠ some ""
  imports : ∀ d ∈ c.documents, ∀ r ∈ d.imports, r.uri ≠ some ""
  components : ∀ x ∈ c.components, x.name.uri ≠ some ""

section Founding

variable {s : Setting} {entry : Path} {c : CompiledSet} {start : SchemaNode} {es : List Step}

theorem declaresAt_iff {p : Path} {root : Markup.Element} (hroot : s.readRoot p = .ok root)
    {uri : String} : s.DeclaresAt p uri ↔ Schema.declaredNamespace root = some uri := by
  unfold DeclaresAt Schema.declaredNamespace nonEmpty
  rw [Option.filter_eq_some_iff]
  constructor
  · rintro ⟨root', hroot', ha, hne⟩
    cases Except.ok.inj (hroot.symm.trans hroot')
    exact ⟨ha, by simpa using hne⟩
  · rintro ⟨ha, hne⟩
    exact ⟨root, hroot, ha, by simpa using hne⟩

/-- A document that was opened by another one of its namespace is included there, unless its
root declares the namespace. -/
theorem Compiles.handed (h : s.Compiles entry c start es) {front back : List SchemaDocument}
    {d : SchemaDocument} (hd : c.documents = front ++ d :: back) :
    (∃ root, s.readRoot d.path = .ok root ∧
        Schema.declaredNamespace root = d.targetNamespace) ∨
      ∃ e ∈ front, c.HandsOn e d := by
  have hmem : d ∈ c.documents := by simp [hd]
  have hnodes : c.nodes =
      front.map SchemaDocument.node ++ d.node :: back.map SchemaDocument.node := by
    rw [CompiledSet.nodes, hd, List.map_append, List.map_cons]
  by_cases hstart : d.node = start
  · left
    obtain ⟨root, hroot, hdeclared⟩ := h.declared
    rw [← hstart] at hroot hdeclared
    exact ⟨root, hroot, hdeclared⟩
  obtain ⟨front', back', hnodes', m, hm, _, hleads, henters⟩ :=
    h.descent.entered_from (by simp) (List.Subset.refl _) (List.mem_map_of_mem hmem)
      (by simpa using hstart)
  -- no node is opened twice, so the two cuts of the list are the same
  have honce : c.nodes.Nodup := h.order.nodup List.nodup_nil
  have hfront : front' = front.map SchemaDocument.node := by
    rw [hnodes'] at honce hnodes
    have hnotin := (List.nodup_cons.1 (List.nodup_middle.1 honce)).1
    rw [List.mem_append, not_or] at hnotin
    exact ((List.append_cons_inj_of_notMem hnotin.1 hnotin.2).1 hnodes).1
  rw [hfront] at hm
  obtain ⟨e, he, rfl⟩ := List.mem_map.1 hm
  rcases henters.declared with hsame | hdeclared
  · right
    have hein : e ∈ c.documents := by simp [hd, he]
    obtain ⟨_, root, hadmits, _⟩ := h.document hein
    obtain ⟨i, hi, hlead⟩ := (mem_agenda_enter_iff hadmits.read _).1 hleads
    obtain ⟨uri, location, hinquiry, _, huri⟩ := leadsTo_eq_some_iff.1 hlead
    have hinclusion : i.isInclusion = true := by
      cases i with
      | importing uri' location' =>
          cases hinquiry
          -- an import of the namespace of its own document is refused
          exact absurd (huri.symm.trans hsame) (hadmits.items _ hi)
      | declaring _ => cases hinquiry
      | _ => rfl
    refine ⟨e, he, ⟨front, back, hd, he⟩, ?_, hsame⟩
    rw [h.includes_eq hein hadmits.read]
    exact List.mem_filterMap.2 ⟨i, hi, by rw [includedBy, if_pos hinclusion, hlead]; rfl⟩
  · exact .inl hdeclared

/-- Every namespace is handed on from a document that declares it. -/
theorem Compiles.origin (h : s.Compiles entry c start es) :
    ∀ d ∈ c.documents, ∃ e ∈ c.documents,
      (∃ root, s.readRoot e.path = .ok root ∧
        Schema.declaredNamespace root = d.targetNamespace) ∧
      Relation.ReflTransGen c.HandsOn e d := by
  refine forall_mem_of_front fun front d back hd hbefore => ?_
  have hmem : d ∈ c.documents := by simp [hd]
  rcases h.handed hd with hdeclared | ⟨e, he, hhands⟩
  · exact ⟨d, hmem, hdeclared, .refl⟩
  · obtain ⟨o, ho, hdeclares, hpath⟩ := hbefore e he
    rw [← hhands.same] at hdeclares
    exact ⟨o, ho, hdeclares, hpath.tail hhands⟩

/-- A document whose root declares a namespace is opened once. -/
theorem Compiles.count_path (h : s.Compiles entry c start es) {d : SchemaDocument}
    (hd : d ∈ c.documents) {root : Markup.Element} (hroot : s.readRoot d.path = .ok root)
    (hdeclared : (Schema.declaredNamespace root).isSome) :
    (c.documents.map SchemaDocument.path).count d.path = 1 := by
  have honce : c.nodes.Nodup := h.order.nodup List.nodup_nil
  rw [← List.count_eq_one_of_mem honce (List.mem_map_of_mem hd), CompiledSet.nodes, List.count,
    List.count, List.countP_map, List.countP_map]
  -- documents at one path have one root, and so one namespace if that declares any
  have huri : ∀ e ∈ c.documents, e.path = d.path →
      Schema.declaredNamespace root = e.targetNamespace := by
    intro e he hpath
    obtain ⟨_, root', hadmits, _⟩ := h.document he
    have hread : s.readRoot e.path = .ok root' := hadmits.read
    rw [hpath, hroot] at hread
    cases hread
    rcases hadmits.declared with hsome | hnone
    · exact hsome
    · rw [hnone] at hdeclared
      cases hdeclared
  refine List.countP_congr fun e he => ?_
  simp only [Function.comp_apply, beq_iff_eq]
  constructor
  · exact fun hpath => SchemaNode.ext hpath ((huri e he hpath).symm.trans (huri d hd rfl))
  · exact fun hnode => congrArg SchemaNode.path hnode

/-- What the root of a document declares counts. -/
theorem Compiles.takesPart (h : s.Compiles entry c start es) {d : SchemaDocument}
    (hd : d ∈ c.documents) {uri : String} (hdeclares : s.DeclaresAt d.path uri) :
    d.targetNamespace = some uri ∧ d.chameleon = false ∧
      (c.documents.map SchemaDocument.path).count d.path = 1 := by
  obtain ⟨_, root, hadmits, hchameleon⟩ := h.document hd
  have hread : s.readRoot d.path = .ok root := hadmits.read
  rw [declaresAt_iff hread] at hdeclares
  have hpart : Schema.declaredNamespace root = d.targetNamespace := by
    rcases hadmits.declared with hsame | hnone
    · exact hsame
    · rw [hnone] at hdeclares
      cases hdeclares
  refine ⟨hpart.symm.trans hdeclares, ?_, h.count_path hd hread (by rw [hdeclares]; rfl)⟩
  rw [hchameleon, Schema.adopts, hdeclares]
  rfl

/-- A document whose root declares none takes part in none, or adopts one. -/
theorem Compiles.adopts (h : s.Compiles entry c start es) {d : SchemaDocument}
    (hd : d ∈ c.documents) (hsilent : ∀ uri, ¬ s.DeclaresAt d.path uri) :
    (d.targetNamespace = none ∧ d.chameleon = false) ∨ ∃ uri, s.Adopts c d uri := by
  obtain ⟨hn, root, hadmits, hchameleon⟩ := h.document hd
  have hnone : Schema.declaredNamespace root = none := by
    cases hdeclared : Schema.declaredNamespace root with
    | none => rfl
    | some uri => exact absurd ((declaresAt_iff hadmits.read).2 hdeclared) (hsilent uri)
  rw [Schema.adopts, hnone] at hchameleon
  cases hpart : d.targetNamespace with
  | none => exact .inl ⟨rfl, by rw [hchameleon, hpart]; rfl⟩
  | some uri =>
      right
      obtain ⟨o, ho, ⟨root', hroot', hdeclared⟩, hpath⟩ := h.origin d hd
      rw [hpart] at hdeclared
      have hdeclares : s.DeclaresAt o.path uri := (declaresAt_iff hroot').2 hdeclared
      -- the document itself does not declare the namespace, so there is a last step
      rcases Relation.reflTransGen_iff_eq_or_transGen.1 hpath with rfl | hpath
      · exact absurd hdeclares (hsilent uri)
      obtain ⟨e, _, hhands⟩ := Relation.TransGen.tail'_iff.1 hpath
      obtain ⟨front, back, hcut, he⟩ := hhands.later
      exact ⟨uri,
        { chameleon := by rw [hchameleon, hpart]; rfl
          takesPart := hpart
          nonempty := fun hempty => h.uri_ne hn (hpart.trans (congrArg some hempty))
          includer := ⟨e, by simp [hcut, he], hhands.same.symm.trans hpart, hhands.includes⟩
          origin := ⟨o, ho, hdeclares, hpath⟩ }⟩

/-- The namespaces in a compiled set are well founded: a document takes part in the namespace
that it declares, or in none, or in one that is handed on to it by including documents, the first of
which declares it. -/
theorem namespaces_founded (h : (s.compile entry).outcome = .ok c) :
    s.Founded c := by
  obtain ⟨start, es, hc⟩ := compiles h
  exact
    { declared := fun d hd uri hdeclares => hc.takesPart hd hdeclares
      undeclared := fun d hd hsilent => hc.adopts hd hsilent
      documents := fun d hd => hc.uri_ne (List.mem_map_of_mem hd)
      imports := by
        intro d hd r hr
        obtain ⟨_, root, hadmits, _⟩ := hc.document hd
        obtain ⟨uri, location, hi, rfl⟩ := hc.imported hd hadmits.read hr
        exact uri_of_importing hi
      components := by
        intro x hx
        have hlast := hc.records.latest x hx
        have hdeclared : x ∈ declaredOf es := (List.mem_filter.1 (List.mem_of_getLast? hlast)).1
        obtain ⟨n, _, _, _, name, _, _, _, _, hname, _⟩ :=
          (mem_declaredOf_iff_declares hc x).1 hdeclared
        rw [hname]
        exact QName.uri_of_ne_empty n.uri name }

theorem sample_namespaces_founded :
    (sample.compile (topPath "main")).outcome = .ok sampleSet ∧ sample.Founded sampleSet :=
  ⟨sample_compiles, namespaces_founded sample_compiles⟩

end Founding

end Setting
end SchemaSet
