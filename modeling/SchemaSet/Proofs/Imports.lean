import SchemaSet.Proofs.Compiled
import SchemaSet.Rule

/-!
# What imported documents declare

The document that an import finds is opened in the namespace of the import.  The namespace that it
declares is compared with that one when it is opened; a document that is open in that namespace
already is passed over.

So in a set that compiles, the document declares the namespace of the import, unless it is open in
that namespace because a document there includes it and it declares none itself
(`import_target_declares_iff`).  In that case the import passes, though without the include it would
be refused.
-/

namespace SchemaSet
namespace Setting

/-- A document that an import finds declares the namespace of the import exactly when it has
not adopted that namespace. -/
theorem import_target_declares_iff {s : Setting} {entry : Path} {c : CompiledSet}
    (h : (s.compile entry).outcome = .ok c) :
    ∀ d ∈ c.documents, ∀ r ∈ d.imports, ∀ t, r.target = some t →
      ∃ root, s.readRoot t = .ok root ∧
        (∃ e ∈ c.documents, e.path = t ∧ e.targetNamespace = r.uri) ∧
        (Schema.declaredNamespace root = r.uri ↔
          ∀ e ∈ c.documents, e.path = t → e.targetNamespace = r.uri → e.chameleon = false) := by
  intro d hd r hr t ht
  obtain ⟨start, es, hc⟩ := compiles h
  -- the target is a document in the namespace of the import
  obtain ⟨e, he, hnode⟩ := List.mem_map.1 (hc.target_mem_nodes hd hr ht)
  obtain ⟨hpath, huri⟩ := SchemaNode.mk.inj hnode
  obtain ⟨_, root, hroot, _⟩ := hc.document he
  have hread : s.readRoot t = .ok root := hpath ▸ hroot.read
  refine ⟨root, hread, ⟨e, he, hpath, huri⟩, ?_⟩
  -- whichever document stands for it, it adopts the namespace unless the root declares it
  have hdeclared : ∀ e' ∈ c.documents, e'.path = t → e'.targetNamespace = r.uri →
      (Schema.declaredNamespace root = r.uri ↔ e'.chameleon = false) := by
    rintro e' he' rfl hu
    obtain ⟨_, root', hroot', hchameleon⟩ := hc.document he'
    cases Except.ok.inj (hread.symm.trans hroot'.read)
    rw [hchameleon, ← hu]
    exact hroot'.declared_eq_iff
  constructor
  · intro hd e' he' hp hu
    exact (hdeclared e' he' hp hu).1 hd
  · intro hall
    exact (hdeclared e he hpath huri).2 (hall e he hpath huri)

theorem sample_import_target_declares :
    (sample.compile (topPath "main")).outcome = .ok sampleSet ∧
      ∀ d ∈ sampleSet.documents, ∀ r ∈ d.imports, ∀ t, r.target = some t →
        ∃ root, sample.readRoot t = .ok root ∧
          (∃ e ∈ sampleSet.documents, e.path = t ∧ e.targetNamespace = r.uri) ∧
          (Schema.declaredNamespace root = r.uri ↔
            ∀ e ∈ sampleSet.documents,
              e.path = t → e.targetNamespace = r.uri → e.chameleon = false) :=
  ⟨sample_compiles, import_target_declares_iff sample_compiles⟩

section Adopted

/-- Three documents: the first imports one that imports the namespace of the first, and the
resolver answers that with the third, which declares no namespace.  The first may include the
third before. -/
def crossed (included : Bool) : Setting where
  files := topFiles
    [("main", schemaOctets "targetNamespace='urn:m'"
        ((if included then ["<include schemaLocation='c'/>"] else []) ++
          ["<import namespace='urn:b' schemaLocation='b'/>"])),
      ("b", schemaOctets "targetNamespace='urn:b'" ["<import namespace='urn:m'/>"]),
      ("c", schemaOctets "" [])]
  resolver := .ofRules [⟨some (some "urn:m"), none, none, some (topPath "c")⟩] Resolution.miss
  options := .standard

/-- What the documents compile to if the first one includes the third. -/
def crossedSet : CompiledSet where
  entry := topPath "main"
  documents :=
    [⟨topPath "main", some "urn:m", false,
        [⟨some "urn:b", some "b", some (topPath "b"), .located⟩], [topPath "c"]⟩,
      ⟨topPath "c", some "urn:m", true, [], []⟩,
      ⟨topPath "b", some "urn:b", false,
        [⟨some "urn:m", none, some (topPath "c"), .resolved⟩], []⟩]
  table := ∅

set_option maxRecDepth 10000 in
/-- An import of a document that declares another namespace passes after an include of that
document, and is refused without it. -/
theorem import_of_adopted_passes :
    (∃ c, ((crossed true).compile (topPath "main")).outcome = .ok c ∧
        ∃ d ∈ c.documents, ∃ r ∈ d.imports, ∃ t, r.target = some t ∧
          ∃ root, (crossed true).readRoot t = .ok root ∧
            Schema.declaredNamespace root ≠ r.uri) ∧
      ((crossed false).compile (topPath "main")).outcome =
        .error (.consistency ⟨.namespaceMismatch none (some "urn:m"), some (topPath "c")⟩) := by
  constructor
  · have hcompiles : ((crossed true).compile (topPath "main")).outcome = .ok crossedSet := by
      decide +kernel
    have hread : ((crossed true).readRoot (topPath "c")).toOption.map Schema.declaredNamespace =
        some none := by
      decide +kernel
    cases hroot : (crossed true).readRoot (topPath "c") with
    | error e => simp [hroot, Except.toOption] at hread
    | ok root =>
        have hnone : Schema.declaredNamespace root = none := by
          simpa [hroot, Except.toOption] using hread
        exact ⟨crossedSet, hcompiles, _, .tail _ (.tail _ (.head _)), _, .head _, _, rfl, root,
          hroot, by simp [hnone]⟩
  · decide +kernel

end Adopted

end Setting
end SchemaSet
