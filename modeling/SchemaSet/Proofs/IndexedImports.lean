import SchemaSet.Proofs.Indexed
import SchemaSet.Proofs.Mismatch

/-!
# Compiling with an index

A compilation may have its requests answered by an index that was built without catalogs and further
identifiers.  An import that the index answers then leads to the path under its namespace, because
that path is canonical (`get?_of_named`).  The document there declares the namespace unless it is
misread.

So a mismatch of namespaces shows a misread document, and what is recorded of an import is what the
index holds (`indexed_imports`).  The last sample is a document that is misread.
-/

namespace SchemaSet

/-- A resolver that looks up a path answers with the path under the key of the request. -/
theorem lookup_of_resolved {lookup : String → Option Path} {r : Request} {e : ResolvedEntity}
    (h : Resolver.ofLookup lookup r = .resolved e) :
    ∃ k, r.key = some k ∧ lookup k.text = some e.systemId := by
  unfold Resolver.ofLookup at h
  split at h
  · cases h
  · rename_i k hk
    split at h
    · rename_i p hp
      cases h
      exact ⟨k, hk, hp⟩
    · cases h

/-- The setting in which an index answers the requests. -/
def Index.setting (index : Index) (fs : FileSystem) (options : CompileOptions) : Setting :=
  ⟨fs, index.resolver, options⟩

namespace Setting

theorem key_referenceRequest {base : Path} {uri location : Option String} {k : Key}
    (h : (referenceRequest base uri location).key = some k) :
    uri = some k.text ∧ k.text ≠ "" := by
  have hkey : ((nonEmpty uri).map Key.uri).or none = some k := h
  rw [Option.or_none] at hkey
  obtain ⟨u, hu, rfl⟩ := Option.map_eq_some_iff.1 hkey
  obtain ⟨rfl, hne⟩ := Option.filter_eq_some_iff.1 hu
  refine ⟨rfl, ?_⟩
  rintro rfl
  exact absurd hne (by decide)

theorem named_of_outcome {uri : Option String} {target : Option Path} {named : Bool}
    (h : ImportOutcome.of uri target named = .resolved) :
    named = true ∧ ∃ t, target = some t := by
  unfold ImportOutcome.of at h
  split at h
  · split at h
    · rename_i t hnamed
      exact ⟨hnamed, t, rfl⟩
    · cases h
  · split at h <;> cases h

end Setting

section Imports

variable {plan : IndexPlan} {fs : FileSystem} {index : Index} {options : CompileOptions}

/-- What an index names for an import is what stands under its namespace. -/
theorem get?_of_named (hc : plan.catalogs = []) (hi : plan.publicIds = [])
    (h : (plan.build fs).outcome = .ok index) {base p : Path} {uri location : Option String}
    (hn : (index.setting fs options).isNamed base uri location = true)
    (hf : (index.setting fs options).found? base uri location = some p) :
    ∃ key, key ≠ "" ∧ uri = some key ∧ index.get? key = some p := by
  cases hr : (index.setting fs options).resolver (Setting.referenceRequest base uri location) with
  | skip =>
      rw [Setting.isNamed, hr] at hn
      cases hn
  | unresolved _ =>
      rw [Setting.isNamed, hr] at hn
      cases hn
  | resolved e =>
      rw [Setting.found?, hr] at hf
      have hcanonical : fs.canonicalize e.systemId = .ok p := toOption_eq_some_iff.1 hf
      obtain ⟨k, hk, hget⟩ := lookup_of_resolved hr
      obtain ⟨huri, hne⟩ := Setting.key_referenceRequest hk
      obtain ⟨q, _, hq, _⟩ := IndexPlan.scanned_of_get? hc hi h hget
      refine ⟨k.text, hne, huri, ?_⟩
      -- the compiler canonicalizes what the index names, which is canonical already
      rw [FileSystem.canonicalize_idem hq hcanonical]
      exact hget

/-- What an index names for an import declares its namespace, unless it is misread. -/
theorem declared_of_named (hc : plan.catalogs = []) (hi : plan.publicIds = [])
    (hb : plan.NoEmptyLabels fs) (h : (plan.build fs).outcome = .ok index) {base p : Path}
    {uri location : Option String} {root : Markup.Element}
    (hn : (index.setting fs options).isNamed base uri location = true)
    (hf : (index.setting fs options).found? base uri location = some p)
    (hroot : (index.setting fs options).readRoot p = .ok root) :
    Schema.declaredNamespace root = uri ∨ plan.Misreads fs p := by
  obtain ⟨key, hne, rfl, hget⟩ := get?_of_named hc hi h hn hf
  obtain ⟨bs, hentry, hread⟩ := Setting.content_of_readRoot hroot
  exact IndexPlan.declared_of_get? hc hi hb h hne hget hentry hread

/-- In a compilation that an index serves, a mismatch of namespaces shows a document that the
index has misread, and every import that the index answers leads to what stands there under its
namespace and declares it, unless it is misread. -/
theorem indexed_imports (hc : plan.catalogs = []) (hi : plan.publicIds = [])
    (hb : plan.NoEmptyLabels fs) (h : (plan.build fs).outcome = .ok index)
    (options : CompileOptions) (entry : Path) :
    (∀ v, ((index.setting fs options).compile entry).outcome = .error (.consistency v) →
        v.inconsistency.kind = .namespaceMismatch →
          ∃ p, v.document = some p ∧ plan.Misreads fs p) ∧
      ∀ c, ((index.setting fs options).compile entry).outcome = .ok c →
        ∀ d ∈ c.documents, ∀ r ∈ d.imports, r.outcome = .resolved →
          ∃ key p root, r.uri = some key ∧ r.target = some p ∧ index.get? key = some p ∧
            (index.setting fs options).readRoot p = .ok root ∧
            (Schema.declaredNamespace root = some key ∨ plan.Misreads fs p) := by
  constructor
  · intro v hv hkind
    obtain ⟨declared, uri, p, rfl, hmismatch⟩ :=
      Setting.compile_mismatch _ entry _ hv v (if_pos hkind)
    obtain ⟨base, location, hn, hf⟩ := hmismatch.named
    obtain ⟨root, hroot, rfl⟩ := hmismatch.read
    refine ⟨p, rfl, ?_⟩
    rcases declared_of_named hc hi hb h hn hf hroot with hd | hmisread
    · exact absurd hd hmismatch.differs
    · exact hmisread
  · intro c hcompile d hd r hr houtcome
    obtain ⟨start, es, hcompiles⟩ := Setting.compiles hcompile
    obtain ⟨_, root', hroot', _⟩ := hcompiles.document hd
    obtain ⟨uri, location, _, rfl⟩ := hcompiles.imported hd hroot'.read hr
    obtain ⟨hn, p, hf⟩ := Setting.named_of_outcome houtcome
    obtain ⟨root, hroot⟩ := hcompiles.admitted _ (hcompiles.target_mem_nodes hd hr hf)
    obtain ⟨key, _, huri, hget⟩ := get?_of_named hc hi h hn hf
    refine ⟨key, p, root, huri, hf, hget, hroot.read, ?_⟩
    rw [← huri]
    exact declared_of_named hc hi hb h hn hf hroot.read

end Imports

section Shelf

/-- Two files at the top: a schema that imports a namespace, and a document to be indexed. -/
def shelf (uri : String) (document : Bytes) : FileSystem :=
  topFiles
    [("main", schemaOctets "targetNamespace='urn:m'" ["<import namespace='", uri, "'/>"]),
      ("b.xsd", document)]

/-- The plan for the documents at the top. -/
def shelfPlan : IndexPlan := .ofDirectory (Path.ofNames [])

/-- The index with that document under a namespace. -/
def shelfIndex (uri : String) : Index :=
  ⟨Path.ofNames [], .ofList [(uri, ⟨topPath "b.xsd", .document⟩)]⟩

theorem noEmptyLabels_of_unlabelled {plan : IndexPlan} {fs : FileSystem}
    (h : ∀ labels ∈ (plan.roots fs).map fun e => e.scope.labels, labels = ∅) :
    plan.NoEmptyLabels fs := by
  intro root hroot label
  rw [h _ (List.mem_map_of_mem hroot)]
  intro hlabel
  cases hlabel

section Plain

/-- An empty schema. -/
def plain : Bytes := schemaOctets "targetNamespace='urn:b'" []

set_option maxRecDepth 10000 in
theorem plain_built : (shelfPlan.build (shelf "urn:b" plain)).outcome = .ok (shelfIndex "urn:b") := by
  rw [← toOption_eq_some_iff]
  decide +kernel

set_option maxRecDepth 10000 in
theorem plain_noEmptyLabels : shelfPlan.NoEmptyLabels (shelf "urn:b" plain) := by
  refine noEmptyLabels_of_unlabelled ?_
  decide +kernel

theorem shelf_imports :
    shelfPlan.NoEmptyLabels (shelf "urn:b" plain) ∧
      (shelfPlan.build (shelf "urn:b" plain)).outcome = .ok (shelfIndex "urn:b") ∧
      (∀ v, (((shelfIndex "urn:b").setting (shelf "urn:b" plain) .standard).compile
            (topPath "main")).outcome = .error (.consistency v) →
          v.inconsistency.kind = .namespaceMismatch →
            ∃ p, v.document = some p ∧ shelfPlan.Misreads (shelf "urn:b" plain) p) ∧
        ∀ c, (((shelfIndex "urn:b").setting (shelf "urn:b" plain) .standard).compile
            (topPath "main")).outcome = .ok c →
          ∀ d ∈ c.documents, ∀ r ∈ d.imports, r.outcome = .resolved →
            ∃ key p root, r.uri = some key ∧ r.target = some p ∧
              (shelfIndex "urn:b").get? key = some p ∧
              ((shelfIndex "urn:b").setting (shelf "urn:b" plain) .standard).readRoot p =
                .ok root ∧
              (Schema.declaredNamespace root = some key ∨
                shelfPlan.Misreads (shelf "urn:b" plain) p) :=
  ⟨plain_noEmptyLabels, plain_built,
    indexed_imports rfl rfl plain_noEmptyLabels plain_built .standard (topPath "main")⟩

end Plain

section Covered

/-- A schema after a document type declaration of an entity.  The quoted value of the entity holds
a start tag that the declaration seems to end before: the `>` ahead of that tag is the first octet
of the second block. -/
def covered : Bytes :=
  let front := Utf8.encode "<!DOCTYPE x [<!ENTITY a \""
  front ++ (List.replicate (Markup.RootScan.blockLength - front.length) 0x20 ++
    (Utf8.encode
      "><schema xmlns='http://www.w3.org/2001/XMLSchema' targetNamespace='urn:a'><\">]>" ++ plain))

set_option maxRecDepth 10000 in
/-- A document can be misread: the index holds it under the namespace of a tag inside its document
type declaration, and an import that leads there is refused. -/
theorem index_misleads :
    ∃ (plan : IndexPlan) (fs : FileSystem) (index : Index) (options : CompileOptions)
      (entry : Path) (v : Violation),
      plan.catalogs = [] ∧ plan.publicIds = [] ∧ plan.NoEmptyLabels fs ∧
        (plan.build fs).outcome = .ok index ∧
        ((index.setting fs options).compile entry).outcome = .error (.consistency v) ∧
        v.inconsistency.kind = .namespaceMismatch := by
  refine ⟨shelfPlan, shelf "urn:a" covered, shelfIndex "urn:a", .standard, topPath "main",
    ⟨.namespaceMismatch (some "urn:b") (some "urn:a"), some (topPath "b.xsd")⟩,
    rfl, rfl, ?_, ?_, ?_, rfl⟩
  · refine noEmptyLabels_of_unlabelled ?_
    decide +kernel
  · rw [← toOption_eq_some_iff]
    decide +kernel
  · decide +kernel

end Covered

end Shelf
end SchemaSet
