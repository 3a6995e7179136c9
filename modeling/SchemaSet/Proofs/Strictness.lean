import SchemaSet.Proofs.Completion
import SchemaSet.Proofs.Curtailment
import SchemaSet.Proofs.Records
import SchemaSet.Proofs.Redefinition

/-!
# Strict and lenient compilations

A setting whose imports and includes must be located is compared with the same setting where they
need not be.  Being strict adds two errors and nothing else: one for an import that leads nowhere
though its namespace needs a document, and one for an include or a redefine that leads nowhere.

So a strict compilation and a lenient one have the same outcome unless one of the two errors arises,
and the records of a lenient one tell whether it does (`strict_agrees`).  For includes they tell it
by their number: a document that records as many includes as stand there has found all of them
(`Compiles.leads_of_length`).
-/

namespace SchemaSet

/-- Whether an error says that what an import, an include or a redefine refers to was not found. -/
def Error.isUnlocated : Error → Bool
  | .unresolvedImport _ _ => true
  | .resource (.missingInclude _ _) => true
  | _ => false

/-- Being strict only adds errors that tell of what was not found. -/
theorem CompileOptions.narrows_of_strict (limits : Limits) :
    CompileOptions.Narrows (fun e => e.isUnlocated = true) ⟨true, limits⟩ ⟨false, limits⟩ where
  limits := fun _ _ => .refl _
  strict := .inr ⟨rfl, fun _ _ => rfl, fun _ _ => rfl⟩

namespace Setting

namespace Compiles

variable {s : Setting} {entry : Path} {c : CompiledSet} {start : SchemaNode} {es : List Step}

/-- A document that has as many records of includes as it has includes and redefines has found all
of them. -/
theorem leads_of_length (h : s.Compiles entry c start es) {d : SchemaDocument}
    {root : Markup.Element} (hd : d ∈ c.documents) (hroot : s.readRoot d.node.path = .ok root)
    (hlength : d.includes.length = (Schema.items root).countP Schema.Item.isInclusion) :
    ∀ i ∈ Schema.items root, i.isInclusion = true → (s.leadsTo d.node i).isSome := by
  have hfound : d.includes.length =
      ((Schema.items root).filter Schema.Item.isInclusion).countP
        (fun i => (s.leadsTo d.node i).isSome) := by
    rw [h.includes_eq hd hroot, List.length_filterMap_eq_countP, List.countP_filter]
    refine List.countP_congr fun i _ => ?_
    cases hi : i.isInclusion <;> simp [includedBy, hi]
  rw [hfound, List.countP_eq_length_filter, List.countP_eq_length_filter,
    List.length_filter_eq_length_iff] at hlength
  intro i hi hinclusion
  exact hlength i (List.mem_filter.2 ⟨hi, hinclusion⟩)

end Compiles

/-- All that a document refers to was found, as far as that is needed: it records no import that is
missing, and as many includes as it has includes and redefines. -/
structure LocatesAll (s : Setting) (d : SchemaDocument) : Prop where
  imports : ∀ r ∈ d.imports, r.outcome ≠ .missing
  includes : ∀ root, s.readRoot d.path = .ok root →
    d.includes.length = (Schema.items root).countP Schema.Item.isInclusion

section Converse

variable {s : Setting} {limits : Limits} {entry : Path} {c : CompiledSet} {start n : SchemaNode}
variable {root : Markup.Element} {es : List Step}

theorem Admits.strictly (h : (s.under ⟨false, limits⟩).Admits n root) :
    (s.under ⟨true, limits⟩).Admits n root where
  canonical := h.canonical
  read := h.read
  declared := h.declared
  items := h.items
  tokens := h.tokens

theorem Enters.strictly {parent : SchemaNode} {depth : Nat}
    (h : (s.under ⟨false, limits⟩).Enters parent depth n) :
    (s.under ⟨true, limits⟩).Enters parent depth n where
  depth := h.depth
  declared := h.declared

/-- An import that is not missing was found, or its namespace needs no document. -/
theorem found_of_ne_missing {base : Path} {uri location : Option String}
    (h : (s.recordOf base uri location).outcome ≠ .missing) :
    (s.found? base uri location).isSome ∨ needsNoDocument uri = true := by
  cases hf : s.found? base uri location with
  | some t => exact .inl rfl
  | none =>
      right
      by_contra hneeds
      exact h (by simp [recordOf, ImportOutcome.of, hf, hneeds])

theorem found_of_leadsTo {location : String}
    (h : (s.leadsTo n (.including (some location))).isSome) :
    (s.found? n.path none (some location)).isSome := by
  rwa [leadsTo, Option.isSome_map] at h

/-- What a document with complete records refers to can be located under strict options. -/
theorem Compiles.locatable (h : (s.under ⟨false, limits⟩).Compiles entry c start es)
    {d : SchemaDocument} (hd : d ∈ c.documents)
    (hroot : (s.under ⟨false, limits⟩).readRoot d.node.path = .ok root)
    (hall : (s.under ⟨false, limits⟩).LocatesAll d)
    (hl : ∀ i ∈ Schema.items root, (s.under ⟨false, limits⟩).Locatable d.node i) :
    ∀ i ∈ Schema.items root, (s.under ⟨true, limits⟩).Locatable d.node i := by
  have hleads := h.leads_of_length hd hroot (hall.includes root hroot)
  have hmem : d.node ∈ c.nodes := List.mem_map_of_mem hd
  intro i hi
  cases i with
  | importing uri location =>
      refine ⟨(hl _ hi).1, fun _ => ?_⟩
      -- its record is among those of the document, and none of these is missing
      refine found_of_ne_missing (s := s) (hall.imports _ ?_)
      rw [h.documents] at hd
      rw [(mem_documentsOf_iff.1 hd).2.1, mem_importsOf_iff]
      exact h.mem_events hmem hroot
        (report_mem_rootTasks_iff.2 (.inr (.inl ⟨_, hi, .tail _ (.head _)⟩)))
  | including location =>
      rintro l rfl
      exact ⟨(hl _ hi l rfl).1, fun _ => found_of_leadsTo (s := s) (hleads _ hi rfl)⟩
  | redefining location ds =>
      rintro l rfl
      exact ⟨(hl _ hi l rfl).1, fun _ => found_of_leadsTo (s := s) (hleads _ hi rfl)⟩
  | declaring d => trivial

/-- A lenient compilation whose records are complete succeeds under strict options, with the
same set. -/
theorem compile_strictly (h : ((s.under ⟨false, limits⟩).compile entry).outcome = .ok c)
    (hall : ∀ d ∈ c.documents, (s.under ⟨false, limits⟩).LocatesAll d) :
    ((s.under ⟨true, limits⟩).compile entry).outcome = .ok c := by
  obtain ⟨start, es, hc⟩ := compiles h
  -- the lenient run is a plan for the strict one, which follows it without an error
  have hpermits : (s.under ⟨true, limits⟩).Permits c.nodes := by
    refine ⟨fun n hn => ?_, hc.permitted.counted⟩
    obtain ⟨root, ha, hl⟩ := hc.permitted.admitted n hn
    obtain ⟨d, hd, rfl⟩ := List.mem_map.1 hn
    exact ⟨root, ha.strictly, hc.locatable hd ha.read (hall d hd) hl⟩
  have hdescent : Descent (s.under ⟨true, limits⟩).agenda (s.under ⟨true, limits⟩).Enters
      start 0 [start] ((s.under ⟨true, limits⟩).agenda start) es c.nodes :=
    hc.descent.mono fun _ _ _ he => he.strictly
  have hcanonical : s.files.canonicalize
      ((s.resolver (entryRequest entry)).systemId.getD entry) = .ok start.path :=
    hc.path ▸ hc.canonical
  have hcompiles := compile_completes (s := s.under ⟨true, limits⟩) hcanonical hc.declared
    hdescent hpermits hc.table hc.lands
  rw [← hc.documents, hc.path] at hcompiles
  exact hcompiles

end Converse

/-- Strict and lenient compilations agree unless something is not located.  What a strict
compilation yields, a lenient one yields as well; an error that does not tell of something that was
not found arises under both; and a lenient compilation that records all that its documents refer to
is a strict one. -/
theorem strict_agrees (s : Setting) (limits : Limits) (entry : Path) :
    (∀ c, ((s.under ⟨true, limits⟩).compile entry).outcome = .ok c →
      ((s.under ⟨false, limits⟩).compile entry).outcome = .ok c) ∧
    (∀ e, ((s.under ⟨true, limits⟩).compile entry).outcome = .error e → e.isUnlocated = false →
      ((s.under ⟨false, limits⟩).compile entry).outcome = .error e) ∧
    ∀ c, ((s.under ⟨false, limits⟩).compile entry).outcome = .ok c →
      (∀ d ∈ c.documents, (s.under ⟨false, limits⟩).LocatesAll d) →
      ((s.under ⟨true, limits⟩).compile entry).outcome = .ok c := by
  have hguards := (s.compile_cutShort (CompileOptions.narrows_of_strict limits) entry).guards
  refine ⟨fun c hc => hguards.ok hc, fun e he hlocated => ?_, fun c hc hall => ?_⟩
  · exact hguards.error he (by simp [hlocated])
  · exact compile_strictly hc hall

set_option maxRecDepth 10000 in
theorem sample_strict_agrees :
    (((sample.under ⟨true, .standard⟩).compile (topPath "main")).outcome = .ok sampleSet ∧
        ((sample.under ⟨false, .standard⟩).compile (topPath "main")).outcome = .ok sampleSet) ∧
      (((sample.under ⟨true, .standard⟩).compile (topPath "absent")).outcome =
          .error (.resource (.schema (topPath "absent") .notFound)) ∧
        ((sample.under ⟨false, .standard⟩).compile (topPath "absent")).outcome =
          .error (.resource (.schema (topPath "absent") .notFound))) ∧
      (∀ d ∈ sampleSet.documents, (sample.under ⟨false, .standard⟩).LocatesAll d) ∧
        ((sample.under ⟨true, .standard⟩).compile (topPath "main")).outcome = .ok sampleSet := by
  have habsent : ((sample.under ⟨true, .standard⟩).compile (topPath "absent")).outcome =
      .error (.resource (.schema (topPath "absent") .notFound)) := by
    decide +kernel
  have hlenient : ((sample.under ⟨false, .standard⟩).compile (topPath "main")).outcome =
      .ok sampleSet :=
    (strict_agrees sample .standard (topPath "main")).1 _ sample_compiles
  have himports : ∀ d ∈ sampleSet.documents, ∀ r ∈ d.imports, r.outcome ≠ .missing := by
    decide
  have hincludes : ∀ d ∈ sampleSet.documents, (sample.readRoot d.path).toOption.all fun root =>
      d.includes.length = (Schema.items root).countP Schema.Item.isInclusion := by
    decide +kernel
  have hall : ∀ d ∈ sampleSet.documents, (sample.under ⟨false, .standard⟩).LocatesAll d := by
    intro d hd
    refine ⟨himports d hd, fun root hroot => ?_⟩
    have hroot' : sample.readRoot d.path = .ok root := hroot
    simpa [hroot', Except.toOption] using hincludes d hd
  exact ⟨⟨sample_compiles, hlenient⟩,
    ⟨habsent, (strict_agrees sample .standard (topPath "absent")).2.1 _ habsent rfl⟩, hall,
    (strict_agrees sample .standard (topPath "main")).2.2 _ hlenient hall⟩

end Setting
end SchemaSet
