import SchemaSet.Proofs.Obstruction

/-!
# Excesses that are told of

A compilation may end in an error which tells of too many documents or too many components.  Then
more documents can be reached, or more keys are declared by them, than the limits allow
(`compile_warranted`).  For the components this is because a table does not grow beyond what is
registered in it.
-/

namespace SchemaSet

namespace Table

variable {limits : Limits} {t u : Table} {c : Component}

theorem size_le_of_register (h : t.register limits c = .ok u)
    (ht : t.size ≤ limits.maxSchemaComponents) :
    u.size ≤ limits.maxSchemaComponents := by
  unfold register at h
  cases hl : t.lookup.get? c.key with
  | some i =>
      simp only [hl] at h
      split at h
      · cases h
        simpa [size, replace] using ht
      · cases h
  | none =>
      simp only [hl] at h
      obtain ⟨_, hcheck, hu⟩ := bind_eq_ok_iff.1 h
      cases hu
      exact (Limits.check_ok_iff limits .schemaComponents _).1 (mapError_eq_ok_iff.1 hcheck)

theorem size_le_of_foldlM {cs : List Component} (h : cs.foldlM (register limits) t = .ok u)
    (ht : t.size ≤ limits.maxSchemaComponents) :
    u.size ≤ limits.maxSchemaComponents := by
  induction cs generalizing t with
  | nil =>
      cases h
      exact ht
  | cons c rest ih =>
      rw [List.foldlM_cons] at h
      obtain ⟨v, hv, hrest⟩ := bind_eq_ok_iff.1 h
      exact ih hrest (size_le_of_register hv ht)

theorem clash_ne_limit (old c : Component) (x : Limits.Excess) : clash old c ≠ .limit x := by
  unfold clash
  split
  · nofun
  · nofun

end Table

namespace Setting

section Reached

variable (s : Setting) (entry : Path)

/-- The key of a component that a document declares which can be reached. -/
def DeclaresKey (key : SymbolSpace × QName) : Prop :=
  ∃ n x, s.Reachable entry n ∧ s.Declares n x ∧ x.key = key

/-- An error that tells of too many documents or components is right about what the entry document
leads to. -/
structure Warranted (e : Error) : Prop where
  /-- More nodes can be reached than there may be documents. -/
  documents : ∀ found bound, e = .limit (.over .documents found bound) →
    ∃ nodes : List SchemaNode, nodes.Nodup ∧ s.options.limits.maxDocuments < nodes.length ∧
      ∀ n ∈ nodes, s.Reachable entry n
  /-- More keys are declared than there may be components. -/
  components : ∀ found bound, e = .limit (.over .schemaComponents found bound) →
    ∃ keys : List (SymbolSpace × QName), keys.Nodup ∧
      s.options.limits.maxSchemaComponents < keys.length ∧ ∀ k ∈ keys, s.DeclaresKey entry k

variable {s entry}

theorem warranted_of_isPlain {e : Error} (h : e.isPlain = true) : s.Warranted entry e where
  documents := by
    rintro n m rfl
    cases h
  components := by
    rintro n m rfl
    cases h

theorem Obstructs.warranted {e : Error} (h : s.Obstructs entry e) : s.Warranted entry e := by
  rcases h.cases with hplain | ⟨seen, hseen, hover, rfl⟩ | ⟨_, _, _, _, _, _, rfl⟩ |
    ⟨_, _, _, _, _, _, _, _, _, rfl⟩
  · exact warranted_of_isPlain hplain
  · exact ⟨fun _ _ _ => ⟨seen, hseen.nodup, hover, hseen.reachable⟩, fun _ _ hne => by cases hne⟩
  · exact ⟨nofun, nofun⟩
  · exact ⟨nofun, nofun⟩

end Reached

section Whole

variable {s : Setting} {entry : Path}

/-- Registering what a traversal noted fails for good reasons. -/
theorem warranted_of_table {steps : List Step}
    (hsteps : ∀ step ∈ steps, s.Grounded entry step) {e : Error}
    (h : (declaredOf steps).foldlM (Table.register s.options.limits) ∅ = .error e) :
    s.Warranted entry e := by
  rcases Table.foldlM_eq_error h with ⟨old, _, c, _, _, _, rfl⟩ | ⟨keys, hnodup, hsub, hover, rfl⟩
  · constructor
    · exact fun _ _ hx => absurd hx (Table.clash_ne_limit old c _)
    · exact fun _ _ hx => absurd hx (Table.clash_ne_limit old c _)
  · refine ⟨nofun, fun _ _ _ => ⟨keys, hnodup, hover, fun k hk => ?_⟩⟩
    obtain ⟨c, hc, rfl⟩ := List.mem_map.1 (hsub hk)
    obtain ⟨n, hn, hdeclares⟩ := hsteps _ (mem_declaredOf_iff.1 hc)
    exact ⟨n, c, hn, hdeclares, rfl⟩

/-- Every error of a compilation that tells of too many documents or components is right. -/
theorem compile_warranted (s : Setting) (entry : Path) (e : Error)
    (h : (s.compile entry).outcome = .error e) :
    s.Warranted entry e := by
  rcases compile_error_cases h with hc | ⟨start, hstart, hstops⟩
  · exact warranted_of_isPlain (canonical_failsPlainly _ e hc)
  cases hstops with
  | traversal _ h => exact h.warranted
  | table h => exact warranted_of_table (traverse_sound hstart).notes h
  | reference _ _ _ _ => exact ⟨nofun, nofun⟩

end Whole

end Setting
end SchemaSet
