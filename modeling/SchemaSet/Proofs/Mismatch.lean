import SchemaSet.Proofs.Obstruction

/-!
# Where namespaces are found to differ

Only opening a document that the resolver named for an import compares namespaces in such a way that
a mismatch is told; every other part of a compilation fails for other reasons.  So a mismatch that a
compilation ends in is one (`compile_mismatch`).
-/

namespace SchemaSet

/-- The violation that an error tells of, if it is a mismatch of namespaces. -/
def Error.mismatch? : Error → Option Violation
  | .consistency v => if v.inconsistency.kind = .namespaceMismatch then some v else none
  | _ => none

/-- No plain error is a mismatch. -/
theorem mismatch?_of_isPlain {e : Error} (h : e.isPlain = true) : e.mismatch? = none := by
  cases e with
  | consistency v =>
      rw [not_isPlain_consistency] at h
      cases h
  | _ => rfl

/-- All errors in which a computation may end satisfy a condition. -/
def FailsWith {α : Type} (P : Error → Prop) (j : Journal Step Error α) : Prop :=
  ∀ e, j.outcome = .error e → P e

namespace Setting

/-- The resolver names `p` for an import of `uri`, and the schema there declares another
namespace. -/
structure Mismatched (s : Setting) (declared uri : Option String) (p : Path) : Prop where
  named : ∃ base location, s.isNamed base uri location = true ∧
    s.found? base uri location = some p
  read : ∃ root, s.readRoot p = .ok root ∧ Schema.declaredNamespace root = declared
  differs : declared ≠ uri

/-- If an error tells of a mismatch, there is one. -/
def Justified (s : Setting) (e : Error) : Prop :=
  ∀ v, e.mismatch? = some v →
    ∃ declared uri p, v = ⟨.namespaceMismatch declared uri, some p⟩ ∧ s.Mismatched declared uri p

variable {s : Setting} {entry : Path}

theorem justified_of_none {e : Error} (h : e.mismatch? = none) : s.Justified e := by
  intro v he
  rw [h] at he
  cases he

theorem Obstructs.justified {e : Error} (h : s.Obstructs entry e) : s.Justified e := by
  rcases h.cases with hplain | ⟨_, _, _, rfl⟩ | ⟨p, uri, root, hp, hroot, hne, rfl⟩ |
    ⟨_, _, _, _, _, _, _, _, _, rfl⟩
  · exact justified_of_none (mismatch?_of_isPlain hplain)
  · exact justified_of_none rfl
  · obtain ⟨n, _, location, _, _, hnamed, ht⟩ := hp.named
    rintro _ ⟨⟩
    exact ⟨_, uri, p, rfl, ⟨n.path, location, hnamed, ht⟩, ⟨root, hroot, rfl⟩, hne⟩
  · exact justified_of_none rfl

/-- A mismatch of namespaces in which a compilation ends is one: the resolver named the
document for an import, and its schema declares another namespace. -/
theorem compile_mismatch (s : Setting) (entry : Path) :
    FailsWith s.Justified (s.compile entry) := by
  intro e he
  rcases compile_error_cases he with hc | ⟨start, _, hstops⟩
  · exact justified_of_none (mismatch?_of_isPlain (canonical_failsPlainly _ e hc))
  cases hstops with
  | traversal _ h => exact h.justified
  | table h =>
      rcases Table.foldlM_eq_error h with ⟨old, _, c, _, _, _, rfl⟩ | ⟨keys, _, _, _, rfl⟩
      · refine justified_of_none ?_
        unfold Table.clash
        split <;> rfl
      · exact justified_of_none rfl
  | reference _ _ _ _ => exact justified_of_none rfl

end Setting
end SchemaSet
