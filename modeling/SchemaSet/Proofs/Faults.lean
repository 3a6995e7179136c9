import SchemaSet.Index.Builder
import SchemaSet.Schema.Compiler

/-!
# Errors of single documents

Many parts of a compilation, and of building an index, look at one path, one document or one name.
Such a part may fail because something cannot be found, is too long or is malformed.  It does not
fail because documents contradict each other, or because there are too many of them.

Parts that fail for no other reasons fail plainly, and so do their sequences
(`FailsPlainly.bind`).  The module goes through them: reading a schema, making a component,
resolving a name, scanning a document and reading a catalog.
-/

namespace SchemaSet

/-- Whether an error concerns a single document, path or name, and not how documents fit together
or how many there are. -/
def Error.isLocal : Error → Bool
  | .consistency ⟨.unboundLabel _ _ _, _⟩ => true
  | .consistency _ => false
  | .duplicateNamespace _ _ _ => false
  | .limit (.over .documentSize _ _) => true
  | .limit (.over .schemaDepth _ _) => true
  | .limit _ => false
  | _ => true

/-- A computation that fails for local reasons only. -/
def FailsLocally {α : Type} (x : Except Error α) : Prop := ∀ e, x = .error e → e.isLocal = true

/-- Whether an error is local and tells of no inconsistency at all. -/
def Error.isPlain (e : Error) : Bool := e.isLocal && !e.isViolation

/-- A computation that fails for plain reasons only. -/
def FailsPlainly {α : Type} (x : Except Error α) : Prop := ∀ e, x = .error e → e.isPlain = true

theorem Error.isLocal_of_isPlain {e : Error} (h : e.isPlain = true) : e.isLocal = true :=
  (Bool.and_eq_true_iff.1 h).1

/-- A plain error is no inconsistency. -/
theorem not_isPlain_consistency (v : Violation) : (Error.consistency v).isPlain = false := by
  simp [Error.isPlain, Error.isViolation]

theorem FailsPlainly.locally {α : Type} {x : Except Error α} (h : FailsPlainly x) :
    FailsLocally x :=
  fun e he => Error.isLocal_of_isPlain (h e he)

section Sequences

variable {ε α β : Type}

theorem failsPlainly_ok (a : α) : FailsPlainly (.ok a) := by
  intro e h
  cases h

theorem failsPlainly_error {e : Error} (h : e.isPlain = true) :
    FailsPlainly (.error e : Except Error α) := by
  rintro _ ⟨⟩
  exact h

theorem failsPlainly_mapError {x : Except ε α} {f : ε → Error} (h : ∀ a, (f a).isPlain = true) :
    FailsPlainly (x.mapError f) := by
  cases x with
  | error a => exact failsPlainly_error (h a)
  | ok a => exact failsPlainly_ok a

/-- Sequences of computations that fail for plain reasons do so. -/
theorem FailsPlainly.bind {x : Except Error α} {f : α → Except Error β} (hx : FailsPlainly x)
    (hf : ∀ a, FailsPlainly (f a)) : FailsPlainly (x >>= f) := by
  cases x with
  | error e => exact failsPlainly_error (hx e rfl)
  | ok a => exact hf a

/-- A number that is checked for one document may exceed its bound. -/
theorem check_failsPlainly (limits : Limits) {what : Limits.Measure}
    (h : what = .documentSize ∨ what = .schemaDepth) (n : Nat) :
    FailsPlainly ((limits.check what n).mapError .limit) := by
  unfold Limits.check
  split
  · rcases h with rfl | rfl
    · exact failsPlainly_error rfl
    · exact failsPlainly_error rfl
  · exact failsPlainly_ok _

end Sequences

namespace Location

theorem parse_failsPlainly (text : String) : FailsPlainly (parse text) := by
  unfold parse
  split
  · split
    · split
      · exact failsPlainly_ok _
      · exact failsPlainly_error rfl
    · split <;> exact failsPlainly_ok _
  · exact failsPlainly_ok _

theorem join_failsPlainly (base : Location) (reference : String) :
    FailsPlainly (base.join reference) := by
  refine (parse_failsPlainly reference).bind fun target => ?_
  split
  · split <;> exact failsPlainly_ok _
  · split
    · exact failsPlainly_ok _
    · exact (failsPlainly_mapError fun _ => rfl).bind fun _ => failsPlainly_ok _
  · exact failsPlainly_ok _

end Location

namespace FileSystem

variable (fs : FileSystem) (limits : Limits) (p : Path)

theorem readPath_failsPlainly : FailsPlainly (fs.readPath limits p) := by
  unfold readPath
  split
  · exact failsPlainly_error rfl
  · exact (check_failsPlainly limits (.inl rfl) _).bind fun _ => failsPlainly_ok _

theorem openPath_failsPlainly : FailsPlainly (fs.openPath limits p) := by
  unfold openPath
  split
  · exact failsPlainly_error rfl
  · split
    · exact failsPlainly_ok _
    · exact (check_failsPlainly limits (.inl rfl) _).bind fun _ => failsPlainly_ok _

theorem loadEncoded_failsPlainly : FailsPlainly (fs.loadEncoded limits (.path p)) := by
  refine (fs.readPath_failsPlainly limits p).bind fun octets => ?_
  split
  · exact failsPlainly_error rfl
  · exact failsPlainly_ok _

end FileSystem

namespace Setting

variable {s : Setting} {n : SchemaNode}

theorem canonical_failsPlainly (p : Path) : FailsPlainly (s.canonical p) :=
  failsPlainly_mapError fun _ => rfl

theorem readRoot_failsPlainly (p : Path) : FailsPlainly (s.readRoot p) := by
  refine (s.files.loadEncoded_failsPlainly _ p).bind fun octets => ?_
  refine (failsPlainly_mapError fun _ => rfl).bind fun root => ?_
  split
  · exact failsPlainly_ok _
  · exact failsPlainly_error rfl

theorem component_failsPlainly (redefined : Bool) (d : Schema.Declaration) :
    FailsPlainly (component n redefined d) := by
  unfold component
  split
  · exact failsPlainly_error rfl
  · exact (failsPlainly_mapError fun _ => rfl).bind fun _ => failsPlainly_ok _

/-- A name is refused for its form, or its label is unbound. -/
theorem resolve_eq_error {document : Path} {adopted : Option String} {t : Schema.Token} {e : Error}
    (h : t.resolve document adopted = .error e) :
    (∃ f, e = Error.inDocument document (.badName f)) ∨
      ∃ label rest, Name.splitColon t.text = some (label, rest) ∧ t.scope.lookup label = none ∧
        e = .consistency ⟨.unboundLabel ⟨label⟩ t.key t.value, some document⟩ := by
  unfold Schema.Token.resolve at h
  cases hvalid : Name.validateQualified t.text with
  | error f =>
      rw [hvalid] at h
      cases h
      exact .inl ⟨f, rfl⟩
  | ok u =>
      right
      rw [hvalid] at h
      cases hname : t.scope.resolve t.text with
      | ok name =>
          rw [hname] at h
          cases h
      | error unbound =>
          rw [hname] at h
          cases h
          unfold Scope.resolve at hname
          split at hname
          · rename_i label rest hsplit
            split at hname
            · cases hname
            · rename_i hlookup
              cases hname
              exact ⟨label, rest, hsplit, hlookup, rfl⟩
          · cases hname

end Setting

namespace Catalog

variable {fs : FileSystem} {limits : Limits}

/-- Reading a catalog fails for plain reasons only. -/
theorem fileItems_failsPlainly (p : Path) : FailsPlainly (fileItems fs limits p) := by
  refine (fs.loadEncoded_failsPlainly limits p).bind fun octets => ?_
  refine (failsPlainly_mapError fun _ => rfl).bind fun root => ?_
  dsimp only
  split
  · exact failsPlainly_error rfl
  · exact failsPlainly_ok _

end Catalog

namespace IndexPlan

variable {plan : IndexPlan} {fs : FileSystem}

theorem checkDirectory_failsPlainly (directory : Path) :
    FailsPlainly (checkDirectory fs directory) := by
  unfold checkDirectory
  split
  · exact failsPlainly_error rfl
  · exact failsPlainly_error rfl
  · exact failsPlainly_ok _
  · exact failsPlainly_error rfl

theorem canonicalTarget_failsPlainly (p : Path) : FailsPlainly (canonicalTarget fs p) :=
  failsPlainly_mapError fun _ => rfl

theorem scanRoot_failsPlainly (p : Path) : FailsPlainly (plan.scanRoot fs p) := by
  unfold scanRoot
  split
  · exact (fs.readPath_failsPlainly _ p).bind fun _ => failsPlainly_mapError fun _ => rfl
  · refine (fs.openPath_failsPlainly _ p).bind fun octets => ?_
    exact (failsPlainly_mapError fun _ => rfl).bind fun _ => failsPlainly_mapError fun _ => rfl

/-- Scanning a document fails for plain reasons only. -/
theorem describe_failsPlainly (p : Path) : FailsPlainly (plan.describe fs p) :=
  (canonicalTarget_failsPlainly p).bind fun canonical =>
    (scanRoot_failsPlainly canonical).bind fun _ => failsPlainly_ok _

end IndexPlan
end SchemaSet
