/-!
# Journals

Reading a catalog, building an index or compiling a schema set reports on its way what it meets,
and what it reported stays reported when it fails later.  A `Journal ν ε α` therefore pairs the
notes, oldest first, with the outcome.  Sequencing appends the notes of the second computation to
those of the first, and an error ends it.

Journals form a lawful monad, so a computation may be cut into parts at any place without changing
its notes.  `outcome_bind_eq_ok_iff` and `outcome_bind_eq_error_iff` say how a sequence ends,
`notes_bind` what it notes.
-/

namespace SchemaSet

/-- A computation that notes `ν` on its way and ends in an error `ε` or a value `α`. -/
structure Journal (ν ε α : Type) where
  /-- What was noted, oldest first. -/
  notes : List ν
  /-- How the computation ended. -/
  outcome : Except ε α

namespace Journal

variable {ν μ ε δ α β γ : Type}

/-- A finished computation that noted nothing. -/
def done (a : α) : Journal ν ε α := ⟨[], .ok a⟩

/-- A computation that fails at once. -/
def fail (e : ε) : Journal ν ε α := ⟨[], .error e⟩

/-- A single note. -/
def note (n : ν) : Journal ν ε Unit := ⟨[n], .ok ()⟩

/-- Several notes in order. -/
def noteAll (ns : List ν) : Journal ν ε Unit := ⟨ns, .ok ()⟩

/-- A computation without notes. -/
def ofExcept (x : Except ε α) : Journal ν ε α := ⟨[], x⟩

/-- First `j`, then what `f` makes of its value; an error of `j` is final. -/
def bind (j : Journal ν ε α) (f : α → Journal ν ε β) : Journal ν ε β :=
  match j.outcome with
  | .error e => ⟨j.notes, .error e⟩
  | .ok a =>
      let k := f a
      ⟨j.notes ++ k.notes, k.outcome⟩

instance : Monad (Journal ν ε) where
  pure := done
  bind := bind

instance : MonadExceptOf ε (Journal ν ε) where
  throw := fail
  tryCatch j f :=
    match j.outcome with
    | .error e => ⟨j.notes ++ (f e).notes, (f e).outcome⟩
    | .ok _ => j

instance : MonadLift (Except ε) (Journal ν ε) where
  monadLift := ofExcept

/-- The same computation with its notes rewritten in other words. -/
def mapNotes (f : ν → List μ) (j : Journal ν ε α) : Journal μ ε α :=
  ⟨j.notes.flatMap f, j.outcome⟩

/-- The same computation with its error rewritten in other words. -/
def mapError (f : ε → δ) (j : Journal ν ε α) : Journal ν δ α :=
  ⟨j.notes, j.outcome.mapError f⟩

@[ext] theorem ext {j k : Journal ν ε α} (hn : j.notes = k.notes) (ho : j.outcome = k.outcome) :
    j = k := by
  cases j; cases k; simp_all

theorem done_bind (a : α) (f : α → Journal ν ε β) : bind (done a) f = f a := by
  simp [bind, done]

theorem bind_done (j : Journal ν ε α) : bind j done = j := by
  obtain ⟨ns, o⟩ := j
  cases o <;> simp [bind, done]

theorem bind_assoc (j : Journal ν ε α) (f : α → Journal ν ε β) (g : β → Journal ν ε γ) :
    bind (bind j f) g = bind j (fun a => bind (f a) g) := by
  obtain ⟨ns, o⟩ := j
  cases o with
  | error e => rfl
  | ok a =>
      simp only [bind]
      cases (f a).outcome <;> simp

instance : LawfulMonad (Journal ν ε) :=
  LawfulMonad.mk' (Journal ν ε) bind_done done_bind bind_assoc

section Sequence

variable {j : Journal ν ε α} {f g : α → Journal ν ε β} {b : β} {e : ε}

theorem bind_of_ok {a : α} (h : j.outcome = .ok a) :
    j >>= f = ⟨j.notes ++ (f a).notes, (f a).outcome⟩ := by
  show bind j f = _
  simp [bind, h]

theorem bind_of_error (h : j.outcome = .error e) : j >>= f = ⟨j.notes, .error e⟩ := by
  show bind j f = _
  simp [bind, h]

theorem outcome_bind (j : Journal ν ε α) (f : α → Journal ν ε β) :
    (j >>= f).outcome = j.outcome.bind fun a => (f a).outcome := by
  cases h : j.outcome with
  | error e => simp [bind_of_error h, Except.bind]
  | ok a => simp [bind_of_ok h, Except.bind]

theorem outcome_bind_eq_ok_iff :
    (j >>= f).outcome = .ok b ↔ ∃ a, j.outcome = .ok a ∧ (f a).outcome = .ok b := by
  cases h : j.outcome with
  | error e => simp [bind_of_error h]
  | ok a => simp [bind_of_ok h]

theorem outcome_bind_eq_error_iff :
    (j >>= f).outcome = .error e ↔
      j.outcome = .error e ∨ ∃ a, j.outcome = .ok a ∧ (f a).outcome = .error e := by
  cases h : j.outcome with
  | error e => simp [bind_of_error h]
  | ok a => simp [bind_of_ok h]

theorem notes_bind :
    (j >>= f).notes = j.notes ++ j.outcome.toOption.elim [] fun a => (f a).notes := by
  cases h : j.outcome with
  | error e => simp [bind_of_error h, Except.toOption]
  | ok a => simp [bind_of_ok h, Except.toOption]

/-- What comes next only matters for the value that the first computation ends in. -/
theorem bind_congr_ok (h : ∀ a, j.outcome = .ok a → f a = g a) : j >>= f = j >>= g := by
  cases ho : j.outcome with
  | error e => rw [bind_of_error ho, bind_of_error ho]
  | ok a => rw [bind_of_ok ho, bind_of_ok ho, h a ho]

end Sequence

end Journal
end SchemaSet
