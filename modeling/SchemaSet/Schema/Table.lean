import SchemaSet.Error

/-!
# Tables of components

A table lists components in the order in which their keys were first declared, and maps a key, a
symbol space with a name, to the position of the component under it.

A redefinition replaces what stands under its key.  Any other second declaration is refused: in one
document it is an error of that document, in two they contradict each other.  `register_cases` says
what an accepted declaration does to a table.
-/

namespace SchemaSet

/-- A global component. -/
structure Component where
  kind : ComponentKind
  name : QName
  document : Path
  /-- Whether it is declared inside a redefinition. -/
  redefined : Bool
deriving DecidableEq, Repr

def Component.key (c : Component) : SymbolSpace × QName := (c.kind.space, c.name)

/-- The components of a schema set, and where each stands by symbol space and name. -/
structure Table where
  /-- The components in the order in which their keys were first declared. -/
  components : List Component
  /-- The position of the component under each key. -/
  lookup : OrderedMap (SymbolSpace × QName) Nat
deriving DecidableEq

namespace Table

/-- The table without components. -/
def empty : Table := ⟨[], ∅⟩

instance : EmptyCollection Table := ⟨empty⟩

/-- The number of components. -/
def size (t : Table) : Nat := t.components.length

def find (t : Table) (key : SymbolSpace × QName) : Option Component :=
  (t.lookup.get? key).bind fun i => t.components[i]?

def component? (t : Table) (space : SymbolSpace) (name : QName) : Option Component :=
  t.find (space, name)

/-- The table with one more component at the end. -/
def append (t : Table) (c : Component) : Table :=
  ⟨t.components ++ [c], t.lookup.insert c.key t.components.length⟩

/-- The table with another component at a position. -/
def replace (t : Table) (i : Nat) (c : Component) : Table :=
  { t with components := t.components.set i c }

/-- Why a second declaration is refused. -/
def clash (old c : Component) : Error :=
  if old.document = c.document then
    Error.inDocument c.document (.declaredTwice c.kind c.name)
  else
    .consistency ⟨.duplicateComponent c.kind c.name old.document, some c.document⟩

/-- The table with one more declaration. -/
def register (limits : Limits) (t : Table) (c : Component) : Except Error Table :=
  match t.lookup.get? c.key with
  | some i =>
      if c.redefined then .ok (t.replace i c)
      else .error (clash (t.components.getD i c) c)
  | none => do
      let t := t.append c
      (limits.check .schemaComponents t.size).mapError .limit
      return t

/-- An accepted declaration redefines the component under its key or is the first under it. -/
theorem register_cases {limits : Limits} {t u : Table} {c : Component}
    (h : t.register limits c = .ok u) :
    (∃ i, t.lookup.get? c.key = some i ∧ c.redefined = true ∧ u = t.replace i c) ∨
      (t.lookup.get? c.key = none ∧ u = t.append c) := by
  unfold register at h
  cases hl : t.lookup.get? c.key with
  | some i =>
      simp only [hl] at h
      split at h
      · rename_i hr
        exact .inl ⟨i, rfl, hr, (Except.ok.inj h).symm⟩
      · cases h
  | none =>
      simp only [hl] at h
      obtain ⟨_, _, hu⟩ := bind_eq_ok_iff.1 h
      exact .inr ⟨rfl, (Except.ok.inj hu).symm⟩

end Table
end SchemaSet
