import SchemaSet.Resolution

/-!
# Resolvers from rules

The first rule of a list that matches a request answers it: with its target, or as a resolver that
knows nothing.  A request that no rule matches goes to another resolver.
-/

namespace SchemaSet

/-- A condition on an optional text: none, or equality. -/
abbrev Condition := Option (Option String)

/-- Whether a text meets a condition. -/
def Condition.holds (c : Condition) (s : Option String) : Bool := c.all (· == s)

/-- An answer for the requests that meet some conditions. -/
structure Rule where
  key : Condition
  base : Condition
  /-- The condition on the location as written. -/
  literal : Condition
  /-- Where the document is, if the rule knows one. -/
  target : Option Path
deriving DecidableEq, Repr

namespace Rule

/-- The key of an answer to a request without a key. -/
def standInKey : Key := .publicId "rule"

/-- Whether a request meets the conditions of a rule. -/
def holds (r : Rule) (q : Request) : Bool :=
  r.key.holds (q.key.map Key.text) && r.base.holds q.base && r.literal.holds q.literal

def answer (r : Rule) (q : Request) : Resolution :=
  match r.target with
  | some p => .hit q (q.key.getD standInKey) p
  | none => .miss q

/-- The rule that answers a request, if there is one. -/
def first? (rules : List Rule) (q : Request) : Option Rule := rules.find? (·.holds q)

end Rule

/-- The resolver that asks some rules first and then another resolver. -/
def Resolver.ofRules (rules : List Rule) (other : Resolver) : Resolver := fun q =>
  match Rule.first? rules q with
  | some r => r.answer q
  | none => other q

end SchemaSet
