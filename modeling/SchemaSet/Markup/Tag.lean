import SchemaSet.Markup.Fault

/-!
# Start tags

The attributes of a tag are decoded in order.  Namespace declarations build a scope, and all others
are kept with their names as written.
-/

namespace SchemaSet
namespace Markup

/-- An attribute that declares no namespace, with its name as written. -/
abbrev Attribute := String × String

/-- What an attribute declares. -/
inductive Declaration
  /-- The default namespace. -/
  | fallback (uri : String)
  | label (label uri : String)
  /-- Nothing about namespaces. -/
  | plain (name value : String)
deriving DecidableEq, Repr

def Declaration.ofAttribute (name value : String) : Declaration :=
  if name = "xmlns" then .fallback value
  else
    match Name.splitColon name with
    | some ("xmlns", declared) => .label declared value
    | _ => .plain name value

/-- The name and the value of an attribute. -/
def RawAttribute.decode (a : RawAttribute) : Except Fault (String × String) := do
  let name ← (Utf8.decode a.key).mapError .attributeName
  let value ← (readValue a.value).mapError .attributeValue
  return (name, value)

/-- A start tag with its attributes decoded. -/
structure StartTag where
  rawName : Bytes
  /-- The attributes that declare no namespace, in order. -/
  attributes : List Attribute
  /-- The namespaces that the tag declares. -/
  own : Scope
deriving DecidableEq

/-- A start tag with one more attribute. -/
def StartTag.push (t : StartTag) : Declaration → StartTag
  | .fallback uri => { t with own := t.own.bindDefault uri }
  | .label label uri => { t with own := t.own.bindLabel label uri }
  | .plain name value => { t with attributes := t.attributes ++ [(name, value)] }

/-- A start tag with the attributes of a list added in order. -/
def StartTag.pushAll (t : StartTag) : List RawAttribute → Except Fault StartTag
  | [] => .ok t
  | a :: r => do
      let (name, value) ← a.decode
      (t.push (Declaration.ofAttribute name value)).pushAll r

/-- Reads the attributes of a tag. -/
def Tag.read (t : Tag) : Except Fault StartTag := do
  let raw := t.attributes
  let start ← StartTag.pushAll ⟨t.name, [], ∅⟩ raw.notes
  match raw.outcome with
  | .ok () => return start
  | .error e => throw (.attribute e)

/-- The expanded name of an element in a scope. -/
def StartTag.resolveName (t : StartTag) (scope : Scope) : Except Fault QName := do
  let name ← (Utf8.decode t.rawName).mapError .elementName
  (scope.resolve name).mapError (.unboundElement name)

/-- The expanded name of an attribute in a scope; without a label it is in no namespace. -/
def resolveAttribute (scope : Scope) (name : String) : Except Fault QName :=
  match Name.splitColon name with
  | some _ => (scope.resolve name).mapError (.unboundAttribute name)
  | none => .ok (QName.bare name)

end Markup
end SchemaSet
