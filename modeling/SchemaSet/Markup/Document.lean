import SchemaSet.Markup.Tag

/-!
# Documents as trees

The events of a document are put together to a tree.  A stack holds the open elements, innermost
first.  A start tag opens an element in the scope of the one that is open, an end tag hands the
innermost element over to the one around it, and an element that nothing surrounds is the root.
There may be one root, character data may not stand outside of it, and nothing may be left open.

`Element.preorder` lists an element and all inside it in document order, with the depth of each.
-/

namespace SchemaSet
namespace Markup

/-- An element with its children and the bindings in scope. -/
structure Element where
  name : QName
  attributes : OrderedMap QName String
  /-- The elements directly inside, in order. -/
  children : List Element
  scope : Scope

instance : Inhabited Element := ⟨⟨QName.bare "", ∅, [], ∅⟩⟩

namespace Element

mutual

/-- Whether two elements are the same. -/
def decEq : (e f : Element) → Decidable (e = f)
  | ⟨name, attributes, children, scope⟩, ⟨name', attributes', children', scope'⟩ =>
      have := decEqAll children children'
      decidable_of_iff
        (name = name' ∧ attributes = attributes' ∧ children = children' ∧ scope = scope')
        (by simp)

/-- Whether two lists of elements are the same. -/
def decEqAll : (l m : List Element) → Decidable (l = m)
  | [], [] => isTrue rfl
  | [], _ :: _ => isFalse (by simp)
  | _ :: _, [] => isFalse (by simp)
  | e :: l, f :: m =>
      have := decEq e f
      have := decEqAll l m
      decidable_of_iff (e = f ∧ l = m) (by simp)

end

instance : DecidableEq Element := decEq

/-- An element without attributes, children and bindings. -/
def named (name : QName) : Element := ⟨name, ∅, [], ∅⟩

/-- The value of the first attribute in no namespace with a local name. -/
def attribute? (e : Element) (name : String) : Option String :=
  (e.attributes.entries.find? fun a => a.1.uri.isNone && a.1.localName == name).map Prod.snd

/-- The value of the attribute with an expanded name. -/
def attributeNamed? (e : Element) (name : QName) : Option String := e.attributes.get? name

/-- The element with one more child at the end. -/
def addChild (e child : Element) : Element := { e with children := e.children ++ [child] }

/-- The element with its children replaced. -/
def withChildren (e : Element) (children : List Element) : Element :=
  { e with children := children }

/-- Whether the element belongs to the schema language. -/
def isXsd (e : Element) : Bool := e.name.isXsd

mutual

/-- The element and all inside it in document order, with their depth. -/
def preorder (depth : Nat) : Element → List (Nat × Element)
  | ⟨name, attributes, children, scope⟩ =>
      (depth, ⟨name, attributes, children, scope⟩) :: preorderAll (depth + 1) children

/-- The elements of a list and all inside them in document order, with their depth. -/
def preorderAll (depth : Nat) : List Element → List (Nat × Element)
  | [] => []
  | e :: r => preorder depth e ++ preorderAll depth r

end

end Element

/-- The attributes of a start tag by expanded name; of two with one expanded name the later
value counts, at the place of the earlier. -/
def expandAttributes (scope : Scope) (m : OrderedMap QName String) :
    List Attribute → Except Fault (OrderedMap QName String)
  | [] => .ok m
  | a :: r => do
      let name ← resolveAttribute scope a.1
      expandAttributes scope (m.insert name a.2) r

/-- The element that a tag begins inside a scope. -/
def Tag.element (outer : Option Scope) (t : Tag) : Except Fault Element := do
  let start ← t.read
  let scope := match outer with
    | some s => s.inherit start.own
    | none => start.own
  let name ← start.resolveName scope
  let attributes ← expandAttributes scope ∅ start.attributes
  return ⟨name, attributes, [], scope⟩

/-- A tree that is being read. -/
structure Growth where
  /-- The open elements, innermost first, with their children last first. -/
  stack : List Element
  /-- The root, once it is closed. -/
  root : Option Element

namespace Growth

/-- The tree before the first event. -/
def empty : Growth := ⟨[], none⟩

/-- The scope of the innermost open element. -/
def outer (g : Growth) : Option Scope := g.stack.head?.map Element.scope

/-- Hands a closed element over to the one around it. -/
def deliver (g : Growth) (e : Element) : Growth :=
  match g.stack with
  | [] => { g with root := some e }
  | p :: r => { g with stack := p.withChildren (e :: p.children) :: r }

/-- Refuses a second element at the top. -/
def refuseSecond (g : Growth) (position : Nat) : Except Fault Unit :=
  if g.stack.isEmpty && g.root.isSome then .error (.secondRoot position) else .ok ()

/-- The tree after one more event. -/
def step (g : Growth) (o : Occurrence) : Except Fault Growth :=
  match o.event with
  | .start tag => do
      g.refuseSecond o.position
      let e ← tag.element g.outer
      return { g with stack := e :: g.stack }
  | .empty tag => do
      g.refuseSecond o.position
      let e ← tag.element g.outer
      return g.deliver e
  | .close =>
      match g.stack with
      | [] => .ok g
      | e :: r =>
          .ok (deliver { g with stack := r } (e.withChildren e.children.reverse))
  | .text raw => do
      let s ← (readValue raw).mapError .text
      if g.stack.isEmpty && !Text.isAllBlank s then .error (.textOutsideRoot o.position)
      else .ok g
  | _ => .ok g

/-- The tree after some events in order. -/
def stepAll (g : Growth) : List Occurrence → Except Fault Growth
  | [] => .ok g
  | o :: r => do (← g.step o).stepAll r

/-- The root of a finished tree. -/
def finish (g : Growth) : Except Fault Element :=
  match g.stack, g.root with
  | e :: _, _ => .error (.openElement e.name)
  | [], none => .error .noRoot
  | [], some e => .ok e

end Growth

/-- The root element of a document. -/
def readDocument (bs : Bytes) : Except Fault Element := do
  let read := events .whole bs
  let g ← Growth.empty.stepAll read.notes
  match read.outcome with
  | .ok () => g.finish
  | .error b => throw (.broken b)

end Markup
end SchemaSet
