import SchemaSet.Markup.Document

/-!
# Root start tags

To learn what the root of a document declares, events are passed over up to the first tag, and only
that tag is read.  The thorough scan reads the whole document as well; when it succeeds, it yields
the same as the quick one (`scan_of_scanWellFormed`).
-/

namespace SchemaSet
namespace Markup

/-- The root start tag of a document. -/
structure RootScan where
  /-- The expanded name of the root element. -/
  name : QName
  /-- The attributes that declare no namespace, by the name as written. -/
  attributes : OrderedMap String String
  /-- The namespaces that the tag declares. -/
  scope : Scope
deriving DecidableEq

namespace RootScan

/-- What the first tag of a document tells. -/
def ofTag (t : Tag) : Except Fault RootScan := do
  let start ← t.read
  let name ← start.resolveName start.own
  return ⟨name, OrderedMap.ofList start.attributes, start.own⟩

/-- The scan of the first tag among some events; `ending` is how their reading ended. -/
def ofEvents (ending : Except Break Unit) : List Occurrence → Except Fault RootScan
  | [] =>
      match ending with
      | .ok () => .error .noRoot
      | .error b => .error (.broken b)
  | o :: r =>
      match o.event with
      | .start tag => ofTag tag
      | .empty tag => ofTag tag
      | .text raw =>
          if raw.all Text.isAsciiBlank then ofEvents ending r
          else .error (.textBeforeRoot o.position)
      | _ => ofEvents ending r

/-- Reads up to the root start tag of a document that arrives in some way. -/
def scanDelivered (delivery : Delivery) (bs : Bytes) : Except Fault RootScan :=
  let read := events delivery bs
  ofEvents read.outcome read.notes

/-- Reads up to the root start tag. -/
def scan (bs : Bytes) : Except Fault RootScan := scanDelivered .whole bs

/-- The number of octets in a block of a file. -/
def blockLength : Nat := 8192

/-- Reads up to the root start tag of a file, block by block. -/
def scanFile (bs : Bytes) : Except Fault RootScan := scanDelivered (.blocks blockLength) bs

/-- Reads the root start tag and then makes sure that the whole document can be read. -/
def scanWellFormed (bs : Bytes) : Except Fault RootScan := do
  let root ← scan bs
  let _ ← readDocument bs
  return root

/-- The value of an attribute by the name as written. -/
def attribute? (s : RootScan) (name : String) : Option String := s.attributes.get? name

/-- The declared target namespace, empty when there is none. -/
def targetNamespace (s : RootScan) : String := (s.attribute? "targetNamespace").getD ""

theorem scan_of_scanWellFormed {bs : Bytes} {s : RootScan} (h : scanWellFormed bs = .ok s) :
    scan bs = .ok s := by
  unfold scanWellFormed at h
  cases hs : scan bs with
  | error e => simp [hs, bind, Except.bind] at h
  | ok t =>
      cases hd : readDocument bs with
      | error e => simp [hs, hd, bind, Except.bind] at h
      | ok e => simpa [hs, hd, bind, Except.bind, pure, Except.pure] using h

end RootScan
end Markup
end SchemaSet
