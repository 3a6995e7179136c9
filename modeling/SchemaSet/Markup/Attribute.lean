import SchemaSet.Markup.Event

/-!
# Attributes as written

What follows the name in a tag is a sequence of attributes.  An attribute is a key, an equals sign
and a value between quotes, with white space allowed around the equals sign and not required between
attributes.  A key is refused when it was used before.

`attributes` is the journal of a tag: the attributes up to the first fault, and that fault.
Positions count octets from the first one of the name.
-/

namespace SchemaSet
namespace Markup

/-- Why an attribute cannot be read. -/
inductive AttributeFault
  /-- No equals sign follows the key. -/
  | missingEquals (position : Nat)
  /-- The key was used before. -/
  | repeatedKey (position first : Nat)
  /-- Nothing follows the equals sign. -/
  | missingValue (position : Nat)
  /-- The value does not begin with a quote. -/
  | unquoted (position : Nat)
  /-- The value does not end. -/
  | unclosed (position : Nat) (quote : UInt8)
deriving DecidableEq, Repr

def AttributeFault.message : AttributeFault → String
  | .missingEquals n =>
      "position " ++ toString n ++ ": attribute key must be directly followed by \x60=\x60 or space"
  | .repeatedKey n m =>
      "position " ++ toString n ++ ": duplicated attribute, previous declaration at position " ++
        toString m
  | .missingValue n =>
      "position " ++ toString n ++ ": \x60=\x60 must be followed by an attribute value"
  | .unquoted n =>
      "position " ++ toString n ++ ": attribute value must be enclosed in \x60\"\x60 or \x60'\x60"
  | .unclosed n q =>
      "position " ++ toString n ++ ": missing closing quote \x60" ++
        String.ofList [Char.ofNat q.toNat] ++ "\x60 in attribute value"

/-- An attribute as it is written. -/
structure RawAttribute where
  key : Bytes
  /-- The octets between the quotes. -/
  value : Bytes
deriving DecidableEq, Repr

/-- The white space that leads some octets, counted, and what follows it. -/
def skipBlanks (bs : Bytes) : Nat × Bytes :=
  ((bs.takeWhile Text.isMarkupBlank).length, bs.dropWhile Text.isMarkupBlank)

def endsKey (b : UInt8) : Bool := b == octet '=' || Text.isMarkupBlank b

/-- What follows the equals sign after a key, with its position, or the position where the sign
is missing; `length` is that of the tag. -/
def readEquals (length position : Nat) (bs : Bytes) : Except AttributeFault (Nat × Bytes) :=
  let (n, rest) := skipBlanks bs
  match rest with
  | [] => .error (.missingEquals length)
  | b :: r =>
      if b == octet '=' then .ok (position + n + 1, r) else .error (.missingEquals (position + n))

/-- The value after an equals sign, and what follows it with its position. -/
def readQuoted (length position : Nat) (bs : Bytes) :
    Except AttributeFault (Bytes × Nat × Bytes) :=
  let (n, rest) := skipBlanks bs
  match rest with
  | [] => .error (.missingValue length)
  | q :: r =>
      if q == octet '"' || q == octet '\'' then
        match Text.cut (· == q) r with
        | some (value, after) => .ok (value, position + n + value.length + 2, after)
        | none => .error (.unclosed length q)
      else .error (.unquoted (position + n))

/-- Refuses a key that was used before. -/
def refuseRepeated (seen : List (Bytes × Nat)) (key : Bytes) (position : Nat) :
    Except AttributeFault Unit :=
  match seen.lookup key with
  | some first => .error (.repeatedKey position first)
  | none => .ok ()

/-- The attribute whose key begins at `position` with the first of `bs`. -/
def readAttribute (length : Nat) (seen : List (Bytes × Nat)) (position : Nat) (b : UInt8)
    (bs : Bytes) : Except AttributeFault (RawAttribute × Nat × Bytes) := do
  let key := b :: bs.takeWhile (fun b => !endsKey b)
  let rest := bs.dropWhile (fun b => !endsKey b)
  let (afterEquals, rest) ← readEquals length (position + key.length) rest
  refuseRepeated seen key position
  let (value, position, rest) ← readQuoted length afterEquals rest
  return (⟨key, value⟩, position, rest)

/-- At most `n` attributes, from a position on. -/
def attributesFrom (length : Nat) : (n : Nat) → List (Bytes × Nat) → Nat → Bytes →
    Journal RawAttribute AttributeFault Unit
  | 0, _, _, _ => .done ()
  | n + 1, seen, position, bs =>
      let (blanks, rest) := skipBlanks bs
      match rest with
      | [] => .done ()
      | b :: r =>
          match readAttribute length seen (position + blanks) b r with
          | .error e => .fail e
          | .ok (a, next, rest) =>
              (Journal.note a).bind fun _ =>
                attributesFrom length n (seen ++ [(a.key, position + blanks)]) next rest

/-- The attributes of a tag up to the first fault. -/
def Tag.attributes (t : Tag) : Journal RawAttribute AttributeFault Unit :=
  attributesFrom (t.name.length + t.rest.length) (t.rest.length + 1) [] t.name.length t.rest

end Markup
end SchemaSet
