/-!
# JSON values

A value is null, a truth value, a number, a text, a list, or a list of members in the order in which
they are written.

In the written form nested values stand on lines of their own, two spaces deeper than what surrounds
them; an empty list or object is written in one piece.  In texts only quotes, backslashes and
control characters below the space are escaped.
-/

namespace SchemaSet

/-- A JSON value. -/
inductive Json
  /-- Nothing. -/
  | null
  /-- A truth value. -/
  | bool (b : Bool)
  /-- A number. -/
  | nat (n : Nat)
  | text (s : String)
  | list (values : List Json)
  /-- Named values in order. -/
  | object (members : List (String × Json))
deriving Inhabited

namespace Json

/-- A text, or null. -/
def ofOption : Option String → Json
  | some s => .text s
  | none => .null

/-- The four hexadecimal digits of a number below 65536. -/
def fourDigits (n : Nat) : List Char :=
  let ds := Nat.toDigits 16 n
  List.replicate (4 - ds.length) '0' ++ ds

/-- The written form of a character inside a text. -/
def escape (c : Char) : List Char :=
  if c = '"' then ['\\', '"']
  else if c = '\\' then ['\\', '\\']
  else if c = '\x08' then ['\\', 'b']
  else if c = '\t' then ['\\', 't']
  else if c = '\n' then ['\\', 'n']
  else if c = '\x0C' then ['\\', 'f']
  else if c = '\r' then ['\\', 'r']
  else if c.toNat < 0x20 then '\\' :: 'u' :: fourDigits c.toNat
  else [c]

/-- The written form of a text. -/
def writeText (s : String) : String := String.ofList ('"' :: (s.toList.flatMap escape ++ ['"']))

def newLine (depth : Nat) : String := "\n" ++ String.ofList (List.replicate (2 * depth) ' ')

mutual

/-- The written form of a value whose first line begins at a depth. -/
def write (depth : Nat) : Json → String
  | .null => "null"
  | .bool b => if b then "true" else "false"
  | .nat n => toString n
  | .text s => writeText s
  | .list [] => "[]"
  | .list (v :: r) =>
      "[" ++ newLine (depth + 1) ++ write (depth + 1) v ++ writeValues depth r ++
        newLine depth ++ "]"
  | .object [] => "\x7b\x7d"
  | .object ((name, v) :: r) =>
      "\x7b" ++ newLine (depth + 1) ++ writeText name ++ ": " ++ write (depth + 1) v ++
        writeMembers depth r ++ newLine depth ++ "\x7d"

/-- The written form of further values of a list. -/
def writeValues (depth : Nat) : List Json → String
  | [] => ""
  | v :: r => "," ++ newLine (depth + 1) ++ write (depth + 1) v ++ writeValues depth r

/-- The written form of further members of an object. -/
def writeMembers (depth : Nat) : List (String × Json) → String
  | [] => ""
  | (name, v) :: r =>
      "," ++ newLine (depth + 1) ++ writeText name ++ ": " ++ write (depth + 1) v ++
        writeMembers depth r

end

/-- The written form of a value. -/
def pretty (v : Json) : String := write 0 v

end Json
end SchemaSet
