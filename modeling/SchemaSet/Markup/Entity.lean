import SchemaSet.Text.Quoted
import SchemaSet.Text.Utf8

/-!
# Character and entity references

In a text or an attribute value, `&name;` stands for one of five characters and `&#n;` or `&#xn;`
for the character with that number.  Everything else stands for itself.  The first reference at
fault decides.
-/

namespace SchemaSet
namespace Markup

/-- Why a reference does not stand for a character.  Positions count octets. -/
inductive ReferenceFault
  /-- No semicolon follows the ampersand. -/
  | unclosed (start length : Nat)
  | unknown (start stop : Nat) (name : String)
  /-- The number is zero or has no digits. -/
  | nul (start stop : Nat)
  /-- More than six hexadecimal digits. -/
  | longHexadecimal
  /-- More than seven decimal digits. -/
  | longDecimal
  | badHexadecimal (octet : UInt8)
  | badDecimal (octet : UInt8)
  | noCharacter (number : Nat)
deriving DecidableEq, Repr

/-- The character that shares its number with an octet. -/
def latin (b : UInt8) : String := String.ofList [Char.ofNat b.toNat]

/-- The heading of faults that name a range. -/
def rangeHeading (start stop : Nat) : String :=
  "Error while escaping character at range " ++ toString start ++ ".." ++ toString stop ++ ": "

def ReferenceFault.message : ReferenceFault → String
  | .unclosed s l => rangeHeading s l ++ "Cannot find ';' after '&'"
  | .unknown s e name => rangeHeading s e ++ "Unrecognized escape symbol: " ++ Text.quoted name
  | .nul s e => rangeHeading s e ++ "Null character entity not allowed"
  | .longHexadecimal => "Cannot convert hexadecimal to utf8"
  | .longDecimal => "Cannot convert decimal to utf8"
  | .badHexadecimal b => "'" ++ latin b ++ "' is not a valid hexadecimal character"
  | .badDecimal b => "'" ++ latin b ++ "' is not a valid decimal character"
  | .noCharacter n => "'" ++ toString n ++ "' is not a valid codepoint"

def namedCharacters : List (String × Char) :=
  [("lt", '<'), ("gt", '>'), ("amp", '&'), ("apos", '\''), ("quot", '"')]

/-- The value of a hexadecimal digit. -/
def hexadecimalValue (b : UInt8) : Option Nat :=
  if 0x30 ≤ b && b ≤ 0x39 then some (b.toNat - 0x30)
  else if 0x61 ≤ b && b ≤ 0x66 then some (b.toNat - 0x57)
  else if 0x41 ≤ b && b ≤ 0x46 then some (b.toNat - 0x37)
  else none

/-- The value of a decimal digit. -/
def decimalValue (b : UInt8) : Option Nat :=
  if 0x30 ≤ b && b ≤ 0x39 then some (b.toNat - 0x30) else none

/-- The number that some octets write, from the number read so far. -/
def readDigits (base : Nat) (value : UInt8 → Option Nat) (fault : UInt8 → ReferenceFault)
    (n : Nat) : Bytes → Except ReferenceFault Nat
  | [] => .ok n
  | b :: r =>
      match value b with
      | some d => readDigits base value fault (n * base + d) r
      | none => .error (fault b)

/-- The number that follows the number sign of a reference. -/
def readNumber (cs : List Char) : Except ReferenceFault Nat :=
  match cs with
  | 'x' :: r =>
      let octets := Utf8.encodeChars r
      if 6 < octets.length then .error .longHexadecimal
      else readDigits 16 hexadecimalValue .badHexadecimal 0 octets
  | r =>
      let octets := Utf8.encodeChars r
      if 7 < octets.length then .error .longDecimal
      else readDigits 10 decimalValue .badDecimal 0 octets

/-- The character of a reference whose ampersand and semicolon stand at `start` and `stop`. -/
def referenced (start stop : Nat) (name : List Char) : Except ReferenceFault Char :=
  match name with
  | '#' :: r => do
      let n ← readNumber r
      if n = 0 then .error (.nul start stop)
      else if n.isValidChar then .ok (Char.ofNat n)
      else .error (.noCharacter n)
  | _ =>
      let text := String.ofList name
      match namedCharacters.lookup text with
      | some c => .ok c
      | none => .error (.unknown (start + 1) stop text)

/-- Expands from the `i`-th octet on; after an ampersand `pending` holds its position and the
characters since, last first. -/
def expandFrom (length : Nat) (pending : Option (Nat × List Char)) (i : Nat) :
    List Char → Except ReferenceFault (List Char)
  | [] =>
      match pending with
      | none => .ok []
      | some (start, _) => .error (.unclosed start length)
  | c :: r =>
      match pending with
      | none =>
          if c = '&' then expandFrom length (some (i, [])) (i + 1) r
          else (expandFrom length none (i + c.utf8Size) r).map (c :: ·)
      | some (start, name) =>
          if c = ';' then
            match referenced start i name.reverse with
            | .ok d => (expandFrom length none (i + 1) r).map (d :: ·)
            | .error e => .error e
          else if c = '&' then .error (.unclosed start length)
          else expandFrom length (some (start, c :: name)) (i + c.utf8Size) r

/-- The text that a piece of markup stands for. -/
def expand (s : String) : Except ReferenceFault String :=
  (expandFrom s.utf8ByteSize none 0 s.toList).map String.ofList

/-- Why some octets stand for no text. -/
inductive ValueFault
  /-- The octets are ill-formed. -/
  | octets (fault : Utf8.Fault)
  | reference (fault : ReferenceFault)
deriving DecidableEq, Repr

def ValueFault.message : ValueFault → String
  | .octets f => "Malformed UTF-8 input: " ++ f.message
  | .reference f => f.message

/-- The text that some octets of markup stand for. -/
def readValue (bs : Bytes) : Except ValueFault String :=
  match Utf8.decode bs with
  | .error f => .error (.octets f)
  | .ok s => (expand s).mapError .reference

end Markup
end SchemaSet
