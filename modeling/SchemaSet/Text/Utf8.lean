/-!
# Texts and octets

A decoder that reads one octet at a time.  Between characters it is `idle`; inside one it knows how
many octets are still due and in which range the next one must lie, so overlong forms, surrogates
and values above U+10FFFF are refused at the first octet that rules them out.

Two functions run it over the octets of a file:
* `decode` stops at the first ill-formed sequence and says where it starts and how many octets of it
  could have belonged to a character;
* `lossy` puts U+FFFD in the place of each ill-formed sequence.
-/

namespace SchemaSet

/-- The content of a file. -/
abbrev Bytes := List UInt8

namespace Utf8

/-- An ill-formed sequence in a list of octets. -/
structure Fault where
  /-- The number of octets before the sequence, all of them well-formed. -/
  validUpTo : Nat
  /-- The number of octets to blame, or nothing when the input ends inside a character. -/
  length : Option Nat
deriving DecidableEq, Repr

def Fault.message (f : Fault) : String :=
  match f.length with
  | some n => "invalid utf-8 sequence of " ++ toString n ++ " bytes from index " ++
      toString f.validUpTo
  | none => "incomplete utf-8 byte sequence from index " ++ toString f.validUpTo

/-- What is due inside a character. -/
structure Due where
  /-- The least octet that may come next. -/
  low : UInt8
  /-- The greatest octet that may come next. -/
  high : UInt8
  /-- The number of octets due after the next one. -/
  later : Nat
  /-- The bits read so far. -/
  bits : Nat
  /-- The number of octets read so far. -/
  read : Nat
deriving DecidableEq, Repr

/-- What an octet means between characters. -/
inductive Lead
  | whole (c : Char)
  /-- The first octet of a longer character. -/
  | first (due : Due)
  /-- No character starts like this. -/
  | stray

/-- The meaning of an octet between characters. -/
def lead (b : UInt8) : Lead :=
  if b < 0x80 then .whole (Char.ofNat b.toNat)
  else if b < 0xC2 then .stray
  else if b < 0xE0 then .first ⟨0x80, 0xBF, 0, b.toNat - 0xC0, 1⟩
  else if b = 0xE0 then .first ⟨0xA0, 0xBF, 1, 0, 1⟩
  else if b = 0xED then .first ⟨0x80, 0x9F, 1, 0xD, 1⟩
  else if b < 0xF0 then .first ⟨0x80, 0xBF, 1, b.toNat - 0xE0, 1⟩
  else if b = 0xF0 then .first ⟨0x90, 0xBF, 2, 0, 1⟩
  else if b < 0xF4 then .first ⟨0x80, 0xBF, 2, b.toNat - 0xF0, 1⟩
  else if b = 0xF4 then .first ⟨0x80, 0x8F, 2, 4, 1⟩
  else .stray

/-- The bits of a character with one more octet. -/
def Due.push (d : Due) (b : UInt8) : Nat := d.bits * 64 + (b.toNat - 0x80)

/-- Whether an octet may come next. -/
def Due.admits (d : Due) (b : UInt8) : Bool := d.low ≤ b && b ≤ d.high

/-- What is due after one more octet, unless it was the last. -/
def Due.next (d : Due) (b : UInt8) : Due := ⟨0x80, 0xBF, d.later - 1, d.push b, d.read + 1⟩

/-- Decodes from the `i`-th octet on, inside a character when something is due. -/
def decodeFrom (due : Option Due) (i : Nat) : Bytes → Except Fault (List Char)
  | [] =>
      match due with
      | none => .ok []
      | some d => .error ⟨i - d.read, none⟩
  | b :: r =>
      match due with
      | none =>
          match lead b with
          | .whole c => (decodeFrom none (i + 1) r).map (c :: ·)
          | .first d => decodeFrom (some d) (i + 1) r
          | .stray => .error ⟨i, some 1⟩
      | some d =>
          if d.admits b then
            if d.later = 0 then (decodeFrom none (i + 1) r).map (Char.ofNat (d.push b) :: ·)
            else decodeFrom (some (d.next b)) (i + 1) r
          else .error ⟨i - d.read, some d.read⟩

/-- The characters of a list of octets, or its first fault. -/
def decodeChars (bs : Bytes) : Except Fault (List Char) := decodeFrom none 0 bs

/-- The text of a list of octets, or its first fault. -/
def decode (bs : Bytes) : Except Fault String := (decodeChars bs).map String.ofList

/-- The character shown for an ill-formed sequence. -/
def replacement : Char := '\uFFFD'

/-- Decodes with replacement characters, inside a character when something is due. -/
def lossyFrom (due : Option Due) : Bytes → List Char
  | [] => if due.isSome then [replacement] else []
  | b :: r =>
      match due with
      | none =>
          match lead b with
          | .whole c => c :: lossyFrom none r
          | .first d => lossyFrom (some d) r
          | .stray => replacement :: lossyFrom none r
      | some d =>
          if d.admits b then
            if d.later = 0 then Char.ofNat (d.push b) :: lossyFrom none r
            else lossyFrom (some (d.next b)) r
          else
            match lead b with
            | .whole c => replacement :: c :: lossyFrom none r
            | .first e => replacement :: lossyFrom (some e) r
            | .stray => replacement :: replacement :: lossyFrom none r

/-- The text of a list of octets, with U+FFFD for each ill-formed sequence. -/
def lossy (bs : Bytes) : String := String.ofList (lossyFrom none bs)

/-- The octets of some characters. -/
def encodeChars (cs : List Char) : Bytes := cs.flatMap String.utf8EncodeChar

/-- The octets of a text. -/
def encode (s : String) : Bytes := encodeChars s.toList

end Utf8
end SchemaSet
