import SchemaSet.Text.Utf8

/-!
# Percent encoding

Each part of a URL has a set of octets that it may not show.  An octet of the set is written as `%`
and two upper-case hexadecimal digits, which are read back as the octet
(`decodeOctets_encodeOctet`); every other octet is written as itself.  Controls and octets beyond
ASCII belong to every set.
-/

namespace SchemaSet
namespace Url

/-- A set of octets that a part of a URL may not show. -/
abbrev OctetSet := UInt8 → Bool

/-- Controls and octets beyond ASCII. -/
def controlSet : OctetSet := fun b => b < 0x20 || 0x7F ≤ b

/-- Controls and some ASCII characters. -/
def controlsAnd (cs : List Char) : OctetSet := fun b =>
  controlSet b || cs.any fun c => c.toNat == b.toNat

/-- What a fragment may not show. -/
def fragmentSet : OctetSet := controlsAnd [' ', '"', '<', '>', '\x60']

/-- What a query may not show. -/
def querySet : OctetSet := controlsAnd [' ', '"', '#', '<', '>']

/-- What the query of a special URL may not show. -/
def specialQuerySet : OctetSet := controlsAnd [' ', '"', '#', '<', '>', '\'']

/-- What a path may not show. -/
def pathSet : OctetSet :=
  controlsAnd [' ', '"', '<', '>', '\x60', '#', '?', Char.ofNat 0x7B, Char.ofNat 0x7D]

/-- What the name of a directory entry may not show. -/
def entrySet : OctetSet :=
  controlsAnd [' ', '"', '<', '>', '\x60', '#', '?', Char.ofNat 0x7B, Char.ofNat 0x7D, '/', '%',
    '\\']

/-- What a user name or a password may not show. -/
def userSet : OctetSet :=
  controlsAnd [' ', '"', '<', '>', '\x60', '#', '?', Char.ofNat 0x7B, Char.ofNat 0x7D, '/', ':',
    ';', '=', '@', '[', '\\', ']', '^', '|']

/-- The upper-case hexadecimal digit of a number below sixteen. -/
def upperDigit (n : Nat) : Char := if n < 10 then Char.ofNat (0x30 + n) else Char.ofNat (0x37 + n)

/-- The written form of an octet. -/
def encodeOctet (set : OctetSet) (b : UInt8) : List Char :=
  if set b then ['%', upperDigit (b.toNat / 16), upperDigit (b.toNat % 16)]
  else [Char.ofNat b.toNat]

/-- The written form of some octets. -/
def encodeOctets (set : OctetSet) (bs : Bytes) : List Char := bs.flatMap (encodeOctet set)

/-- The written form of some characters. -/
def encodeChars (set : OctetSet) (cs : List Char) : String :=
  String.ofList (encodeOctets set (Utf8.encodeChars cs))

/-- The value of a hexadecimal digit of either case. -/
def digitValue (b : UInt8) : Option Nat :=
  if 0x30 ≤ b && b ≤ 0x39 then some (b.toNat - 0x30)
  else if 0x41 ≤ b && b ≤ 0x46 then some (b.toNat - 0x37)
  else if 0x61 ≤ b && b ≤ 0x66 then some (b.toNat - 0x57)
  else none

/-- The octets that a written form stands for; a `%` without two digits stands for itself. -/
def decodeOctets : Bytes → Bytes
  | [] => []
  | [a] => [a]
  | [a, b] => [a, b]
  | a :: h :: l :: r =>
      if a == 0x25 then
        match digitValue h, digitValue l with
        | some x, some y => UInt8.ofNat (x * 16 + y) :: decodeOctets r
        | _, _ => a :: decodeOctets (h :: l :: r)
      else a :: decodeOctets (h :: l :: r)

/-- The octet of an ASCII character. -/
def octetOf (c : Char) : UInt8 := UInt8.ofNat c.toNat

theorem digitValue_upperDigit : ∀ n : Nat, n < 16 → digitValue (octetOf (upperDigit n)) = some n := by
  decide

theorem decodeOctets_encodeOctet (b : UInt8) (r : Bytes) :
    decodeOctets (0x25 :: octetOf (upperDigit (b.toNat / 16)) ::
      octetOf (upperDigit (b.toNat % 16)) :: r) = b :: decodeOctets r := by
  have hb : b.toNat < 256 := b.toNat_lt
  simp only [decodeOctets, digitValue_upperDigit _ (show b.toNat / 16 < 16 by omega),
    digitValue_upperDigit _ (show b.toNat % 16 < 16 by omega)]
  have : b.toNat / 16 * 16 + b.toNat % 16 = b.toNat := by omega
  simp [this]

end Url
end SchemaSet
