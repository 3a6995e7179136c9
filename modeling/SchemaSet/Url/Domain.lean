import SchemaSet.Text.Normal
import SchemaSet.Url.Domain.Direction
import SchemaSet.Url.Domain.Folding
import SchemaSet.Url.Domain.Joining
import SchemaSet.Url.Domain.Punycode

/-!
# Domains

A domain may be international.  All its characters are folded and it is brought into normalization
form C.  Each label is then written in ASCII: as it stands, or after `xn--` in Punycode.  A label
that is encoded already is read first and has to be the encoded form of a label that nothing would
change.

No label begins with a mark, joiners stand where they mean something, and when a label is written
from the right, all labels keep to one direction.
-/

namespace SchemaSet
namespace Url

/-- What neither a domain nor an opaque host may hold. -/
def hostDelimiters : List Char :=
  ['\x00', '\t', '\n', '\r', ' ', '#', '/', ':', '<', '>', '?', '@', '[', '\\', ']', '^', '|']

/-- Whether a domain may not hold a character. -/
def isForbidden (c : Char) : Bool :=
  c.toNat < 0x20 || c.toNat == 0x7F || c == '%' || hostDelimiters.contains c

/-- How an encoded label begins. -/
def encodedMark : List Char := ['x', 'n', '-', '-']

/-- A label of a domain. -/
structure Label where
  /-- The characters that the label stands for. -/
  shown : List Char
  /-- The written form in ASCII. -/
  ascii : List Char
deriving DecidableEq, Repr

namespace Label

/-- Whether some characters make a label: no mark leads, and the joiners fit. -/
def isSound (cs : List Char) : Bool := !cs.head?.any Text.isMark && joinersFit [] cs

/-- Whether folding and normalization leave some characters as they are. -/
def isSettled (cs : List Char) : Bool :=
  cs.all (fun c => fold c == some [c]) && Text.normal cs == cs

/-- The label of some folded characters that are not encoded. -/
def plain? (cs : List Char) : Option Label :=
  if isSound cs then
    if cs.all (·.toNat < 0x80) then some ⟨cs, cs⟩
    else (Punycode.encode? cs).map fun encoded => ⟨cs, encodedMark ++ encoded⟩
  else none

/-- The label that some characters after `xn--` encode. -/
def encoded? (cs : List Char) : Option Label := do
  if cs.isEmpty || cs.getLast? == some '-' then none
  else
    let shown ← Punycode.decode? cs
    if isSettled shown && isSound shown then some ⟨shown, encodedMark ++ cs⟩ else none

/-- The label of some folded characters. -/
def ofChars? (cs : List Char) : Option Label :=
  if encodedMark.isPrefixOf cs then encoded? (cs.drop encodedMark.length) else plain? cs

end Label

/-- Whether the labels of a domain go together. -/
def labelsAgree (labels : List Label) : Bool :=
  !labels.any (fun l => isRightward l.shown) || labels.all fun l => keepsDirection l.shown

/-- The written form of a domain in ASCII. -/
def asciiDomain? (cs : List Char) : Option (List Char) := do
  let folded ← cs.mapM fold
  let domain := Text.normal folded.flatten
  if domain.any isForbidden then none
  else
    let labels ← (Text.pieces (· == '.') domain).mapM Label.ofChars?
    if labelsAgree labels then some (Text.join '.' (labels.map Label.ascii)) else none

end Url
end SchemaSet
