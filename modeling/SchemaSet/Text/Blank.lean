import SchemaSet.Text.Pieces
import SchemaSet.Text.Table

/-!
# White space

Three sets of white space are in use: that of the markup (space, tab, carriage return, line feed),
that of ASCII (with form feed) and that of Unicode.
-/

namespace SchemaSet
namespace Text

/-- The white space of the markup: space, tab, carriage return and line feed. -/
def isMarkupBlank (b : UInt8) : Bool := b == 0x20 || b == 0x09 || b == 0x0D || b == 0x0A

/-- ASCII white space: that of the markup and form feed. -/
def isAsciiBlank (b : UInt8) : Bool := isMarkupBlank b || b == 0x0C

/-- The code points with the property White_Space, as ranges. -/
def blankRanges : List (Nat × Nat) :=
  [(0x09, 0x0D), (0x20, 0x20), (0x85, 0x85), (0xA0, 0xA0), (0x1680, 0x1680), (0x2000, 0x200A),
    (0x2028, 0x2029), (0x202F, 0x202F), (0x205F, 0x205F), (0x3000, 0x3000)]

/-- Unicode white space. -/
def isBlank (c : Char) : Bool := inRanges blankRanges c.toNat

/-- Whether a text holds nothing but Unicode white space. -/
def isAllBlank (s : String) : Bool := s.toList.all isBlank

/-- The words of a text, separated by Unicode white space. -/
def blankWords (s : String) : List String := (words isBlank s.toList).map String.ofList

end Text
end SchemaSet
