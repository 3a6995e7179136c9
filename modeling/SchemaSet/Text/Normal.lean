import SchemaSet.Text.Decomposition
import SchemaSet.Text.Mark

/-!
# Normalization form C

Every character is taken apart, the marks after each character are brought into the order of their
classes, and what can be composed is composed.  Hangul syllables are taken apart and composed by
arithmetic.
-/

namespace SchemaSet
namespace Text

section Hangul

/-- The first leading consonant. -/
def leadBase : Nat := 0x1100

/-- The number of leading consonants. -/
def leadCount : Nat := 19

/-- The first vowel. -/
def vowelBase : Nat := 0x1161

/-- The number of vowels. -/
def vowelCount : Nat := 21

/-- The code point before the first trailing consonant. -/
def trailBase : Nat := 0x11A7

/-- One more than the number of trailing consonants. -/
def trailCount : Nat := 28

/-- The first syllable. -/
def syllableBase : Nat := 0xAC00

/-- The number of syllables. -/
def syllableCount : Nat := leadCount * vowelCount * trailCount

/-- The letters of a syllable. -/
def lettersOf (n : Nat) : Option (List Nat) :=
  if syllableBase ≤ n && n < syllableBase + syllableCount then
    let i := n - syllableBase
    let pair := [leadBase + i / trailCount / vowelCount, vowelBase + i / trailCount % vowelCount]
    some (if i % trailCount == 0 then pair else pair ++ [trailBase + i % trailCount])
  else none

/-- The syllable of a leading consonant and a vowel, or of a syllable without a trailing
consonant and such a consonant. -/
def syllable? (a b : Nat) : Option Nat :=
  if leadBase ≤ a && a < leadBase + leadCount then
    if vowelBase ≤ b && b < vowelBase + vowelCount then
      some (syllableBase + ((a - leadBase) * vowelCount + (b - vowelBase)) * trailCount)
    else none
  else if syllableBase ≤ a && a < syllableBase + syllableCount &&
      (a - syllableBase) % trailCount == 0 && trailBase < b && b < trailBase + trailCount then
    some (a + (b - trailBase))
  else none

end Hangul

/-- What a code point is taken apart into in one step. -/
def partsOf (n : Nat) : List Nat :=
  match composites.find? (·.1 == n) with
  | some (_, a, b) => [a, b]
  | none =>
      ((runAt? variants n).map fun m => [m]) <|> expansions.lookup n <|> lettersOf n |>.getD [n]

/-- A character taken apart.  A composite is nested three deep at most. -/
def decompose (c : Char) : List Char :=
  (((partsOf c.toNat).flatMap partsOf).flatMap partsOf).map Char.ofNat

/-- Puts a character before others; a mark moves past the marks of smaller classes. -/
def insertMark (c : Char) : List Char → List Char
  | [] => [c]
  | d :: r =>
      if 0 < combiningClass d && combiningClass d < combiningClass c then d :: insertMark c r
      else c :: d :: r

/-- The characters with the marks after each of them in the order of their classes. -/
def arrange (cs : List Char) : List Char := cs.foldr insertMark []

/-- The composite of two characters. -/
def composite? (a b : Char) : Option Char :=
  ((composites.find? fun row => row.2.1 == a.toNat && row.2.2 == b.toNat).map
    (Char.ofNat ·.1)) <|> (syllable? a.toNat b.toNat).map Char.ofNat

/-- Composes a character and what follows it, when the marks between them do not stand in the
way. -/
def composeFrom (c : Char) (between : List Char) : List Char → List Char
  | [] => c :: between
  | d :: r =>
      let reached := between.all fun m => combiningClass m < combiningClass d
      match if reached then composite? c d else none with
      | some e => composeFrom e between r
      | none =>
          if combiningClass d == 0 then c :: between ++ composeFrom d [] r
          else composeFrom c (between ++ [d]) r

/-- The characters with everything composed that can be. -/
def compose : List Char → List Char
  | [] => []
  | c :: r => composeFrom c [] r

/-- The normalization form C of some characters. -/
def normal (cs : List Char) : List Char := compose (arrange (cs.flatMap decompose))

end Text
end SchemaSet
