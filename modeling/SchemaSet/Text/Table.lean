/-!
# Tables of code points

A property of characters is a list of ranges, ends included, and a range may carry a value.  A map
of characters is a list of runs, each with its first code point and the values of the code points
from there on.
-/

namespace SchemaSet
namespace Text

/-- Whether a number lies in one of some ranges, ends included. -/
def inRanges (ranges : List (Nat × Nat)) (n : Nat) : Bool :=
  ranges.any fun r => r.1 ≤ n && n ≤ r.2

/-- The row, of a table of ranges with a value each, whose range holds a number. -/
def rowAt? (rows : List (Nat × Nat × Nat)) (n : Nat) : Option (Nat × Nat × Nat) :=
  rows.find? fun row => row.1 ≤ n && n ≤ row.2.1

/-- The value of a number in a list of runs. -/
def runAt? {α : Type} (runs : List (Nat × List α)) (n : Nat) : Option α :=
  (runs.find? fun run => run.1 ≤ n && n < run.1 + run.2.length).bind fun run => run.2[n - run.1]?

end Text
end SchemaSet
