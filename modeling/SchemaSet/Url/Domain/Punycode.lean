import SchemaSet.Text.Pieces

/-!
# Punycode

The characters of a label of a domain that lie beyond ASCII are encoded.  ASCII characters stand
before the last hyphen.  Each integer after it tells the next character to insert: how far its code
point lies above that of the character before, times the number of places, plus the place.

The digits of an integer come least first; a digit below its threshold is the last, and the
thresholds adapt to the integers before.  No threshold is zero (`threshold_pos`), so that a digit of
zero ends an integer.
-/

namespace SchemaSet
namespace Url
namespace Punycode

/-- The number of digits. -/
def base : Nat := 36

/-- The bound on all numbers. -/
def bound : Nat := 0x100000000

/-- The greatest number of characters that are decoded. -/
def decodeLimit : Nat := 2000

/-- The greatest number of characters that are encoded. -/
def encodeLimit : Nat := 1000

/-- The bias before the first integer. -/
def firstBias : Nat := 72

/-- The code point from which the first integer counts. -/
def firstPoint : Nat := 0x80

/-- A digit: the letters and then the numerals. -/
def digit (n : Nat) : Char := if n < 26 then Char.ofNat (0x61 + n) else Char.ofNat (0x16 + n)

/-- The value of a digit of either case. -/
def digit? (c : Char) : Option Nat :=
  if 'a' ≤ c && c ≤ 'z' then some (c.toNat - 0x61)
  else if 'A' ≤ c && c ≤ 'Z' then some (c.toNat - 0x41)
  else if '0' ≤ c && c ≤ '9' then some (c.toNat - 0x16)
  else none

/-- The least value that a digit which is not the last has; `k` is 36 at the first digit of an
integer and 36 more at each next one. -/
def threshold (bias k : Nat) : Nat := if k ≤ bias then 1 else min 26 (k - bias)

theorem threshold_pos (bias k : Nat) : 0 < threshold bias k := by
  unfold threshold
  split <;> omega

/-- Divides a number until it is small; the bias grows with each division. -/
def scale (bias n : Nat) : Nat :=
  if 455 < n then scale (bias + base) (n / 35) else bias + 36 * n / (n + 38)
termination_by n
decreasing_by exact Nat.div_lt_self (by omega) (by omega)

/-- The bias after an integer; `places` is the number of characters after its insertion. -/
def adapt (first : Bool) (places n : Nat) : Nat :=
  let m := n / (if first then 700 else 2)
  scale 0 (m + m / places)

section Decode

/-- Where the reading of integers stands. -/
structure Reading where
  /-- The characters so far. -/
  text : List Char
  /-- The code point of the last character inserted. -/
  point : Nat
  /-- The place after the last character inserted. -/
  place : Nat
  bias : Nat
  /-- The place with what the digits of the integer have added so far. -/
  sum : Nat
  /-- The weight of the next digit. -/
  weight : Nat
  /-- The position of the next digit, where 36 is the first. -/
  k : Nat

/-- The reading after the last digit of an integer. -/
def Reading.insert (r : Reading) (sum : Nat) : Option Reading :=
  let places := r.text.length + 1
  let point := r.point + sum / places
  if point.isValidChar then
    some
      { text := r.text.insertIdx (sum % places) (Char.ofNat point), point,
        place := sum % places + 1, bias := adapt (r.place == 0) places (sum - r.place),
        sum := sum % places + 1, weight := 1, k := base }
  else none

/-- Reads a digit. -/
def Reading.step (r : Reading) (c : Char) : Option Reading := do
  let n ← digit? c
  let sum := r.sum + n * r.weight
  let t := threshold r.bias r.k
  if bound ≤ sum then none
  else if n < t then r.insert sum
  else if bound ≤ r.weight * (base - t) then none
  else some { r with sum, weight := r.weight * (base - t), k := r.k + base }

/-- The characters before the last hyphen, and those after it.  A hyphen in the first place
separates nothing. -/
def cutHyphen (cs : List Char) : List Char × List Char :=
  match Text.cut (· == '-') cs.reverse with
  | some (after, before) => if before.isEmpty then ([], cs) else (before.reverse, after.reverse)
  | none => ([], cs)

/-- The characters that an encoded label stands for. -/
def decode? (cs : List Char) : Option (List Char) := do
  let (text, integers) := cutHyphen cs
  let r ← integers.foldlM Reading.step ⟨text, firstPoint, 0, firstBias, 0, 1, base⟩
  if cs.length ≤ decodeLimit && r.k == base then some r.text else none

end Decode

section Encode

/-- The digits of an integer from a position on. -/
def digits (bias k n : Nat) : List Char :=
  let t := threshold bias k
  if n < t then [digit n]
  else digit (t + (n - t) % (base - t)) :: digits bias (k + base) ((n - t) / (base - t))
termination_by n
decreasing_by
  have h := threshold_pos bias k
  have hd := Nat.div_le_self (n - threshold bias k) (base - threshold bias k)
  omega

/-- Where the writing of integers stands. -/
structure Writing where
  /-- The digits so far, integer by integer. -/
  text : List Char
  /-- The next integer as far as it is known. -/
  delta : Nat
  bias : Nat
  /-- The number of characters written so far. -/
  written : Nat

/-- Passes a character while the characters with code point `m` are written. -/
def Writing.pass (ascii m : Nat) (w : Writing) (c : Char) : Writing :=
  if c.toNat < m then { w with delta := w.delta + 1 }
  else if c.toNat == m then
    { text := w.text ++ digits w.bias base w.delta, delta := 0,
      bias := adapt (w.written == ascii) (w.written + 1) w.delta, written := w.written + 1 }
  else w

/-- Writes the characters of a label with the code points `ms`, which are in order; `n` is the
least code point that is not written yet. -/
def Writing.writeAll (label : List Char) (ascii n : Nat) (w : Writing) : List Nat → Writing
  | [] => w
  | m :: ms =>
      let v := { w with delta := w.delta + (m - n) * (w.written + 1) }
      let v := label.foldl (pass ascii m) v
      writeAll label ascii (m + 1) { v with delta := v.delta + 1 } ms

/-- The encoded form of a label with characters beyond ASCII. -/
def encode? (label : List Char) : Option (List Char) :=
  let ascii := label.filter fun c => c.toNat < firstPoint
  let points := ((label.map Char.toNat).filter (firstPoint ≤ ·)).eraseDups.mergeSort
  let w := Writing.writeAll label ascii.length firstPoint ⟨[], 0, firstBias, ascii.length⟩ points
  if label.length ≤ encodeLimit then
    some ((if ascii.isEmpty then [] else ascii ++ ['-']) ++ w.text)
  else none

end Encode

end Punycode
end Url
end SchemaSet
