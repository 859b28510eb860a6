import GatedMigration.Unicode.CharSet

/-!
# Sets of characters as sequences of bytes

A character is written as one to four bytes. `CharSet.byteRanges` cuts a set into parts whose
members are written with the same ranges of bytes at every place, in ascending order.
-/

namespace GatedMigration.Unicode

/-- The bytes that a code point is written with. -/
def utf8 (n : Nat) : List Nat :=
  let tail (k : Nat) : Nat := 0x80 + n / Nat.pow 64 k % 64
  if n ≤ 0x7F then [n]
  else if n ≤ 0x7FF then [0xC0 + n / 64, tail 0]
  else if n ≤ 0xFFFF then [0xE0 + n / Nat.pow 64 2, tail 1, tail 0]
  else [0xF0 + n / Nat.pow 64 3, tail 2, tail 1, tail 0]

/-- A range cut at the multiples of powers of 64, so that in every part the last digits to the base
64 either do not change or take all values for every value of the digits before them. -/
def alignedParts : Nat → Nat → Nat → List (Nat × Nat)
  | 0, a, b => [(a, b)]
  | k + 1, a, b =>
    let size := Nat.pow 64 (k + 1)
    if a / size = b / size then alignedParts k a b
    else
      let from_ := (a + size - 1) / size * size
      let to_ := (b + 1) / size * size
      (if a < from_ then alignedParts k a (from_ - 1) else [])
        ++ (if from_ < to_ then [(from_, to_ - 1)] else [])
        ++ (if to_ ≤ b then alignedParts k to_ b else [])

/-- The ranges of code points that are written with the same number of bytes. -/
def lengthRanges : List (Nat × Nat) :=
  [(0, 0x7F), (0x80, 0x7FF), (0x800, 0xD7FF), (0xE000, 0xFFFF), (0x10000, 0x10FFFF)]

/-- The ranges of bytes that the members of a range are written with. -/
def rangeBytes (a b : Nat) : List (List (Nat × Nat)) :=
  lengthRanges.flatMap fun (low, high) =>
    let a := max a low
    let b := min b high
    if b < a then []
    else if high = 0x7F then [[(a, b)]]
    else (alignedParts 3 a b).map fun (x, y) => (utf8 x).zip (utf8 y)

/-- The ranges of bytes that the members of a set are written with. -/
def CharSet.byteRanges (s : CharSet) : List (List (Nat × Nat)) :=
  s.ranges.flatMap fun (a, b) => rangeBytes a b

end GatedMigration.Unicode
