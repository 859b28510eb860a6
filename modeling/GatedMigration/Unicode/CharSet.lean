import GatedMigration.Number.Digit
import GatedMigration.Pieces

/-!
# Sets of characters

A set of code points is a list of ranges, both ends included, that ascend and do not touch. The
tables of the Unicode properties are texts of hexadecimal ranges, read by `CharSet.ofText`.
-/

namespace GatedMigration.Unicode

/-- A set of code points, as ranges with both ends included. -/
structure CharSet where
  ranges : List (Nat × Nat)
deriving DecidableEq, Inhabited

/-- The words of a text between spaces and line ends. -/
def words (text : String) : List String :=
  ((pieces (fun c => c == ' ' || c == '\n') text.toList).filter (!·.isEmpty)).map String.ofList

/-- The value of a hexadecimal number. -/
def hexNat (cs : List Char) : Nat := (Digit.number? 16 cs).getD 0

/-- The values of hexadecimal numbers with hyphens between them. -/
def hexNats (w : String) : List Nat := (pieces (· == '-') w.toList).map hexNat

namespace CharSet

/-- The last code point. -/
def last : Nat := 0x10FFFF

/-- The set without members. -/
def empty : CharSet := ⟨[]⟩

/-- Ranges in ascending order of their lower ends, those that meet made one. -/
def merge : List (Nat × Nat) → List (Nat × Nat)
  | [] => []
  | [r] => [r]
  | (a, b) :: (c, d) :: rest =>
    if c ≤ b + 1 then merge ((a, max b d) :: rest) else (a, b) :: merge ((c, d) :: rest)
termination_by rs => rs.length

/-- The union of ranges in any order. -/
def ofRanges (rs : List (Nat × Nat)) : CharSet :=
  ⟨merge (rs.mergeSort fun r s => decide (r.1 ≤ s.1))⟩

/-- The set that a text of hexadecimal ranges lists. -/
def ofText (text : String) : CharSet :=
  ofRanges ((words text).filterMap fun w =>
    match hexNats w with
    | [a] => some (a, a)
    | [a, b] => some (a, b)
    | _ => none)

/-- The set of one character. -/
def single (c : Char) : CharSet := ⟨[(c.toNat, c.toNat)]⟩

/-- Whether a code point is a member. -/
def containsCode (s : CharSet) (n : Nat) : Bool :=
  s.ranges.any fun r => decide (r.1 ≤ n ∧ n ≤ r.2)

/-- Whether a character is a member. -/
def contains (s : CharSet) (c : Char) : Bool := s.containsCode c.toNat

/-- The members of either set. -/
def union (s t : CharSet) : CharSet := ofRanges (s.ranges ++ t.ranges)

/-- The members of any of the sets. -/
def unions (sets : List CharSet) : CharSet := ofRanges (sets.flatMap CharSet.ranges)

/-- The gaps between ranges, from a code point on and up to another. -/
def gaps (top : Nat) : Nat → List (Nat × Nat) → List (Nat × Nat)
  | from_, [] => if from_ ≤ top then [(from_, top)] else []
  | from_, (a, b) :: rest =>
    if from_ < a then (from_, a - 1) :: gaps top (b + 1) rest else gaps top (b + 1) rest

/-- The code points up to `top` that are no members. -/
def complement (s : CharSet) (top : Nat) : CharSet := ⟨gaps top 0 s.ranges⟩

/-- The members of both sets. -/
def intersect (s t : CharSet) : CharSet :=
  ((s.complement last).union (t.complement last)).complement last

/-- The members of the first set alone. -/
def difference (s t : CharSet) : CharSet := s.intersect (t.complement last)

/-- The members of one of the sets alone. -/
def symmetricDifference (s t : CharSet) : CharSet := (s.difference t).union (t.difference s)

/-- Whether every member is at most a code point. -/
def isUpTo (s : CharSet) (top : Nat) : Bool := s.ranges.all fun r => decide (r.2 ≤ top)

end CharSet

end GatedMigration.Unicode
