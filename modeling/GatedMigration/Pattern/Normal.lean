import GatedMigration.Pattern.Expression
import GatedMigration.Unicode.Utf8

/-!
# Normal form of expressions

What an automaton is built from: an expression with its characters as bytes and without what makes
no difference to it. Literals that stand side by side are one, sequences hold no sequences and
alternatives no alternatives, a set of one character is a literal, alternatives of one character or
set each are a set, and what all alternatives begin with stands before them. What matches the empty
text alone is not repeated.
-/

namespace GatedMigration

open Unicode (CharSet)

/-- An expression in normal form. -/
inductive Normal where
  | empty
  | literal (bytes : List Nat)
  | set (s : CharSet)
  | anchor (a : Anchor)
  | repeated (r : Normal) (least : Nat) (most : Option Nat) (greedy : Bool)
  | group (number : Nat) (r : Normal)
  | sequence (rs : List Normal)
  | alternatives (rs : List Normal)
deriving Inhabited

namespace Normal

mutual

/-- Whether two expressions are the same. -/
def same : Normal → Normal → Bool
  | empty, empty => true
  | literal a, literal b => a == b
  | set s, set t => s == t
  | anchor a, anchor b => a == b
  | repeated r a b g, repeated s c d h => a == c && b == d && g == h && same r s
  | group m r, group n s => m == n && same r s
  | sequence rs, sequence ss => sameAll rs ss
  | alternatives rs, alternatives ss => sameAll rs ss
  | _, _ => false

/-- Whether two lists of expressions are the same. -/
def sameAll : List Normal → List Normal → Bool
  | [], [] => true
  | r :: rs, s :: ss => same r s && sameAll rs ss
  | _, _ => false

end

/-! ## Lengths -/

/-- The number of bytes of the shortest text in a set. -/
def shortestOf (s : CharSet) : Option Nat := s.ranges.head?.map fun r => (Unicode.utf8 r.1).length

/-- The number of bytes of the longest text in a set. -/
def longestOf (s : CharSet) : Option Nat := s.ranges.getLast?.map fun r => (Unicode.utf8 r.2).length

mutual

/-- A number of bytes that no match falls short of. What matches nothing, and what needs it, has
none. -/
def shortest? : Normal → Option Nat
  | empty => some 0
  | literal bytes => some bytes.length
  | set s => shortestOf s
  | anchor _ => some 0
  | repeated r least _ _ => (shortest? r).map (· * least)
  | group _ r => shortest? r
  | sequence rs => shortestOfAll? rs
  | alternatives rs => shortestOfAny? rs

/-- The sum of the shortest lengths. -/
def shortestOfAll? : List Normal → Option Nat
  | [] => some 0
  | r :: rs =>
    match shortest? r, shortestOfAll? rs with
    | some a, some b => some (a + b)
    | _, _ => none

/-- The least of the shortest lengths. -/
def shortestOfAny? : List Normal → Option Nat
  | [] => none
  | [r] => shortest? r
  | r :: rs =>
    match shortest? r, shortestOfAny? rs with
    | some a, some b => some (min a b)
    | _, _ => none

end

mutual

/-- The number of bytes that no match goes beyond, if there is one. -/
def longest? : Normal → Option Nat
  | empty => some 0
  | literal bytes => some bytes.length
  | set s => longestOf s
  | anchor _ => some 0
  | repeated r _ most _ =>
    match most, longest? r with
    | some n, some a => some (a * n)
    | _, _ => none
  | group _ r => longest? r
  | sequence rs => longestOfAll? rs
  | alternatives rs => longestOfAny? rs

/-- The sum of the longest lengths. -/
def longestOfAll? : List Normal → Option Nat
  | [] => some 0
  | r :: rs =>
    match longest? r, longestOfAll? rs with
    | some a, some b => some (a + b)
    | _, _ => none

/-- The greatest of the longest lengths. -/
def longestOfAny? : List Normal → Option Nat
  | [] => none
  | [r] => longest? r
  | r :: rs =>
    match longest? r, longestOfAny? rs with
    | some a, some b => some (max a b)
    | _, _ => none

end

/-- Whether nothing but the empty text is matched. -/
def isWidthless (r : Normal) : Bool := longest? r == some 0

/-! ## Building normal forms -/

/-- A set; one of a single character is a literal. -/
def ofSet (s : CharSet) : Normal :=
  match s.ranges with
  | [(a, b)] => if a = b then .literal (Unicode.utf8 a) else .set s
  | _ => .set s

/-- A repetition. One of what matches the empty text alone has one round at most. -/
def times (r : Normal) (least : Nat) (most : Option Nat) (greedy : Bool) : Normal :=
  let (least, most) := if r.isWidthless then (min least 1, some (min (most.getD 1) 1))
    else (least, most)
  if least = 0 ∧ most = some 0 then .empty
  else if least = 1 ∧ most = some 1 then r
  else .repeated r least most greedy

/-- What an expression adds to a sequence. -/
def parts : Normal → List Normal
  | empty => []
  | sequence rs => rs
  | r => [r]

/-- Literals that stand side by side made one. -/
def joinLiterals : List Normal → List Normal
  | [] => []
  | r :: rs =>
    match r, joinLiterals rs with
    | literal a, literal b :: rest => .literal (a ++ b) :: rest
    | r, rest => r :: rest

/-- Expressions one after the other. -/
def concat (rs : List Normal) : Normal :=
  match joinLiterals (rs.flatMap parts) with
  | [] => .empty
  | [r] => r
  | rs => .sequence rs

/-- The alternatives that an expression has. -/
def choices : Normal → List Normal
  | alternatives rs => rs
  | r => [r]

/-- The code point that a literal of one character stands for. -/
def codeOf? (bytes : List Nat) : Option Nat :=
  match bytes with
  | [a] => some a
  | [a, b] => if 0xC0 ≤ a then some ((a - 0xC0) * 64 + (b - 0x80)) else none
  | [a, b, c] => if 0xE0 ≤ a then some (((a - 0xE0) * 64 + (b - 0x80)) * 64 + (c - 0x80)) else none
  | [a, b, c, d] =>
    if 0xF0 ≤ a then some ((((a - 0xF0) * 64 + (b - 0x80)) * 64 + (c - 0x80)) * 64 + (d - 0x80))
    else none
  | _ => none

/-- The set of one character that a literal is. -/
def charSet? : Normal → Option CharSet
  | literal bytes => (codeOf? bytes).map fun n => ⟨[(n, n)]⟩
  | _ => none

/-- The set that an expression is. -/
def set? : Normal → Option CharSet
  | set s => some s
  | _ => none

/-- The parts that two sequences begin with. -/
def commonPrefix : List Normal → List Normal → List Normal
  | r :: rs, s :: ss => if same r s then r :: commonPrefix rs ss else []
  | _, _ => []

/-- The parts of a sequence. -/
def sequence? : Normal → Option (List Normal)
  | sequence rs => some rs
  | _ => none

/-- What all sequences begin with. -/
def prefixOfAll : List (List Normal) → List Normal
  | [] => []
  | rs :: rest => rest.foldl commonPrefix rs

/-- Alternatives. Each round takes away something that they all begin with, and `rounds` bounds
their number. -/
def choiceWithin : Nat → List Normal → Normal
  | 0, rs => .alternatives rs
  | rounds + 1, rs =>
    match rs.flatMap choices with
    | [] => .set CharSet.empty
    | [r] => r
    | rs =>
      match (rs.mapM charSet?).or (rs.mapM set?) with
      | some sets => ofSet (CharSet.unions sets)
      | none =>
        match rs.mapM sequence? with
        | none => .alternatives rs
        | some lists =>
          match prefixOfAll lists with
          | [] => .alternatives rs
          | common =>
            concat (common
              ++ [choiceWithin rounds (lists.map fun l => concat (l.drop common.length))])

/-- Alternatives. -/
def choice (rs : List Normal) : Normal :=
  choiceWithin ((rs.map fun r => (parts r).length).foldl max 0 + 1) rs

end Normal

mutual

/-- The normal form of an expression. -/
def Expression.normal : Expression → Normal
  | .nothing => .empty
  | .flags => .empty
  | .set s _ => .ofSet s
  | .anchor a => .anchor a
  | .repeated e least most greedy => .times (normal e) least most greedy
  | .group none e => normal e
  | .group (some n) e => .group n (normal e)
  | .sequence es => .concat (normalOfAll es)
  | .alternatives es => .choice (normalOfAll es)

/-- The normal forms of the parts. -/
def Expression.normalOfAll : List Expression → List Normal
  | [] => []
  | e :: es => normal e :: normalOfAll es

end

end GatedMigration
