import GatedMigration.Pattern

/-!
# Expressions

The tree of a regular expression as it is written: with its groups, with the flags that stand
between its parts, and with sequences and alternatives of any length. `Expression.pattern` is the
pattern that an expression denotes, and `Expression.nesting` tells how deep it goes.
-/

namespace GatedMigration

open Unicode (CharSet)

/-- A regular expression as it is written. -/
inductive Expression where
  | nothing
  /-- Flags for what follows. -/
  | flags
  /-- A character or a set of characters; the brackets of the set go `depth` deep. -/
  | set (s : CharSet) (depth : Nat)
  | anchor (a : Anchor)
  /-- At least `least` times and, if there is a bound, at most that often; as often as possible if
  it is `greedy`, which counts for the place of a match alone. -/
  | repeated (e : Expression) (least : Nat) (most : Option Nat) (greedy : Bool)
  /-- Parentheses, with their number if they capture what they match. -/
  | group (number : Option Nat) (e : Expression)
  | sequence (es : List Expression)
  | alternatives (es : List Expression)
deriving Inhabited

namespace Expression

/-- The parts of a sequence as one expression. -/
def ofParts : List Expression → Expression
  | [] => .nothing
  | [e] => e
  | es => .sequence es

/-- Alternatives as one expression. -/
def ofAlternatives : List Expression → Expression
  | [] => .nothing
  | [e] => e
  | es => .alternatives es

mutual

/-- How deep sets, repetitions, groups, sequences and alternatives stand one inside the other. -/
def nesting : Expression → Nat
  | nothing => 0
  | flags => 0
  | set _ depth => depth
  | anchor _ => 0
  | repeated e _ _ _ => nesting e + 1
  | group _ e => nesting e + 1
  | sequence es => nestingOfAll es + 1
  | alternatives es => nestingOfAll es + 1

/-- The nesting of the deepest part. -/
def nestingOfAll : List Expression → Nat
  | [] => 0
  | e :: es => max (nesting e) (nestingOfAll es)

end

mutual

/-- The pattern that an expression denotes. -/
def pattern : Expression → Pattern
  | nothing => .empty
  | flags => .empty
  | set s _ => .chars s
  | anchor a => .anchor a
  | repeated e least most _ => .times (pattern e) least most
  | group _ e => pattern e
  | sequence es => patternOfSequence es
  | alternatives es => patternOfAlternatives es

/-- The patterns of all parts, one after the other. -/
def patternOfSequence : List Expression → Pattern
  | [] => .empty
  | [e] => pattern e
  | e :: es => Pattern.followedBy (patternOfSequence es) (pattern e)

/-- The pattern that matches what any of the alternatives matches. -/
def patternOfAlternatives : List Expression → Pattern
  | [] => .chars CharSet.empty
  | [e] => pattern e
  | e :: es => .either (pattern e) (patternOfAlternatives es)

end

end Expression

end GatedMigration
