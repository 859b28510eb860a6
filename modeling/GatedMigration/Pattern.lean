import GatedMigration.Unicode.Property

/-!
# Patterns

A pattern is a regular expression over characters with conditions on places between them. Whether
a text contains a match is found by following all possible matches at once: `Pattern.step` gives
what is left of a pattern after one character, and the search keeps the set of these rests, so its
time grows with the text and not with the number of ways to match.
-/

namespace GatedMigration

open Unicode (CharSet)

/-- The characters around a place in a text. -/
structure Place where
  before : Option Char
  after : Option Char

/-- A condition on a place. -/
inductive Anchor where
  | textStart
  | textEnd
  /-- After a line feed or at the start. -/
  | lineStart
  /-- Before a line feed or at the end. -/
  | lineEnd
  /-- Like `lineStart`, with a carriage return, a line feed or both as the end of a line. -/
  | lineStartCrlf
  | lineEndCrlf
  /-- Between a word character and another one. -/
  | boundary (word : CharSet)
  | noBoundary (word : CharSet)
  | wordStart (word : CharSet)
  | wordEnd (word : CharSet)
  /-- Not after a word character. -/
  | wordStartHalf (word : CharSet)
  /-- Not before a word character. -/
  | wordEndHalf (word : CharSet)
deriving DecidableEq

/-- Whether a side of a place has a member of a set. -/
def Place.has (s : CharSet) : Option Char → Bool
  | some c => s.contains c
  | none => false

/-- Whether a condition holds at a place. -/
def Anchor.holds (p : Place) : Anchor → Bool
  | .textStart => p.before.isNone
  | .textEnd => p.after.isNone
  | .lineStart => p.before.isNone || p.before == some '\n'
  | .lineEnd => p.after.isNone || p.after == some '\n'
  | .lineStartCrlf =>
    p.before.isNone || p.before == some '\n' || (p.before == some '\r' && p.after != some '\n')
  | .lineEndCrlf =>
    p.after.isNone || p.after == some '\r' || (p.after == some '\n' && p.before != some '\r')
  | .boundary w => Place.has w p.before != Place.has w p.after
  | .noBoundary w => Place.has w p.before == Place.has w p.after
  | .wordStart w => !Place.has w p.before && Place.has w p.after
  | .wordEnd w => Place.has w p.before && !Place.has w p.after
  | .wordStartHalf w => !Place.has w p.before
  | .wordEndHalf w => !Place.has w p.after

/-- A regular expression over characters. -/
inductive Pattern where
  | empty
  | anchor (a : Anchor)
  | chars (s : CharSet)
  | seq (r s : Pattern)
  | either (r s : Pattern)
  /-- At least `least` times and, if there is a bound, at most that often. -/
  | times (r : Pattern) (least : Nat) (most : Option Nat)
deriving DecidableEq, Inhabited

namespace Pattern

/-- Whether the empty text at a place matches. -/
def nullable (p : Place) : Pattern → Bool
  | .empty => true
  | .anchor a => a.holds p
  | .chars _ => false
  | .seq r s => nullable p r && nullable p s
  | .either r s => nullable p r || nullable p s
  | .times r least _ => least == 0 || nullable p r

/-- One pattern after another, where the empty one is left out. -/
def followedBy (s : Pattern) : Pattern → Pattern
  | .empty => s
  | r => .seq r s

/-- What is left of a repetition after one character, given what is left of its body and whether
the body matches the empty text here. If it does, the rounds that are still due may all have been
empty ones. -/
def stepTimes (r : Pattern) (rests : List Pattern) (skips : Bool) (least : Nat) :
    Option Nat → List Pattern
  | some 0 => []
  | most =>
    rests.map (followedBy (.times r (if skips then 0 else least - 1) (most.map (· - 1))))

/-- What is left of a pattern after a character at a place. -/
def step (p : Place) (c : Char) : Pattern → List Pattern
  | .empty => []
  | .anchor _ => []
  | .chars s => if s.contains c then [.empty] else []
  | .seq r s => (step p c r).map (followedBy s) ++ if nullable p r then step p c s else []
  | .either r s => step p c r ++ step p c s
  | .times r least most => stepTimes r (step p c r) (nullable p r) least most

/-- One more number taken into a mark. -/
def mix (m n : UInt64) : UInt64 := (m ^^^ n) * 1099511628211

/-- A number that equal patterns share and that most others do not. Of a set of characters only the
first range counts. -/
def mark : Pattern → UInt64
  | .empty => 1
  | .anchor _ => 2
  | .chars s =>
    match s.ranges with
    | (low, high) :: _ => mix (mix 3 low.toUInt64) high.toUInt64
    | [] => 3
  | .seq r s => mix (mix 4 (mark r)) (mark s)
  | .either r s => mix (mix 5 (mark r)) (mark s)
  | .times r least most =>
    mix (mix (mix 6 (mark r)) least.toUInt64) (most.getD 0).toUInt64

/-- Patterns with their marks, each taken once. `alike` holds those taken that have the mark `m`,
and only with these the next pattern of that mark is compared. -/
def distinctFrom (m : UInt64) (alike : List Pattern) : List (UInt64 × Pattern) → List Pattern
  | [] => alike
  | (n, r) :: rest =>
    if n = m then distinctFrom m (if r ∈ alike then alike else r :: alike) rest
    else alike ++ distinctFrom n [r] rest

theorem mem_distinctFrom {q : Pattern} {m : UInt64} {alike : List Pattern}
    {marked : List (UInt64 × Pattern)} :
    q ∈ distinctFrom m alike marked ↔ q ∈ alike ∨ q ∈ marked.map Prod.snd := by
  induction marked generalizing m alike with
  | nil => simp [distinctFrom]
  | cons p rest ih =>
    obtain ⟨n, r⟩ := p
    by_cases hn : n = m
    · by_cases hr : r ∈ alike <;> grind [distinctFrom]
    · grind [distinctFrom]

/-- The patterns of a list without repetitions, in some order. -/
def distinct (rs : List Pattern) : List Pattern :=
  distinctFrom 0 [] ((rs.map fun r => (mark r, r)).mergeSort fun a b => decide (a.1 ≤ b.1))

theorem mem_distinct {q : Pattern} {rs : List Pattern} : q ∈ distinct rs ↔ q ∈ rs := by
  simp [distinct, mem_distinctFrom]

/-- Whether the rests of earlier starts or the pattern itself, started at any place from here on,
match a beginning of the text. -/
def search (r : Pattern) (rests : List Pattern) (before : Option Char) : List Char → Bool
  | [] => (r :: rests).any (nullable ⟨before, none⟩)
  | c :: cs =>
    let place : Place := ⟨before, some c⟩
    let active := r :: rests
    active.any (nullable place) ||
      search r (distinct (active.flatMap (step place c))) (some c) cs

/-- Whether a text contains a match. -/
def occursIn (r : Pattern) (text : String) : Bool := search r [] none text.toList

end Pattern

end GatedMigration
