import GatedMigration.Pattern.Escape

/-!
# Classes

Sets of characters between brackets: members and ranges, sets with a name between colons, classes
inside one another, and the operations between them. A class is read together with its nesting: how
deep classes, unions of several members and operations stand one inside the other.
-/

namespace GatedMigration.Pattern

open Unicode (CharSet)

/-- The operations between parts of a class. -/
inductive SetOperation where
  | intersection
  | difference
  | symmetricDifference

/-- A set with the nesting of its notation. -/
structure NestedSet where
  set : CharSet
  nesting : Nat

/-- What has been read of a class: an operation with its left side, and the union after it with the
number of its members and the nesting of the deepest one. -/
structure ClassState where
  left : Option (SetOperation × NestedSet)
  union : CharSet
  members : Nat
  deepest : Nat

/-- A union without members, behind what has been read. -/
def ClassState.behind (left : Option (SetOperation × NestedSet)) : ClassState :=
  ⟨left, CharSet.empty, 0, 0⟩

/-- The union that is being read; one member alone makes no union. -/
def ClassState.right (st : ClassState) : NestedSet :=
  ⟨st.union, if st.members ≤ 1 then st.deepest else st.deepest + 1⟩

/-- The result of an operation. -/
def SetOperation.apply (m : Mode) (op : SetOperation) (l r : CharSet) : CharSet :=
  let l := m.fold l
  let r := m.fold r
  match op with
  | .intersection => l.intersect r
  | .difference => l.difference r
  | .symmetricDifference => l.symmetricDifference r

/-- The operation of a class carried out. -/
def ClassState.value (m : Mode) (st : ClassState) : NestedSet :=
  match st.left with
  | none => st.right
  | some (op, l) =>
    ⟨op.apply m l.set st.right.set, max l.nesting st.right.nesting + 1⟩

/-- A set joined to what has been read. -/
def ClassState.add (st : ClassState) (s : NestedSet) : ClassState :=
  { st with
    union := st.union.union s.set
    members := st.members + 1
    deepest := max st.deepest s.nesting }

/-- The next operation begun. -/
def ClassState.begin (m : Mode) (st : ClassState) (op : SetOperation) : ClassState :=
  .behind (some (op, st.value m))

/-- A character as a member of a class; without Unicode only those of ASCII can be. -/
def classChar? (m : Mode) (c : Char) : Option Char :=
  if m.unicode ∨ c.toNat < 128 then some c else none

/-- A set with a name between colons, after the opening bracket. -/
def readNamed (m : Mode) (cs : List Char) : Option (Option CharSet × List Char) :=
  match cs with
  | ':' :: rest =>
    let (negated, rest) := match rest with
      | '^' :: rest => (true, rest)
      | rest => (false, rest)
    match rest.takeWhile (· ≠ ':'), rest.dropWhile (· ≠ ':') with
    | name, ':' :: ']' :: rest =>
      (namedAscii.lookup (String.ofList name)).map fun text =>
        (m.close? negated (CharSet.ofText text), rest)
    | _, _ => none
  | _ => none

/-- One member of a class or the end of a range. -/
def readMember (m : Mode) : List Char → Option (Atom × List Char)
  | '\\' :: rest => readEscape m rest
  | c :: rest => some (.literal c false, rest)
  | [] => none

/-- An atom as a set. -/
def Atom.toSet? (m : Mode) : Atom → Option CharSet
  | .literal c _ => (classChar? m c).map CharSet.single
  | .set s => some s
  | .anchor _ => none

/-- An atom as the end of a range. -/
def Atom.toChar? (m : Mode) : Atom → Option Char
  | .literal c _ => classChar? m c
  | _ => none

/-- A member or a range of a class. A hyphen makes no range if a closing bracket or another hyphen
comes next. -/
def readRange (m : Mode) (cs : List Char) : Option (CharSet × List Char) := do
  let (first, rest) ← readMember m cs
  match m.skip rest with
  | [] => none
  | '-' :: more =>
    let next := m.peek more
    if next = some ']' ∨ next = some '-' then return (← first.toSet? m, '-' :: more)
    else do
      let (second, rest) ← readMember m (m.skip more)
      let a ← first.toChar? m
      let b ← second.toChar? m
      if a ≤ b then return (⟨[(a.toNat, b.toNat)]⟩, rest) else none
  | rest => return (← first.toSet? m, rest)

/-- The hyphens at the start of a class, which stand for themselves: their number and what follows
them. -/
def readHyphens (m : Mode) : Nat → Nat → List Char → Nat × List Char
  | 0, count, cs => (count, cs)
  | fuel + 1, count, cs =>
    match cs with
    | '-' :: rest => readHyphens m fuel (count + 1) (m.skip rest)
    | cs => (count, cs)

mutual

/-- A class after its opening bracket. -/
def readClass (m : Mode) : Nat → List Char → Option (NestedSet × List Char)
  | 0, _ => none
  | fuel + 1, cs =>
    let (negated, cs) := match m.skip cs with
      | '^' :: rest => (true, m.skip rest)
      | cs => (false, cs)
    let (hyphens, cs) := readHyphens m cs.length 0 cs
    let (first, cs) := match hyphens, cs with
      | 0, ']' :: rest => ((⟨none, CharSet.single ']', 1, 0⟩ : ClassState), rest)
      | 0, cs => (.behind none, cs)
      | n, cs => (⟨none, CharSet.single '-', n, 0⟩, cs)
    match readClassBody m fuel first cs with
    | some (s, rest) => (m.close? negated s.set).map fun set => (⟨set, s.nesting + 1⟩, rest)
    | none => none

/-- The members of a class up to its closing bracket. -/
def readClassBody (m : Mode) : Nat → ClassState → List Char → Option (NestedSet × List Char)
  | 0, _, _ => none
  | fuel + 1, st, cs =>
    match m.skip cs with
    | [] => none
    | ']' :: rest => some (st.value m, rest)
    | '[' :: rest =>
      match readNamed m rest with
      | some (none, _) => none
      | some (some s, rest) => readClassBody m fuel (st.add ⟨s, 0⟩) rest
      | none =>
        match readClass m fuel rest with
        | some (s, rest) => readClassBody m fuel (st.add s) rest
        | none => none
    | '&' :: '&' :: rest => readClassBody m fuel (st.begin m .intersection) rest
    | '-' :: '-' :: rest => readClassBody m fuel (st.begin m .difference) rest
    | '~' :: '~' :: rest => readClassBody m fuel (st.begin m .symmetricDifference) rest
    | cs =>
      match readRange m cs with
      | some (s, rest) => readClassBody m fuel (st.add ⟨s, 0⟩) rest
      | none => none

end

end GatedMigration.Pattern
