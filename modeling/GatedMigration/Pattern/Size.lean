import GatedMigration.Pattern.Normal
import Std.Data.HashMap

/-!
# The size of an automaton

An expression is refused if an automaton for it, read forwards or backwards, would take more than
ten mebibytes. The automaton works on bytes. Its states are counted here without being built: every
state has a fixed size, and some keep a list besides, of the ranges of bytes that they accept or of
the states that they branch to. `Normal.fits` says whether both automata stay within the bound.

Characters beyond ASCII make many states. Read forwards, two parts of a set that are followed by the
same bytes share the states behind them; read backwards, two parts that end with the same bytes
share the states for these. States to share are looked up in a table of fixed size, where every
state has one place: a newer one drives out the older one, which is not shared any more.
-/

namespace GatedMigration.Normal

open Unicode (CharSet)

/-! ## States -/

/-- What is known of an automaton in the making: how many states it has, and how many bytes their
lists take. -/
structure Draft where
  states : Nat
  listBytes : Nat

/-- The size of a state without its list. -/
def stateBytes : Nat := 32

/-- The size of a range of bytes in the list of a state. -/
def rangeBytes : Nat := 8

/-- The size of a state named in the list of another one. -/
def branchBytes : Nat := 4

/-- The size that no automaton may go beyond. -/
def maxBytes : Nat := 10 * Nat.pow 2 20

namespace Draft

/-- The draft of an automaton without states. -/
def start : Draft := ⟨0, 0⟩

/-- The size of the automaton. -/
def bytes (d : Draft) : Nat := stateBytes * d.states + d.listBytes

/-- A draft that is within the bound. -/
def checked (d : Draft) : Option Draft := if d.bytes ≤ maxBytes then some d else none

/-- Some more states, with the bytes of their lists. -/
def add (d : Draft) (states listBytes : Nat) : Option Draft :=
  checked ⟨d.states + states, d.listBytes + listBytes⟩

/-- Some more branches in the lists of states. -/
def branch (d : Draft) (n : Nat) : Option Draft := d.add 0 (branchBytes * n)

/-- A state led to the next one, which takes a branch if it is one that branches. -/
def link (d : Draft) (branches : Bool) : Option Draft := d.branch (if branches then 1 else 0)

end Draft

/-- How the automaton of an expression is put behind a draft; the answer tells besides whether its
last state is one that branches. -/
structure Plan where
  run : Draft → Option (Bool × Draft)

namespace Plan

/-- Some states the last of which does not branch. -/
def states (n listBytes : Nat) : Plan := ⟨fun d => (d.add n listBytes).map (false, ·)⟩

/-- An automaton put behind another one and linked to it some times over. -/
def follow (p : Plan) : Nat → Bool × Draft → Option (Bool × Draft)
  | 0, done => some done
  | n + 1, (branches, d) =>
    match p.run d with
    | none => none
    | some (next, d) =>
      match d.link branches with
      | none => none
      | some d => follow p n (next, d)

/-- The same automaton a number of times. -/
def exactly (p : Plan) : Nat → Plan
  | 0 => states 1 0
  | n + 1 => ⟨fun d => (p.run d).bind (p.follow n)⟩

/-- One automaton behind another. -/
def andThen (p q : Plan) : Plan := ⟨fun d => (p.run d).bind (q.follow 1)⟩

/-- An automaton, or nothing: a state in front of it branches to it and to the end. -/
def optional (p : Plan) : Plan :=
  ⟨fun d => do
    let (branches, d) ← p.run (← d.add 1 (2 * branchBytes))
    return (false, ← (← d.add 1 0).link branches)⟩

/-- An automaton with a state behind it that branches back to its start. -/
def again (p : Plan) : Plan :=
  ⟨fun d => do
    let (branches, d) ← p.run d
    return (true, ← (← d.add 1 branchBytes).link branches)⟩

/-- An automaton any number of times. A state in front of it branches to it, and the automaton leads
back there; if it accepts the empty text too, the state that branches back is another one than the
state that passes it by. -/
def many (p : Plan) (acceptsEmpty : Bool) : Plan :=
  if acceptsEmpty then
    ⟨fun d => do
      let (_, d) ← p.again.run d
      return (false, ← d.add 2 (3 * branchBytes))⟩
  else
    ⟨fun d => do
      let (branches, d) ← p.run (← d.add 1 branchBytes)
      return (true, ← d.link branches)⟩

/-- An automaton at least a number of times. -/
def atLeast (p : Plan) (acceptsEmpty : Bool) : Nat → Plan
  | 0 => p.many acceptsEmpty
  | 1 => p.again
  | n + 1 => (p.exactly n).andThen p.again

/-- Some more times an automaton, each of which a branch to the end passes by. -/
def upTo (p : Plan) : Nat → Bool × Draft → Option (Bool × Draft)
  | 0, (branches, d) => (d.link branches).map (false, ·)
  | n + 1, (branches, d) =>
    match (d.add 1 (2 * branchBytes)).bind p.run with
    | none => none
    | some (next, d) =>
      match d.link branches with
      | none => none
      | some d => upTo p n (next, d)

/-- An automaton between two numbers of times. -/
def between (p : Plan) (least most : Nat) : Plan :=
  if least = 0 ∧ most = 1 then p.optional
  else if least = most then p.exactly least
  else ⟨fun d => do
    let (branches, d) ← (p.exactly least).run d
    p.upTo (most - least) (branches, ← d.add 1 0)⟩

/-- One automaton behind the other. -/
def inTurn : List Plan → Plan
  | [] => states 1 0
  | p :: ps => ps.foldl andThen p

/-- One more automaton between a state that branches to it and one where it ends. -/
def beside (d : Draft) (p : Plan) : Option Draft := do
  let (branches, d) ← p.run d
  (← d.branch 1).link branches

/-- Automata side by side, between a state that branches to them and one where they meet; these two
states come behind the first two automata. -/
def sideBySide (ps : List Plan) : Plan :=
  ⟨fun d => do
    let d ← (ps.take 2).foldlM beside d
    return (false, ← (ps.drop 2).foldlM beside (← d.add 2 0))⟩

end Plan

/-! ## Literals side by side -/

/-- The texts in groups of the same first byte, without it, in ascending order of that byte. -/
def byFirstByte (texts : List (List Nat)) : List (List (List Nat)) :=
  let heads := (texts.filterMap List.head?).eraseDups.mergeSort (· ≤ ·)
  heads.map fun b => texts.filterMap fun
    | [] => none
    | a :: rest => if a = b then some rest else none

/-- The texts up to each one that ends here, and those behind the last one that does. An end behind
another end counts only if something goes on in front of it. -/
def runs (goesOn : Bool) (run : List (List Nat)) : List (List Nat) → List (List (List Nat))
  | [] => [run.reverse]
  | [] :: texts =>
    if goesOn ∨ run.isEmpty = false then run.reverse :: runs true [] texts
    else runs false run texts
  | text :: texts => runs goesOn (text :: run) texts

/-- The states and the bytes of their lists for texts that begin in one state: for each of the runs
of texts one that accepts their first bytes, and one that branches to these and to the end. -/
def treeOf : Nat → List (List Nat) → Nat × Nat
  | 0, _ => (0, 0)
  | depth + 1, texts =>
    let runs := match texts with
      | [] :: rest => [] :: runs false [] rest
      | texts => runs false [] texts
    let inner := runs.foldl (fun (states, bytes) run =>
      let groups := byFirstByte run
      let (states, bytes) := groups.foldl (fun (states, bytes) group =>
        if group.all List.isEmpty then (states, bytes)
        else
          let (s, b) := treeOf depth group
          (states + s, bytes + b)) (states, bytes)
      match groups.length with
      | 0 => (states, bytes)
      | 1 => (states + 1, bytes + branchBytes)
      | n => (states + 1, bytes + rangeBytes * n + branchBytes)) (0, 0)
    (inner.1 + 1, inner.2 + branchBytes * (runs.length - 1))

/-- Literals side by side, which share the states for the bytes that they begin with. -/
def literalTree (texts : List (List Nat)) : Plan :=
  let (states, bytes) := treeOf ((texts.map List.length).foldl max 0 + 1) texts
  Plan.states (states + 1) bytes

/-! ## Sets of characters -/

/-- The place of a key in a table of some size. -/
def place (size : Nat) (key : List Nat) : Nat :=
  (key.foldl (fun h n => (h ^^^ n.toUInt64) * 1099511628211) (14695981039346656037 : UInt64)).toNat
    % size

/-- A table of states to share: at each place a key with the state that it is for. -/
abbrev Shared := Std.HashMap Nat (List Nat × Nat)

/-- The state of a key; if it is not in the table, a new one is made and put there. -/
def shared (size listBytes : Nat) (key : List Nat) (d : Draft) (table : Shared) :
    Option (Nat × Draft × Shared) :=
  let here := place size key
  match table[here]? with
  | some (k, state) =>
    if k = key then some (state, d, table)
    else (d.add 1 listBytes).map fun e => (d.states, e, table.insert here (key, d.states))
  | none => (d.add 1 listBytes).map fun e => (d.states, e, table.insert here (key, d.states))

/-- How many states the table holds when a set is read forwards. -/
def forwardPlaces : Nat := 10000

/-- How many states the table holds when a set is read backwards. -/
def backwardPlaces : Nat := 1000

/-- Ranges of bytes as a tree: behind each range those that may follow it. -/
inductive ByteTree where
  | done
  | ranges (branches : List ((Nat × Nat) × ByteTree))
deriving Inhabited

/-- The tree of sequences of ranges in ascending order. -/
def ByteTree.ofSequences : Nat → List (List (Nat × Nat)) → ByteTree
  | 0, _ => .done
  | depth + 1, seqs =>
    if seqs.all List.isEmpty then .done
    else .ranges ((seqs.splitBy fun x y => x.head? == y.head?).filterMap fun group =>
      (group.head?.bind List.head?).map fun r => (r, ofSequences depth (group.map List.tail)))

mutual

/-- The state that a tree of ranges begins with when it is read forwards; `target` is where it ends.
Each state accepts the ranges of one branching. -/
def addForward (target : Nat) : ByteTree → Draft → Shared → Option (Nat × Draft × Shared)
  | .done, d, table => some (target, d, table)
  | .ranges branches, d, table =>
    match addBranches target branches d table with
    | none => none
    | some (key, d, table) => shared forwardPlaces (rangeBytes * branches.length) key d table

/-- The ranges of a branching, each with the state that it leads to. -/
def addBranches (target : Nat) :
    List ((Nat × Nat) × ByteTree) → Draft → Shared → Option (List Nat × Draft × Shared)
  | [], d, table => some ([], d, table)
  | ((low, high), tree) :: rest, d, table =>
    match addForward target tree d table with
    | none => none
    | some (next, d, table) =>
      match addBranches target rest d table with
      | none => none
      | some (key, d, table) => some (low :: high :: next :: key, d, table)

end

/-- The states for a sequence of ranges read backwards: one for each range, the last one first. -/
def addBackward : List (Nat × Nat) → Nat → Draft → Shared → Option (Draft × Shared)
  | [], _, d, table => some (d, table)
  | (low, high) :: rest, behind, d, table =>
    match shared backwardPlaces 0 [behind, low, high] d table with
    | none => none
    | some (state, d, table) => addBackward rest state d table

/-- The states for all sequences of a set read backwards, each with a branch to it. -/
def addAllBackward (target : Nat) :
    List (List (Nat × Nat)) → Draft → Shared → Option Draft
  | [], d, _ => some d
  | seq :: rest, d, table =>
    match addBackward seq target d table with
    | none => none
    | some (d, table) =>
      match d.branch 1 with
      | none => none
      | some d => addAllBackward target rest d table

/-- A set of characters. One of ASCII takes a state that accepts it and one behind that. -/
def setPlan (backward : Bool) (s : CharSet) : Plan :=
  if s.isUpTo 0x7F then Plan.states 2 (rangeBytes * s.ranges.length)
  else
    let sequences := s.byteRanges
    if backward then
      ⟨fun d => do
        let d ← d.add 2 0
        return (false, ← addAllBackward (d.states - 1) sequences d {})⟩
    else
      let tree := ByteTree.ofSequences 4 sequences
      ⟨fun d => do
        let (_, d, _) ← addForward d.states tree (← d.add 1 0) {}
        return (false, d)⟩

/-! ## Expressions -/

/-- The bytes of a literal. -/
def literal? : Normal → Option (List Nat)
  | literal bytes => some bytes
  | _ => none

mutual

/-- The automaton of an expression. What a group captures is marked only when it is read
forwards. -/
def plan (backward : Bool) : Normal → Plan
  | empty => Plan.states 1 0
  | literal bytes => Plan.states bytes.length 0
  | set s => setPlan backward s
  | anchor _ => Plan.states 1 0
  | repeated r least most _ =>
    match most with
    | some n => (plan backward r).between least n
    | none => (plan backward r).atLeast (!(shortest? r).any fun n => decide (0 < n)) least
  | group _ r =>
    if backward then plan backward r
    else ⟨fun d => do
      let (branches, d) ← (plan backward r).run (← d.add 1 0)
      return (false, ← (← d.add 1 0).link branches)⟩
  | sequence rs => Plan.inTurn (if backward then (plans backward rs).reverse else plans backward rs)
  | alternatives rs =>
    match rs.mapM literal? with
    | some texts => literalTree (if backward then texts.map List.reverse else texts)
    | none => Plan.sideBySide (plans backward rs)

/-- The automata of expressions. -/
def plans (backward : Bool) : List Normal → List Plan
  | [] => []
  | r :: rs => plan backward r :: plans backward rs

end

mutual

/-- Whether every match begins where a condition holds. -/
def leads (a : Anchor) : Normal → Bool
  | anchor b => a == b
  | repeated r least _ _ => decide (0 < least) && leads a r
  | group _ r => leads a r
  | sequence rs => leadsAll a rs
  | alternatives rs => leadsAny a rs
  | _ => false

/-- Whether every match of a sequence begins where a condition holds. -/
def leadsAll (a : Anchor) : List Normal → Bool
  | [] => false
  | r :: rs => leads a r || (r.isWidthless && leadsAll a rs)

/-- Whether every match of all alternatives begins where a condition holds. -/
def leadsAny (a : Anchor) : List Normal → Bool
  | [] => true
  | r :: rs => leads a r && leadsAny a rs

end

mutual

/-- Whether every match ends where a condition holds. -/
def closes (a : Anchor) : Normal → Bool
  | anchor b => a == b
  | repeated r least _ _ => decide (0 < least) && closes a r
  | group _ r => closes a r
  | sequence rs => closesAll a rs
  | alternatives rs => closesAny a rs
  | _ => false

/-- Whether every match of a sequence ends where a condition holds. -/
def closesAll (a : Anchor) : List Normal → Bool
  | [] => false
  | r :: rs => closesAll a rs || (rs.all isWidthless && closes a r)

/-- Whether every match of all alternatives ends where a condition holds. -/
def closesAny (a : Anchor) : List Normal → Bool
  | [] => true
  | r :: rs => closes a r && closesAny a rs

end

/-- The whole automaton: in front of the expression a loop over any bytes, unless a match can begin
at one end of the text alone, and behind it a state for the match. -/
def automaton (backward : Bool) (r : Normal) : Option Draft := do
  let anchored := if backward then r.closes .textEnd else r.leads .textStart
  let d ← if anchored then Draft.start.add 1 0
    else Draft.start.add 3 (rangeBytes + 2 * branchBytes)
  let whole : Normal := if backward then r else .group 0 r
  let (branches, d) ← (whole.plan backward).run d
  (← d.add 1 0).link branches

/-- Whether the automata of an expression stay within the bound. -/
def fits (r : Normal) : Bool := (r.automaton false).isSome && (r.automaton true).isSome

end GatedMigration.Normal
