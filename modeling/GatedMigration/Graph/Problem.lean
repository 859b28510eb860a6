import GatedMigration.Graph
import GatedMigration.Graph.Closure

/-!
# Unsound dependencies

A graph is sound if everything that is depended on is a node and nothing depends on itself, directly
or through others. `Graph.problems` lists all that is wrong: first the missing nodes in ascending
order, then the cycles. A cycle is a strongly connected component that has several members, or one
that depends on itself. The components may be listed in any order (`Graph.cyclesAmong`): each cycle
is put in ascending order, and so are the cycles.
-/

namespace GatedMigration

/-- An element put into a list in front of the first one that is not less. -/
def putInOrder {α : Type} [LT α] [DecidableLT α] (a : α) : List α → List α
  | [] => [a]
  | b :: l => if b < a then b :: putInOrder a l else a :: b :: l

/-- A list in ascending order. -/
def inOrder {α : Type} [LT α] [DecidableLT α] (l : List α) : List α := l.foldr putInOrder []

/-- One thing that is wrong with a graph. -/
inductive GraphProblem where
  /-- Something that is depended on is no node. -/
  | missing (id : Identifier)
  /-- Identifiers that depend on each other or, if it is one, on itself. -/
  | cycle (ids : List Identifier)
deriving DecidableEq

/-- All that is wrong with a graph. -/
structure GraphError where
  problems : List GraphProblem
deriving DecidableEq

/-- Texts with a text between each two of them. -/
def joinTexts (between : String) (texts : List String) : String := between.intercalate texts

/-- The text of a problem. -/
def GraphProblem.message : GraphProblem → String
  | .missing id => "dependency " ++ id ++ " is not defined"
  | .cycle ids => "cycle detected between nodes: [" ++ joinTexts ", " ids ++ "]"

namespace GraphError

/-- The text of all problems. -/
def message (e : GraphError) : String :=
  "invalid dependency graph: " ++ joinTexts "; " (e.problems.map GraphProblem.message)

/-- The identifiers that are no nodes. -/
def missing (e : GraphError) : List Identifier :=
  e.problems.filterMap fun
    | .missing id => some id
    | .cycle _ => none

/-- The cycles. -/
def cycles (e : GraphError) : List (List Identifier) :=
  e.problems.filterMap fun
    | .missing _ => none
    | .cycle ids => some ids

end GraphError

namespace Graph

/-- Every identifier that is a node or depended on. -/
def everything (g : Graph) : IdSet :=
  g.network.foldl (fun s p => s.insertAll p.2) (IdSet.ofList g.nodes)

/-- What is depended on without being a node, in ascending order. -/
def missing (g : Graph) : List Identifier := g.everything.toList.filter fun id => !g.isNode id

/-- The dependencies as a relation on the places of identifiers in a list. -/
def rows (g : Graph) (ids : List Identifier) : List Nat :=
  ids.map fun id =>
    let deps := g.resolve id
    Closure.row ((List.range ids.length).filter fun j => (ids.getD j "") ∈ deps)

/-- A place, with those that depend on it and that it depends on. -/
def component (reach : List Nat) (n i : Nat) : List Nat :=
  (List.range n).filter fun j =>
    i == j || Closure.related reach i j && Closure.related reach j i

/-- The strongly connected components: the largest sets of identifiers that all depend on each
other, and the identifiers that are by themselves. -/
def components (g : Graph) : List (List Identifier) :=
  let ids := g.everything.toList
  let reach := Closure.closure (g.rows ids)
  (List.range ids.length).filterMap fun i =>
    let c := component reach ids.length i
    if c.head? = some i then some (c.map fun j => ids.getD j "") else none

/-- Whether a component has several members, or one that depends on itself. -/
def isCycle (g : Graph) (c : List Identifier) : Bool :=
  decide (1 < c.length) || c.head?.any fun id => decide (id ∈ g.resolve id)

/-- The cycles among the components, each in ascending order, in ascending order. -/
def cyclesAmong (g : Graph) (components : List (List Identifier)) : List (List Identifier) :=
  inOrder ((components.filter g.isCycle).map inOrder)

/-- The cycles. -/
def cycles (g : Graph) : List (List Identifier) := g.cyclesAmong g.components

/-- All that is wrong with the graph. -/
def problems (g : Graph) : List GraphProblem :=
  g.missing.map .missing ++ g.cycles.map .cycle

/-- Whether the graph is sound, or else all that is wrong with it. -/
def validate (g : Graph) : Except GraphError Unit :=
  match g.problems with
  | [] => .ok ()
  | problems => .error ⟨problems⟩

end Graph

end GatedMigration
