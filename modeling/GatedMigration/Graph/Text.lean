import GatedMigration.Graph.Problem
import GatedMigration.Json.Printer

/-!
# The text of a dependency graph

A graph is shown as text, one node a line with its dependencies behind an arrow, or as a JSON object
from nodes to their dependencies.
-/

namespace GatedMigration.Graph

/-- The line of a node. -/
def line (p : Identifier × List Identifier) : String :=
  if p.2.isEmpty then "  " ++ p.1 ++ "\n" else "  " ++ p.1 ++ " <- " ++ joinTexts ", " p.2 ++ "\n"

/-- The text of a graph. -/
def display (g : Graph) : String :=
  "dependency network (" ++ toString g.network.length ++ " nodes):\n"
    ++ String.join (g.network.map line)

/-- The JSON form of a graph. -/
def toJson (g : Graph) : Json := .object (g.network.map fun p => (p.1, Json.strings p.2))

end GatedMigration.Graph
