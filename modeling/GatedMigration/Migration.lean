import GatedMigration.Graph
import GatedMigration.Namespace
import GatedMigration.Selector

/-!
# Migrations

A migration applies one operation to every document of a namespace that matches a selector, once the
migrations that it comes after are completed.
-/

namespace GatedMigration

/-- The definition of a migration. -/
structure Migration where
  id : Identifier
  namesp : Namespace
  selector : Selector
  /-- The name of the operation that is applied to each document. -/
  operation : String
  update : Option Value
  /-- At most so many tasks in one scan; none and zero mean no bound. -/
  limit : Option Nat
  /-- The migrations that have to be completed first. -/
  after : List Identifier

/-- A migration put into a dependency graph. -/
def Graph.enter (g : Graph) (m : Migration) : Graph := (g.addNode m.id).add m.id m.after

end GatedMigration
