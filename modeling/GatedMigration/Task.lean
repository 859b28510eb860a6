import GatedMigration.Namespace
import GatedMigration.Selector

/-!
# Tasks

A migration fans out into tasks, each the application of an operation to one document. The
identifier of a task is made of that of its migration, the text of the document's identifying value
and the number of the task within its migration.
-/

namespace GatedMigration

/-- What a task is about and what it waits for. -/
structure Oracle where
  selector : Selector
  namesp : Namespace
  /-- The identifiers that have to be completed first. -/
  edges : IdSet

/-- The oracle of a selector over a namespace; prerequisites named twice count once. -/
def Oracle.ofList (selector : Selector) (ns : Namespace) (after : List Identifier) : Oracle :=
  ⟨selector, ns, IdSet.ofList after⟩

/-- The application of an operation to one document. -/
structure Task where
  id : Identifier
  /-- The migration that the task belongs to. -/
  migration : Identifier
  namesp : Namespace
  documentId : Value
  operation : String
  /-- What the operation is given for all its tasks. -/
  update : Option Value
  oracle : Oracle

/-- The identifier of the task of a migration with a number, for a document. -/
def childId (migration : Identifier) (documentId : Value) (ordinal : Nat) : Identifier :=
  migration ++ "." ++ documentId.display ++ "." ++ toString ordinal

/-- How an operation ends. -/
inductive Outcome where
  | succeeded
  | failed (text : String)
  /-- The operation broke off without a result. -/
  | lost
deriving DecidableEq

end GatedMigration
