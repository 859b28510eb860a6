import GatedMigration.Failure
import GatedMigration.Namespace
import GatedMigration.Record
import GatedMigration.Task

/-!
# Journals

What happens during a run is written down in order: the warnings that are logged, the operations
that are called and how they end, the records that are saved, and what operations note themselves.
-/

namespace GatedMigration

/-- What is worth a warning. -/
inductive Warning where
  | uncountable (ns : Namespace) (e : StoreFailure)
  | unreadableRecords (ns : Namespace) (e : StoreFailure)
  | recordCursorFailed (ns : Namespace) (e : StoreFailure)
  /-- A migration has fanned out into some tasks only. -/
  | stoppedEarly (migration : Identifier) (produced : Nat) (e : StoreFailure)
  | unregistered (migration : Identifier) (operation : String)
  /-- Something is wrong with the graph of a run that goes on. -/
  | graphProblem (p : GraphProblem)
  /-- Something is wrong with the network of a plan that is shown. -/
  | networkProblem (p : GraphProblem)
  /-- Something is wrong with the dependencies of a plan that is accepted. -/
  | planProblem (e : Failure)
  | unsavedRecord (task : Identifier) (e : StoreFailure)
  | taskFailed (task : Identifier) (text : String)
  | finishedWithErrors (migration : Identifier)
  | noProgress (rounds : Nat)
deriving DecidableEq

/-- The text of a warning: a message and its fields. -/
def Warning.message : Warning → String
  | uncountable ns e =>
    "could not count target documents ns=" ++ ns.display ++ " error=" ++ e.message
  | unreadableRecords ns e =>
    "could not query completion records ns=" ++ ns.display ++ " error=" ++ e.message
  | recordCursorFailed ns e =>
    "completion record cursor failed ns=" ++ ns.display ++ " error=" ++ e.message
  | stoppedEarly migration produced e =>
    "generation stopped early generator=" ++ migration ++ " produced=" ++ toString produced
      ++ " error=" ++ e.message
  | unregistered migration operation =>
    "no operation registered; its tasks will fail generator=" ++ migration
      ++ " operation=" ++ operation
  | graphProblem p => "dependency graph problem; continuing anyway problem=" ++ p.message
  | networkProblem p => "dependency network problem problem=" ++ p.message
  | planProblem e => "migration plan has dependency problems; continuing error=" ++ e.message
  | unsavedRecord task e =>
    "could not save completion record task=" ++ task ++ " error=" ++ e.message
  | taskFailed task text => "migration task failed task=" ++ task ++ " error=" ++ text
  | finishedWithErrors migration => "migration finished with errors generator=" ++ migration
  | noProgress rounds => "no progress; giving up on waiting tasks rounds=" ++ toString rounds

/-- One line of a journal. -/
inductive Event where
  | warned (w : Warning)
  /-- An operation ended without a result. -/
  | taskLost
  /-- The operation of a task was called, and given the task. -/
  | applied (t : Task)
  /-- The operation of a task has ended. -/
  | returned (task : Identifier) (outcome : Outcome)
  /-- A completion record was saved. -/
  | recorded (r : CompletionRecord)
  /-- An operation noted something. -/
  | noted (text : String)

/-- The line of an event in the log, if it has one. -/
def Event.logLine? : Event → Option String
  | warned w => some ("WARN " ++ w.message)
  | taskLost => some "ERROR child task panicked or was aborted"
  | _ => none

end GatedMigration
