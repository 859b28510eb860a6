import GatedMigration.Keyed
import GatedMigration.Readiness

/-!
# The progress of a run

Which migrations and tasks a run has, how far each of them is, and when the run is over. Nothing
here reads a store: readiness and the results of operations are reported from outside.

A migration is pending until it has fanned out, then running until all its tasks are finished; a
task is pending until it is finished. Whatever is finished is so without errors (succeeded or
passed) or with errors (failed).
-/

namespace GatedMigration

/-- How far a migration or a task is. -/
inductive Phase where
  /-- Not yet allowed to run. -/
  | pending
  /-- The migration has its tasks, and not all of them are finished. -/
  | running
  | succeeded
  /-- There was nothing to do. -/
  | passed
  | failed
deriving DecidableEq, Inhabited

namespace Phase

/-- Whether nothing follows. -/
def isTerminal : Phase → Bool
  | pending => false
  | running => false
  | _ => true

/-- The word for a phase. -/
def word : Phase → String
  | pending => "pending"
  | running => "running"
  | succeeded => "succeeded"
  | passed => "passed"
  | failed => "failed"

end Phase

/-- What is known of a migration or a task. -/
structure Entry where
  phase : Phase := .pending
  /-- The last answer about its readiness. -/
  lastState : Option Readiness := none
  /-- The texts of its failures. -/
  errors : List String := []
deriving DecidableEq, Inhabited

/-- The entry of something that has come to its end: failed if it has an error, old or new. -/
def Entry.finish (e : Entry) (clean : Phase) (errors : List String) : Entry :=
  let all := e.errors ++ errors
  { e with errors := all, phase := if all.isEmpty then clean else .failed }

/-- What is known of a migration. -/
structure GeneratorEntry where
  entry : Entry := {}
  /-- Its tasks in the order of their generation. -/
  children : List Identifier := []
deriving DecidableEq, Inhabited

/-- The bookkeeping of a run. -/
structure Progress where
  generators : IdMap GeneratorEntry
  children : IdMap Entry
  rounds : Nat
  /-- The rounds without progress since the last one with progress. -/
  idleRounds : Nat
  /-- So many of them end the run. -/
  maxIdleRounds : Nat

namespace Progress

/-- The bookkeeping at the start of a run. At least one round without progress is borne. -/
def start (generators : List Identifier) (maxIdleRounds : Nat) : Progress where
  generators := IdMap.ofList (generators.map fun id => (id, {}))
  children := IdMap.empty
  rounds := 0
  idleRounds := 0
  maxIdleRounds := max maxIdleRounds 1

/-! ## Queries -/

/-- The migrations that have not fanned out. -/
def pendingGenerators (p : Progress) : List Identifier :=
  (p.generators.toList.filter fun g => g.2.entry.phase == .pending).map Prod.fst

/-- The tasks that are not finished. -/
def pendingChildren (p : Progress) : List Identifier :=
  (p.children.toList.filter fun c => c.2.phase == .pending).map Prod.fst

/-- How far a migration or else a task is. -/
def phase? (p : Progress) (id : Identifier) : Option Phase :=
  match p.generators.find? id with
  | some g => some g.entry.phase
  | none => (p.children.find? id).map Entry.phase

/-- Whether a task is known and finished. -/
def isDone (p : Progress) (child : Identifier) : Bool :=
  (p.children.find? child).any fun c => c.phase.isTerminal

/-- Whether a task is known and failed. -/
def hasFailed (p : Progress) (child : Identifier) : Bool :=
  (p.children.find? child).any fun c => c.phase == .failed

/-- How many of the tasks of a migration have failed. -/
def failedChildren (p : Progress) (g : GeneratorEntry) : Nat :=
  (g.children.filter p.hasFailed).length

/-- Whether a migration runs and all its tasks are finished. -/
def isSettled (p : Progress) (g : GeneratorEntry) : Bool :=
  g.entry.phase == .running && g.children.all p.isDone

/-- The migrations that are running and have no unfinished task, each with whether something went
wrong in its group. -/
def settledGenerators (p : Progress) : List (Identifier × Bool) :=
  (p.generators.toList.filter fun g => p.isSettled g.2).map fun g =>
    (g.1, !g.2.entry.errors.isEmpty || decide (0 < p.failedChildren g.2))

/-- Whether every migration and every task is finished. -/
def isFinished (p : Progress) : Bool :=
  p.generators.values.all (fun g => g.entry.phase.isTerminal)
    && p.children.values.all fun c => c.phase.isTerminal

/-! ## Changes -/

/-- An answer that did not let a migration or else a task go on. -/
def observe (p : Progress) (id : Identifier) (state : Readiness) : Progress :=
  if p.generators.contains id then
    { p with generators := p.generators.adjust id fun g =>
        { g with entry := { g.entry with lastState := some state } } }
  else
    { p with children := p.children.adjust id fun e => { e with lastState := some state } }

/-- Tasks that are not known yet made pending. -/
def addChildren (children : IdMap Entry) (ids : List Identifier) : IdMap Entry :=
  ids.foldl (fun m id => if m.contains id then m else m.insert id {}) children

/-- A migration has fanned out, perhaps only in part. -/
def generatorRan (p : Progress) (id : Identifier) (children : List Identifier)
    (errors : List String) : Progress :=
  match p.generators.find? id with
  | none => p
  | some g =>
    { p with
      generators := p.generators.insert id
        { entry := { g.entry with
            phase := .running, lastState := some .ready, errors := g.entry.errors ++ errors }
          children := g.children ++ children }
      children := addChildren p.children children }

/-- A migration has found nothing to do. -/
def generatorPassed (p : Progress) (id : Identifier) (errors : List String) : Progress :=
  { p with generators := p.generators.adjust id fun g =>
      { g with entry := { g.entry with lastState := some .passed }.finish .passed errors } }

/-- The operation of a task was applied. -/
def childExecuted (p : Progress) (id : Identifier) (errors : List String) : Progress :=
  { p with children := p.children.adjust id fun e =>
      { e with lastState := some .ready }.finish .succeeded errors }

/-- A task has found nothing to do. -/
def childPassed (p : Progress) (id : Identifier) (errors : List String) : Progress :=
  { p with children := p.children.adjust id fun e =>
      { e with lastState := some .passed }.finish .passed errors }

/-- The error of a migration some of whose tasks have failed. -/
def failedChildrenErrors (failed : Nat) : List String :=
  if failed = 0 then [] else [toString failed ++ " child task(s) failed"]

/-- A migration is closed; `errors` are those of saving its own record. -/
def finalizeGenerator (p : Progress) (id : Identifier) (errors : List String) : Progress :=
  { p with generators := p.generators.adjust id fun g =>
      let all := failedChildrenErrors (p.failedChildren g) ++ errors
      { g with entry := g.entry.finish .succeeded all } }

/-- A round is over. -/
def endRound (p : Progress) (progressed : Bool) : Progress :=
  { p with rounds := p.rounds + 1, idleRounds := if progressed then 0 else p.idleRounds + 1 }

/-- Whether the run may go on for another round. -/
def mayGoOn (p : Progress) : Bool := decide (p.idleRounds < p.maxIdleRounds)

end Progress

end GatedMigration
