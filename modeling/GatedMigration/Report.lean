import GatedMigration.Graph.Problem
import GatedMigration.Json
import GatedMigration.Progress

/-!
# Reports

What a run has come to: its outcome, and for every migration and task where it stands. Waiting
counts for more than failing: as long as something waits the outcome says so, and the failures are
listed all the same.
-/

namespace GatedMigration

/-- How a run ended. -/
inductive RunOutcome where
  | succeeded
  | completedWithErrors
  /-- Something never came to run. -/
  | completedButBlocked
  | canceled
deriving DecidableEq

namespace RunOutcome

/-- The name of an outcome in JSON. -/
def name : RunOutcome → String
  | succeeded => "succeeded"
  | completedWithErrors => "completed_with_errors"
  | completedButBlocked => "completed_but_blocked"
  | canceled => "canceled"

/-- An outcome in words. -/
def display : RunOutcome → String
  | succeeded => "succeeded"
  | completedWithErrors => "completed with errors"
  | completedButBlocked => "completed but blocked"
  | canceled => "canceled"

end RunOutcome

/-- What a run has come to. -/
structure Report where
  outcome : RunOutcome
  /-- The tasks whose operation was applied without errors. -/
  succeeded : List Identifier
  /-- What had nothing to do. -/
  passed : List Identifier
  /-- What has failed, with its errors. -/
  failed : IdMap (List String)
  /-- What still waits, with the last answer about its readiness. -/
  blocked : IdMap (Option Readiness)
  /-- How far each migration is. -/
  generators : IdMap Phase
  rounds : Nat

namespace Report

/-- Whether everything went well. -/
def isSuccess (r : Report) : Bool := r.outcome == .succeeded

/-- The text of a report. -/
def display (r : Report) : String :=
  "run " ++ r.outcome.display ++ " after " ++ toString r.rounds ++ " rounds: "
    ++ toString r.succeeded.length ++ " succeeded, " ++ toString r.passed.length ++ " passed, "
    ++ toString r.failed.size ++ " failed, " ++ toString r.blocked.size ++ " blocked\n"
    ++ String.join (r.failed.toList.map fun p =>
        "  failed " ++ p.1 ++ ": " ++ joinTexts "; " p.2 ++ "\n")
    ++ String.join (r.blocked.toList.map fun p =>
        "  waiting " ++ p.1 ++ " ("
          ++ (match p.2 with
            | some state => state.word
            | none => "never evaluated")
          ++ ")\n")

/-- A report in JSON. -/
def toJson (r : Report) : Json := .object [
  ("outcome", .string r.outcome.name),
  ("succeeded", Json.strings r.succeeded),
  ("passed", Json.strings r.passed),
  ("failed", .object (r.failed.toList.map fun p => (p.1, Json.strings p.2))),
  ("blocked", .object (r.blocked.toList.map fun p =>
    (p.1, match p.2 with
      | some state => .string state.word
      | none => .null))),
  ("generators", .object (r.generators.toList.map fun p => (p.1, .string p.2.word))),
  ("rounds", .int r.rounds)]

end Report

namespace Progress

/-- The entries of all migrations, then those of all tasks. -/
def entries (p : Progress) : List (Identifier × Entry) :=
  p.generators.toList.map (fun g => (g.1, g.2.entry)) ++ p.children.toList

/-- The outcome of a run that has left something waiting or failed. -/
def outcome (canceled waiting failed : Bool) : RunOutcome :=
  if canceled then .canceled
  else if waiting then .completedButBlocked
  else if failed then .completedWithErrors
  else .succeeded

/-- What the run has come to. A migration that has succeeded is in none of the lists. -/
def report (p : Progress) (canceled : Bool) : Report :=
  let inPhase (test : Phase → Bool) := p.entries.filter fun e => test e.2.phase
  let failed := IdMap.ofList ((inPhase (· == .failed)).map fun e => (e.1, e.2.errors))
  let blocked := IdMap.ofList ((inPhase (!·.isTerminal)).map fun e => (e.1, e.2.lastState))
  { outcome := outcome canceled (0 < blocked.size) (0 < failed.size)
    succeeded := ((inPhase (· == .succeeded)).map Prod.fst).filter fun id =>
      !p.generators.contains id
    passed := (inPhase (· == .passed)).map Prod.fst
    failed := failed
    blocked := blocked
    generators := p.generators.map fun g => g.entry.phase
    rounds := p.rounds }

/-- The phases that a report gives for migrations are theirs. -/
theorem find?_report_generators (p : Progress) (canceled : Bool) (id : Identifier) :
    (p.report canceled).generators.find? id =
      (p.generators.find? id).map fun g => g.entry.phase :=
  IdMap.find?_map _ _ _

end Progress

end GatedMigration
