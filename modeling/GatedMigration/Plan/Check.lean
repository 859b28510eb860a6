import GatedMigration.Journal
import GatedMigration.Plan

/-!
# Sound plans

A plan is checked in an order of its own (`Plan.check`), and the first failure is reported: that
there is no migration at all; the settings; each migration by itself; what the migrations come
after; cycles. The last two are only warned of if the plan says so.
-/

namespace GatedMigration

/-- A failure if a condition holds. -/
def failIf (c : Bool) (text : String) : Option Failure := if c then some (.config text) else none

/-- What is wrong with settings. -/
def PlanSettings.failure? (s : PlanSettings) : Option Failure :=
  (failIf (s.options.workers == 0) "[config].workers must be >= 1 (got 0)").or <|
  (failIf (s.options.maxIdleRounds == 0) "[config].max_idle_rounds must be >= 1 (got 0)").or <|
  failIf (!s.metadata.isValid)
    "[config].metadata_store and metadata_collection must not be empty"

namespace Migration

/-- What is wrong with a migration by itself. -/
def failure? (m : Migration) : Option Failure :=
  (failIf (m.id.toList.contains '.')
    ("migration id '" ++ m.id ++ "' must not contain '.'")).or <|
  (failIf (!m.namesp.isValid)
    ("migration '" ++ m.id ++ "' needs a non-empty store and collection")).or <|
  failIf (!Unicode.hasInk m.operation) ("migration '" ++ m.id ++ "' needs an operation")

/-- What is wrong with one thing that a migration comes after, among known migrations. -/
def dependencyFailure? (known : List Identifier) (m : Migration) (dep : Identifier) :
    Option Failure :=
  (failIf (!known.contains dep)
    ("migration '" ++ m.id ++ "' has unknown dependency '" ++ dep ++ "' in `after`")).or <|
  failIf (dep == m.id) ("migration '" ++ m.id ++ "' cannot depend on itself in `after`")

end Migration

namespace Plan

/-- What is wrong with a plan apart from dependencies. -/
def failure? (p : Plan) : Option Failure :=
  (failIf p.migrations.isEmpty
    "plan must contain at least one [migration.<id>] section").or <|
  p.settings.failure?.or <|
  p.migrations.findSome? Migration.failure?

/-- What is wrong with what the migrations come after. -/
def dependencyFailure? (p : Plan) : Option Failure :=
  p.migrations.findSome? fun m => m.after.findSome? (m.dependencyFailure? p.ids)

/-- What is wrong with the graph of the plan. -/
def graphFailure? (p : Plan) : Option Failure :=
  match p.graph.validate with
  | .ok () => none
  | .error e =>
    match e.cycles with
    | [] => some (.invalidGraph e)
    | cycles =>
      some (.cyclicPlan (joinTexts "; " (cycles.map fun c => (GraphProblem.cycle c).message)))

/-- Whether a plan is accepted, with the warnings about an accepted one. -/
def check (p : Plan) : List Warning × Except Failure Unit :=
  match p.failure? with
  | some e => ([], .error e)
  | none =>
    match p.dependencyFailure?.or p.graphFailure?, p.settings.options.validation with
    | none, _ => ([], .ok ())
    | some e, .require => ([], .error e)
    | some e, .warn => ([.planProblem e], .ok ())

end Plan

end GatedMigration
