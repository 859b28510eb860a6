import GatedMigration.CommandLine.Arguments
import GatedMigration.Graph.Text
import GatedMigration.Inspect
import GatedMigration.Plan.Check

/-!
# The command line

The program reads a plan, checks it and shows its dependencies as text or as JSON, on request with
the definition of each migration. It fails if the plan is refused; nothing is shown then.
-/

namespace GatedMigration

/-! ## Details -/

/-- A line of the details, if there is something to show. -/
def detail (name : String) (text : Option String) : String :=
  match text with
  | some text => "      " ++ name ++ ": " ++ text ++ "\n"
  | none => ""

/-- The definition of a migration. -/
def Migration.details (m : Migration) : String :=
  "  - " ++ m.id ++ "\n"
    ++ detail "ns" (some m.namesp.display)
    ++ detail "operation" (some m.operation)
    ++ detail "query" (if m.selector.isEmpty then none else some m.selector.display)
    ++ detail "update" (m.update.map Value.display)
    ++ detail "limit" (m.limit.map toString)
    ++ detail "after" (if m.after.isEmpty then none else some (Inspect.strings m.after))

/-- The definitions of a plan. -/
def Plan.details (p : Plan) : String :=
  "migradag plan\n"
    ++ "  config.metadata = " ++ p.settings.metadata.display ++ "\n"
    ++ "  config.workers = " ++ toString p.settings.options.workers ++ "\n"
    ++ "  config.validation = " ++ p.settings.options.validation.inspect ++ "\n\n"
    ++ "migrations (" ++ toString p.migrations.length ++ "):\n"
    ++ String.join (p.migrations.map Migration.details) ++ "\n"

/-! ## The program -/

namespace CommandLine

/-- What a call of the program leads to. -/
structure Answer where
  /-- What is printed. -/
  output : String
  warnings : List Warning
  result : Except Failure Unit

/-- The text that is printed of an accepted plan. -/
def Arguments.output (a : Arguments) (p : Plan) : String :=
  match a.format with
  | .text => (if a.details then p.details else "") ++ p.graph.display
  | .json => p.graph.toJson.pretty ++ "\n"

/-- An accepted plan shown. -/
def Arguments.present (a : Arguments) (p : Plan) (warnings : List Warning) : Answer :=
  let output := a.output p
  match p.graph.validate, p.settings.options.validation with
  | .ok (), _ => ⟨output, warnings, .ok ()⟩
  | .error e, .require => ⟨output, warnings, .error (.invalidGraph e)⟩
  | .error e, .warn => ⟨output, warnings ++ e.problems.map .networkProblem, .ok ()⟩

/-- The program with its arguments and what reading the file of the plan has come to. -/
def Arguments.run (a : Arguments) (content : Except Failure String) : Answer :=
  match content.bind Plan.read with
  | .error e => ⟨"", [], .error e⟩
  | .ok p =>
    match p.check with
    | (warnings, .error e) => ⟨"", warnings, .error e⟩
    | (warnings, .ok ()) => a.present p warnings

end CommandLine

end GatedMigration
