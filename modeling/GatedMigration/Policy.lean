import GatedMigration.Json
import GatedMigration.Unicode.Lowercase
import GatedMigration.Unicode.Trim

/-!
# Validation policies

What a run does when the dependencies of its migrations are not sound: refuse, or warn and go on.
-/

namespace GatedMigration

/-- What is done about unsound dependencies. -/
inductive ValidationPolicy where
  | require
  | warn
deriving DecidableEq, Inhabited

namespace ValidationPolicy

/-- The word for a policy in a plan. -/
def word : ValidationPolicy → String
  | require => "require"
  | warn => "warn"

/-- The policy that is written exactly so. -/
def ofWord? (s : String) : Option ValidationPolicy :=
  if s = "require" then some require else if s = "warn" then some warn else none

/-- The policy that a JSON tree is: its word, or an object with nothing under the word. -/
def ofJson? : Json → Option ValidationPolicy
  | .string s => ofWord? s
  | .object [(word, .null)] => ofWord? word
  | _ => none

/-- A text that names no policy, as it was compared. -/
structure Unknown where
  text : String

/-- What is said about a text that names no policy. -/
def Unknown.message (u : Unknown) : String :=
  "invalid validation policy: " ++ u.text ++ " (expected \"require\" or \"warn\")"

/-- The policy that a text names, whatever its case and the blanks around it. -/
def parse (s : String) : Except Unknown ValidationPolicy :=
  let text := Unicode.lower (Unicode.trim s)
  match ofWord? text with
  | some p => .ok p
  | none => .error ⟨text⟩

end ValidationPolicy

end GatedMigration
