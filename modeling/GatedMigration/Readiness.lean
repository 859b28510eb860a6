/-!
# Readiness

The four answers to the question whether a task may run now.
-/

namespace GatedMigration

/-- Whether a task may run now. -/
inductive Readiness where
  /-- The target could not be looked at. -/
  | unresolved
  /-- Nothing is left to do. -/
  | passed
  /-- There is work, and every prerequisite is completed without errors. -/
  | ready
  /-- There is work, but a prerequisite is missing, has failed or cannot be read. -/
  | blocked
deriving DecidableEq, Inhabited

/-- The word for an answer. -/
def Readiness.word : Readiness → String
  | unresolved => "unresolved"
  | passed => "passed"
  | ready => "ready"
  | blocked => "blocked"

/-- The answer with a word. -/
def Readiness.ofWord? (s : String) : Option Readiness :=
  [unresolved, passed, ready, blocked].find? fun r => r.word == s

end GatedMigration
