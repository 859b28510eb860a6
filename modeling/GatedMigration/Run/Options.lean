import GatedMigration.Policy

/-!
# Options of a run

How much a run does at once, how long it waits, when it gives up, and what it does about unsound
dependencies.
-/

namespace GatedMigration

/-- How a run is to go. -/
structure RunOptions where
  /-- How many tasks may be at work at once. -/
  workers : Nat := 4
  /-- How long to wait after a round without progress, in milliseconds. -/
  pollInterval : Nat := 250
  /-- So many rounds without progress end the run. -/
  maxIdleRounds : Nat := 20
  validation : ValidationPolicy := .require
deriving DecidableEq, Inhabited

end GatedMigration
