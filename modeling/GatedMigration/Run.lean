import GatedMigration.Report
import GatedMigration.Run.Load
import GatedMigration.Run.Options

/-!
# Runs

A run takes a list of migrations through as many rounds as it needs: it ends once everything is
finished, once too many rounds in a row have brought nothing, or once it is cancelled. Before it
starts, the migrations are put into the dependency graph and the graph is checked (`prepare`).

The rounds end in any case: one that makes progress lowers the load of the run, and one that makes
none uses up one of the idle rounds that the run bears (`RunState.load_conclude_lt`).
-/

namespace GatedMigration

/-! ## Preparation -/

/-- A migration put into the dependency graph. -/
def World.enter (w : World) (env : Environment) (g : Generator) : World :=
  let w := { w with graph := w.graph.enter g.migration }
  if env.registry.contains g.migration.operation then w
  else w.warn (.unregistered g.id g.migration.operation)

/-- Migrations put into the dependency graph one after the other, up to one whose identifier has
been seen before. -/
def World.enterAll (env : Environment) :
    List Generator → List Identifier → World → World × Except Failure Unit
  | [], _, w => (w, .ok ())
  | g :: rest, seen, w =>
    if g.id ∈ seen then
      (w, .error (.config ("migration '" ++ g.id ++ "' is defined more than once")))
    else enterAll env rest (g.id :: seen) (w.enter env g)

/-- The dependency graph checked: an unsound graph is refused or, if the policy says so, warned
of. -/
def World.checkGraph (w : World) (policy : ValidationPolicy) : World × Except Failure Unit :=
  match w.graph.validate, policy with
  | .ok (), _ => (w, .ok ())
  | .error e, .require => (w, .error (.invalidGraph e))
  | .error e, .warn => (w.warnAll (e.problems.map .graphProblem), .ok ())

/-- The migrations of a run put into the dependency graph, and the graph checked. -/
def World.prepare (w : World) (env : Environment) (options : RunOptions)
    (generators : List Generator) : World × Except Failure Unit :=
  match w.enterAll env generators [] with
  | (w, .error e) => (w, .error e)
  | (w, .ok ()) => w.checkGraph options.validation

/-! ## Rounds -/

namespace RunState

/-- The start of a run. -/
def start (w : World) (options : RunOptions) (generators : List Generator) : RunState where
  world := w
  progress := Progress.start (generators.map Generator.id) options.maxIdleRounds
  tasks := IdMap.empty
  filed := fun found => by cases found
  generators := IdMap.ofList (generators.map fun g => (g.id, g))

/-- A round counted. -/
def endRound (s : RunState) (progressed : Bool) : RunState :=
  { s with progress := s.progress.endRound progressed }

/-- What follows a round: the run is over, cancelled or not, or it goes on, after a pause if the
round has brought nothing. -/
def conclude (pollInterval : Nat) (progressed : Bool) (s : RunState) : RunState × Option Bool :=
  let next := s.endRound progressed
  if s.progress.isFinished then (next, some false)
  else if next.progress.mayGoOn = false then
    ({ next with world := next.world.warn (.noProgress next.progress.rounds) }, some false)
  else if progressed then (next, none)
  else
    match next.world.pause pollInterval with
    | (world, false) => ({ next with world }, some true)
    | (world, true) => ({ next with world }, none)

theorem conclude_goOn {pollInterval : Nat} {progressed : Bool} {s s' : RunState}
    (h : s.conclude pollInterval progressed = (s', none)) :
    s'.progress = s.progress.endRound progressed ∧ s'.progress.mayGoOn = true := by
  unfold conclude at h
  simp only at h
  split at h
  · cases h
  split at h
  · cases h
  rename_i go
  split at h
  · cases h
    exact ⟨rfl, eq_true_of_ne_false go⟩
  split at h <;> cases h
  exact ⟨rfl, eq_true_of_ne_false go⟩

/-- Others have their turn. -/
def yield (s : RunState) : RunState := { s with world := s.world.yield }

/-- If the run goes on after a round, less of it is left. -/
theorem load_conclude_lt {env : Environment} {options : RunOptions} {progressed : Bool}
    {s s' t : RunState} (h : s.yield.round env options.workers = (s', some progressed))
    (go : s'.conclude options.pollInterval progressed = (t, none)) :
    WellFoundedRelation.rel t.progress.load s.progress.load := by
  obtain ⟨e, go⟩ := conclude_goOn go
  rw [e] at go ⊢
  exact load_endRound_lt (s := s.yield) h go

/-- Round after round up to the end of the run; the answer is whether it was cancelled. -/
def rounds (env : Environment) (options : RunOptions) (s : RunState) : RunState × Bool :=
  if s.yield.world.isCanceled then (s.yield, true)
  else
    match _h : s.yield.round env options.workers with
    | (s, none) => (s, true)
    | (s, some progressed) =>
      match _go : s.conclude options.pollInterval progressed with
      | (s, some canceled) => (s, canceled)
      | (s, none) => rounds env options s
termination_by s.progress.load
decreasing_by exact load_conclude_lt _h _go

/-- The rounds one by one. -/
theorem rounds_eq (env : Environment) (options : RunOptions) (s : RunState) :
    s.rounds env options =
      if s.yield.world.isCanceled then (s.yield, true)
      else
        match s.yield.round env options.workers with
        | (s, none) => (s, true)
        | (s, some progressed) =>
          match s.conclude options.pollInterval progressed with
          | (s, some canceled) => (s, canceled)
          | (s, none) => s.rounds env options := by
  rw [rounds]
  split
  · rfl
  split
  · rename_i e
    rw [e]
  · rename_i e
    rw [e]
    dsimp only
    split <;> rename_i e <;> rw [e]

end RunState

/-- A run: the world after it, and its report, unless the migrations are refused. -/
def World.run (w : World) (env : Environment) (options : RunOptions) (generators : List Generator) :
    World × Except Failure Report :=
  match w.prepare env options generators with
  | (w, .error e) => (w, .error e)
  | (w, .ok ()) =>
    let (s, canceled) := (RunState.start w options generators).rounds env options
    (s.world, .ok (s.progress.report canceled))

end GatedMigration
