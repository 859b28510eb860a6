import GatedMigration.Run
import Mathlib.Logic.Function.Iterate

/-!
# The moments of a run

A run seen step by step: a `Moment` is the state of a run together with what is left to do in the
round, and `Moment.next` asks a single migration, takes one of the tasks at work one step further,
or closes a single migration. The moments that follow one another from the start (`World.moment`)
end where the run ends (`World.run_eq_moment`), so what holds at each of them holds throughout the
run, whichever of the tasks goes on at each of its turns.

* `World.run_eq_moment`: the run's world and report are those of its last moment.
* `World.run_of_over`: there is no other moment at which the run is over.
-/

namespace GatedMigration

/-- What is left to do in a round. -/
inductive Stage where
  /-- Between two rounds. -/
  | opening
  /-- Migrations are to be asked; there has been progress or not. -/
  | asking (ids : List Identifier) (progressed : Bool)
  /-- Tasks are at work or to begin; the run has been cancelled meanwhile or not. -/
  | working (flights : List Flight) (progressed canceled : Bool)
  /-- Migrations are to be closed, each with whether something went wrong in its group. -/
  | closing (settled : List (Identifier × Bool)) (progressed : Bool)
  /-- The run has ended, cancelled or not. -/
  | over (canceled : Bool)

/-- Whether a stage is the end of the run can be told, although the tasks at work have operations
that cannot be compared. -/
instance (stage : Stage) (canceled : Bool) : Decidable (stage = .over canceled) :=
  match stage with
  | .over told => decidable_of_iff (told = canceled) ⟨congrArg _, Stage.over.inj⟩
  | .opening => isFalse Stage.noConfusion
  | .asking _ _ => isFalse Stage.noConfusion
  | .working _ _ _ => isFalse Stage.noConfusion
  | .closing _ _ => isFalse Stage.noConfusion

instance (stage : Stage) : Decidable (stage = .opening) :=
  match stage with
  | .opening => isTrue rfl
  | .asking _ _ => isFalse Stage.noConfusion
  | .working _ _ _ => isFalse Stage.noConfusion
  | .closing _ _ => isFalse Stage.noConfusion
  | .over _ => isFalse Stage.noConfusion

/-- The tasks that are at work or to begin. -/
def Stage.flights : Stage → List Flight
  | working flights _ _ => flights
  | _ => []

/-- A state of a run, and what is left to do in the round. -/
structure Moment where
  stage : Stage
  state : RunState

namespace Moment

/-- The next moment of a run. -/
def next (env : Environment) (options : RunOptions) : Moment → Moment
  | ⟨.opening, s⟩ =>
    if s.yield.world.isCanceled then ⟨.over true, s.yield⟩
    else ⟨.asking s.yield.progress.pendingGenerators false, s.yield⟩
  | ⟨.asking [] progressed, s⟩ => ⟨.working s.flights progressed false, s⟩
  | ⟨.asking (id :: ids) progressed, s⟩ =>
    match s.advance env id with
    | (s, .canceled) => ⟨.over true, s⟩
    | (s, step) => ⟨.asking ids (progressed || step == .moved), s⟩
  | ⟨.working [] progressed canceled, s⟩ =>
    if canceled then ⟨.over true, s⟩ else ⟨.closing s.progress.settledGenerators progressed, s⟩
  | ⟨.working (f :: fs) progressed canceled, s⟩ =>
    let (s, flights, step) := s.work env options.workers (f :: fs)
    ⟨.working flights (progressed || step == .moved) (canceled || step == .canceled), s⟩
  | ⟨.closing [] progressed, s⟩ =>
    match s.conclude options.pollInterval progressed with
    | (s, some canceled) => ⟨.over canceled, s⟩
    | (s, none) => ⟨.opening, s⟩
  | ⟨.closing ((id, hasErrors) :: settled) progressed, s⟩ =>
    match s.close env id hasErrors with
    | (s, .canceled) => ⟨.over true, s⟩
    | (s, step) => ⟨.closing settled (progressed || step == .moved), s⟩
  | ⟨.over canceled, s⟩ => ⟨.over canceled, s⟩

/-- From one moment to a later one. -/
def Reaches (env : Environment) (options : RunOptions) (m m' : Moment) : Prop :=
  ∃ n, (next env options)^[n] m = m'

namespace Reaches

variable {env : Environment} {options : RunOptions} {m m' m'' : Moment}

theorem refl (m : Moment) : Reaches env options m m := ⟨0, rfl⟩

theorem trans (h : Reaches env options m m') (k : Reaches env options m' m'') :
    Reaches env options m m'' := by
  obtain ⟨n, rfl⟩ := h
  obtain ⟨n', rfl⟩ := k
  exact ⟨n' + n, Function.iterate_add_apply _ _ _ _⟩

/-- One step first. -/
theorem head (k : Reaches env options (m.next env options) m') :
    Reaches env options m m' :=
  trans ⟨1, rfl⟩ k

end Reaches

/-! ## The parts of a round -/

/-- Where a part of a round leads to, from its answer: to a stage, or to the end of the run if it
is cancelled. -/
def behind (stage : Bool → Stage) : RunState × Option Bool → Moment
  | (s, some progressed) => ⟨stage progressed, s⟩
  | (s, none) => ⟨.over true, s⟩

variable (env : Environment) (options : RunOptions)

theorem asking_reaches (ids : List Identifier) (progressed : Bool) (s : RunState) :
    Reaches env options ⟨.asking ids progressed, s⟩
      (behind (.asking []) (s.generatorRound env ids progressed)) := by
  induction ids generalizing progressed s with
  | nil => exact .refl _
  | cons id ids ih =>
    refine .head ?_
    rw [RunState.generatorRound, next]
    obtain ⟨s', step⟩ := s.advance env id
    cases step with
    | canceled => exact .refl _
    | moved => exact ih _ s'
    | idle => exact ih _ s'

theorem working_reaches (flights : List Flight) (progressed canceled : Bool) (s : RunState) :
    Reaches env options ⟨.working flights progressed canceled, s⟩
      (behind (.working [] · false)
        (s.childRound env options.workers flights progressed canceled)) := by
  induction flights, progressed, canceled, s using
    RunState.childRound.induct env options.workers with
  | case1 progressed canceled s =>
    rw [RunState.childRound_nil]
    cases canceled with
    | false => exact .refl _
    | true => exact .head (.refl _)
  | case2 flights progressed canceled s left s' flights' step worked ih =>
    rw [RunState.childRound_eq env options.workers left, worked]
    obtain ⟨f, fs, rfl⟩ := List.exists_cons_of_ne_nil left
    refine .head ?_
    rw [next, worked]
    exact ih

theorem closing_reaches (settled : List (Identifier × Bool)) (progressed : Bool) (s : RunState) :
    Reaches env options ⟨.closing settled progressed, s⟩
      (behind (.closing []) (s.finalizeRound env settled progressed)) := by
  induction settled generalizing progressed s with
  | nil => exact .refl _
  | cons x settled ih =>
    obtain ⟨id, hasErrors⟩ := x
    refine .head ?_
    rw [RunState.finalizeRound, next]
    obtain ⟨s', step⟩ := s.close env id hasErrors
    cases step with
    | canceled => exact .refl _
    | moved => exact ih _ s'
    | idle => exact ih _ s'

/-- A round is gone through from its questions to the end of its last part. -/
theorem round_reaches (s : RunState) :
    Reaches env options ⟨.asking s.progress.pendingGenerators false, s⟩
      (behind (.closing []) (s.round env options.workers)) := by
  refine (asking_reaches env options _ _ s).trans ?_
  rw [RunState.round]
  obtain ⟨s₁, _ | progressed₁⟩ := s.generatorRound env s.progress.pendingGenerators false
  · exact .refl _
  refine .head ((working_reaches env options _ _ false s₁).trans ?_)
  dsimp only
  obtain ⟨s₂, _ | progressed₂⟩ := s₁.childRound env options.workers s₁.flights progressed₁ false
  · exact .refl _
  exact .head (closing_reaches env options _ _ s₂)

theorem opening_reaches {s : RunState} (going : ¬s.yield.world.isCanceled = true) :
    Reaches env options ⟨.opening, s⟩
      (behind (.closing []) (s.yield.round env options.workers)) := by
  refine .head ?_
  rw [next, if_neg going]
  exact round_reaches env options s.yield

/-- The rounds are gone through from the first to the end of the run. -/
theorem rounds_reaches (s : RunState) :
    Reaches env options ⟨.opening, s⟩
      ⟨.over (s.rounds env options).2, (s.rounds env options).1⟩ := by
  induction s using RunState.rounds.induct env options with
  | case1 s canceled =>
    rw [RunState.rounds_eq, if_pos canceled]
    refine .head ?_
    rw [next, if_pos canceled]
    exact .refl _
  | case2 s going s' round =>
    rw [RunState.rounds_eq, if_neg going, round]
    have through := opening_reaches env options going
    rw [round] at through
    exact through
  | case3 s going s' progressed round t canceled ended =>
    rw [RunState.rounds_eq, if_neg going, round]
    have through := opening_reaches env options going
    rw [round] at through
    refine through.trans (.head ?_)
    rw [behind, next]
    dsimp only
    rw [ended]
    exact .refl _
  | case4 s going s' progressed round t goOn ih =>
    rw [RunState.rounds_eq, if_neg going, round]
    have through := opening_reaches env options going
    rw [round] at through
    refine through.trans (.head ?_)
    rw [behind, next]
    dsimp only
    rw [goOn]
    exact ih

end Moment

/-! ## The moments of a run -/

/-- The moments of a run, counted from 0, once its preparation has left the world `w`. -/
def World.moment (w : World) (env : Environment) (options : RunOptions)
    (generators : List Generator) : Nat → Moment
  | 0 => ⟨.opening, .start w options generators⟩
  | n + 1 => (moment w env options generators n).next env options

namespace World

variable {w w' : World} {env : Environment} {options : RunOptions} {generators : List Generator}

theorem moment_eq_iterate (w : World) (env : Environment) (options : RunOptions)
    (generators : List Generator) (n : Nat) :
    w.moment env options generators n =
      (Moment.next env options)^[n] ⟨.opening, .start w options generators⟩ := by
  induction n with
  | zero => rfl
  | succ n ih => rw [moment, ih, Function.iterate_succ_apply']

/-- What holds at the start and is kept by every step holds at each moment. -/
theorem moment_induction {P : Moment → Prop} (start : P ⟨.opening, .start w options generators⟩)
    (step : ∀ m, P m → P (m.next env options)) (n : Nat) :
    P (w.moment env options generators n) := by
  induction n with
  | zero => exact start
  | succ n ih => exact step _ ih

/-- A run that has passed its preparation ends with one of its moments, and its report is made
from the state at that moment. -/
theorem run_eq_moment (prepared : w.prepare env options generators = (w', .ok ())) :
    ∃ n canceled s, w'.moment env options generators n = ⟨.over canceled, s⟩ ∧
      w.run env options generators = (s.world, .ok (s.progress.report canceled)) := by
  obtain ⟨n, ends⟩ :=
    Moment.rounds_reaches env options (.start w' options generators)
  refine ⟨n, _, _, (moment_eq_iterate w' env options generators n).trans ends, ?_⟩
  rw [run, prepared]

/-- Nothing follows the end of a run. -/
theorem moment_over {n k : Nat} {canceled : Bool} {s : RunState}
    (ended : w.moment env options generators n = ⟨.over canceled, s⟩) (later : n ≤ k) :
    w.moment env options generators k = ⟨.over canceled, s⟩ := by
  induction later with
  | refl => exact ended
  | step _ ih => rw [moment, ih, Moment.next]

/-- A run ends in one way. -/
theorem over_unique {n k : Nat} {canceled canceled' : Bool} {s s' : RunState}
    (ended : w.moment env options generators n = ⟨.over canceled, s⟩)
    (ended' : w.moment env options generators k = ⟨.over canceled', s'⟩) :
    canceled = canceled' ∧ s = s' := by
  have same := (moment_over ended (Nat.le_max_left n k)).symm.trans
    (moment_over ended' (Nat.le_max_right n k))
  cases same
  exact ⟨rfl, rfl⟩

/-- The end of a run comes only once: it is the moment that its world and its report are from. -/
theorem run_of_over (prepared : w.prepare env options generators = (w', .ok ())) {n : Nat}
    {canceled : Bool} {s : RunState}
    (ended : w'.moment env options generators n = ⟨.over canceled, s⟩) :
    w.run env options generators = (s.world, .ok (s.progress.report canceled)) := by
  obtain ⟨n', canceled', s', ended', run⟩ := run_eq_moment prepared
  obtain ⟨rfl, rfl⟩ := over_unique ended ended'
  exact run

/-- A moment at which the run is over is its end. -/
theorem moment_of_stage {n : Nat} {canceled : Bool}
    (ended : (w.moment env options generators n).stage = .over canceled) :
    w.moment env options generators n =
      ⟨.over canceled, (w.moment env options generators n).state⟩ := by
  generalize w.moment env options generators n = m at *
  obtain ⟨stage, s⟩ := m
  rw [show stage = .over canceled from ended]

end World

end GatedMigration
