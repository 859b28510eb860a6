import GatedMigration.Proofs.Agreement
import GatedMigration.Proofs.Change
import GatedMigration.Proofs.Forward
import GatedMigration.Proofs.Order

/-!
# Cancelled runs

Once a run is cancelled, nothing happens in it any more (`RunState.Rests`): the store is neither
asked nor written to, no operation is called, and nothing comes to its end. The next question finds
the run cancelled and says so, and a round that has been told of it leads to the end of the run
(`Stage.Halting`). Only an operation that is at work goes on with its parts until it ends
(`Moment.Stops`).

* `World.guard_of_canceled`: a cancelled run asks nothing of the store.
* `Moment.Stops.next`: a step of a cancelled run changes nothing, or is a part of that operation.
* `Moment.next_saves`: a record is saved only of what has come to its end.
* `World.canceled_at_once`: what follows when the run is cancelled beforehand or by an operation.
-/

namespace GatedMigration

/-! ## Cancelled worlds -/

namespace World

/-- From `w` to `w'`, which is cancelled, nothing was asked of the store and nothing written to it;
only its faults are set by others. -/
structure Rests (w w' : World) : Prop where
  canceled : w'.isCanceled = true
  store : ∃ faults, w'.store = { w.store with faults }
  graph : w'.graph = w.graph

variable {w w' w'' : World}

theorem Rests.refl (canceled : w.isCanceled = true) : Rests w w := ⟨canceled, ⟨_, rfl⟩, rfl⟩

theorem Rests.trans (h : Rests w w') (k : Rests w' w'') : Rests w w'' := by
  obtain ⟨_, ⟨faults, store⟩, graph⟩ := h
  obtain ⟨canceled, ⟨faults', store'⟩, graph'⟩ := k
  refine ⟨canceled, ⟨faults', ?_⟩, graph'.trans graph⟩
  rw [store', store]

/-- What is noted does not count. -/
theorem Rests.note (h : Rests w w') (e : Event) : Rests w (w'.note e) :=
  ⟨h.canceled, h.store, h.graph⟩

section

variable (canceled : w.isCanceled = true)

include canceled

/-- To cancel a run again does not put it off. -/
theorem isCanceled_cancelAfter (ms : Nat) : (w.cancelAfter ms).isCanceled = true := by
  obtain ⟨c, set, passed⟩ := (Option.any_eq_true _ _).1 canceled
  have before : c ≤ w.clock := of_decide_eq_true passed
  show due (some (earlier (w.waitEnd ms) w.context.cancelAt)) w.clock = true
  rw [set]
  exact decide_eq_true (Nat.le_trans (Nat.min_le_right _ _) before)

/-- Whatever others do, a cancelled run stays cancelled. -/
theorem rests_yield : Rests w w.yield := by
  unfold yield
  split
  · exact .refl canceled
  rename_i i rest _
  dsimp only
  split
  · exact ⟨canceled, ⟨_, rfl⟩, rfl⟩
  · rename_i ms _
    have turned : ({ w with
        store := { w.store with faults := i.faults.getD w.store.faults }
        outside := rest } : World).isCanceled = true := canceled
    exact ⟨isCanceled_cancelAfter turned ms, ⟨_, rfl⟩, rfl⟩

theorem rests_takeTurn : Rests w w.takeTurn.2 := by
  unfold takeTurn
  split <;> exact ⟨canceled, ⟨_, rfl⟩, rfl⟩

theorem isCanceled_yield : w.yield.isCanceled = true := (rests_yield canceled).canceled

theorem refusal?_of_canceled : w.refusal? = some .canceled := by
  rw [refusal?, if_pos canceled]

/-- A cancelled run asks nothing of the store. -/
theorem guard_of_canceled {α : Type} (call : Call α) : w.guard call = (w, .error .canceled) := by
  rw [guard, refusal?_of_canceled canceled]

theorem begin_of_canceled {α : Type} (call : Store → Call α) :
    w.begin call = (w, .error .canceled) := by
  rw [begin, refusal?_of_canceled canceled]

theorem pause_of_canceled (ms : Nat) : w.pause ms = (w.yield, false) := by
  rw [pause, if_pos (isCanceled_yield canceled)]

/-- A cancelled run saves no record. -/
theorem saveRecord_of_canceled (ns : Namespace) (id group : Identifier) (hasErrors : Bool) :
    w.saveRecord ns id group hasErrors = (w.yield, none) := by
  rw [saveRecord, finishMigration, guard_of_canceled (isCanceled_yield canceled)]

end

end World

section

variable {w : World} (canceled : w.isCanceled = true)

include canceled

/-- The question whether something is ready stays open once the run is cancelled. -/
theorem Oracle.state_of_canceled (o : Oracle) (metadata : Namespace) :
    o.state metadata w = (w.yield, none) := by
  rw [state, World.guard_of_canceled (World.isCanceled_yield canceled)]

end

namespace Evaluation

/-- The next step is one that a cancelled run does not take. -/
inductive Idle : Evaluation → Prop
  | fresh : Idle (.asking .fresh)
  | saving (ending : Ending) : Idle (.saving ending)

variable {env : Environment} {t : Task} {e : Evaluation} {w : World}

/-- A task at work finds the run cancelled. -/
theorem Idle.step (idle : e.Idle) (canceled : w.isCanceled = true) :
    e.step env t w = (w.yield, .inr .canceled) := by
  have begin {α : Type} (call : Store → Call α) :
      w.yield.begin call = (w.yield, .error .canceled) :=
    World.begin_of_canceled (World.isCanceled_yield canceled) call
  cases idle with
  | fresh =>
    rw [Evaluation.step, Inquiry.step, Inquiry.call, begin]
    rfl
  | saving ending =>
    rw [Evaluation.step, begin]
    rfl

/-- An operation that ends in a cancelled run comes to nothing. -/
theorem returned_of_canceled (canceled : w.isCanceled = true) (outcome : Outcome) :
    w.Rests (returned t outcome w).1 ∧
      ((∃ ending, (returned t outcome w).2 = .inl (.saving ending)) ∨
        (returned t outcome w).2 = .inr (if outcome = .lost then .lost else .canceled)) := by
  have noted := (World.Rests.refl canceled).note (.returned t.id outcome)
  cases outcome with
  | succeeded => exact ⟨noted, Or.inl ⟨_, rfl⟩⟩
  | lost => exact ⟨noted.note .taskLost, Or.inr rfl⟩
  | failed text =>
    have turn := noted.trans (World.rests_yield noted.canceled)
    unfold returned
    dsimp only
    rw [if_pos turn.canceled]
    exact ⟨turn, Or.inr rfl⟩

end Evaluation

/-! ## Cancelled runs -/

/-- From `s` to `s'`, which is cancelled, nothing has happened in the run. -/
structure RunState.Rests (s s' : RunState) : Prop where
  world : s.world.Rests s'.world
  generators : s'.progress.generators = s.progress.generators
  children : s'.progress.children = s.progress.children

namespace RunState

variable {s s' : RunState} {env : Environment}

/-- Only the world has changed, and it rests. -/
theorem Rests.of_world {w : World} (rests : s.world.Rests w) : Rests s { s with world := w } :=
  ⟨rests, rfl, rfl⟩

variable (canceled : s.world.isCanceled = true)

include canceled

theorem Rests.refl : Rests s s := .of_world (.refl canceled)

theorem advance_rests (id : Identifier) : s.Rests (s.advance env id).1 := by
  unfold advance
  split
  · exact .refl canceled
  · rename_i g _
    rw [g.oracle.state_of_canceled canceled]
    exact .of_world (World.rests_yield canceled)

theorem close_rests (id : Identifier) (hasErrors : Bool) :
    s.Rests (s.close env id hasErrors).1 := by
  rw [close, World.saveRecord_of_canceled canceled]
  exact .of_world (World.rests_yield canceled)

theorem conclude_rests (pollInterval : Nat) (progressed : Bool) :
    s.Rests (s.conclude pollInterval progressed).1 := by
  have rests := World.Rests.refl canceled
  unfold conclude
  dsimp only
  split
  · exact ⟨rests, rfl, rfl⟩
  split
  · exact ⟨rests.note _, rfl, rfl⟩
  split
  · exact ⟨rests, rfl, rfl⟩
  · have paused : (s.endRound progressed).world.pause pollInterval = (s.world.yield, false) :=
      World.pause_of_canceled canceled pollInterval
    rw [paused]
    exact ⟨World.rests_yield canceled, rfl, rfl⟩

end RunState

/-- The tasks are at work in a round that has been told that the run is cancelled, or the run is
over for that reason. -/
def Stage.Halting : Stage → Prop
  | .working _ _ canceled | .over canceled => canceled = true
  | _ => False

namespace Moment

variable {env : Environment} {options : RunOptions} {m : Moment} {t : Task}

/-- The run is cancelled, and no task at work goes on any more but one whose operation has not
ended. -/
structure Stops (m : Moment) (t : Task) : Prop where
  canceled : m.state.world.isCanceled = true
  idle : ∀ f ∈ m.stage.flights, f.evaluation.Idle ∨ ∃ script, f = ⟨t, .applying script⟩

/-- A step of a task at work in a cancelled run is a part of its operation, or nothing happens in
it. -/
theorem Goes.rests {f : Flight} {s s' : RunState} (canceled : s.world.isCanceled = true)
    (idle : f.evaluation.Idle ∨ ∃ script, f.evaluation = .applying script)
    (goes : Goes env f s s') : s.Rests s' ∨
      ∃ part rest, f.evaluation = .applying (.act part rest) ∧
        s' = { s with world := s.world.takeTurn.2.yield.enact part } := by
  have turn := World.rests_takeTurn canceled
  rcases idle with idle | ⟨_ | ⟨part, rest⟩, at_work⟩
  · have step : f.evaluation.step env f.task s.world.takeTurn.2 = _ := idle.step turn.canceled
    have rests := turn.trans (World.rests_yield turn.canceled)
    cases goes with
    | on step' => cases step.symm.trans step'
    | ends step' =>
      cases step.symm.trans step'
      exact Or.inl (.of_world rests)
  · rename_i outcome
    obtain ⟨rests, ended⟩ := Evaluation.returned_of_canceled (t := f.task) turn.canceled outcome
    have world := goes.world
    rw [at_work, Evaluation.step] at world
    replace rests := turn.trans (world ▸ rests)
    cases goes with
    | on => exact Or.inl (.of_world rests)
    | ends step =>
      rw [at_work, Evaluation.step] at step
      rw [step] at ended
      rcases ended with ⟨_, ⟨⟩⟩ | verdict
      cases verdict
      refine Or.inl ⟨rests, ?_, ?_⟩ <;> split <;> rfl
  · refine Or.inr ⟨part, rest, at_work, ?_⟩
    cases goes with
    | on step =>
      rw [at_work] at step
      cases step
      rfl
    | ends step =>
      rw [at_work] at step
      cases step

/-- Nothing happens in a step of a cancelled run but a part of the operation that is at work. -/
theorem Stops.rests (stops : m.Stops t) (options : RunOptions) :
    m.state.Rests (m.next env options).state ∨
      ∃ part rest scene, m.Applies t (.act part rest) ∧
        (m.next env options).Applies t (rest scene) ∧
        (m.next env options).state =
          { m.state with world := m.state.world.takeTurn.2.yield.enact part } := by
  rw [next_state]
  obtain ⟨stage, s⟩ := m
  obtain ⟨canceled, idle⟩ := stops
  match stage with
  | .opening => exact Or.inl (.of_world (World.rests_yield canceled))
  | .asking [] _ | .working [] _ _ | .over _ => exact Or.inl (.refl canceled)
  | .asking (id :: _) _ => exact Or.inl (RunState.advance_rests canceled id)
  | .closing [] progressed =>
    exact Or.inl (RunState.conclude_rests canceled options.pollInterval progressed)
  | .closing ((id, hasErrors) :: _) _ => exact Or.inl (RunState.close_rests canceled id hasErrors)
  | .working (f :: fs) progressed told =>
    have works := RunState.work_cases env options.workers (List.cons_ne_nil f fs) s
    rw [next]
    dsimp only [Stage.flights] at idle ⊢
    generalize f :: fs = flights at *
    generalize s.work env options.workers flights = r at *
    have own (g : Flight) (mem : g ∈ flights) :
        g.evaluation.Idle ∨ ∃ script, g.evaluation = .applying script := by
      rcases idle g mem with idle | ⟨script, rfl⟩
      · exact Or.inl idle
      · exact Or.inr ⟨script, rfl⟩
    cases works with
    | goesOn front g behind world evaluation among room step =>
      have mem : g ∈ flights := among ▸ List.mem_append_cons_self
      rcases Goes.rests canceled (own g mem) (.on step) with rests | ⟨part, rest, at_work, state⟩
      · exact Or.inl rests
      refine Or.inr ?_
      have same : g = ⟨t, .applying (.act part rest)⟩ := by
        rcases idle g mem with idle | ⟨script, rfl⟩
        · rw [at_work] at idle
          cases idle
        · obtain rfl := Evaluation.applying.inj at_work
          rfl
      subst same
      cases step
      exact ⟨part, rest, _, mem, List.mem_append_cons_self, state⟩
    | ends front g behind world verdict among room step =>
      have mem : g ∈ flights := among ▸ List.mem_append_cons_self
      rcases Goes.rests canceled (own g mem) (.ends step) with rests | ⟨part, rest, at_work, -⟩
      · exact Or.inl rests
      · rw [at_work] at step
        cases step

theorem Stops.next (stops : m.Stops t) (todo : m.stage.Sound m.state)
    (stays : ∀ script, (m.next env options).Applies t script →
      (m.next env options).state.world.isCanceled = true) : (m.next env options).Stops t := by
  refine ⟨?_, next_flights todo (fun _ _ _ _ => Or.inl .fresh) ?_ fun f mem _ _ _ _ =>
    stops.idle f mem⟩
  · rcases stops.rests options with rests | ⟨_, _, scene, -, at_work, -⟩
    · exact rests.world.canceled
    · exact stays _ at_work
  · rintro f mem world evaluation - step
    have turn := World.rests_takeTurn stops.canceled
    rcases stops.idle f mem with idle | ⟨_ | ⟨part, rest⟩, rfl⟩
    · cases (idle.step turn.canceled).symm.trans step
    · rename_i outcome
      obtain ⟨-, ⟨ending, saving⟩ | ends⟩ :=
        Evaluation.returned_of_canceled (t := t) turn.canceled outcome
      · cases saving.symm.trans (congrArg Prod.snd step)
        exact Or.inl (.saving ending)
      · cases ends.symm.trans (congrArg Prod.snd step)
    · cases step
      exact Or.inr ⟨_, rfl⟩

/-- No operation is called in a cancelled run. -/
theorem Stops.not_calls (stops : m.Stops t) (t' : Task) : ¬m.Calls env options t' := by
  intro calls
  obtain ⟨f, mem, ready, -⟩ := calls.flight
  rcases stops.idle f mem with idle | ⟨script, rfl⟩
  · rw [ready] at idle
    cases idle
  · cases ready

/-- A round that has been told of the cancellation leads to the end of the run. -/
theorem next_halting (halting : m.stage.Halting) (options : RunOptions) :
    (m.next env options).stage.Halting := by
  obtain ⟨stage, s⟩ := m
  match stage, halting with
  | .working [] _ true, _ => exact rfl
  | .working (f :: fs) _ true, _ => exact rfl
  | .over true, _ => exact rfl

/-- The tasks at work tell the round that the run is cancelled, unless an operation breaks off. -/
theorem Stops.halting (stops : m.Stops t) (heeded : ¬m.Applies t (.done .lost))
    (halting : m.stage.flights ≠ [] ∨ m.stage.Halting) :
    (m.next env options).stage.flights ≠ [] ∨ (m.next env options).stage.Halting := by
  rcases halting with left | halting
  swap
  · exact Or.inr (next_halting halting options)
  obtain ⟨f, mem⟩ := List.exists_mem_of_ne_nil _ left
  obtain ⟨flights, progressed, told, r, stage, works, next⟩ := m.next_of_flight mem env options
  obtain ⟨canceled, idle⟩ := stops
  rw [Applies, stage] at heeded
  rw [stage] at idle
  rw [next]
  cases works with
  | goesOn front g behind world evaluation among room step =>
    exact Or.inl (List.append_ne_nil_of_right_ne_nil _ (List.cons_ne_nil _ _))
  | ends front g behind world verdict among room step =>
    refine Or.inr ?_
    have mem : g ∈ flights := among ▸ List.mem_append_cons_self
    have turn := World.rests_takeTurn canceled
    have heard : verdict = .canceled := by
      rcases idle g mem with idle | ⟨_ | ⟨part, rest⟩, rfl⟩
      · cases (idle.step turn.canceled).symm.trans step
        rfl
      · rename_i outcome
        obtain ⟨-, ⟨ending, saving⟩ | ends⟩ :=
          Evaluation.returned_of_canceled (t := t) turn.canceled outcome
        · cases saving.symm.trans (congrArg Prod.snd step)
        · have unlost : outcome ≠ .lost := fun lost => heeded (lost ▸ mem)
          rw [if_neg unlost] at ends
          exact (Sum.inr.inj (ends.symm.trans (congrArg Prod.snd step))).symm
      · cases step
    subst heard
    exact Bool.or_true told

end Moment

/-! ## What a step saves -/

/-- Nothing is saved, or a record with this identifier and this group. -/
theorem World.saveRecord_saves (ns : Namespace) (w : World) (id group : Identifier)
    (hasErrors : Bool) : ∃ rs, World.Saves ns rs w (w.saveRecord ns id group hasErrors).1 ∧
      ∀ r ∈ rs, r.id = id ∧ r.group = group := by
  rcases w.saveRecord_cases ns id group hasErrors with ⟨-, saves⟩ | ⟨-, quiet⟩ | ⟨-, quiet⟩
  · refine ⟨_, saves, fun r mem => ?_⟩
    rw [List.mem_singleton.1 mem]
    exact ⟨rfl, rfl⟩
  · exact ⟨[], quiet, fun r mem => absurd mem List.not_mem_nil⟩
  · exact ⟨[], quiet, fun r mem => absurd mem List.not_mem_nil⟩

/-- A verdict saves a record of its own task if that has come to its end, and none otherwise. -/
theorem Task.Concludes.saves {t : Task} {ns : Namespace} {w : World} {r : World × Verdict}
    (h : t.Concludes ns w r) : ∃ rs, World.Saves ns rs w r.1 ∧
      ∀ x ∈ rs, x.id = t.id ∧ r.2.errors?.isSome = true := by
  unfold Concludes at h
  split at h
  · rename_i errors ended
    rcases h with saved | ⟨-, quiet⟩
    · refine ⟨_, saved, fun x mem => ?_⟩
      rw [List.mem_singleton.1 mem, ended]
      exact ⟨rfl, rfl⟩
    · exact ⟨[], quiet, fun x mem => absurd mem List.not_mem_nil⟩
  · exact ⟨[], h, fun x mem => absurd mem List.not_mem_nil⟩

namespace RunState

variable {env : Environment} {s : RunState} {id : Identifier}

/-- A question to a migration saves no record but its own. -/
theorem advance_saves (env : Environment) (id : Identifier) (s : RunState) :
    ∃ rs, World.Saves env.metadata rs s.world (s.advance env id).1.world ∧
      ∀ r ∈ rs, r.group = r.id := by
  have none {w : World} (quiet : World.Saves env.metadata [] s.world w) :
      ∃ rs, World.Saves env.metadata rs s.world w ∧ ∀ r ∈ rs, r.group = r.id :=
    ⟨[], quiet, fun r mem => absurd mem List.not_mem_nil⟩
  unfold advance
  split
  · exact none (.refl _ _)
  rename_i g _
  have asked := g.oracle.state_saves env.metadata env.metadata s.world
  generalize g.oracle.state env.metadata s.world = p at *
  split
  · exact none asked
  · rename_i world
    have scanned := (g.run_saves env.metadata env world).after asked
    generalize g.run env world = r at *
    split
    · exact none scanned
    · exact none scanned
  · rename_i world
    obtain ⟨rs, saves, own⟩ := world.saveRecord_saves env.metadata id id false
    generalize world.saveRecord env.metadata id id false = q at *
    have group : ∀ r ∈ rs, r.group = r.id := fun r mem => (own r mem).2.trans (own r mem).1.symm
    split
    · exact ⟨rs, saves.after asked, group⟩
    · exact ⟨rs, saves.after asked, group⟩
  · exact none asked

/-- The closing of a migration saves no record but its own. -/
theorem close_saves (env : Environment) (id : Identifier) (hasErrors : Bool) (s : RunState) :
    ∃ rs, World.Saves env.metadata rs s.world (s.close env id hasErrors).1.world ∧
      ∀ r ∈ rs, r.group = r.id := by
  obtain ⟨rs, saves, own⟩ := s.world.saveRecord_saves env.metadata id id hasErrors
  have group : ∀ r ∈ rs, r.group = r.id := fun r mem => (own r mem).2.trans (own r mem).1.symm
  unfold close
  generalize s.world.saveRecord env.metadata id id hasErrors = q at *
  obtain ⟨w, _ | more⟩ := q
  · exact ⟨rs, saves, group⟩
  · refine ⟨rs, saves.before ?_, group⟩
    dsimp only
    split
    · exact World.saves_warn _ _ _
    · exact .refl _ _

/-- A verdict that ends a task is entered as its end. -/
theorem record_ended {p : Progress} {e : Entry} (found : p.children.find? id = some e)
    {verdict : Verdict} (ended : verdict.errors?.isSome = true) :
    ∃ e', (record p id verdict).1.children.find? id = some e' ∧ e'.phase.isTerminal = true := by
  cases verdict with
  | executed errors =>
    refine ⟨_, (IdMap.find?_adjust_self _ _ _).trans (by rw [found, Option.map_some]), ?_⟩
    exact e.standing.finish_terminal rfl errors
  | passed errors =>
    refine ⟨_, (IdMap.find?_adjust_self _ _ _).trans (by rw [found, Option.map_some]), ?_⟩
    exact e.standing.finish_terminal rfl errors
  | waiting | canceled | lost => cases ended

end RunState

namespace Moment

variable {env : Environment} {m : Moment}

/-- A step of a task at work saves its record if it is the last one; it is a part of its operation
otherwise, or it saves nothing. -/
theorem Goes.saves {f : Flight} {s s' : RunState} {e : Entry}
    (found : s.progress.children.find? f.task.id = some e) (goes : Goes env f s s') :
    Deed env f s.world s'.world ∨
      ∃ rs, World.Saves env.metadata rs s.world s'.world ∧
        ∀ r ∈ rs, s'.progress.isDone r.id = true := by
  by_cases part : ∃ part rest, f.evaluation = .applying (.act part rest)
  · obtain ⟨part, rest, at_work⟩ := part
    have world := goes.world
    rw [at_work] at world
    exact Or.inl (.part part rest at_work world)
  have keeps : f.evaluation.Obeys (fun a b => b.store.recordsOf.get env.metadata =
      a.store.recordsOf.get env.metadata) fun _ => True := by
    generalize f.evaluation = e at *
    match e with
    | .applying (.act p rest) => exact absurd ⟨p, rest, rfl⟩ part
    | .asking _ | .ready | .applying (.done _) | .saving _ | .writing _ _ => trivial
  have leads := f.evaluation.step_leads f.task keeps s.world.takeTurn.2
  have turn := s.world.saves_takeTurn env.metadata
  refine Or.inr ?_
  cases goes with
  | on step =>
    rw [step] at leads
    exact ⟨[], turn.before leads, fun r mem => absurd mem List.not_mem_nil⟩
  | ends step =>
    rw [step] at leads
    obtain ⟨rs, saves, own⟩ := Task.Concludes.saves (leads.after turn)
    refine ⟨rs, saves, fun r mem => ?_⟩
    obtain ⟨same, ended⟩ := own r mem
    obtain ⟨e', found', finished⟩ := RunState.record_ended found ended
    rw [same]
    exact Progress.isDone_iff_entry.2 ⟨e', found', finished⟩

/-- A step saves no record of a task unless the task has come to its end with it. Whatever an
operation saves is its own doing. -/
theorem next_saves (options : RunOptions) (todo : m.stage.Sound m.state) :
    (∃ f ∈ m.stage.flights, Deed env f m.state.world (m.next env options).state.world) ∨
      ∃ rs, World.Saves env.metadata rs m.state.world (m.next env options).state.world ∧
        ∀ r ∈ rs, r.group = r.id ∨
          (m.next env options).state.progress.isDone r.id = true := by
  have own {w : World} {p : Progress} (h : ∃ rs, World.Saves env.metadata rs m.state.world w ∧
      ∀ r ∈ rs, r.group = r.id) : ∃ rs, World.Saves env.metadata rs m.state.world w ∧
        ∀ r ∈ rs, r.group = r.id ∨ p.isDone r.id = true :=
    h.imp fun _ saved => ⟨saved.1, fun r mem => Or.inl (saved.2 r mem)⟩
  have quiet {w : World} (saves : World.Saves env.metadata [] m.state.world w) :
      ∃ rs, World.Saves env.metadata rs m.state.world w ∧ ∀ r ∈ rs, r.group = r.id :=
    ⟨[], saves, fun r mem => absurd mem List.not_mem_nil⟩
  cases m.next_transition env options with
  | asks id ids progressed stage state =>
    rw [state]
    exact Or.inr (own (m.state.advance_saves env id))
  | starts progressed stage next =>
    rw [next]
    exact Or.inr (own (quiet (.refl _ _)))
  | works flights progressed canceled left stage r works next =>
    obtain ⟨f, mem, goes⟩ := works_goes works
    rw [next]
    rw [stage] at todo ⊢
    obtain ⟨e, found, -⟩ := todo.pending f mem
    rcases goes.saves found with deed | ⟨rs, saves, ended⟩
    · exact Or.inl ⟨f, mem, deed⟩
    · exact Or.inr ⟨rs, saves, fun r mem => Or.inr (ended r mem)⟩
  | closes id hasErrors settled progressed stage state =>
    rw [state]
    exact Or.inr (own (m.state.close_saves env id hasErrors))
  | waits rounds idleRounds world idle state frame =>
    rw [state]
    exact Or.inr (own (quiet (frame _ (World.saves_frame _))))

end Moment

/-! ## Runs that are cancelled -/

/-- A task that is not finished is listed as waiting. -/
theorem Progress.blocked_of_child {p : Progress} {id : Identifier} {e : Entry}
    (found : p.children.find? id = some e) (waits : e.phase.isTerminal = false) (canceled : Bool) :
    (p.report canceled).blocked.contains id = true := by
  have listed : (id, e) ∈ p.entries :=
    List.mem_append_right _ (Keyed.mem_of_find?_eq_some found)
  have waiting : (!e.phase.isTerminal) = true := by
    rw [waits]
    rfl
  exact (report_blocked_iff canceled).2 (mem_filter_of_mem_entries listed waiting)

namespace World

variable {env : Environment} {options : RunOptions} {generators : List Generator}

/-- If one task is evaluated at a time, those behind the first have not begun. -/
theorem moment_single (single : options.workers ≤ 1) (w : World) (n : Nat) :
    ∀ f ∈ (w.moment env options generators n).stage.flights.tail,
      f.evaluation = .asking .fresh := by
  induction n with
  | zero => exact fun f mem => absurd mem List.not_mem_nil
  | succ n ih =>
    rw [moment]
    have ground {m : Moment} (grounded : m.stage.flights = []) :
        ∀ f ∈ m.stage.flights.tail, f.evaluation = .asking .fresh :=
      fun f mem => absurd (grounded ▸ mem) List.not_mem_nil
    cases (w.moment env options generators n).next_transition env options with
    | asks _ _ _ _ _ _ grounded | closes _ _ _ _ _ _ grounded | waits _ _ _ _ _ _ grounded =>
      exact ground grounded
    | starts progressed stage next =>
      rw [next]
      intro f mem
      obtain ⟨id, -, found⟩ := List.mem_filterMap.1 (List.mem_of_mem_tail mem)
      obtain ⟨t, -, rfl⟩ := Option.map_eq_some_iff.1 found
      rfl
    | works flights progressed canceled left stage r works next =>
      rw [stage] at ih
      rw [next]
      have first {front : List Flight} (room : front.length < max options.workers 1) :
          front = [] := List.eq_nil_of_length_eq_zero (by omega)
      cases works with
      | goesOn front f behind world evaluation among room step =>
        obtain rfl := first room
        subst among
        exact ih
      | ends front f behind world verdict among room step =>
        obtain rfl := first room
        subst among
        exact fun f mem => ih f (List.mem_of_mem_tail mem)

/-- If one task is evaluated at a time and its operation finds the run cancelled, the other tasks
have not begun. -/
theorem moment_stops_of_applies (single : options.workers ≤ 1) {w : World} {n : Nat} {t : Task}
    {script : Script} (at_work : (w.moment env options generators n).Applies t script)
    (canceled : (w.moment env options generators n).state.world.isCanceled = true) :
    (w.moment env options generators n).Stops t := by
  have others : ∀ f ∈ (w.moment env options generators n).stage.flights.tail, _ :=
    moment_single single w n
  refine ⟨canceled, fun f mem => ?_⟩
  unfold Moment.Applies at at_work
  cases flights : (w.moment env options generators n).stage.flights with
  | nil =>
    rw [flights] at mem
    cases mem
  | cons g fs =>
    rw [flights] at at_work mem others
    have behind {f : Flight} (mem : f ∈ fs) : f.evaluation = .asking .fresh := others f mem
    rcases List.mem_cons.1 at_work with rfl | at_work
    · rcases List.mem_cons.1 mem with rfl | mem
      · exact Or.inr ⟨script, rfl⟩
      · rw [behind mem]
        exact Or.inl .fresh
    · cases behind at_work

/-- A run that is cancelled when it starts ends at once. -/
theorem moment_of_canceled {w : World} (canceled : w.isCanceled = true) :
    w.moment env options generators 1 =
      ⟨.over true, (RunState.start w options generators).yield⟩ := by
  rw [moment, moment, Moment.next]
  exact if_pos (isCanceled_yield canceled)

section

variable {w : World} {t : Task} {n : Nat} (stops : (w.moment env options generators n).Stops t)
  (stays : ∀ k, n ≤ k → ∀ script, (w.moment env options generators k).Applies t script →
    (w.moment env options generators k).state.world.isCanceled = true)

include stops stays

theorem moment_stops {k : Nat} (later : n ≤ k) :
    (w.moment env options generators k).Stops t := by
  induction later with
  | refl => exact stops
  | @step k later ih =>
    exact ih.next (moment_stage w options k) (stays (k + 1) (Nat.le_succ_of_le later))

/-- Nothing comes to its end in a cancelled run. -/
theorem moment_halts {k : Nat} (later : n ≤ k) :
    (w.moment env options generators k).state.progress.generators =
        (w.moment env options generators n).state.progress.generators ∧
      (w.moment env options generators k).state.progress.children =
        (w.moment env options generators n).state.progress.children := by
  induction later with
  | refl => exact ⟨rfl, rfl⟩
  | @step k later ih =>
    rw [← ih.1, ← ih.2, moment]
    rcases (moment_stops stops stays later).rests options with rests | ⟨_, _, _, -, -, state⟩
    · exact ⟨rests.generators, rests.children⟩
    · rw [state]
      exact ⟨rfl, rfl⟩

theorem moment_halting {k : Nat} (later : n ≤ k)
    (heeded : ∀ k, ¬(w.moment env options generators k).Applies t (.done .lost))
    (told : (w.moment env options generators n).stage.flights ≠ [] ∨
      (w.moment env options generators n).stage.Halting) :
    (w.moment env options generators k).stage.flights ≠ [] ∨
      (w.moment env options generators k).stage.Halting := by
  induction later with
  | refl => exact told
  | @step k later ih => exact (moment_stops stops stays later).halting (heeded k) ih

/-- A task that is waiting when the run is cancelled is never finished. -/
theorem moment_undone {e : Entry}
    (at_t : (w.moment env options generators n).state.progress.children.find? t.id = some e)
    (waits : e.phase.isTerminal = false) (k : Nat) :
    (w.moment env options generators k).state.progress.isDone t.id = false := by
  rw [← Bool.not_eq_true]
  intro done
  have forever : (w.moment env options generators n).state.progress.isDone t.id = true := by
    rcases Nat.le_total n k with after | before
    · unfold Progress.isDone at done ⊢
      rwa [(moment_halts stops stays after).2] at done
    · exact (w.moment_forward before).isDone done
  obtain ⟨e', found', finished⟩ := Progress.isDone_iff_entry.1 forever
  cases at_t.symm.trans found'
  rw [waits] at finished
  cases finished

end

/-- A run that is cancelled beforehand comes to nothing: no operation is called, the store is not
asked, and all migrations are reported as waiting.

If tasks are evaluated one at a time and the run is cancelled while an operation is at work, then
from that moment on no operation is called, nothing comes to its end, and a step that is not a part
of that operation neither asks the store nor writes to it; whatever that operation still does and
however it ends. Its task is reported as waiting, and no step of the run has saved a record of it.
The outcome is that the run was cancelled; only an operation that breaks off need not be heeded in
that. -/
theorem canceled_at_once {w w₀ : World}
    (prepared : w.prepare env options generators = (w₀, .ok ())) :
    (w.isCanceled = true →
      (∀ k t, ¬(w₀.moment env options generators k).Calls env options t) ∧
      ∃ w', w.run env options generators =
          (w', .ok ((RunState.start w₀ options generators).progress.report true)) ∧
        ((RunState.start w₀ options generators).progress.report true).outcome = .canceled ∧
        w₀.Rests w' ∧ w₀.store = w.store) ∧
    (options.workers ≤ 1 → ∀ n t script,
      (w₀.moment env options generators n).Applies t script →
      (∀ k, n ≤ k → ∀ rest, (w₀.moment env options generators k).Applies t rest →
        (w₀.moment env options generators k).state.world.isCanceled = true) →
      (∀ k, n ≤ k →
        (∀ t', ¬(w₀.moment env options generators k).Calls env options t') ∧
        ((w₀.moment env options generators k).state.world.Rests
            (w₀.moment env options generators (k + 1)).state.world ∨
          ∃ part rest, (w₀.moment env options generators k).Applies t (.act part rest) ∧
            (w₀.moment env options generators (k + 1)).state.world =
              (w₀.moment env options generators k).state.world.takeTurn.2.yield.enact part) ∧
        (w₀.moment env options generators k).state.progress.generators =
          (w₀.moment env options generators n).state.progress.generators ∧
        (w₀.moment env options generators k).state.progress.children =
          (w₀.moment env options generators n).state.progress.children) ∧
      (∀ k, (∃ f ∈ (w₀.moment env options generators k).stage.flights,
          Moment.Deed env f (w₀.moment env options generators k).state.world
            (w₀.moment env options generators (k + 1)).state.world) ∨
        ∃ rs, Saves env.metadata rs (w₀.moment env options generators k).state.world
            (w₀.moment env options generators (k + 1)).state.world ∧
          ∀ r ∈ rs, r.id = t.id → r.group = t.id) ∧
      ∃ w' report, w.run env options generators = (w', .ok report) ∧
        report.blocked.contains t.id = true ∧
        ((∀ k, ¬(w₀.moment env options generators k).Applies t (.done .lost)) →
          report.outcome = .canceled)) := by
  refine ⟨fun canceled => ?_, fun single n t script at_work stays => ?_⟩
  · obtain ⟨graph, journal, rfl⟩ := prepare_frame prepared
    have start : World.isCanceled { w with graph, journal } = true := canceled
    have ended : World.moment { w with graph, journal } env options generators 1 = _ :=
      moment_of_canceled start
    have run := run_of_over prepared ended
    refine ⟨fun k t calls => ?_, _, run, rfl, rests_yield start, rfl⟩
    obtain rfl : k = 0 := Nat.lt_one_iff.1 (lt_of_calls calls ended)
    obtain ⟨f, mem, -⟩ := calls.flight
    cases mem
  have stops := moment_stops_of_applies single at_work (stays n (Nat.le_refl n) script at_work)
  -- The task is pending while its operation is at work, and stays so.
  obtain ⟨e, at_t, pending⟩ := (moment_stage w₀ options n).expects.pending _ at_work
  have waits : e.phase.isTerminal = false := by
    rw [pending]
    rfl
  have undone := moment_undone stops stays at_t waits
  refine ⟨fun k after => ?_, fun k => ?_, ?_⟩
  · have stops' := moment_stops stops stays after
    refine ⟨fun t' => stops'.not_calls t', ?_, moment_halts stops stays after⟩
    rcases stops'.rests options with rests | ⟨part, rest, _, at_work, -, state⟩
    · exact Or.inl rests.world
    · exact Or.inr ⟨part, rest, at_work, congrArg RunState.world state⟩
  · rcases Moment.next_saves options (moment_stage w₀ options k) with deed | ⟨rs, saves, own⟩
    · exact Or.inl deed
    refine Or.inr ⟨rs, saves, fun r mem of_t => ?_⟩
    rcases own r mem with group | done
    · exact group.trans of_t
    · rw [of_t] at done
      cases (undone (k + 1)).symm.trans done
  · obtain ⟨N, canceled, s, ended, run⟩ := run_eq_moment prepared
    have after : n ≤ N := by
      by_contra before
      have ends := moment_over ended (Nat.le_of_not_le before)
      rw [Moment.Applies, ends] at at_work
      cases at_work
    refine ⟨s.world, _, run, ?_, fun heeded => ?_⟩
    · refine Progress.blocked_of_child (e := e) ?_ waits canceled
      have children := (moment_halts stops stays after).2
      rw [ended] at children
      rw [children]
      exact at_t
    · have told := moment_halting stops stays after heeded (Or.inl (List.ne_nil_of_mem at_work))
      rw [ended] at told
      obtain rfl : canceled = true := told.resolve_left fun none => none rfl
      rfl

end World

/-! ## A run that one of its operations cancels -/

namespace Sample

/-- The run is cancelled, and then the document of a task gets its mark. -/
def stop : Operation := fun t =>
  .act (fun scene => ({ scene with
    context := { scene.context with cancelAt := some scene.clock } }, [])) fun _ => mark t

/-- Stopping is the only operation. -/
def stopping : Environment := .ofRegistry ⟨IdMap.empty.insert "mark" stop⟩ .defaultMetadata

/-- Two orders. -/
def twoOrders : World :=
  { World.initial with
    store := Store.empty.insertMany ⟨"db", "orders"⟩ [[("_id", .int 1)], [("_id", .int 2)]] }

/-- Tasks are evaluated one at a time. -/
def oneAtATime : RunOptions := { workers := 1 }

/-- The world once the run over the orders is prepared. -/
def twoOrdersReady : World := (twoOrders.prepare stopping oneAtATime [orders]).1

theorem twoOrders_prepared :
    twoOrders.prepare stopping oneAtATime [orders] = (twoOrdersReady, .ok ()) :=
  Prod.ext rfl (by decide +kernel)

/-- The run is cancelled when the operation of the first order is called, and then ends. -/
theorem twoOrders_stays (k : Nat) (later : 7 ≤ k) :
    (twoOrdersReady.moment stopping oneAtATime [orders] k).state.world.isCanceled = true := by
  have early : ∀ k < 13, 7 ≤ k → (twoOrdersReady.moment stopping oneAtATime
      [orders] k).state.world.isCanceled = true := by
    decide +kernel
  rcases Nat.lt_or_ge k 13 with before | after
  · exact early k before later
  · have ended : twoOrdersReady.moment stopping oneAtATime [orders] 12 = ⟨.over true, _⟩ :=
      World.moment_of_stage (by decide +kernel)
    rw [World.moment_over ended (Nat.le_of_succ_le after)]
    exact early 12 (by decide) (by decide)

/-- The operation of a task is at work. -/
def isAtWork (c : Identifier) : Flight → Bool
  | ⟨t, .applying _⟩ => t.id == c
  | _ => false

/-- No operation breaks off. -/
theorem stopping_ends : stopping.registry.Obeys (fun _ _ _ => True) fun _ o => o ≠ .lost := by
  intro name op known t
  rw [Registry.get_single known]
  exact fun _ => ⟨trivial, fun _ => ⟨trivial, Outcome.noConfusion⟩⟩

end Sample

namespace World

/-- The operation of the first order cancels the run and then goes on: the other one is not called,
and both orders are reported as waiting, although the first one gets its mark. -/
theorem two_orders_canceled :
    ∃ t script, (Sample.twoOrdersReady.moment Sample.stopping Sample.oneAtATime
        [Sample.orders] 7).Applies t script ∧ t.id = "z.1.0" ∧
      (∀ k, 7 ≤ k → ∀ t', ¬(Sample.twoOrdersReady.moment Sample.stopping Sample.oneAtATime
        [Sample.orders] k).Calls Sample.stopping Sample.oneAtATime t') ∧
      ∃ w report, Sample.twoOrders.run Sample.stopping Sample.oneAtATime [Sample.orders] =
          (w, .ok report) ∧
        report.blocked.contains "z.1.0" = true ∧ report.outcome = .canceled := by
  have at_work : (Sample.twoOrdersReady.moment Sample.stopping Sample.oneAtATime
      [Sample.orders] 7).stage.flights.any (Sample.isAtWork "z.1.0") = true := by
    decide +kernel
  obtain ⟨⟨t, e⟩, mem, named⟩ := List.any_eq_true.1 at_work
  cases e with
  | asking | ready | saving | writing => cases named
  | applying script =>
    have named : t.id = "z.1.0" := eq_of_beq named
    obtain ⟨-, stops⟩ := canceled_at_once Sample.twoOrders_prepared
    obtain ⟨after, -, w, report, run, waiting, outcome⟩ := stops (by decide) 7 t script mem
      fun k later _ _ => Sample.twoOrders_stays k later
    refine ⟨t, script, mem, named, fun k later => (after k later).1, w, report, run,
      named ▸ waiting, outcome fun k lost => ?_⟩
    exact moment_obeys Sample.stopping_ends _ _ k _ lost rfl

end World

end GatedMigration
