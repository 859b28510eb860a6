import GatedMigration.Proofs.Agreement
import GatedMigration.Proofs.Forward
import GatedMigration.Proofs.Order
import GatedMigration.Proofs.Steady

/-!
# Runs that come to their end

In a calm world, with operations that succeed, a run finishes every migration that can finish, one
layer of dependencies in each round (`World.finishes_what_can_finish`). Within a round, whatever
comes after finished migrations only is due (`Progress.Due`): it is asked, then its tasks are at
work together with others, and then it is closed (`Stage.OnCourse`). A round without progress has
found nothing due that was not finished, so nothing is left that could finish
(`RunState.Steady.conclude`).
-/

namespace GatedMigration

/-- A migration that comes after finished ones only: after those in the layers that the rounds so
far have finished, or, while there is no progress, after any that are finished without errors. -/
def Progress.Due (generators : List Generator) (p : Progress) (progressed : Bool)
    (id : Identifier) : Prop :=
  ∃ g ∈ generators, g.id = id ∧ ∀ a ∈ g.migration.after,
    Grounded generators p.rounds a ∨ progressed = false ∧ p.Clean a

/-- What is due in a round and has not been done yet is left to do in it. -/
def Stage.OnCourse (generators : List Generator) (p : Progress) : Stage → Prop
  | .opening => True
  | .asking ids progressed => ∀ id, p.Due generators progressed id → id ∈ ids ∨ p.Begun id
  | .working flights progressed canceled => canceled = false ∧
      (∀ id, p.Due generators progressed id → p.Begun id) ∧
      ∀ c, p.children.contains c = true → c ∈ flights.map (·.task.id) ∨ p.Begun c
  | .closing settled progressed =>
      ∀ id, p.Due generators progressed id → id ∈ settled.map Prod.fst ∨ p.Clean id
  | .over canceled => canceled = false ∧ ∀ k id, Grounded generators k id → p.Clean id

namespace Progress

variable {generators : List Generator} {p q : Progress} {id : Identifier} {flag flag' : Bool}

theorem Due.given (h : p.Due generators flag id) : id ∈ generators.map Generator.id := by
  obtain ⟨g, given, rfl, -⟩ := h
  exact List.mem_map_of_mem given

/-- What is due after a step was due before it, since progress makes less due. -/
theorem Due.before (h : q.Due generators flag' id) (rounds : p.SameRounds q)
    (same : flag' = false → flag = false ∧ q.standing? = p.standing?) :
    p.Due generators flag id := by
  obtain ⟨g, given, named, after⟩ := h
  refine ⟨g, given, named, fun a mem => ?_⟩
  rcases after a mem with layer | ⟨idle, clean⟩
  · exact Or.inl (rounds.1 ▸ layer)
  · obtain ⟨idle, same⟩ := same idle
    refine Or.inr ⟨idle, ?_⟩
    unfold Clean at clean ⊢
    rwa [same] at clean

theorem Errorless.clean (ok : p.Errorless) {st : Standing} (at_id : p.standing? id = some st)
    (terminal : st.phase.isTerminal = true) : p.Clean id :=
  ⟨st, at_id, Phase.isClean_of_isTerminal terminal (ok at_id).2⟩

/-- Once no task is pending, a migration that has begun is settled or finished. -/
theorem Lawful.settled_or_clean (laws : p.Lawful) (ok : p.Errorless)
    (done : ∀ c, p.children.contains c = true → p.Begun c)
    (migration : p.generators.contains id = true) (begun : p.Begun id) :
    id ∈ p.settledGenerators.map Prod.fst ∨ p.Clean id := by
  obtain ⟨st, at_id, begun⟩ := begun
  obtain ⟨g, found, rfl⟩ := generator_of_standing migration at_id
  by_cases terminal : g.standing.phase.isTerminal = true
  · exact Or.inr (ok.clean at_id terminal)
  have running : g.entry.phase = .running := by
    show g.standing.phase = .running
    cases phase : g.standing.phase with
    | pending => exact absurd phase begun
    | running => rfl
    | succeeded | passed | failed =>
      rw [phase] at terminal
      exact absurd rfl terminal
  refine Or.inl (mem_settledGenerators found ?_)
  rw [isSettled, running, Bool.and_eq_true, List.all_eq_true]
  refine ⟨rfl, fun c mem => ?_⟩
  have known := laws.tasks at_id c mem
  obtain ⟨st, at_c, begun⟩ := done c known
  refine (laws.isDone_iff known).2 ⟨st, at_c, ?_⟩
  cases phase : st.phase with
  | pending => exact absurd phase begun
  | running => exact absurd ((laws.apart known).symm.trans (laws.runs at_c phase)) Bool.noConfusion
  | succeeded | passed | failed => rfl

end Progress

namespace RunState

variable {env : Environment} {generators : List Generator} {w : World} {s : RunState}

theorem start_steady (options : RunOptions) (calm : w.Calm)
    (fresh : ∀ g ∈ generators, ∃ m, g = Generator.new m) :
    Steady env generators (start w options generators) := by
  refine ⟨calm, ?_, ?_, ?_, ?_, ?_⟩
  · exact Nat.lt_of_lt_of_le Nat.zero_lt_one (Nat.le_max_right _ _)
  · intro id st at_id
    rw [Progress.start_standing at_id]
    exact ⟨rfl, Phase.noConfusion⟩
  · intro id g source
    obtain ⟨g, given, -, rfl⟩ := IdMap.find?_ofList generators Generator.id (fun g => g) source
    obtain ⟨m, rfl⟩ := fresh g given
    rfl
  · intro id t found
    cases found
  · intro id grounded
    cases grounded

/-- Waiting and warnings change nothing that counts. -/
theorem Steady.rest (steady : Steady env generators s) {world : World} (calm : world.Calm)
    (saves : World.Saves env.metadata [] s.world world) :
    Steady env generators { s with world } :=
  steady.after (.quiet .rfl rfl saves) calm ⟨rfl, rfl⟩ steady.errorless steady.unhurt Or.inl

/-- A round that has finished all that was due in it finishes a layer. -/
theorem Steady.endRound (steady : Steady env generators s) {progressed : Bool}
    (due : ∀ id, s.progress.Due generators progressed id → s.progress.Clean id) :
    Steady env generators (s.endRound progressed) := by
  refine ⟨steady.calm, steady.patient, steady.errorless, steady.unhurt, steady.released, ?_⟩
  intro id grounded
  cases grounded with
  | layer given below => exact due _ ⟨_, given, rfl, fun a after => Or.inl (below a after)⟩

/-- After a round that has finished all that was due in it, the run goes on, or it ends and has
finished every layer. -/
theorem Steady.conclude (ok : s.Consistent env generators w) (steady : Steady env generators s)
    (pollInterval : Nat) {progressed : Bool}
    (due : ∀ id, s.progress.Due generators progressed id → s.progress.Clean id) :
    Steady env generators (s.conclude pollInterval progressed).1 ∧
      ∀ canceled, (s.conclude pollInterval progressed).2 = some canceled →
        canceled = false ∧ ∀ k id, Grounded generators k id → s.progress.Clean id := by
  have ended := steady.endRound due
  unfold RunState.conclude
  dsimp only
  split
  · rename_i finished
    refine ⟨ended, fun canceled e => ⟨(Option.some.inj e).symm, fun k id grounded => ?_⟩⟩
    obtain ⟨g, found⟩ := IdMap.find?_of_contains ((ok.migrations id).2 grounded.given)
    have standing := Progress.standing?_of_generator found
    rw [Progress.isFinished, Bool.and_eq_true, List.all_eq_true] at finished
    refine steady.errorless.clean standing (finished.1 g ?_)
    exact List.mem_map.2 ⟨(id, g), Keyed.mem_of_find?_eq_some found, rfl⟩
  split
  · rename_i unable
    refine ⟨ended.rest (ended.calm.of_eq rfl rfl rfl) (World.saves_warn _ _ _),
      fun canceled e => ⟨(Option.some.inj e).symm, fun k id grounded => ?_⟩⟩
    -- The run would have gone on after a round with progress.
    cases progressed with
    | true => exact absurd steady.patient (of_decide_eq_false unable)
    | false =>
      refine grounded.induct fun g given clean => ?_
      exact due g.id ⟨g, given, rfl, fun a after => Or.inr ⟨rfl, clean a after⟩⟩
  split
  · exact ⟨ended, fun canceled e => by cases e⟩
  · obtain ⟨world, paused, calm⟩ := ended.calm.pause pollInterval
    have saves := (World.saves_frame env.metadata).pause (s.endRound progressed).world pollInterval
    rw [paused] at saves ⊢
    exact ⟨ended.rest calm saves, fun canceled e => by cases e⟩

theorem Steady.yield (steady : Steady env generators s) : s.yield = s := by
  rw [RunState.yield, steady.calm.undisturbed.yield]

theorem Effect.still_begun {s' : RunState} (h : Effect env s s') {id : Identifier}
    (begun : s.progress.Begun id) : s'.progress.Begun id := by
  obtain ⟨st, at_id, begun⟩ := begun
  obtain ⟨st', at_id, begun, -⟩ := h.begun at_id begun
  exact ⟨st', at_id, begun⟩

/-- Where all migrations are finished without errors, so are all tasks. -/
theorem Consistent.all_clean (ok : s.Consistent env generators w) (errorless : s.progress.Errorless)
    (clean : ∀ g ∈ generators, s.progress.Clean g.id) {id : Identifier} {st : Standing}
    (at_id : s.progress.standing? id = some st) : st.phase.isClean = true := by
  by_cases migration : s.progress.generators.contains id = true
  · obtain ⟨g, given, rfl⟩ := List.mem_map.1 ((ok.migrations id).1 migration)
    obtain ⟨st', at_id', is_clean⟩ := clean g given
    cases at_id.symm.trans at_id'
    exact is_clean
  · -- A task is finished together with its migration.
    obtain ⟨e, found, rfl⟩ := Progress.child_of_standing (eq_false_of_ne_true migration) at_id
    obtain ⟨t, found⟩ := IdMap.find?_of_contains (ok.tasked (IdMap.contains_of_find? found))
    obtain ⟨-, -, in_run, st, at_group, mem⟩ := ok.tasks found
    obtain ⟨g, given, named⟩ := List.mem_map.1 ((ok.migrations _).1 in_run)
    obtain ⟨st', at_group', is_clean⟩ := clean g given
    rw [named] at at_group'
    cases at_group.symm.trans at_group'
    obtain ⟨st', at_id', terminal⟩ := ok.lawful.finished at_group
      (Phase.isTerminal_of_isClean is_clean) id mem
    cases at_id.symm.trans at_id'
    exact Phase.isClean_of_isTerminal terminal (errorless at_id).2

end RunState

namespace Moment

variable {env : Environment} {generators : List Generator} {w : World} {m : Moment}

/-- What holds at a moment of a run in a calm world. -/
structure OnCourse (env : Environment) (generators : List Generator) (m : Moment) : Prop where
  state : m.state.Steady env generators
  stage : m.stage.OnCourse generators m.state.progress

/-- The tasks at work go on to their ends without errors. -/
def Smooth (m : Moment) : Prop := ∀ f ∈ m.stage.flights, f.evaluation.Smooth f.task

section

variable (reliable : env.registry.Reliable)
  (registered : ∀ g ∈ generators, env.registry.contains g.migration.operation = true)
  (total : ∀ g ∈ generators, g.migration.selector.Total)
  (distinct : (generators.map Generator.id).Nodup) (options : RunOptions)
  {s : RunState} {progressed : Bool}

/-- At the start of a round all that is due is asked or has begun. -/
theorem OnCourse.opening (sound : Sound env generators w ⟨.opening, s⟩)
    (h : OnCourse env generators ⟨.opening, s⟩) :
    (next env options ⟨.opening, s⟩).OnCourse env generators := by
  obtain ⟨ok, -⟩ := sound
  obtain ⟨steady, -⟩ := h
  have yield : s.yield = s := steady.yield
  rw [Moment.next, yield, steady.calm.undisturbed.isCanceled]
  refine ⟨steady, fun id due => ?_⟩
  obtain ⟨g, found⟩ := IdMap.find?_of_contains ((ok.migrations id).2 due.given)
  by_cases pending : g.entry.phase = .pending
  · exact Or.inl (Progress.mem_pendingGenerators found pending)
  · exact Or.inr ⟨_, Progress.standing?_of_generator found, pending⟩

/-- After the questions to the migrations every task is to begin or has done so. -/
theorem OnCourse.asked (sound : Sound env generators w ⟨.asking [] progressed, s⟩)
    (h : OnCourse env generators ⟨.asking [] progressed, s⟩) :
    (next env options ⟨.asking [] progressed, s⟩).OnCourse env generators := by
  obtain ⟨ok, -⟩ := sound
  obtain ⟨steady, course⟩ := h
  refine ⟨steady, rfl, fun id due => (course id due).resolve_left List.not_mem_nil, ?_⟩
  intro c known
  obtain ⟨e, found⟩ := IdMap.find?_of_contains known
  by_cases pending : e.phase = .pending
  · refine Or.inl ?_
    obtain ⟨t, filed⟩ := IdMap.find?_of_contains (ok.tasked known)
    obtain rfl : t.id = c := s.filed filed
    exact List.mem_map_of_mem (s.fresh_mem_flights filed found pending)
  · exact Or.inr ⟨_, Progress.standing?_of_child (ok.lawful.apart known) found, pending⟩

include total distinct in
/-- A migration that is asked has begun afterwards, or it is not due. -/
theorem OnCourse.asking {id : Identifier} {ids : List Identifier}
    (sound : Sound env generators w ⟨.asking (id :: ids) progressed, s⟩)
    (h : OnCourse env generators ⟨.asking (id :: ids) progressed, s⟩) :
    (next env options ⟨.asking (id :: ids) progressed, s⟩).OnCourse env generators := by
  obtain ⟨effect, -⟩ := next_effect options sound
  obtain ⟨ok, ⟨-, todo⟩, -⟩ := sound
  obtain ⟨steady, course⟩ := h
  obtain ⟨e, found, pending⟩ := todo id List.mem_cons_self
  obtain ⟨steady', rounds, how⟩ := steady.advance total ok found pending
  rw [Moment.next] at effect ⊢
  generalize s.advance env id = r at *
  obtain ⟨s', _ | _ | _⟩ := r
  · -- The migration has moved on.
    obtain ⟨-, begun⟩ := how.resolve_right fun waits => Step.noConfusion waits.1
    refine ⟨steady', fun id' due => ?_⟩
    rcases course id' (due.before rounds fun idle => by simp at idle) with mem | begun'
    · rcases List.mem_cons.1 mem with rfl | mem
      · exact Or.inr begun
      · exact Or.inl mem
    · exact Or.inr (effect.still_begun begun')
  · -- The migration waits for one that is not finished, so it is not due.
    obtain ⟨-, same, g, given, rfl, a, after, unsatisfied⟩ :=
      how.resolve_left fun moved => Step.noConfusion moved.1
    refine ⟨steady', fun id' due => ?_⟩
    have due' : s.progress.Due generators progressed id' :=
      due.before rounds fun idle => ⟨by simpa using idle, same⟩
    rcases course id' due' with mem | begun'
    · rcases List.mem_cons.1 mem with rfl | mem
      · obtain ⟨g', given', same', finished⟩ := due'
        obtain rfl : g' = g := List.inj_on_of_nodup_map distinct given' given same'
        refine absurd (ok.satisfied ?_) unsatisfied
        exact (finished a after).elim (fun layer => steady.layered layer) And.right
      · exact Or.inl mem
    · exact Or.inr (effect.still_begun begun')
  · rcases how with ⟨moved, -⟩ | ⟨idle, -⟩
    · cases moved
    · cases idle

/-- After the work of the tasks all that is due is closed or finished. -/
theorem OnCourse.worked {canceled : Bool}
    (sound : Sound env generators w ⟨.working [] progressed canceled, s⟩)
    (h : OnCourse env generators ⟨.working [] progressed canceled, s⟩) :
    (next env options ⟨.working [] progressed canceled, s⟩).OnCourse env generators := by
  obtain ⟨ok, -⟩ := sound
  obtain ⟨steady, going, begun, done⟩ := h
  rw [Moment.next, going]
  refine ⟨steady, fun id due => ?_⟩
  exact ok.lawful.settled_or_clean steady.errorless
    (fun c known => (done c known).resolve_left List.not_mem_nil)
    ((ok.migrations id).2 due.given) (begun id due)

include reliable registered total in
/-- A task at work goes on, or it has begun when it has come to its end. -/
theorem OnCourse.working {f : Flight} {fs : List Flight} {canceled : Bool}
    (sound : Sound env generators w ⟨.working (f :: fs) progressed canceled, s⟩)
    (smooth : Smooth ⟨.working (f :: fs) progressed canceled, s⟩)
    (h : OnCourse env generators ⟨.working (f :: fs) progressed canceled, s⟩) :
    (next env options ⟨.working (f :: fs) progressed canceled, s⟩).OnCourse env generators := by
  obtain ⟨effect, -⟩ := next_effect options sound
  obtain ⟨ok, expected, keeps⟩ := sound
  obtain ⟨steady, going, begun, done⟩ := h
  obtain ⟨steady', rounds, how⟩ := steady.work total ok reliable registered expected keeps smooth
    (RunState.work_cases env options.workers (List.cons_ne_nil f fs) s)
  rw [next] at effect ⊢
  have known_before : ∀ c, (s.work env options.workers (f :: fs)).1.progress.children.contains c →
      s.progress.children.contains c := fun _ =>
    RunState.work_known expected (RunState.work_cases env options.workers (List.cons_ne_nil f fs) s)
  generalize s.work env options.workers (f :: fs) = r at *
  obtain ⟨s', flights, step⟩ := r
  rcases how with ⟨rfl, same, still⟩ | ⟨rfl, id, began, others⟩
  · refine ⟨steady', by rw [going]; rfl, fun id' due => ?_, fun c known => ?_⟩
    · exact effect.still_begun (begun id' (due.before rounds fun idle =>
        ⟨by simpa using idle, congrArg Progress.standing? same⟩))
    · refine (done c (known_before c known)).imp (fun mem => ?_) effect.still_begun
      exact still ▸ mem
  · refine ⟨steady', by rw [going]; rfl, fun id' due => ?_, fun c known => ?_⟩
    · exact effect.still_begun (begun id' (due.before rounds fun idle => by simp at idle))
    · rcases done c (known_before c known) with mem | begun
      · rcases others c mem with rfl | mem
        · exact Or.inr began
        · exact Or.inl mem
      · exact Or.inr (effect.still_begun begun)

/-- Once all that was due is finished, the run goes on to the next round or has finished every
layer. -/
theorem OnCourse.closed (sound : Sound env generators w ⟨.closing [] progressed, s⟩)
    (h : OnCourse env generators ⟨.closing [] progressed, s⟩) :
    (next env options ⟨.closing [] progressed, s⟩).OnCourse env generators := by
  obtain ⟨effect, -⟩ := next_effect options sound
  obtain ⟨ok, -⟩ := sound
  obtain ⟨steady, course⟩ := h
  obtain ⟨steady', ended⟩ := steady.conclude ok options.pollInterval
    fun id due => (course id due).resolve_left List.not_mem_nil
  rw [Moment.next] at effect ⊢
  generalize s.conclude options.pollInterval progressed = r at *
  obtain ⟨s', _ | canceled⟩ := r
  · exact ⟨steady', trivial⟩
  · obtain ⟨going, all⟩ := ended canceled rfl
    exact ⟨steady', going, fun k id grounded =>
      Progress.Keeps.clean effect.keeps (all k id grounded)⟩

/-- A migration that is closed is finished afterwards. -/
theorem OnCourse.closing {id : Identifier} {hasErrors : Bool} {settled : List (Identifier × Bool)}
    (sound : Sound env generators w ⟨.closing ((id, hasErrors) :: settled) progressed, s⟩)
    (h : OnCourse env generators ⟨.closing ((id, hasErrors) :: settled) progressed, s⟩) :
    (next env options ⟨.closing ((id, hasErrors) :: settled) progressed, s⟩).OnCourse env
      generators := by
  obtain ⟨effect, -⟩ := next_effect options sound
  obtain ⟨ok, ⟨-, todo⟩, -⟩ := sound
  obtain ⟨steady, course⟩ := h
  obtain ⟨g, found, is_settled, told⟩ := todo (id, hasErrors) List.mem_cons_self
  obtain ⟨steady', rounds, moved, clean⟩ := steady.close ok found is_settled told
  rw [Moment.next] at effect ⊢
  generalize s.close env id hasErrors = r at *
  obtain ⟨s', _⟩ := r
  cases moved
  refine ⟨steady', fun id' due => ?_⟩
  rcases course id' (due.before rounds fun idle => by simp at idle) with mem | clean'
  · rcases List.mem_cons.1 mem with rfl | mem
    · exact Or.inr clean
    · exact Or.inl mem
  · exact Or.inr (Progress.Keeps.clean effect.keeps clean')

include reliable registered total distinct in
/-- Each step of a run in a calm world keeps it on course. -/
theorem OnCourse.next (sound : m.Sound env generators w) (smooth : m.Smooth)
    (h : m.OnCourse env generators) : (m.next env options).OnCourse env generators := by
  match m, sound, smooth, h with
  | ⟨.opening, s⟩, sound, _, h => exact h.opening options sound
  | ⟨.asking [] progressed, s⟩, sound, _, h => exact h.asked options sound
  | ⟨.asking (id :: ids) progressed, s⟩, sound, _, h =>
    exact h.asking total distinct options sound
  | ⟨.working [] progressed canceled, s⟩, sound, _, h => exact h.worked options sound
  | ⟨.working (f :: fs) progressed canceled, s⟩, sound, smooth, h =>
    exact h.working reliable registered total options sound smooth
  | ⟨.closing [] progressed, s⟩, sound, _, h => exact h.closed options sound
  | ⟨.closing ((id, hasErrors) :: settled) progressed, s⟩, sound, _, h =>
    exact h.closing options sound
  | ⟨.over canceled, s⟩, sound, _, h => exact h

include reliable registered total in
/-- In a calm world every task at work goes on to its end without errors. -/
theorem Smooth.next (sound : m.Sound env generators w) (course : m.OnCourse env generators)
    (h : m.Smooth) : (m.next env options).Smooth := by
  refine next_flights (P := fun f => f.evaluation.Smooth f.task) sound.stage
    (fun _ _ _ _ => trivial) (fun f mem world evaluation _ step => ?_) fun f mem _ _ _ _ => h f mem
  have known := sound.stage.expects.known f mem
  obtain ⟨-, ⟨g, given, d, n, task⟩, -⟩ := sound.state.tasks known
  have turn := m.state.world.saves_takeTurn env.metadata
  have stepped := (h f mem).step reliable (task ▸ registered g given) (task ▸ total g given)
    (World.Calm.frame.turn _ course.state.calm)
    fun a edge => turn.satisfied_iff.2 (course.state.released known a edge)
  rw [step] at stepped
  exact stepped.2

end

/-- What can finish is finished once there were as many rounds as its chains have migrations, and
once the run is over. -/
theorem OnCourse.clean (h : m.OnCourse env generators) {d : Nat}
    (chains : ∀ chain, DependencyChain generators chain → chain.length ≤ d)
    (late : d ≤ m.state.progress.rounds ∨ ∃ canceled, m.stage = .over canceled) {id : Identifier}
    (able : CanFinish generators id) : m.state.progress.Clean id := by
  obtain ⟨steady, stage⟩ := h
  rcases late with late | ⟨canceled, ended⟩
  · refine steady.layered (able.grounded fun rest chain => ?_)
    exact Nat.lt_of_lt_of_le (chains _ chain) late
  · rw [ended] at stage
    exact stage.2 d id (able.grounded fun rest chain => chains _ chain)

end Moment

namespace World

variable {w w₀ : World} {env : Environment} {options : RunOptions} {generators : List Generator}

/-- A run in a calm world is on course at every moment. -/
theorem moment_on_course
    (prepared : w.prepare env options generators = (w₀, .ok ())) (calm : w.Calm)
    (plain : ∀ g ∈ generators, Plain g.id) (fresh : ∀ g ∈ generators, ∃ m, g = Generator.new m)
    (total : ∀ g ∈ generators, g.migration.selector.Total)
    (registered : ∀ g ∈ generators, env.registry.contains g.migration.operation = true)
    (reliable : env.registry.Reliable) (ops : env.registry.KeepsRecords env.metadata) (n : Nat) :
    (w₀.moment env options generators n).OnCourse env generators ∧
      (w₀.moment env options generators n).Smooth := by
  have made : ∀ g ∈ generators, g.Made := fun g given => by
    obtain ⟨m, rfl⟩ := fresh g given
    exact .new m
  induction n with
  | zero =>
    obtain ⟨graph, journal, rfl⟩ := prepare_frame prepared
    exact ⟨⟨RunState.start_steady options (calm.of_eq rfl rfl rfl) fresh, trivial⟩,
      fun _ mem => absurd mem List.not_mem_nil⟩
  | succ n ih =>
    have sound := moment_sound plain made ops w₀ options n
    obtain ⟨course, smooth⟩ := ih
    exact ⟨course.next reliable registered total (prepare_nodup prepared) options sound smooth,
      smooth.next reliable registered total options sound course⟩

end World

/-! ## The outcome -/

/-- A run that has finished everything without errors, and was not cancelled, has succeeded. -/
theorem Progress.outcome_of_clean {p : Progress} (laws : p.Lawful)
    (clean : ∀ {id st}, p.standing? id = some st → st.phase.isClean = true) :
    (p.report false).outcome = .succeeded := by
  have none (test : Phase → Bool) (never : ∀ ph, ph.isClean = true → test ph = false) :
      (p.entries.filter fun e => test e.2.phase) = [] := by
    refine List.filter_eq_nil_iff.2 fun ⟨id, e⟩ mem holds => ?_
    have phase := phase?_of_mem_entries laws.apart mem
    rw [phase?_eq_standing?] at phase
    obtain ⟨st, at_id, same⟩ := Option.map_eq_some_iff.1 phase
    have fails := never e.phase (same ▸ clean at_id)
    rw [fails] at holds
    cases holds
  have unfailed := none (· == .failed) fun ph clean => by cases ph <;> first | rfl | cases clean
  have finished := none (!·.isTerminal) fun ph clean => by cases ph <;> first | rfl | cases clean
  simp only [report, unfailed, finished]
  rfl

namespace World

variable {w w₀ : World} {env : Environment} {options : RunOptions} {generators : List Generator}

/-- No deadlock: a run finishes everything that can finish. In a calm world, over generators that
have not been used, with operations that always succeed, every migration that leads to no cycle and
to no unknown migration is finished without errors, and so are its tasks, once the run has made as
many rounds as the longest chain of such migrations has members, or once the run is over. The run is
not cancelled, and if every migration is such a one it succeeds. -/
theorem finishes_what_can_finish
    (prepared : w.prepare env options generators = (w₀, .ok ())) (calm : w.Calm)
    (plain : ∀ g ∈ generators, Plain g.id) (fresh : ∀ g ∈ generators, ∃ m, g = Generator.new m)
    (total : ∀ g ∈ generators, g.migration.selector.Total)
    (registered : ∀ g ∈ generators, env.registry.contains g.migration.operation = true)
    (reliable : env.registry.Reliable) (ops : env.registry.KeepsRecords env.metadata) :
    (∀ d, (∀ chain, DependencyChain generators chain → chain.length ≤ d) → ∀ n,
      (d ≤ (w₀.moment env options generators n).state.progress.rounds ∨
        ∃ canceled, (w₀.moment env options generators n).stage = .over canceled) →
      ∀ id, CanFinish generators id →
        (w₀.moment env options generators n).state.progress.FinishedCleanly id) ∧
    ∃ n s, w₀.moment env options generators n = ⟨.over false, s⟩ ∧
      w.run env options generators = (s.world, .ok (s.progress.report false)) ∧
      ((∀ g ∈ generators, CanFinish generators g.id) →
        (s.progress.report false).outcome = .succeeded) := by
  have made : ∀ g ∈ generators, g.Made := fun g given => by
    obtain ⟨m, rfl⟩ := fresh g given
    exact .new m
  have sound := moment_sound plain made ops w₀ options
  have course := moment_on_course prepared calm plain fresh total registered reliable ops
  refine ⟨fun d chains n late id able => ?_, ?_⟩
  · obtain ⟨st, at_id, is_clean⟩ := (course n).1.clean chains late able
    exact (sound n).state.lawful.finishedCleanly
      (((sound n).state.migrations id).2 able.given) at_id is_clean
  obtain ⟨n, canceled, s, ended, run⟩ := run_eq_moment prepared
  have ok := (sound n).state
  have course := (course n).1
  rw [ended] at ok course
  obtain rfl : canceled = false := course.stage.1
  refine ⟨n, s, ended, run, fun all => Progress.outcome_of_clean ok.lawful ?_⟩
  refine ok.all_clean course.state.errorless fun g given => ?_
  exact course.clean (fun chain h => h.length_le) (Or.inr ⟨false, rfl⟩) (all g given)

end World

/-! ## The run of the two migrations -/

namespace Sample

theorem fresh : ∀ g ∈ generators, ∃ m, g = Generator.new m := by
  intro g mem
  simp only [generators, List.mem_cons, List.not_mem_nil, or_false] at mem
  rcases mem with rfl | rfl
  · exact ⟨_, rfl⟩
  · exact ⟨_, rfl⟩

theorem total : ∀ g ∈ generators, g.migration.selector.Total := by
  intro g mem
  simp only [generators, List.mem_cons, List.not_mem_nil, or_false] at mem
  rcases mem with rfl | rfl
  · exact fun d => ⟨true, rfl⟩
  · exact fun d => ⟨true, rfl⟩

theorem reliable : env.registry.Reliable := by
  intro name op known t
  rw [get_eq_mark known]
  refine fun scene => ⟨fun calm => ⟨?_, calm.context⟩, rfl⟩
  show (scene.store.setField t.namesp t.documentId "done" (.bool true)).1.Faultless
  unfold Store.setField
  split <;> exact calm.faults

theorem calm : world.Calm := ⟨⟨0, rfl⟩, rfl, rfl⟩

theorem orders_can_finish : CanFinish generators "z" := by
  refine .of_all (List.mem_map_of_mem orders_mem) fun a ⟨g, given, named, after⟩ => ?_
  have first : ∀ g ∈ generators, g.id = "z" → g.migration.after = [] := by decide
  rw [first g given named] at after
  cases after

theorem invoices_can_finish : CanFinish generators "a" := by
  refine .of_all (List.mem_map_of_mem invoices_mem) fun a ⟨g, given, named, after⟩ => ?_
  have second : ∀ g ∈ generators, g.id = "a" → g.migration.after = ["z"] := by decide
  rw [second g given named] at after
  rw [List.mem_singleton.1 after]
  exact orders_can_finish

theorem can_finish : ∀ g ∈ generators, CanFinish generators g.id := by
  intro g mem
  simp only [generators, List.mem_cons, List.not_mem_nil, or_false] at mem
  rcases mem with rfl | rfl
  · exact orders_can_finish
  · exact invoices_can_finish

end Sample

/-- Two rounds finish the orders and the invoices. -/
theorem World.orders_and_invoices_finish :
    (Sample.ready.moment Sample.env {} Sample.generators 33).state.progress.rounds = 2 ∧
    (∀ id, id = "z" ∨ id = "a" →
      (Sample.ready.moment Sample.env {} Sample.generators 33).state.progress.FinishedCleanly id) ∧
    ∃ s : RunState, Sample.world.run Sample.env {} Sample.generators =
        (s.world, .ok (s.progress.report false)) ∧
      (s.progress.report false).outcome = .succeeded := by
  obtain ⟨finished, n, s, -, run, succeeded⟩ := finishes_what_can_finish Sample.prepared Sample.calm
    Sample.plain Sample.fresh Sample.total (by decide) Sample.reliable (Sample.keepsRecords _)
  have rounds : (Sample.ready.moment Sample.env {} Sample.generators 33).state.progress.rounds =
      2 := by decide +kernel
  have at_end := finished 2 (fun chain h => h.length_le) 33 (Or.inl (Nat.le_of_eq rounds.symm))
  refine ⟨rounds, fun id which => ?_, s, run, succeeded Sample.can_finish⟩
  rcases which with rfl | rfl
  · exact at_end "z" Sample.orders_can_finish
  · exact at_end "a" Sample.invoices_can_finish

end GatedMigration
