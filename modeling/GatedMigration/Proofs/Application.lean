import GatedMigration.Proofs.Cancellation
import GatedMigration.Proofs.Uniqueness

/-!
# Operations are called once

The journal tells what has become of the operation of a task (`World.history`): nothing, that it was
called, or that it has ended. How much it tells goes with how far the task has come while it is at
work (`Evaluation.Recounts`), and later with the phase of the task (`Moment.Recounts`): a step keeps
this whichever of the tasks at work it belongs to. Only a task of which the journal tells nothing is
called, unless its operation has broken off.

* `World.history_of_calls`: nothing has become of a task that is called.
* `World.called_once`: the operation of a task is called at one moment of a run at most.
-/

namespace GatedMigration

/-- The operation of no task breaks off. -/
def Registry.Ends (r : Registry) : Prop := r.Obeys (fun _ _ _ => True) fun _ o => o ≠ .lost

namespace World

/-- What the journal says about the operation of a task, the latest first. -/
def history (w : World) (id : Identifier) : List Event :=
  w.journal.filter fun e => e.about? = some id

variable {w : World} {id : Identifier} {e : Event}

theorem history_eq (w : World) (id : Identifier) :
    w.history id = w.journal.filterMap (Option.guard fun e => e.about? = some id) := by
  rw [List.filterMap_eq_filter]
  rfl

theorem guard_of_about? (id : Identifier) (e : Event) (silent : e.about? = none) :
    Option.guard (fun e : Event => e.about? = some id) e = none := by
  rw [Option.guard_eq_none_iff, silent]
  rfl

theorem history_note (about : e.about? = some id) : (w.note e).history id = e :: w.history id :=
  List.filter_cons_of_pos (decide_eq_true about)

theorem history_note_of_ne (other : e.about? ≠ some id) :
    (w.note e).history id = w.history id :=
  List.filter_cons_of_neg (by simpa using other)

theorem history_enact (w : World) (part : Scene → Scene × List String) (id : Identifier) :
    (w.enact part).history id = w.history id := by
  rw [history_eq, history_eq]
  exact journal_enact (guard_of_about? id) w part

/-- Nothing becomes of the operation of a task while it is neither called nor ends. -/
theorem history_frame (id : Identifier) : WideFrame fun w w' => w'.history id = w.history id := by
  simp only [history_eq]
  exact journal_frame (guard_of_about? id)

end World

/-! ## Tasks at work -/

/-- What the journal says about a task that has come so far, in front of what it said before the
run. If the operation has ended with an error, nothing is said here. -/
def Evaluation.Recounts (t : Task) (base : List Event) : Evaluation → List Event → Prop
  | asking _, h | ready, h | saving .passed, h | writing .passed _, h => h = base
  | applying _, h => h = .applied t :: base
  | saving (.executed none), h | writing (.executed none) _, h =>
    h = .returned t.id .succeeded :: .applied t :: base
  | saving (.executed (some _)), _ | writing (.executed (some _)) _, _ => True

namespace Evaluation

variable {env : Environment} {t : Task} {base : List Event} {e e' : Evaluation} {w w' : World}

/-- A step of a task at work notes what becomes of its operation. -/
theorem Recounts.step (h : e.Recounts t base (w.history t.id))
    (went : e.step env t w = (w', .inl e')) : e'.Recounts t base (w'.history t.id) := by
  have frame := (World.history_frame t.id).toFrame
  cases onward_of_step went with
  | @asks i _ step | @readies i step | @passes i step =>
    have asked := i.step_frame frame t.oracle env.metadata w
    rw [step] at asked
    exact asked.trans h
  | misses => trivial
  | calls _ called =>
    rw [called, Recounts, World.history_note rfl]
    exact congrArg _ h
  | acts done =>
    rw [done, Recounts, World.history_enact]
    exact (frame.yield w).trans h
  | succeeds noted =>
    rw [noted, Recounts, World.history_note rfl]
    exact congrArg _ h
  | fails => trivial
  | @writes ending q begun =>
    have same : w'.history t.id = w.history t.id := by
      refine Eq.trans ?_ (frame.yield w)
      rcases w.yield.begin_cases (save env t ending) with ⟨e, refused⟩ | ⟨due, began⟩
      · cases refused.symm.trans begun
      · cases began.symm.trans begun
        rfl
    match ending, h with
    | .passed, h => exact same.trans h
    | .executed none, h => exact same.trans h
    | .executed (some _), _ => trivial

end Evaluation

namespace Moment

variable {env : Environment} {options : RunOptions} {m : Moment} {c : Identifier}

/-- What a step of a task at work adds to what the journal says about a task. -/
theorem Goes.history {f : Flight} {s s' : RunState} (goes : Goes env f s s') (c : Identifier) :
    s'.world.history c = s.world.history c ∨ f.task.id = c ∧
      (f.evaluation = .ready ∧ s'.world.history c = .applied f.task :: s.world.history c ∨
        ∃ o, f.evaluation = .applying (.done o) ∧
          s'.world.history c = .returned c o :: s.world.history c) := by
  have frame := (World.history_frame c).toRecordFrame
  have turn := frame.turn s.world
  by_cases ended : f.task.id = c ∧ ∃ o, f.evaluation = .applying (.done o)
  · obtain ⟨rfl, o, at_work⟩ := ended
    refine Or.inr ⟨rfl, Or.inr ⟨o, at_work, ?_⟩⟩
    rw [goes.world, at_work, Evaluation.step, Evaluation.returned_frame frame,
      World.history_note rfl, turn]
  · have other : ∀ o, f.evaluation = .applying (.done o) →
        ∀ w : World, (w.note (.returned f.task.id o)).history c = w.history c :=
      fun o at_work w => World.history_note_of_ne fun same =>
        ended ⟨Option.some.inj same, o, at_work⟩
    rcases goes.frame frame other with same | deed
    · exact Or.inl same
    cases deed with
    | part part rest at_work done =>
      refine Or.inl ?_
      rw [done, World.history_enact]
      exact (frame.yield _).trans turn
    | call op ready known called =>
      rw [called]
      by_cases own : f.task.id = c
      · subst own
        refine Or.inr ⟨rfl, Or.inl ⟨ready, ?_⟩⟩
        rw [World.history_note rfl, turn]
      · refine Or.inl ?_
        have other : Event.about? (.applied f.task) ≠ some c :=
          fun same => own (Option.some.inj same)
        rw [World.history_note_of_ne other, turn]

/-- What a step adds to what the journal says about a task. -/
theorem next_history (env : Environment) (options : RunOptions) (m : Moment) (c : Identifier) :
    (m.next env options).state.world.history c = m.state.world.history c ∨
      ∃ f ∈ m.stage.flights, f.task.id = c ∧
        (f.evaluation = .ready ∧
          (m.next env options).state.world.history c =
            .applied f.task :: m.state.world.history c ∨
        ∃ o, f.evaluation = .applying (.done o) ∧
          (m.next env options).state.world.history c =
            .returned c o :: m.state.world.history c) := by
  have frame := World.history_frame c
  cases m.next_transition env options with
  | asks id ids progressed stage state =>
    rw [state]
    exact Or.inl (RunState.advance_frame frame m.state id)
  | starts progressed stage next =>
    rw [next]
    exact Or.inl rfl
  | works flights progressed canceled left stage r works next =>
    obtain ⟨f, mem, goes⟩ := works_goes works
    rw [next, stage]
    exact (goes.history c).imp_right fun noted => ⟨f, mem, noted⟩
  | closes id hasErrors settled progressed stage state =>
    rw [state]
    exact Or.inl (RunState.close_frame frame.toRecordFrame m.state id hasErrors)
  | waits rounds idleRounds world idle state waited =>
    rw [state]
    exact Or.inl (waited _ frame.toFrame)

/-- Nothing becomes of the operation of a task in a step of another one. -/
theorem next_history_of_not_at_work (apart : ∀ f ∈ m.stage.flights, f.task.id ≠ c) :
    (m.next env options).state.world.history c = m.state.world.history c :=
  (m.next_history env options c).resolve_right fun ⟨f, mem, own, _⟩ => apart f mem own

/-- A task whose record is being written has its operation behind it. -/
theorem next_history_of_writing (todo : m.stage.Sound m.state) {f : Flight}
    (mem : f ∈ m.stage.flights) (own : f.task.id = c) {ending : Ending} {q : World.Underway}
    (writing : f.evaluation = .writing ending q) :
    (m.next env options).state.world.history c = m.state.world.history c := by
  refine (m.next_history env options c).resolve_right fun ⟨f', mem', own', noted⟩ => ?_
  obtain rfl : f' = f := List.inj_on_of_nodup_map todo.expects.distinct mem' mem
    (own'.trans own.symm)
  rw [writing] at noted
  rcases noted with ⟨⟨⟩, -⟩ | ⟨o, ⟨⟩, -⟩

/-! ## What the journal says at a moment -/

/-- What the journal says about a task, in front of what it said before the run: of its operation
while it is at work, and otherwise what goes with its phase. -/
structure Recounts (m : Moment) (called : Task → Prop) (base : List Event) (c : Identifier) :
    Prop where
  at_work : ∀ f ∈ m.stage.flights, f.task.id = c →
    f.evaluation.Recounts f.task base (m.state.world.history c)
  /-- A task that has come to nothing has not been called, unless the run is about to end. -/
  unfinished : (∀ f ∈ m.stage.flights, f.task.id ≠ c) →
    (∀ e, m.state.progress.children.find? c = some e → e.phase.isTerminal = false) →
    m.state.world.history c = base ∨ m.stage.Halting
  succeeded : ∀ e, m.state.progress.children.find? c = some e → e.phase = .succeeded →
    ∃ t, called t ∧ t.id = c ∧
      m.state.world.history c = .returned c .succeeded :: .applied t :: base
  passed : ∀ e, m.state.progress.children.find? c = some e → e.phase = .passed →
    m.state.world.history c = base

variable {called called' : Task → Prop} {base : List Event}

/-- A task that comes to its verdict, but not to its end, has not been called, unless it was found
that the run is cancelled. -/
theorem unfinished_of_ends {f : Flight} {s : RunState} {e : Entry}
    (found : s.progress.children.find? f.task.id = some e)
    (recounts : f.evaluation.Recounts f.task base (s.world.history f.task.id))
    (ends : f.evaluation.Obeys (fun _ _ => True) fun o => o ≠ .lost)
    {w : World} {verdict : Verdict}
    (step : f.evaluation.step env f.task s.world.takeTurn.2 = (w, .inr verdict)) :
    (∃ e', (RunState.record s.progress f.task.id verdict).1.children.find? f.task.id = some e' ∧
      e'.phase.isTerminal = true) ∨
    w.history f.task.id = base ∨
      (RunState.record s.progress f.task.id verdict).2 = .canceled := by
  have frame := (World.history_frame f.task.id).toFrame
  have turn := frame.turn s.world
  have saved {ending : Ending} {p : World × Except StoreFailure Unit}
      (answered : Evaluation.saved f.task ending p = (w, .inr verdict)) :
      (∃ e', (RunState.record s.progress f.task.id verdict).1.children.find? f.task.id =
        some e' ∧ e'.phase.isTerminal = true) ∨ w.history f.task.id = base ∨
          (RunState.record s.progress f.task.id verdict).2 = .canceled := by
    cases verdict with
    | executed errors => exact Or.inl (RunState.record_ended found rfl)
    | passed errors => exact Or.inl (RunState.record_ended found rfl)
    | canceled => exact Or.inr (Or.inr rfl)
    | waiting | lost =>
      obtain ⟨v, failed | _⟩ := p
      · cases failed <;> cases ending <;> cases answered
      · cases ending <;> cases answered
  have final := Evaluation.final_of_step step
  generalize f.evaluation = evaluation at *
  cases final with
  | canceled | aborts => exact Or.inr (Or.inr rfl)
  | @waits i state asked =>
    have same := i.step_frame frame f.task.oracle env.metadata s.world.takeTurn.2
    rw [asked] at same
    exact Or.inr (Or.inl ((same.trans turn).trans recounts))
  | breaksOff => exact absurd rfl ends
  | refused unbegun answered => exact saved answered
  | written answered => exact saved answered

/-- A task that is no longer at work after a step has come to its verdict in it. -/
theorem next_gone {f : Flight} (mem : f ∈ m.stage.flights)
    (gone : ∀ f' ∈ (m.next env options).stage.flights, f'.task.id ≠ f.task.id) :
    ∃ w verdict, f.evaluation.step env f.task m.state.world.takeTurn.2 = (w, .inr verdict) ∧
      (m.next env options).state = { m.state with
        world := w, progress := (RunState.record m.state.progress f.task.id verdict).1 } ∧
      ((RunState.record m.state.progress f.task.id verdict).2 = .canceled →
        (m.next env options).stage.Halting) := by
  obtain ⟨flights, progressed, told, r, stage, works, next⟩ := m.next_of_flight mem env options
  rw [next] at gone ⊢
  rw [stage] at mem
  cases works with
  | goesOn front g behind world evaluation among room step =>
    -- All tasks are still at work.
    have ids : (front ++ { g with evaluation } :: behind).map (·.task.id) =
        flights.map (·.task.id) := by
      rw [among, List.map_append, List.map_append]
      rfl
    obtain ⟨f', mem', same⟩ := List.mem_map.1 (ids ▸ List.mem_map_of_mem mem)
    exact absurd same (gone f' mem')
  | ends front g behind world verdict among room step =>
    have other : f ∉ front ++ behind := fun mem => gone f mem rfl
    obtain rfl : f = g := by
      replace mem : f ∈ front ++ g :: behind := among ▸ mem
      simp only [List.mem_append, List.mem_cons, not_or] at mem other
      exact (mem.resolve_left other.1).resolve_right other.2
    refine ⟨world, verdict, step, rfl, fun canceled => ?_⟩
    show (told || _) = true
    rw [canceled]
    exact Bool.or_true told

section

variable (todo : m.stage.Sound m.state)

include todo

/-- Nothing becomes any more of the operation of a task that is finished. -/
theorem next_history_of_finished {e : Entry}
    (found : m.state.progress.children.find? c = some e) (finished : e.phase.isTerminal = true) :
    (m.next env options).state.world.history c = m.state.world.history c := by
  refine next_history_of_not_at_work fun f mem own => ?_
  obtain ⟨e', found', waits⟩ := todo.expects.pending f mem
  rw [own, found] at found'
  cases found'
  rw [waits] at finished
  cases finished

/-- A task that is finished without errors was so before a step, or its record has been written in
it; nothing becomes of its operation in that step. -/
theorem next_clean (lawful : m.state.progress.Lawful)
    (task : m.state.progress.generators.contains c = false) {e : Entry}
    (found : (m.next env options).state.progress.children.find? c = some e)
    (clean : e.phase.isClean = true) :
    (m.next env options).state.world.history c = m.state.world.history c ∧
      ((∃ e', m.state.progress.children.find? c = some e' ∧ e'.phase = e.phase) ∨
        ∃ f ∈ m.stage.flights, f.task.id = c ∧ ∃ ending q, f.evaluation = .writing ending q ∧
          ending.errors = [] ∧ ending.clean = e.phase) := by
  have change : Change env m (m.next env options).state := next_change lawful todo options
  have task' : (m.next env options).state.progress.generators.contains c = false :=
    (change.generators c).trans task
  rcases change.finished task (Progress.standing?_of_child task' found) clean with
    at_c | ⟨f, mem, own, ending, q, writing, none, phase⟩
  · obtain ⟨e', found', same⟩ := Progress.child_of_standing task at_c
    have phase : e'.phase = e.phase := congrArg Standing.phase same
    refine ⟨next_history_of_finished todo found' ?_, Or.inl ⟨e', found', phase⟩⟩
    rw [phase]
    exact Phase.isTerminal_of_isClean clean
  · exact ⟨next_history_of_writing todo mem own writing,
      Or.inr ⟨f, mem, own, ending, q, writing, none, phase⟩⟩

namespace Recounts

variable (h : m.Recounts called base c)

include h

/-- What the journal says about the tasks at work, after a step. -/
theorem next_at_work : ∀ f ∈ (m.next env options).stage.flights, f.task.id = c →
    f.evaluation.Recounts f.task base ((m.next env options).state.world.history c) := by
  refine next_flights (P := fun f => f.task.id = c →
    f.evaluation.Recounts f.task base ((m.next env options).state.world.history c)) todo
    (fun progressed stage t mem own => ?_) (fun f mem world evaluation state step own => ?_)
    fun f mem g mem' ne goes own => ?_
  · -- The tasks of the round begin.
    have idle : ∀ f ∈ m.stage.flights, f.task.id ≠ c := by
      rw [stage]
      exact fun f mem => absurd mem List.not_mem_nil
    obtain ⟨e, found, waits⟩ := m.state.flights_expected.pending _ mem
    have unfinished := h.unfinished idle fun e' found' => by
      rw [← own, found] at found'
      cases found'
      rw [waits]
      rfl
    rw [stage] at unfinished
    exact (next_history_of_not_at_work idle).trans (unfinished.resolve_right id)
  · subst own
    rw [state]
    refine Evaluation.Recounts.step ?_ step
    rw [(World.history_frame f.task.id).turn]
    exact h.at_work f mem rfl
  · rw [show (m.next env options).state.world.history c = m.state.world.history c from
      (goes.history c).resolve_right fun noted => ne (noted.1.trans own.symm)]
    exact h.at_work f mem own

/-- What the journal says about a task that has come to nothing, after a step. -/
theorem next_unfinished (ends : m.Obeys (fun _ _ _ => True) fun _ o => o ≠ .lost)
    (apart : ∀ f ∈ (m.next env options).stage.flights, f.task.id ≠ c)
    (unfinished : ∀ e, (m.next env options).state.progress.children.find? c = some e →
      e.phase.isTerminal = false) :
    (m.next env options).state.world.history c = base ∨ (m.next env options).stage.Halting := by
  by_cases idle : ∀ f ∈ m.stage.flights, f.task.id ≠ c
  · have forward : Progress.Forward m.state.progress (m.next env options).state.progress :=
      Progress.forward_of_moves (next_moves env options todo)
    rw [next_history_of_not_at_work idle]
    refine (h.unfinished idle fun e found => ?_).imp_right fun halting =>
      next_halting halting options
    by_contra finished
    obtain ⟨e', found', same⟩ := forward.children c e found
    have still := unfinished e' found'
    rw [same (eq_true_of_ne_false finished)] at still
    exact finished still
  · push Not at idle
    obtain ⟨f, mem, rfl⟩ := idle
    obtain ⟨w, verdict, step, state, told⟩ := next_gone mem apart
    obtain ⟨e, found, -⟩ := todo.expects.pending f mem
    rw [state] at unfinished ⊢
    rcases unfinished_of_ends found (h.at_work f mem rfl) (ends f mem) step with
      ⟨e', found', finished⟩ | nothing | canceled
    · rw [unfinished e' found'] at finished
      cases finished
    · exact Or.inl nothing
    · exact Or.inr (told canceled)

end Recounts

end

/-- A step keeps what the journal says in accordance with how far a task is. -/
theorem Recounts.next (h : m.Recounts called base c) (lawful : m.state.progress.Lawful)
    (todo : m.stage.Sound m.state) (task : m.state.progress.generators.contains c = false)
    (ends : m.Obeys (fun _ _ _ => True) fun _ o => o ≠ .lost)
    (was_called : ∀ f ∈ m.stage.flights, f.evaluation.Called (called f.task))
    (more : ∀ t, called t → called' t) :
    (m.next env options).Recounts called' base c := by
  refine ⟨h.next_at_work todo, h.next_unfinished todo ends, fun e found succeeded => ?_,
    fun e found passed => ?_⟩
  · obtain ⟨same, ⟨e', found', phase⟩ | ⟨f, mem, own, ending, q, writing, none, phase⟩⟩ :=
      next_clean todo lawful task found (by rw [succeeded]; rfl)
    · rw [same]
      obtain ⟨t, was_called, told⟩ := h.succeeded e' found' (phase.trans succeeded)
      exact ⟨t, more t was_called, told⟩
    · obtain rfl : ending = .executed .none := by
        obtain _ | _ | text := ending
        · cases phase.trans succeeded
        · rfl
        · cases none
      have recounts := h.at_work f mem own
      have was_called := was_called f mem
      rw [writing] at recounts was_called
      exact ⟨f.task, more _ was_called, own, same.trans (own ▸ recounts)⟩
  · obtain ⟨same, ⟨e', found', phase⟩ | ⟨f, mem, own, ending, q, writing, -, phase⟩⟩ :=
      next_clean todo lawful task found (by rw [passed]; rfl)
    · exact same.trans (h.passed e' found' (phase.trans passed))
    · obtain rfl : ending = .passed := by
        cases ending with
        | passed => rfl
        | executed => cases phase.trans passed
      have recounts := h.at_work f mem own
      rw [writing] at recounts
      exact same.trans recounts

end Moment

/-! ## All moments -/

namespace World

variable {env : Environment} {options : RunOptions} {generators : List Generator} {n k : Nat}
  {t t' : Task} {c : Identifier}

/-- What the journal says about the operation of a task is not taken back. -/
theorem history_suffix (w : World) (c : Identifier) (later : n ≤ k) :
    (w.moment env options generators n).state.world.history c <:+
      (w.moment env options generators k).state.world.history c := by
  induction later with
  | refl => exact List.suffix_rfl
  | @step k _ ih =>
    refine ih.trans ?_
    rw [moment]
    rcases (w.moment env options generators k).next_history env options c with
      same | ⟨f, -, -, ⟨-, noted⟩ | ⟨o, -, noted⟩⟩
    · exact same.symm ▸ List.suffix_rfl
    · rw [noted]
      exact List.suffix_cons _ _
    · rw [noted]
      exact List.suffix_cons _ _

section

variable (fresh : ∀ g ∈ generators, g.buffered = []) (separate : Separate generators)

include fresh separate

/-- No task at work has the identifier of a migration. -/
theorem flight_not_migration (w : World) {f : Flight}
    (mem : f ∈ (w.moment env options generators n).stage.flights) :
    f.task.id ∉ generators.map Generator.id := by
  have orderly : (w.moment env options generators n).Orderly generators _ :=
    w.moment_orderly fresh separate n
  obtain ⟨⟨g, given, d, i, own⟩, -⟩ :=
    orderly.own _ (orderly.tasks.1 (orderly.stage.expects.known f mem)).1
  rw [own]
  exact separate.task_ne given d i

/-- Nothing becomes of an operation under the identifier of a migration. -/
theorem history_of_migration (w : World) (migration : c ∈ generators.map Generator.id) (n : Nat) :
    (w.moment env options generators n).state.world.history c = w.history c := by
  induction n with
  | zero => rfl
  | succ n ih =>
    refine Eq.trans (Moment.next_history_of_not_at_work fun f mem own => ?_) ih
    exact w.flight_not_migration fresh separate mem (own ▸ migration)

variable (ends : env.registry.Ends)

include ends

/-- What the journal says about a task goes at every moment with how far it has come. -/
theorem moment_recounts (w : World) (other : c ∉ generators.map Generator.id) (n : Nat) :
    (w.moment env options generators n).Recounts
      (fun t => ∃ k < n, (w.moment env options generators k).Calls env options t)
      (w.history c) c := by
  induction n with
  | zero =>
    refine ⟨fun _ mem => absurd mem List.not_mem_nil, fun _ _ => Or.inl rfl, ?_, ?_⟩
    · exact fun _ found => by cases found
    · exact fun _ found => by cases found
  | succ n ih =>
    have orderly : (w.moment env options generators n).Orderly generators _ :=
      w.moment_orderly fresh separate n
    refine ih.next orderly.lawful orderly.stage ?_ (moment_obeys ends w options n)
      (w.moment_called env options generators n)
      fun t ⟨k, earlier, calls⟩ => ⟨k, Nat.lt_succ_of_lt earlier, calls⟩
    rw [← Bool.not_eq_true, orderly.migrations]
    exact other

/-- Nothing has become of the operation of a task when it is called. -/
theorem history_of_calls (w : World)
    (calls : (w.moment env options generators n).Calls env options t) :
    (w.moment env options generators n).state.world.history t.id = w.history t.id ∧
      (w.moment env options generators (n + 1)).state.world.history t.id =
        .applied t :: w.history t.id := by
  obtain ⟨f, mem, ready, -, rfl⟩ := calls.flight
  have other := w.flight_not_migration fresh separate mem
  have recounts := (w.moment_recounts fresh separate ends other n).at_work f mem rfl
  rw [ready] at recounts
  obtain ⟨op, -, -, begun⟩ := calls.begins
  refine ⟨recounts, ?_⟩
  rw [moment, begun, history_note rfl, (history_frame _).turn]
  exact congrArg _ recounts

/-- The operation of a task is called at one moment of a run at most. -/
theorem called_once (w : World)
    (calls : (w.moment env options generators n).Calls env options t)
    (calls' : (w.moment env options generators k).Calls env options t') (same : t.id = t'.id) :
    n = k := by
  have once {n k : Nat} {t t' : Task}
      (calls : (w.moment env options generators n).Calls env options t)
      (calls' : (w.moment env options generators k).Calls env options t') (same : t.id = t'.id)
      (later : n < k) : False := by
    have told := (w.history_of_calls fresh separate ends calls).2
    have untold := (w.history_of_calls fresh separate ends calls').1
    have still : (w.moment env options generators (n + 1)).state.world.history t.id <:+
        (w.moment env options generators k).state.world.history t.id :=
      w.history_suffix t.id later
    rw [told, same, untold] at still
    exact absurd still.length_le (by simp)
  rcases Nat.lt_trichotomy n k with before | here | after
  · exact (once calls calls' same before).elim
  · exact here
  · exact (once calls' calls same.symm after).elim

end

end World

end GatedMigration
