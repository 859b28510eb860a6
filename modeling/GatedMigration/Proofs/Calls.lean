import GatedMigration.Proofs.Inquiries
import GatedMigration.Proofs.Invariant

/-!
# Calls of operations

The journal says which operations were called, and for which tasks (`World.calls`). A step calls an
operation (`Moment.Calls`) just when a task at work was found ready and its operation is known
(`Moment.next_calls`). Apart from calls and from the parts of operations (`Moment.Deed`), a step
does only what every run does (`Moment.next_frame`).

* `World.mem_calls`: every call in the journal of a run was made by one of its steps.
* `World.satisfied_of_calls`: once a task is called, each prerequisite has had a satisfied record.
-/

namespace GatedMigration

theorem Registry.contains_of_get {r : Registry} {name : String} {op : Operation}
    (h : r.get name = .ok op) : r.contains name = true := by
  unfold get at h
  split at h
  · rename_i found
    exact IdMap.contains_of_find? found
  · cases h

/-- The task for which an event says that its operation was called. -/
def Event.call? : Event → Option Task
  | applied t => some t
  | _ => none

/-- The tasks whose operations were called, the latest first. -/
def World.calls (w : World) : List Task := w.journal.filterMap Event.call?

namespace World

theorem calls_note (w : World) {e : Event} (other : e.call? = none) : (w.note e).calls = w.calls :=
  List.filterMap_cons_none other

section

variable {α : Type} {f : Event → Option α} (silent : ∀ e, e.about? = none → f e = none)

include silent

/-- What a part of an operation notes is not about operations. -/
theorem journal_enact (w : World) (part : Scene → Scene × List String) :
    (w.enact part).journal.filterMap f = w.journal.filterMap f := by
  show (((part w.scene).2.map Event.noted).reverse ++ w.journal).filterMap f = _
  rw [List.filterMap_append, ← List.map_reverse, List.filterMap_map]
  exact List.append_left_eq_self.2 (List.filterMap_eq_nil_iff.2 fun _ _ => silent _ rfl)

/-- What the journal says about operations stays the same across whatever is not about them. -/
theorem journal_frame :
    WideFrame fun w w' => w'.journal.filterMap f = w.journal.filterMap f where
  trans h k := k.trans h
  yield w := by
    unfold yield
    split
    · rfl
    · dsimp only
      split <;> rfl
  turn w := by
    unfold takeTurn
    split <;> rfl
  clock _ _ := rfl
  warn _ _ := List.filterMap_cons_none (silent _ rfl)
  counters _ _ := rfl
  cursors _ _ := rfl
  note _ _ other := List.filterMap_cons_none (silent _ other)
  graph _ _ := rfl
  putRecord _ _ _ := rfl

end

theorem call?_of_about? (e : Event) (silent : e.about? = none) : e.call? = none := by
  cases e with
  | applied => cases silent
  | _ => rfl

theorem calls_enact (w : World) (part : Scene → Scene × List String) :
    (w.enact part).calls = w.calls :=
  journal_enact call?_of_about? w part

/-- Nothing but a step that calls an operation adds a call. -/
theorem calls_frame : WideFrame fun w w' => w'.calls = w.calls :=
  journal_frame call?_of_about?

end World

/-- If the operation of a task that has come so far was called, `K` holds. -/
def Evaluation.Called (K : Prop) : Evaluation → Prop
  | applying _ | saving (.executed none) | writing (.executed none) _ => K
  | _ => True

theorem Evaluation.Called.mono {K K' : Prop} {e : Evaluation} (h : e.Called K) (more : K → K') :
    e.Called K' := by
  match e with
  | .applying _ | .saving (.executed none) | .writing (.executed none) _ => exact more h
  | .asking _ | .ready | .saving .passed | .saving (.executed (some _)) | .writing .passed _
  | .writing (.executed (some _)) _ => trivial

namespace Moment

variable {env : Environment} {options : RunOptions} {m : Moment}

/-- What the operation of a task at work makes of the world in a step: it is called, or a part of it
is done. -/
inductive Deed (env : Environment) (f : Flight) (w w' : World) : Prop where
  | call (op : Operation) (ready : f.evaluation = .ready)
      (known : env.registry.get f.task.operation = .ok op)
      (called : w' = w.takeTurn.2.note (.applied f.task))
  | part (part : Scene → Scene × List String) (rest : Scene → Script)
      (at_work : f.evaluation = .applying (.act part rest))
      (done : w' = w.takeTurn.2.yield.enact part)

theorem Goes.world {f : Flight} {s s' : RunState} (goes : Goes env f s s') :
    s'.world = (f.evaluation.step env f.task s.world.takeTurn.2).1 := by
  cases goes with
  | on step | ends step => rw [step]

theorem Goes.frame {R : World → World → Prop} (frame : World.RecordFrame R) {f : Flight}
    (returned : ∀ o, f.evaluation = .applying (.done o) →
      ∀ w, R w (w.note (.returned f.task.id o)))
    {s s' : RunState} (goes : Goes env f s s') :
    R s.world s'.world ∨ Deed env f s.world s'.world := by
  have turn := frame.turn s.world
  have world := goes.world
  obtain ⟨t, e⟩ := f
  match e with
  | .ready =>
    rw [Evaluation.step, Evaluation.launch] at world
    cases known : env.registry.get t.operation with
    | error e =>
      rw [known] at world
      exact Or.inl (world ▸ turn)
    | ok op =>
      rw [known] at world
      exact Or.inr (.call op rfl known world)
  | .applying (.act part rest) => exact Or.inr (.part part rest rfl world)
  | .asking _ | .applying (.done _) | .saving _ | .writing _ _ =>
    refine Or.inl (frame.trans turn ?_)
    rw [world]
    exact Evaluation.step_frame frame returned (by rintro ⟨⟩) (by rintro _ _ ⟨⟩) _

/-- A step does what every run does, or an operation does something. -/
theorem next_frame {R : World → World → Prop} (frame : World.WideFrame R)
    (returned : ∀ w id o, R w (w.note (.returned id o))) (options : RunOptions) (m : Moment) :
    R m.state.world (m.next env options).state.world ∨
      ∃ f ∈ m.stage.flights, Deed env f m.state.world (m.next env options).state.world := by
  cases m.next_transition env options with
  | asks id ids progressed stage state =>
    rw [state]
    exact Or.inl (RunState.advance_frame frame m.state id)
  | starts progressed stage next =>
    rw [next]
    exact Or.inl (frame.refl _)
  | works flights progressed canceled left stage r works next =>
    obtain ⟨f, mem, goes⟩ := works_goes works
    rw [next, stage]
    exact (goes.frame frame.toRecordFrame fun o _ w => returned w _ o).imp_right
      fun deed => ⟨f, mem, deed⟩
  | closes id hasErrors settled progressed stage state =>
    rw [state]
    exact Or.inl (RunState.close_frame frame.toRecordFrame m.state id hasErrors)
  | waits rounds idleRounds world idle state waited =>
    rw [state]
    exact Or.inl (waited R frame.toFrame)

/-- The operation of a task is at work, and this is left of it. -/
def Applies (m : Moment) (t : Task) (script : Script) : Prop :=
  ⟨t, .applying script⟩ ∈ m.stage.flights

/-- An operation does a part of its work in the next step. -/
def Enacts (env : Environment) (options : RunOptions) (m : Moment)
    (part : Scene → Scene × List String) : Prop :=
  (∃ f ∈ m.stage.flights, ∃ rest, f.evaluation = .applying (.act part rest)) ∧
    (m.next env options).state.world = m.state.world.takeTurn.2.yield.enact part

/-- In the next step the operation of a task is called. -/
def Calls (env : Environment) (options : RunOptions) (m : Moment) (t : Task) : Prop :=
  (m.next env options).state.world.calls = t :: m.state.world.calls

/-- A step calls the operation of a task at work that was found ready, or none. -/
theorem next_calls (env : Environment) (options : RunOptions) (m : Moment) :
    (m.next env options).state.world.calls = m.state.world.calls ∨
      ∃ f ∈ m.stage.flights, f.evaluation = .ready ∧
        env.registry.contains f.task.operation = true ∧ m.Calls env options f.task := by
  rcases next_frame World.calls_frame (fun w _ _ => w.calls_note rfl) options m with
    same | ⟨f, mem, deed⟩
  · exact Or.inl same
  cases deed with
  | call op ready known called =>
    refine Or.inr ⟨f, mem, ready, Registry.contains_of_get known, ?_⟩
    rw [Calls, called]
    exact congrArg (f.task :: ·) (World.calls_frame.turn _)
  | part part rest at_work done =>
    refine Or.inl ?_
    rw [done, World.calls_enact]
    exact (World.calls_frame.yield _).trans (World.calls_frame.turn _)

/-- If the operation of a task is called, the task was at work and found ready. -/
theorem Calls.flight {t : Task} (h : m.Calls env options t) :
    ∃ f ∈ m.stage.flights, f.evaluation = .ready ∧
      env.registry.contains f.task.operation = true ∧ f.task = t := by
  rcases m.next_calls env options with same | ⟨f, mem, ready, known, called⟩
  · exact absurd (congrArg List.length (same.symm.trans h)) (by simp)
  · exact ⟨f, mem, ready, known, (List.cons.inj (called.symm.trans h)).1⟩

/-- If the operation of a task is called, it is at work after that, with nothing of it done. -/
theorem Calls.begins {t : Task} (h : m.Calls env options t) :
    ∃ op, env.registry.get t.operation = .ok op ∧
      ⟨t, .applying (op t)⟩ ∈ (m.next env options).stage.flights ∧
      (m.next env options).state.world = m.state.world.takeTurn.2.note (.applied t) := by
  obtain ⟨f, mem, -⟩ := h.flight
  obtain ⟨flights, progressed, told, r, stage, works, next⟩ := m.next_of_flight mem env options
  have idle {w : World} (same : w.calls = m.state.world.calls) :
      w.calls ≠ t :: m.state.world.calls := by
    rw [same]
    exact fun more => absurd (congrArg List.length more) (by simp)
  rw [Calls, next] at h
  rw [next]
  -- What any step of a task at work does to the world.
  have deed {g : Flight} {s' : RunState} (goes : Goes env g m.state s')
      (called : s'.world.calls = t :: m.state.world.calls) :
      g = ⟨t, .ready⟩ ∧ ∃ op, env.registry.get t.operation = .ok op ∧
        s'.world = m.state.world.takeTurn.2.note (.applied t) := by
    rcases goes.frame World.calls_frame.toRecordFrame fun o _ w => w.calls_note rfl with
      same | ⟨op, ready, known, did⟩ | ⟨part, rest, at_work, did⟩
    · exact absurd called (idle same)
    · have own : g.task = t := by
        rw [did] at called
        exact (List.cons.inj called).1
      obtain ⟨t', e⟩ := g
      obtain rfl : t' = t := own
      obtain rfl : e = .ready := ready
      exact ⟨rfl, op, known, did⟩
    · refine absurd called (idle ?_)
      rw [did, World.calls_enact]
      exact (World.calls_frame.yield _).trans (World.calls_frame.turn _)
  cases works with
  | goesOn front g behind world evaluation among room step =>
    obtain ⟨rfl, op, known, did⟩ := deed (.on step) h
    cases Evaluation.onward_of_step step with
    | misses unknown => cases known.symm.trans unknown
    | calls known' =>
      cases known.symm.trans known'
      exact ⟨op, known, List.mem_append_cons_self, did⟩
  | ends front g behind world verdict among room step =>
    obtain ⟨rfl, -⟩ := deed (.ends step) h
    cases Evaluation.final_of_step step

/-- The task whose operation is called is one of a migration of the run. -/
theorem Calls.task {generators : List Generator} {w : World} {t : Task}
    (h : m.Calls env options t) (sound : m.Sound env generators w) :
    ∃ g ∈ generators, ∃ d n, t = g.task d n := by
  obtain ⟨f, mem, -, -, rfl⟩ := h.flight
  exact (sound.state.tasks (sound.stage.expects.known f mem)).2.1

end Moment

namespace World

variable {env : Environment} {options : RunOptions} {generators : List Generator} {w : World}

/-- The calls in the journal of a run were there at its start, or one of its steps has made them. -/
theorem mem_calls {n : Nat} {t : Task}
    (mem : t ∈ (w.moment env options generators n).state.world.calls) :
    t ∈ w.calls ∨ ∃ k < n, (w.moment env options generators k).Calls env options t := by
  induction n with
  | zero => exact Or.inl mem
  | succ n ih =>
    have earlier (mem : t ∈ (w.moment env options generators n).state.world.calls) :
        t ∈ w.calls ∨ ∃ k < n + 1, (w.moment env options generators k).Calls env options t :=
      (ih mem).imp_right fun ⟨k, before, calls⟩ => ⟨k, Nat.lt_succ_of_lt before, calls⟩
    rw [moment] at mem
    rcases (w.moment env options generators n).next_calls env options with
      same | ⟨f, -, -, -, called⟩
    · exact earlier (same ▸ mem)
    · rw [called] at mem
      rcases List.mem_cons.1 mem with rfl | mem
      · exact Or.inr ⟨n, Nat.lt_succ_self n, called⟩
      · exact earlier mem

/-- If there is one call more in the journal, a step has made it. -/
theorem exists_calls {α : Type} {name : Task → α} {a : α} (n : Nat)
    (more : (w.moment env options generators (n + 1)).state.world.calls.map name =
      a :: (w.moment env options generators n).state.world.calls.map name) :
    ∃ t, (w.moment env options generators n).Calls env options t ∧ name t = a := by
  rw [moment] at more
  rcases (w.moment env options generators n).next_calls env options with same | ⟨f, -, -, -, called⟩
  · rw [same] at more
    exact absurd (congrArg List.length more) (by simp)
  · refine ⟨f.task, called, ?_⟩
    rw [called, List.map_cons] at more
    exact (List.cons.inj more).1

/-- A task at work makes ready only if each prerequisite has had a satisfied record at some moment,
whatever the other tasks do in between. -/
theorem moment_promises (w : World) (env : Environment) (options : RunOptions)
    (generators : List Generator) (n : Nat) :
    ∀ f ∈ (w.moment env options generators n).stage.flights,
      f.evaluation.Promises f.task.oracle fun id => ∃ k ≤ n,
        (w.moment env options generators k).state.world.Satisfied env.metadata id := by
  induction n with
  | zero => exact fun f mem => absurd mem List.not_mem_nil
  | succ n ih =>
    have later {f : Flight} (mem : f ∈ (w.moment env options generators n).stage.flights) :=
      (ih f mem).mono fun id ⟨k, before, satisfied⟩ =>
        (⟨k, Nat.le_succ_of_le before, satisfied⟩ : ∃ k ≤ n + 1,
          (w.moment env options generators k).state.world.Satisfied env.metadata id)
    refine Moment.next_flights (P := fun f => f.evaluation.Promises f.task.oracle fun id =>
      ∃ k ≤ n + 1, (w.moment env options generators k).state.world.Satisfied env.metadata id)
      (moment_stage w options n) (fun _ _ _ _ => trivial) ?_ fun f mem _ _ _ _ => later mem
    rintro f mem world evaluation - step
    refine (later mem).step (fun id satisfied => ⟨n, Nat.le_succ n, ?_⟩) step
    exact (saves_takeTurn env.metadata _).satisfied_iff.1 satisfied

/-- When an operation is called, each prerequisite of its task has had a satisfied record. -/
theorem satisfied_of_calls {n : Nat} {t : Task}
    (calls : (w.moment env options generators n).Calls env options t) {id : Identifier}
    (edge : id ∈ t.oracle.edges) :
    ∃ k ≤ n, (w.moment env options generators k).state.world.Satisfied env.metadata id := by
  obtain ⟨f, mem, ready, -, rfl⟩ := calls.flight
  have promises := moment_promises w env options generators n f mem
  rw [ready] at promises
  exact promises id edge

/-- A task whose operation is at work, or has ended well, was called. -/
theorem moment_called (w : World) (env : Environment) (options : RunOptions)
    (generators : List Generator) (n : Nat) :
    ∀ f ∈ (w.moment env options generators n).stage.flights, f.evaluation.Called
      (∃ k < n, (w.moment env options generators k).Calls env options f.task) := by
  induction n with
  | zero => exact fun f mem => absurd mem List.not_mem_nil
  | succ n ih =>
    have later {f : Flight} (mem : f ∈ (w.moment env options generators n).stage.flights) :
        f.evaluation.Called
          (∃ k < n + 1, (w.moment env options generators k).Calls env options f.task) :=
      (ih f mem).mono fun ⟨k, before, calls⟩ => ⟨k, Nat.lt_succ_of_lt before, calls⟩
    refine Moment.next_flights (P := fun f => f.evaluation.Called
      (∃ k < n + 1, (w.moment env options generators k).Calls env options f.task))
      (moment_stage w options n) (fun _ _ _ _ => trivial)
      (fun f mem world evaluation state step => ?_) fun f mem _ _ _ _ => later mem
    have before := later mem
    obtain ⟨t, e⟩ := f
    cases Evaluation.onward_of_step step with
    | calls known called =>
      refine ⟨n, Nat.lt_succ_self n, ?_⟩
      rw [Moment.Calls, state, called]
      exact congrArg (t :: ·) (calls_frame.turn _)
    | acts | succeeds => exact before
    | @writes ending q begun =>
      match ending, before with
      | .executed none, before => exact before
      | .executed (some _), _ | .passed, _ => trivial
    | asks | readies | passes | misses | fails => trivial

/-- No operation is called once the run is over. -/
theorem lt_of_calls {n k : Nat} {canceled : Bool} {s : RunState} {t : Task}
    (calls : (w.moment env options generators n).Calls env options t)
    (ended : w.moment env options generators k = ⟨.over canceled, s⟩) : n < k := by
  by_contra later
  obtain ⟨f, mem, -⟩ := calls.flight
  rw [moment_over ended (Nat.le_of_not_lt later)] at mem
  cases mem

end World

end GatedMigration
