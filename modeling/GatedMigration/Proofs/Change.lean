import GatedMigration.Proofs.Identifiers
import GatedMigration.Proofs.Invariant

/-!
# What a step changes

Whatever the operations do, a step of a run changes the bookkeeping in one of three ways
(`Moment.Change`): everything stands as before, a pending migration hands over the tasks of its scan
(`Moment.handing`), or one migration or task comes to its end, and then it is known why. Unlike
`RunState.Effect` this says nothing of the records.

* `Moment.next_change`: the change of the next step.
* `World.moment_source`: the generators of a run stay at work on the migrations that were given.
-/

namespace GatedMigration

/-- The tasks that a migration makes when it is asked: those of its scan, if it is ready. -/
def RunState.scanning (env : Environment) (id : Identifier) (s : RunState) : List Task :=
  match s.generators.find? id with
  | none => []
  | some g =>
    match g.oracle.state env.metadata s.world with
    | (world, some .ready) => (g.scan env world).2.1
    | _ => []

/-- The tasks that a migration hands over when it is asked: those that it has kept and those of its
scan, if it is ready and the run is not cancelled during the scan. -/
def RunState.handing (env : Environment) (id : Identifier) (s : RunState) : List Task :=
  match s.generators.find? id with
  | none => []
  | some g =>
    match g.oracle.state env.metadata s.world with
    | (world, some .ready) =>
      match g.run env world with
      | (_, _, .error .canceled) => []
      | (_, g, _) => g.jobs.1
    | _ => []

/-- The tasks that are made in the next step. -/
def Moment.scanning (env : Environment) (m : Moment) : List Task :=
  match m.stage with
  | .asking (id :: _) _ => m.state.scanning env id
  | _ => []

/-- The tasks that are handed over in the next step. -/
def Moment.handing (env : Environment) (m : Moment) : List Task :=
  match m.stage with
  | .asking (id :: _) _ => m.state.handing env id
  | _ => []

/-- The phase of a task that ends so without errors. -/
def Ending.clean : Ending → Phase
  | passed => .passed
  | executed _ => .succeeded

/-- What the next step changes in the bookkeeping. -/
inductive Moment.Change (env : Environment) (m : Moment) (s' : RunState) : Prop where
  /-- Everything stands as before. -/
  | quiet (stands : m.state.progress.Stands s'.progress) (tasks : s'.tasks = m.state.tasks)
      (none : m.handing env = [])
  /-- A pending migration hands over its tasks. -/
  | fansOut (id : Identifier) (old : Standing) (g : Generator) (w : World) (errors : List String)
      (known : m.state.progress.generators.contains id = true)
      (source : m.state.generators.find? id = some g)
      (before : m.state.progress.standing? id = some old) (pending : old.phase = .pending)
      (scanned : m.handing env = g.buffered ++ (g.scan env w).2.1)
      (after : m.state.progress.FansOut s'.progress id old ((m.handing env).map Task.id) errors)
      (taken : s'.tasks = (m.handing env).foldl (fun m t => m.insert t.id t) m.state.tasks)
  /-- A migration or a task comes to its end; a task comes to it without errors only when its record
  is saved. -/
  | ends (id : Identifier) (old : Standing) (clean : Phase) (errors : List String)
      (before : m.state.progress.standing? id = some old)
      (unfinished : old.phase.isTerminal = false)
      (how : clean = .succeeded ∨ clean = .passed ∧ old.phase = .pending)
      (done : ∀ c ∈ old.tasks, ∃ st, m.state.progress.standing? c = some st ∧
        st.phase.isTerminal = true ∧ (old.errors ++ errors = [] → st.phase.isClean = true))
      (written : m.state.progress.generators.contains id = false → errors = [] →
        ∃ f ∈ m.stage.flights, f.task.id = id ∧ ∃ ending q,
          f.evaluation = .writing ending q ∧ ending.errors = [] ∧ ending.clean = clean)
      (after : m.state.progress.Settles s'.progress id (old.finish clean errors))
      (tasks : s'.tasks = m.state.tasks) (none : m.handing env = [])

namespace Moment

variable {env : Environment} {s : RunState} {id : Identifier}

/-! ## Migrations -/

/-- A pending migration that is asked. -/
theorem advance_change (lawful : s.progress.Lawful) {e : GeneratorEntry}
    (h : s.progress.generators.find? id = some e) (pending : e.entry.phase = .pending)
    (ids : List Identifier) (progressed : Bool) :
    Change env ⟨.asking (id :: ids) progressed, s⟩ (s.advance env id).1 := by
  have standing := Progress.standing?_of_generator h
  have known := IdMap.contains_of_find? h
  obtain ⟨errors, tasks⟩ := lawful.bare standing (Or.inl pending)
  have handing : handing env ⟨.asking (id :: ids) progressed, s⟩ = s.handing env id := rfl
  unfold RunState.handing at handing
  unfold RunState.advance
  cases source : s.generators.find? id with
  | none =>
    rw [source] at handing
    exact .quiet .rfl rfl handing
  | some g =>
    rw [source] at handing
    dsimp only at handing ⊢
    cases asked : g.oracle.state env.metadata s.world with
    | mk world answer =>
    rw [asked] at handing
    match answer with
    | none => exact .quiet .rfl rfl handing
    | some .ready =>
      have buffered := (g.run_buffered env world).2
      dsimp only at handing ⊢
      generalize g.run env world = r at *
      obtain ⟨world', g', result⟩ := r
      have fans (handed : Moment.handing env ⟨.asking (id :: ids) progressed, s⟩ = g'.buffered) :
          Change env ⟨.asking (id :: ids) progressed, s⟩
            (RunState.takeJobs id g' { s with world := world' }) := by
        refine .fansOut id _ g world g'.errors known source standing pending
          (handed.trans buffered) ?_ ?_
        · rw [handed]
          exact Progress.generatorRan_fansOut h _ _
        · rw [handed]
          rfl
      cases result with
      | ok n => exact fans handing
      | error e =>
        cases e with
        | canceled => exact .quiet .rfl rfl handing
        | _ => exact fans handing
    | some .passed =>
      dsimp only at handing ⊢
      generalize world.saveRecord env.metadata id id false = q
      obtain ⟨world', _ | more⟩ := q
      · exact .quiet .rfl rfl handing
      · refine .ends id _ .passed more standing ?_ (Or.inr ⟨rfl, pending⟩) ?_
          (fun task => Bool.noConfusion (task.symm.trans known))
          (Progress.generatorPassed_settles h more) rfl handing
        · rw [show e.standing.phase = .pending from pending]
          rfl
        · intro c mem
          rw [tasks] at mem
          exact absurd mem List.not_mem_nil
    | some .blocked => exact .quiet (Progress.observe_stands _ _ _) rfl handing
    | some .unresolved => exact .quiet (Progress.observe_stands _ _ _) rfl handing

/-! ## Tasks -/

end Moment

/-- A task ends without errors only when its record is saved. -/
theorem Evaluation.Final.of_clean {env : Environment} {t : Task} {e : Evaluation} {w w' : World}
    {verdict : Verdict} (h : Final env t w w' e verdict) (clean : verdict.errors? = some []) :
    ∃ ending q, e = .writing ending q ∧ ending.errors = [] ∧ verdict = ending.verdict [] := by
  have written {ending : Ending} {p : World × Except StoreFailure Unit}
      (ended : saved t ending p = (w', .inr verdict)) :
      ending.errors = [] ∧ verdict = ending.verdict [] ∧ ∃ v, p = (v, .ok ()) := by
    obtain ⟨v, e | _⟩ := p
    · cases e <;> obtain _ | _ | text := ending <;> cases ended <;> cases clean
    · obtain _ | _ | text := ending <;> cases ended <;> cases clean <;> exact ⟨rfl, rfl, v, rfl⟩
  cases h with
  | refused unbegun ended =>
    obtain ⟨-, -, v, failed⟩ := written ended
    cases failed
  | @written ending q _ ended =>
    obtain ⟨errors, same, -⟩ := written ended
    exact ⟨ending, q, rfl, errors, same⟩
  | canceled | waits | breaksOff | aborts => cases clean

namespace Moment

variable {env : Environment} {s : RunState} {id : Identifier}

/-- The verdict on a pending task. -/
theorem record_change {m : Moment} (lawful : m.state.progress.Lawful) {f : Flight}
    (mem : f ∈ m.stage.flights) {e : Entry}
    (h : m.state.progress.children.find? f.task.id = some e) (pending : e.phase = .pending)
    {verdict : Verdict} {w w' : World}
    (final : Evaluation.Final env f.task w w' f.evaluation verdict) (none : m.handing env = []) :
    Change env m { m.state with
      world := w', progress := (RunState.record m.state.progress f.task.id verdict).1 } := by
  have task := lawful.apart (IdMap.contains_of_find? h)
  have standing := Progress.standing?_of_child task h
  have unfinished : e.standing.phase.isTerminal = false := by
    rw [show e.standing.phase = .pending from pending]
    rfl
  cases verdict with
  | executed more =>
    refine .ends f.task.id _ .succeeded more standing unfinished (Or.inl rfl)
      (fun c mem => absurd mem List.not_mem_nil) (fun _ clean => ?_)
      (Progress.childExecuted_settles task h more) rfl none
    subst clean
    obtain ⟨ending, q, writing, clean, same⟩ := final.of_clean rfl
    cases ending with
    | passed => cases same
    | executed => exact ⟨f, mem, rfl, _, q, writing, clean, rfl⟩
  | passed more =>
    refine .ends f.task.id _ .passed more standing unfinished (Or.inr ⟨rfl, pending⟩)
      (fun c mem => absurd mem List.not_mem_nil) (fun _ clean => ?_)
      (Progress.childPassed_settles task h more) rfl none
    subst clean
    obtain ⟨ending, q, writing, clean, same⟩ := final.of_clean rfl
    cases ending with
    | passed => exact ⟨f, mem, rfl, _, q, writing, clean, rfl⟩
    | executed => cases same
  | waiting state => exact .quiet (Progress.observe_stands _ _ _) rfl none
  | canceled | lost => exact .quiet .rfl rfl none

/-! ## Closing -/

/-- A settled migration that is closed. -/
theorem close_change (lawful : s.progress.Lawful) {g : GeneratorEntry}
    (h : s.progress.generators.find? id = some g) (settled : s.progress.isSettled g = true)
    (hasErrors : Bool) (rest : List (Identifier × Bool)) (progressed : Bool) :
    Change env ⟨.closing ((id, hasErrors) :: rest) progressed, s⟩
      (s.close env id hasErrors).1 := by
  have standing := Progress.standing?_of_generator h
  have known := IdMap.contains_of_find? h
  have running : g.entry.phase = .running := by
    simp only [Progress.isSettled, Bool.and_eq_true, beq_iff_eq] at settled
    exact settled.1
  unfold RunState.close
  generalize s.world.saveRecord env.metadata id id hasErrors = q
  obtain ⟨w, _ | more⟩ := q
  · exact .quiet .rfl rfl rfl
  refine .ends id _ .succeeded _ standing ?_ (Or.inl rfl) ?_
    (fun task => Bool.noConfusion (task.symm.trans known))
    (Progress.finalizeGenerator_settles h more) rfl rfl
  · rw [show g.standing.phase = .running from running]
    rfl
  · intro c mem
    obtain ⟨st, at_c, terminal, clean⟩ := lawful.settled_done h settled mem
    refine ⟨st, at_c, terminal, fun none => clean ?_⟩
    rw [List.append_eq_nil_iff, List.append_eq_nil_iff] at none
    exact Progress.failedChildrenErrors_eq_nil.1 none.2.1

/-! ## All steps -/

theorem handing_of_not_asking {m : Moment}
    (idle : ∀ id ids progressed, m.stage ≠ .asking (id :: ids) progressed) :
    m.handing env = [] := by
  unfold handing
  split
  · rename_i stage
    exact absurd stage (idle _ _ _)
  · rfl

/-- The next step changes the bookkeeping in one of the three ways. -/
theorem next_change {m : Moment} (lawful : m.state.progress.Lawful)
    (todo : m.stage.Sound m.state) (options : RunOptions) :
    Change env m (m.next env options).state := by
  cases m.next_transition env options with
  | asks id ids progressed stage state =>
    obtain ⟨_, s⟩ := m
    obtain rfl := stage
    obtain ⟨e, found, pending⟩ := todo.2 id List.mem_cons_self
    rw [state]
    exact advance_change lawful found pending ids progressed
  | starts progressed stage next =>
    rw [next]
    exact .quiet .rfl rfl (handing_of_not_asking (by simp [stage]))
  | works flights progressed canceled left stage r works next =>
    have none : m.handing env = [] := handing_of_not_asking (by simp [stage])
    rw [next]
    obtain ⟨f, mem, goes⟩ := works_goes works
    have todo : m.state.Expects flights := by
      rw [stage] at todo
      exact todo
    dsimp only
    generalize r.1 = s' at goes
    cases goes with
    | on => exact .quiet .rfl rfl none
    | ends step =>
      obtain ⟨e, found, pending⟩ := todo.pending f mem
      refine record_change lawful ?_ found pending (Evaluation.final_of_step step) none
      rw [stage]
      exact mem
  | closes id hasErrors settled progressed stage state =>
    obtain ⟨_, s⟩ := m
    obtain rfl := stage
    obtain ⟨g, found, is_settled, -⟩ := todo.2 (id, hasErrors) List.mem_cons_self
    rw [state]
    exact close_change lawful found is_settled hasErrors settled progressed
  | waits rounds idleRounds w idle state frame =>
    rw [state]
    exact .quiet (Progress.counted_stands _ _ _) rfl (handing_of_not_asking idle)

namespace Change

variable {m : Moment} {s' : RunState} (h : Change env m s')

include h

theorem generators (id : Identifier) :
    s'.progress.generators.contains id = m.state.progress.generators.contains id := by
  cases h with
  | quiet stands => exact stands.generators id
  | fansOut _ _ _ _ _ _ _ _ _ _ after => exact after.generators id
  | ends _ _ _ _ _ _ _ _ _ after => exact after.generators id

/-- The tasks that are handed over become known. -/
theorem tasks :
    s'.tasks = (m.handing env).foldl (fun known t => known.insert t.id t) m.state.tasks := by
  cases h with
  | quiet _ same none => rw [same, none, List.foldl_nil]
  | fansOut _ _ _ _ _ _ _ _ _ _ _ taken => exact taken
  | ends _ _ _ _ _ _ _ _ _ _ same none => rw [same, none, List.foldl_nil]

/-- The laws are kept, if no task is handed over under the identifier of a migration. -/
theorem lawful (laws : m.state.progress.Lawful)
    (apart : ∀ t ∈ m.handing env, m.state.progress.generators.contains t.id = false) :
    s'.progress.Lawful := by
  cases h with
  | quiet stands => exact stands.lawful laws
  | fansOut _ _ _ _ _ known _ before pending _ after =>
    exact after.lawful before known pending laws (List.forall_mem_map.2 apart)
  | ends _ _ _ _ before unfinished how done _ after =>
    exact after.lawful before unfinished how done laws

/-- What is no longer pending does not become so again, and keeps its tasks. -/
theorem begun {id : Identifier} {st : Standing}
    (at_id : m.state.progress.standing? id = some st) (begun : st.phase ≠ .pending) :
    ∃ st', s'.progress.standing? id = some st' ∧ st'.phase ≠ .pending ∧ st'.tasks = st.tasks := by
  cases h with
  | quiet stands => exact ⟨st, stands.standing ▸ at_id, begun, rfl⟩
  | fansOut _ _ _ _ _ _ _ before pending _ after =>
    exact ⟨st, after.begun before pending at_id begun, begun, rfl⟩
  | ends _ _ _ _ before _ how _ _ after =>
    exact after.begun before (by rcases how with rfl | ⟨rfl, -⟩ <;> rfl) at_id begun

/-- A migration whose tasks are handed over was pending before and is no longer, and they are its
tasks now. -/
theorem handed {t : Task} (mem : t ∈ m.handing env) : ∃ id g w old st,
    m.state.generators.find? id = some g ∧
    m.handing env = g.buffered ++ (g.scan env w).2.1 ∧
    m.state.progress.standing? id = some old ∧ old.phase = .pending ∧
    s'.progress.standing? id = some st ∧ st.phase ≠ .pending ∧ t.id ∈ st.tasks := by
  cases h with
  | quiet _ _ none => exact absurd (none ▸ mem) List.not_mem_nil
  | fansOut id old g w errors _ source before pending scanned after =>
    exact ⟨id, g, w, old, _, source, scanned, before, pending, after.self, Phase.noConfusion,
      List.mem_append_right _ (List.mem_map_of_mem mem)⟩
  | ends _ _ _ _ _ _ _ _ _ _ _ none => exact absurd (none ▸ mem) List.not_mem_nil

/-- A task that is finished without errors after a step was so before, or its record was being
saved. -/
theorem finished {id : Identifier} {st : Standing}
    (task : m.state.progress.generators.contains id = false)
    (at_id : s'.progress.standing? id = some st) (clean : st.phase.isClean = true) :
    m.state.progress.standing? id = some st ∨
      ∃ f ∈ m.stage.flights, f.task.id = id ∧ ∃ ending q,
        f.evaluation = .writing ending q ∧ ending.errors = [] ∧ ending.clean = st.phase := by
  cases h with
  | quiet stands => exact Or.inl (stands.standing ▸ at_id)
  | fansOut _ _ _ _ _ _ _ _ _ _ after =>
    rcases after.stood at_id with at_id | rfl | ⟨-, rfl⟩
    · exact Or.inl at_id
    · cases clean
    · cases clean
  | ends id' old phase errors _ _ _ _ written after =>
    by_cases e : id = id'
    · subst e
      obtain rfl := Option.some.inj (at_id.symm.trans after.self)
      rcases old.finish_phase phase errors with ⟨same, none⟩ | ⟨failed, -⟩
      · rw [same]
        exact Or.inr (written task (List.append_eq_nil_iff.1 none).2)
      · rw [failed] at clean
        cases clean
    · exact Or.inl ((after.others id e).symm.trans at_id)

end Change

/-! ## Scans -/

theorem scanning_cases {m : Moment} {t : Task} (mem : t ∈ m.scanning env) :
    ∃ id ids progressed g w, m.stage = .asking (id :: ids) progressed ∧
      m.state.generators.find? id = some g ∧
      g.oracle.state env.metadata m.state.world = (w, some .ready) ∧
      t ∈ (g.scan env w).2.1 := by
  unfold scanning RunState.scanning at mem
  split at mem
  · rename_i id ids progressed stage
    split at mem
    · cases mem
    rename_i g source
    split at mem
    · rename_i w ready
      exact ⟨id, ids, progressed, g, w, stage, source, ready, mem⟩
    · cases mem
  · cases mem

theorem mem_scanning {m : Moment} {id : Identifier} {ids : List Identifier} {progressed : Bool}
    {g : Generator} {w : World} {t : Task} (stage : m.stage = .asking (id :: ids) progressed)
    (source : m.state.generators.find? id = some g)
    (ready : g.oracle.state env.metadata m.state.world = (w, some .ready))
    (mem : t ∈ (g.scan env w).2.1) : t ∈ m.scanning env := by
  unfold scanning RunState.scanning
  rw [stage]
  dsimp only
  rw [source]
  dsimp only
  rw [ready]
  exact mem

/-- What a scan produces is handed over at once, unless the run is cancelled during the scan: then
nothing changes any more. -/
theorem handing_of_scanning {m : Moment} {t : Task} (mem : t ∈ m.scanning env)
    (options : RunOptions) : t ∈ m.handing env ∨
      (m.next env options).stage = .over true ∧
        (m.next env options).state.progress = m.state.progress := by
  obtain ⟨id, ids, progressed, g, w, stage, source, ready, scanned⟩ := scanning_cases mem
  obtain ⟨_, s⟩ := m
  obtain rfl := stage
  dsimp only at source ready
  have made : t ∈ (g.run env w).2.1.buffered :=
    (g.run_buffered env w).2 ▸ List.mem_append_right _ scanned
  unfold handing RunState.handing next RunState.advance
  simp only [source, ready]
  generalize g.run env w = r at *
  obtain ⟨w', g', result⟩ := r
  cases result with
  | ok n => exact Or.inl made
  | error e =>
    cases e with
    | canceled => exact Or.inr ⟨rfl, rfl⟩
    | _ => exact Or.inl made

/-- A step keeps the migrations of the generators. -/
theorem next_sources (env : Environment) (m : Moment) (options : RunOptions) :
    RunState.Sources m.state (m.next env options).state := by
  cases m.next_transition env options with
  | asks id _ _ _ state =>
    rw [state]
    exact RunState.advance_sources env id m.state
  | starts _ _ next =>
    rw [next]
    exact .refl m.state
  | works _ _ _ _ _ r works next =>
    rw [next]
    cases works <;> exact .of_eq rfl
  | closes id hasErrors _ _ _ state =>
    rw [state]
    exact .of_eq (RunState.close_generators env id hasErrors m.state)
  | waits _ _ _ _ state =>
    rw [state]
    exact .of_eq rfl

end Moment

/-- If the generators before a step are at work on migrations that were given, so are those after
it. -/
theorem RunState.Sources.given {generators : List Generator} {s s' : RunState}
    (h : Sources s s') (given : ∀ {id g}, s.generators.find? id = some g →
      ∃ g₀ ∈ generators, g₀.id = id ∧ g.migration = g₀.migration) {id : Identifier} {g : Generator}
    (found : s'.generators.find? id = some g) :
    ∃ g₀ ∈ generators, g₀.id = id ∧ g.migration = g₀.migration := by
  have related := h id
  rw [found] at related
  cases before : s.generators.find? id with
  | none =>
    rw [before] at related
    cases related
  | some g' =>
    rw [before] at related
    cases related with
    | some related =>
      obtain ⟨g₀, mem, named, same⟩ := given before
      exact ⟨g₀, mem, named, related.1.trans same⟩

/-- At the start of a run the generators are those that were given. -/
theorem RunState.start_given {generators : List Generator} (w : World) (options : RunOptions)
    {id : Identifier} {g : Generator}
    (found : (start w options generators).generators.find? id = some g) :
    g ∈ generators ∧ g.id = id := by
  obtain ⟨g₀, given, named, rfl⟩ := IdMap.find?_ofList generators Generator.id (fun g => g) found
  exact ⟨given, named⟩

/-- At every moment of a run a generator is at work on a migration that was given. -/
theorem World.moment_source {env : Environment} {options : RunOptions}
    {generators : List Generator} (w : World) (n : Nat) {id : Identifier} {g : Generator}
    (found : (w.moment env options generators n).state.generators.find? id = some g) :
    ∃ g₀ ∈ generators, g₀.id = id ∧ g.migration = g₀.migration := by
  induction n generalizing id g with
  | zero =>
    obtain ⟨given, named⟩ := RunState.start_given w options found
    exact ⟨g, given, named, rfl⟩
  | succ n ih => exact (Moment.next_sources env _ options).given ih found

end GatedMigration
