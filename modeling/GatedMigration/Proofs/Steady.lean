import GatedMigration.Proofs.Calm
import GatedMigration.Proofs.Chains
import GatedMigration.Proofs.Invariant

/-!
# Runs in calm worlds

In a calm world, with operations that succeed, nothing in a run ever has an error
(`Progress.Errorless`), and what is asked whether it may run moves on if its prerequisites have
satisfied records (`RunState.Steady.advance`, `work`, `close`). So a record that counts as a
prerequisite counts for the rest of the run (`RunState.Effect.satisfied`).
-/

namespace GatedMigration

namespace Progress

variable {p q : Progress} {id : Identifier}

/-- Nothing has an error, and nothing has failed. -/
def Errorless (p : Progress) : Prop :=
  ∀ ⦃id st⦄, p.standing? id = some st → st.errors = [] ∧ st.phase ≠ .failed

/-- A migration or a task is no longer pending. -/
def Begun (p : Progress) (id : Identifier) : Prop :=
  ∃ st, p.standing? id = some st ∧ st.phase ≠ .pending

theorem Clean.begun (clean : p.Clean id) : p.Begun id := by
  obtain ⟨st, at_id, is_clean⟩ := clean
  refine ⟨st, at_id, fun pending => ?_⟩
  rw [pending] at is_clean
  cases is_clean

theorem Stands.errorless (h : Stands p q) (ok : p.Errorless) : q.Errorless := by
  intro id st at_id
  rw [h.standing] at at_id
  exact ok at_id

theorem FansOut.errorless {old : Standing} {tasks : List Identifier}
    (h : FansOut p q id old tasks []) (before : p.standing? id = some old) (ok : p.Errorless) :
    q.Errorless := by
  intro id' st at_id
  rcases h.stood at_id with at_id | rfl | ⟨rfl, rfl⟩
  · exact ok at_id
  · exact ⟨rfl, Phase.noConfusion⟩
  · exact ⟨by rw [(ok before).1]; rfl, Phase.noConfusion⟩

theorem Settles.errorless {old : Standing} {clean : Phase}
    (h : Settles p q id (old.finish clean [])) (before : p.standing? id = some old)
    (is_clean : clean.isClean = true) (ok : p.Errorless) : q.Errorless := by
  intro id' st at_id
  rcases h.stood at_id with at_id | rfl
  · exact ok at_id
  obtain ⟨none, -⟩ := ok before
  refine ⟨by rw [Standing.finish, none]; rfl, fun failed => ?_⟩
  rcases old.finish_phase clean [] with ⟨phase, -⟩ | ⟨-, some⟩
  · rw [← phase, failed] at is_clean
    cases is_clean
  · exact some (by rw [none]; rfl)

/-- Whatever comes to its end where nothing has an error does so without errors. -/
theorem Settles.clean {old : Standing} {clean : Phase} (h : Settles p q id (old.finish clean []))
    (before : p.standing? id = some old) (is_clean : clean.isClean = true) (ok : p.Errorless) :
    q.Clean id := by
  refine ⟨_, h.self, ?_⟩
  rcases old.finish_phase clean [] with ⟨phase, -⟩ | ⟨-, some⟩
  · rw [phase]
    exact is_clean
  · exact absurd (by rw [(ok before).1]; rfl) some

/-- Where nothing has failed no migration has a failed task. -/
theorem Errorless.failedChildren (ok : p.Errorless) (laws : p.Lawful) (g : GeneratorEntry) :
    p.failedChildren g = 0 := by
  rw [Progress.failedChildren, List.length_eq_zero_iff, List.filter_eq_nil_iff]
  intro c _ failed
  rw [hasFailed, Option.any_eq_true] at failed
  obtain ⟨e, found, failed⟩ := failed
  have task := laws.apart (IdMap.contains_of_find? found)
  exact (ok (standing?_of_child task found)).2 (beq_iff_eq.1 failed)

/-- The rounds stay the same, those so far and those that are borne. -/
def SameRounds (p q : Progress) : Prop :=
  q.rounds = p.rounds ∧ q.maxIdleRounds = p.maxIdleRounds

theorem observe_rounds (p : Progress) (id : Identifier) (state : Readiness) :
    SameRounds p (p.observe id state) := by
  unfold observe
  split <;> exact ⟨rfl, rfl⟩

theorem generatorRan_rounds (p : Progress) (id : Identifier) (tasks : List Identifier)
    (errors : List String) : SameRounds p (p.generatorRan id tasks errors) := by
  unfold generatorRan
  split <;> exact ⟨rfl, rfl⟩

end Progress

namespace RunState

variable {env : Environment} {generators : List Generator} {w : World} {s s' : RunState}

/-- Where nothing has an error, a record that counts as a prerequisite counts from then on. -/
theorem Effect.satisfied (h : Effect env s s') (errorless : s'.progress.Errorless)
    {id : Identifier} (good : s.world.Satisfied env.metadata id) :
    s'.world.Satisfied env.metadata id := by
  cases h with
  | quiet _ _ quiet => exact quiet.satisfied_iff.2 good
  | fansOut _ _ _ _ _ _ _ _ _ _ _ _ quiet => exact quiet.satisfied_iff.2 good
  | ends id' group old clean errors _ _ _ _ _ after _ reports =>
    have none : old.errors ++ errors = [] := (errorless after.self).1
    rcases reports with saved | ⟨some, -⟩
    · rw [none] at saved
      by_cases e : id = id'
      · subst e
        exact ⟨_, saved.find?_of_mem (List.pairwise_singleton _ _) List.mem_cons_self, rfl⟩
      · obtain ⟨r, stored, good⟩ := good
        refine ⟨r, ?_, good⟩
        rw [saved.find?_of_notMem fun mem => e (List.mem_singleton.1 mem)]
        exact stored
    · exact absurd none some

/-- What is finished without errors has a record that counts as a prerequisite. -/
theorem Consistent.satisfied (ok : s.Consistent env generators w) {id : Identifier}
    (clean : s.progress.Clean id) : s.world.Satisfied env.metadata id := by
  obtain ⟨rs, saves, recorded⟩ := ok.recorded
  obtain ⟨st, at_id, is_clean⟩ := clean
  obtain ⟨r, mem, rfl, no_errors⟩ := recorded.complete at_id is_clean
  obtain ⟨completed, -⟩ := recorded.truthful r mem
  refine ⟨r, saves.find?_of_mem recorded.distinct mem, ?_⟩
  rw [CompletionRecord.satisfied, completed, no_errors]
  rfl

/-- What holds of a run in a calm world. -/
structure Steady (env : Environment) (generators : List Generator) (s : RunState) : Prop where
  calm : s.world.Calm
  /-- At least one round without progress is borne. -/
  patient : 0 < s.progress.maxIdleRounds
  errorless : s.progress.Errorless
  unhurt : ∀ {id g}, s.generators.find? id = some g → g.errors = []
  /-- The prerequisites of every task have satisfied records. -/
  released : ∀ {id t}, s.tasks.find? id = some t →
    ∀ a ∈ t.oracle.edges, s.world.Satisfied env.metadata a
  /-- Each round finishes one more layer. -/
  layered : ∀ {id}, Grounded generators s.progress.rounds id → s.progress.Clean id

/-! ## Steps -/

/-- A step keeps what holds of a run in a calm world, if the world stays calm, no error comes up,
and new tasks have their prerequisites. -/
theorem Steady.after (ok : Steady env generators s) (effect : Effect env s s')
    (calm : s'.world.Calm) (rounds : s.progress.SameRounds s'.progress)
    (errorless : s'.progress.Errorless)
    (unhurt : ∀ {id g}, s'.generators.find? id = some g → g.errors = [])
    (released : ∀ {id t}, s'.tasks.find? id = some t → s.tasks.find? id = some t ∨
      ∀ a ∈ t.oracle.edges, s.world.Satisfied env.metadata a) : Steady env generators s' := by
  obtain ⟨same, borne⟩ := rounds
  refine ⟨calm, borne ▸ ok.patient, errorless, unhurt, fun found a edge => ?_, fun grounded => ?_⟩
  · refine effect.satisfied errorless ?_
    rcases released found with earlier | good
    · exact ok.released earlier a edge
    · exact good a edge
  · rw [same] at grounded
    exact Progress.Keeps.clean effect.keeps (ok.layered grounded)

section

variable (total : ∀ g ∈ generators, g.migration.selector.Total)
  (ok : s.Consistent env generators w) (steady : Steady env generators s)

include total ok steady

/-- A pending migration that is asked waits for a prerequisite without a satisfied record, or fans
out, or has nothing to do. -/
theorem Steady.advance_cases {id : Identifier} {e : GeneratorEntry}
    (h : s.progress.generators.find? id = some e) :
    (∃ world a, s.advance env id = ({ s with world, progress := s.progress.observe id a }, .idle) ∧
      world.Calm ∧ ∃ g ∈ generators, g.id = id ∧
        ∃ b ∈ g.migration.after, ¬s.world.Satisfied env.metadata b) ∨
    (∃ world g, s.advance env id = (takeJobs id g { s with world }, .moved) ∧ world.Calm ∧
      g.errors = [] ∧ ∀ t ∈ g.buffered, ∀ b ∈ t.oracle.edges,
        s.world.Satisfied env.metadata b) ∨
    ∃ world, s.advance env id =
      ({ s with world, progress := s.progress.generatorPassed id [] }, .moved) ∧ world.Calm := by
  have known := IdMap.contains_of_find? h
  obtain ⟨g, source, sound, g₀, given, rfl, same⟩ := ok.sources id ((ok.migrations id).1 known)
  have oracle : g.oracle = g₀.oracle := by
    rw [Generator.oracle, same]
    rfl
  have total : g.migration.selector.Total := same ▸ total g₀ given
  obtain ⟨world, a, answered, calm, resolved, unblocked⟩ :=
    steady.calm.state (o := g.oracle) total env.metadata
  have ready (h : (g.oracle.state env.metadata s.world).2 = some .ready) :
      ∀ b ∈ g.oracle.edges, s.world.Satisfied env.metadata b := fun _ => Oracle.state_ready h
  unfold advance
  rw [source]
  dsimp only
  rw [answered] at ready ⊢
  cases a with
  | unresolved => exact absurd rfl resolved
  | blocked =>
    refine Or.inl ⟨world, .blocked, rfl, calm, g₀, given, rfl, ?_⟩
    by_contra all
    simp only [not_exists, not_and, not_not] at all
    refine unblocked (fun b edge => all b ?_) rfl
    rw [oracle] at edge
    exact IdSet.mem_ofList.1 edge
  | ready =>
    obtain ⟨world', g', n, scanned, calm', errors⟩ := calm.run total env
    have sound' := sound.run env world
    obtain ⟨migration, -⟩ := g.run_buffered env world
    rw [scanned] at sound' migration
    dsimp only
    rw [scanned]
    refine Or.inr (Or.inl ⟨world', g', rfl, calm', errors.trans (steady.unhurt source), ?_⟩)
    intro t mem b edge
    obtain ⟨d, n, rfl⟩ := sound' t mem
    rw [Generator.task_congr migration] at edge
    exact ready rfl b edge
  | passed =>
    obtain ⟨world', saved, calm'⟩ := calm.saveRecord env.metadata g₀.id g₀.id false
    dsimp only
    rw [saved]
    exact Or.inr (Or.inr ⟨world', rfl, calm'⟩)

/-- A pending migration that is asked has moved on, or it waits for a prerequisite and everything
stands as before. -/
theorem Steady.advance {id : Identifier} {e : GeneratorEntry}
    (h : s.progress.generators.find? id = some e) (pending : e.entry.phase = .pending) :
    Steady env generators (s.advance env id).1 ∧
      s.progress.SameRounds (s.advance env id).1.progress ∧
      ((s.advance env id).2 = .moved ∧ (s.advance env id).1.progress.Begun id ∨
        (s.advance env id).2 = .idle ∧
          (s.advance env id).1.progress.standing? = s.progress.standing? ∧
          ∃ g ∈ generators, g.id = id ∧
            ∃ b ∈ g.migration.after, ¬s.world.Satisfied env.metadata b) := by
  have standing := Progress.standing?_of_generator h
  have effect : Effect env s (s.advance env id).1 := by
    refine advance_effect ok.lawful h pending fun g source => ?_
    have known := IdMap.contains_of_find? h
    obtain ⟨g', source', sound, -⟩ := ok.sources id ((ok.migrations id).1 known)
    cases source.symm.trans source'
    exact sound
  rcases steady.advance_cases total ok h with
    ⟨world, a, step, calm, waits⟩ | ⟨world, g, step, calm, errors, released⟩ | ⟨world, step, calm⟩
  · rw [step] at effect ⊢
    have stands := s.progress.observe_stands id a
    have rounds := s.progress.observe_rounds id a
    refine ⟨steady.after effect calm rounds (stands.errorless steady.errorless) steady.unhurt
      Or.inl, rounds, Or.inr ⟨rfl, stands.standing, waits⟩⟩
  · rw [step] at effect ⊢
    have fansOut := Progress.generatorRan_fansOut h (g.buffered.map Task.id) g.errors
    have rounds := s.progress.generatorRan_rounds id (g.buffered.map Task.id) g.errors
    rw [errors] at fansOut
    refine ⟨steady.after effect calm rounds ?_ ?_ ?_, rounds, Or.inl ⟨rfl, ?_⟩⟩
    · show (s.progress.generatorRan id (g.buffered.map Task.id) g.errors).Errorless
      rw [errors]
      exact fansOut.errorless standing steady.errorless
    · intro id' g' source
      by_cases same : id' = id
      · rw [same] at source
        cases (IdMap.find?_insert_self _ _ _).symm.trans source
        exact errors
      · exact steady.unhurt ((IdMap.find?_insert_of_ne _ same _).symm.trans source)
    · intro id' t found
      rcases IdMap.find?_foldl_insert g.buffered Task.id (fun t => t) found with
        ⟨t, mem, rfl, rfl⟩ | found
      · exact Or.inr (released t mem)
      · exact Or.inl found
    · show (s.progress.generatorRan id (g.buffered.map Task.id) g.errors).Begun id
      rw [errors]
      exact ⟨_, fansOut.self, Phase.noConfusion⟩
  · rw [step] at effect ⊢
    have settles := Progress.generatorPassed_settles h []
    have clean := settles.clean standing rfl steady.errorless
    exact ⟨steady.after effect calm ⟨rfl, rfl⟩ (settles.errorless standing rfl steady.errorless)
      steady.unhurt Or.inl, ⟨rfl, rfl⟩, Or.inl ⟨rfl, clean.begun⟩⟩

/-- One of the tasks at work goes on, or comes to its end without errors. -/
theorem Steady.work (reliable : env.registry.Reliable)
    (registered : ∀ g ∈ generators, env.registry.contains g.migration.operation = true)
    {workers : Nat} {flights : List Flight} (expected : s.Expects flights)
    (keeps : ∀ f ∈ flights, f.evaluation.Obeys (fun a b => b.store.recordsOf.get env.metadata =
      a.store.recordsOf.get env.metadata) fun _ => True)
    (smooth : ∀ f ∈ flights, f.evaluation.Smooth f.task)
    {r : RunState × List Flight × Step} (works : Works env workers flights s r) :
    Steady env generators r.1 ∧ s.progress.SameRounds r.1.progress ∧
      (r.2.2 = .idle ∧ r.1.progress = s.progress ∧
          r.2.1.map (·.task.id) = flights.map (·.task.id) ∨
        r.2.2 = .moved ∧ ∃ id, r.1.progress.Begun id ∧
          ∀ c ∈ flights.map (·.task.id), c = id ∨ c ∈ r.2.1.map (·.task.id)) := by
  have effect := work_effect ok.lawful expected keeps works
  have turn := s.world.saves_takeTurn env.metadata
  have calm := World.Calm.frame.turn _ steady.calm
  -- What the step of the task comes to.
  have stepped {f : Flight} (mem : f ∈ flights) :
      (f.evaluation.step env f.task s.world.takeTurn.2).1.Calm ∧
        (f.evaluation.step env f.task s.world.takeTurn.2).2.Smooth f.task := by
    obtain ⟨-, ⟨g, given, d, n, task⟩, -⟩ := ok.tasks (expected.known f mem)
    refine (smooth f mem).step reliable ?_ ?_ calm fun a edge => ?_
    · rw [task]
      exact registered g given
    · rw [task]
      exact total g given
    · exact turn.satisfied_iff.2 (steady.released (expected.known f mem) a edge)
  cases works with
  | goesOn before f behind world evaluation among room step =>
    obtain ⟨calm, -⟩ := stepped (among ▸ List.mem_append_cons_self)
    rw [step] at calm
    refine ⟨steady.after effect calm ⟨rfl, rfl⟩ steady.errorless steady.unhurt Or.inl,
      ⟨rfl, rfl⟩, Or.inl ⟨rfl, rfl, ?_⟩⟩
    rw [among, List.map_append, List.map_append]
    rfl
  | ends before f behind world verdict among room step =>
    have mem : f ∈ flights := among ▸ List.mem_append_cons_self
    obtain ⟨calm, ended⟩ := stepped mem
    rw [step] at calm ended
    obtain ⟨e, found, pending⟩ := expected.pending f mem
    have task := ok.lawful.apart (IdMap.contains_of_find? found)
    have standing := Progress.standing?_of_child task found
    have others : ∀ c ∈ flights.map (·.task.id), c = f.task.id ∨
        c ∈ (before ++ behind).map (·.task.id) := fun c mem => by
      rw [among, List.map_append, List.map_cons, List.mem_append, List.mem_cons] at mem
      rw [List.map_append, List.mem_append]
      tauto
    -- Both ends are entered in the same way.
    have entered {clean : Phase} (is_clean : clean.isClean = true)
        (rounds : s.progress.SameRounds (record s.progress f.task.id verdict).1)
        (settles : s.progress.Settles (record s.progress f.task.id verdict).1 f.task.id
          (e.standing.finish clean [])) :
        Steady env generators
            { s with world, progress := (record s.progress f.task.id verdict).1 } ∧
          (record s.progress f.task.id verdict).1.Begun f.task.id :=
      ⟨steady.after effect calm rounds (settles.errorless standing is_clean steady.errorless)
        steady.unhurt Or.inl, (settles.clean standing is_clean steady.errorless).begun⟩
    rcases ended with rfl | rfl
    · obtain ⟨after, begun⟩ :=
        entered rfl ⟨rfl, rfl⟩ (Progress.childExecuted_settles task found [])
      exact ⟨after, ⟨rfl, rfl⟩, Or.inr ⟨rfl, f.task.id, begun, others⟩⟩
    · obtain ⟨after, begun⟩ := entered rfl ⟨rfl, rfl⟩ (Progress.childPassed_settles task found [])
      exact ⟨after, ⟨rfl, rfl⟩, Or.inr ⟨rfl, f.task.id, begun, others⟩⟩

omit total in
/-- A settled migration that is closed comes to its end without errors. -/
theorem Steady.close {id : Identifier} {g : GeneratorEntry}
    (h : s.progress.generators.find? id = some g) (settled : s.progress.isSettled g = true)
    {flag : Bool}
    (told : flag = (!g.entry.errors.isEmpty || decide (0 < s.progress.failedChildren g))) :
    Steady env generators (s.close env id flag).1 ∧
      s.progress.SameRounds (s.close env id flag).1.progress ∧
      (s.close env id flag).2 = .moved ∧ (s.close env id flag).1.progress.Clean id := by
  have standing := Progress.standing?_of_generator h
  have effect := close_effect env ok.lawful h settled
  rw [← told] at effect
  have settles := Progress.finalizeGenerator_settles h []
  rw [steady.errorless.failedChildren ok.lawful] at settles
  obtain ⟨world, saved, calm⟩ := steady.calm.saveRecord env.metadata id id flag
  have step : s.close env id flag = ({ s with
      world := if flag then world.warn (.finishedWithErrors id) else world
      progress := s.progress.finalizeGenerator id [] }, .moved) := by
    unfold RunState.close
    rw [saved]
  have still_calm : (if flag then world.warn (.finishedWithErrors id) else world).Calm := by
    split
    · exact calm.of_eq rfl rfl rfl
    · exact calm
  rw [step] at effect ⊢
  exact ⟨steady.after effect still_calm ⟨rfl, rfl⟩
    (settles.errorless standing rfl steady.errorless) steady.unhurt Or.inl, ⟨rfl, rfl⟩, rfl,
    settles.clean standing rfl steady.errorless⟩

end

end RunState

end GatedMigration
