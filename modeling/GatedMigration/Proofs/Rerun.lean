import GatedMigration.Proofs.Account
import GatedMigration.Proofs.Calm
import GatedMigration.Proofs.Meaning
import GatedMigration.Proofs.Remainder

/-!
# Running again

Once nothing is left of the migrations, a run over them has nothing to do: each of them is asked
once and passes, and the run ends with its first round (`Moment.Idle`). A run that succeeds leaves
nothing (`World.nothing_left`), so a second run over what it has left behind has nothing to do.

* `Moment.Idle.next`: a step of a run without work.
* `World.nothing_done`: such a run, from its beginning to its report.
* `World.rerun_passes`: a second run after one that has succeeded.
-/

namespace GatedMigration

/-- A selector that is well-formed has an answer for every document. -/
theorem Selector.WellFormed.total {s : Selector} (h : WellFormed s.entries) : s.Total := fun d => by
  obtain ⟨hit, answer, -⟩ := accepts_meaning h d
  exact ⟨hit, answer⟩

/-- Without faults the count is zero where no document matches. -/
theorem Store.counted_eq_zero {s : Store} {ns : Namespace} {sel : Selector} {latency : Nat}
    (faults : s.faults = { latency })
    (none_left : ∀ d ∈ s.documents ns, sel.accepts d = .ok false) : s.counted ns sel = .ok 0 := by
  obtain ⟨n, counted, zero⟩ :=
    countMatching_ok (s.documents ns) fun d mem => ⟨false, none_left d mem⟩
  rw [Store.counted, faults, counted, zero.2 none_left]
  rfl

/-- In a list where one document has changed each one is an old one or a changed one. -/
theorem Store.mem_of_changeFirst {id : Value} {change : Document → Document}
    {docs docs' : List Document} (h : changeFirst id change docs = some docs') {d : Document}
    (mem : d ∈ docs') : d ∈ docs ∨ ∃ d', d = change d' := by
  induction docs generalizing docs' with
  | nil => cases h
  | cons d' docs ih =>
    unfold changeFirst at h
    split at h
    · cases h
      rcases List.mem_cons.1 mem with rfl | mem
      · exact Or.inr ⟨d', rfl⟩
      · exact Or.inl (List.mem_cons_of_mem _ mem)
    · obtain ⟨rest, changed, rfl⟩ := Option.map_eq_some_iff.1 h
      rcases List.mem_cons.1 mem with rfl | mem
      · exact Or.inl List.mem_cons_self
      · exact (ih changed mem).imp_left (List.mem_cons_of_mem _)

namespace World

/-- No fault is set, and nobody sets one meanwhile, though calls may take time. The run has this
deadline, if any, and it may be cancelled. -/
structure Faultless (deadline : Option Nat) (w : World) : Prop where
  faults : ∃ latency, w.store.faults = { latency }
  outside : ∀ i ∈ w.outside, ∀ f, i.faults = some f → ∃ latency, f = { latency }
  deadline : w.context.deadline = deadline

/-- The run is cancelled, or its time is over. -/
def Stopped (deadline : Option Nat) (w : World) : Prop :=
  w.isCanceled = true ∨ due deadline w.clock = true

namespace Faultless

variable {deadline : Option Nat} {w w' : World}

theorem of_eq (h : w.Faultless deadline) (faults : w'.store.faults = w.store.faults)
    (outside : w'.outside = w.outside) (context : w'.context = w.context) :
    w'.Faultless deadline := by
  refine ⟨faults ▸ h.faults, ?_, context ▸ h.deadline⟩
  rw [outside]
  exact h.outside

theorem yield (h : w.Faultless deadline) : w.yield.Faultless deadline := by
  obtain ⟨faults, outside, deadline⟩ := h
  unfold World.yield
  split
  · exact ⟨faults, outside, deadline⟩
  · rename_i i rest turns
    rw [turns] at outside
    obtain ⟨own, others⟩ := List.forall_mem_cons.1 outside
    have faults' : ∃ latency, i.faults.getD w.store.faults = { latency } := by
      cases set : i.faults with
      | none => exact faults
      | some f => exact own f set
    dsimp only
    split <;> exact ⟨faults', others, deadline⟩

/-- A guarded call has its effect, unless the run is stopped. -/
theorem guard {α : Type} (h : w.Faultless deadline) (call : Call α) :
    (((w.guard call).2 = .error .canceled ∨ (w.guard call).2 = .error .deadlineExceeded) ∧
        (w.guard call).1.Stopped deadline) ∨
      ∃ t, w.guard call = ({ w with clock := t, store := (call.finish (call.start w.store)).1 },
        (call.finish (call.start w.store)).2) := by
  have ends := w.guard_ends call
  rw [h.deadline] at ends
  rcases ends with ⟨told, canceled⟩ | ⟨told, late⟩ | done
  · exact Or.inl ⟨Or.inl told, Or.inl canceled⟩
  · exact Or.inl ⟨Or.inr told, Or.inr late⟩
  · exact Or.inr done

/-- A record is saved without errors, unless the run is stopped. -/
theorem saveRecord (h : w.Faultless deadline) (metadata : Namespace) (id group : Identifier)
    (hasErrors : Bool) : (w.saveRecord metadata id group hasErrors).1.Stopped deadline ∨
      (w.saveRecord metadata id group hasErrors).2 = some [] ∧
        (w.saveRecord metadata id group hasErrors).1.Faultless deadline := by
  have turn := h.yield
  obtain ⟨latency, faults⟩ := turn.faults
  unfold World.saveRecord finishMigration
  dsimp only
  rcases turn.guard (w.yield.store.upsertRecord metadata (.finished id group hasErrors)) with
    ⟨told, stopped⟩ | ⟨t, done⟩
  · generalize w.yield.guard _ = p at *
    obtain ⟨w', _⟩ := p
    rcases told with told | told <;> cases told <;> exact Or.inl stopped
  · have upserted (now : Store) :
        (w.yield.store.upsertRecord metadata (.finished id group hasErrors)).finish now =
          (now.putRecord metadata (.finished id group hasErrors), .ok ()) := by
      unfold Store.upsertRecord
      rw [faults]
      rfl
    rw [upserted] at done
    rw [done]
    exact Or.inr ⟨rfl, turn.of_eq rfl rfl rfl⟩

/-- Where no document matches, an oracle says that there is nothing to do, unless the run is
stopped. -/
theorem state (h : w.Faultless deadline) {o : Oracle} (metadata : Namespace)
    (none_left : ∀ d ∈ w.store.documents o.namesp, o.selector.accepts d = .ok false) :
    (((o.state metadata w).2 = none ∨ (o.state metadata w).2 = some .unresolved) ∧
        (o.state metadata w).1.Stopped deadline) ∨
      (o.state metadata w).2 = some .passed ∧ (o.state metadata w).1.Faultless deadline := by
  have turn := h.yield
  obtain ⟨latency, faults⟩ := turn.faults
  unfold Oracle.state
  dsimp only
  rcases turn.guard (w.yield.store.count o.namesp o.selector) with ⟨told, stopped⟩ | ⟨t, done⟩
  · generalize w.yield.guard _ = p at *
    obtain ⟨w', _⟩ := p
    rcases told with told | told
    · cases told
      exact Or.inl ⟨Or.inl rfl, stopped⟩
    · cases told
      exact Or.inl ⟨Or.inr rfl, stopped⟩
  · have none_left' : ∀ d ∈ w.yield.store.documents o.namesp, o.selector.accepts d = .ok false := by
      rwa [Store.documents, w.asked_yield.documents]
    have asked : w.yield.guard (w.yield.store.count o.namesp o.selector) =
        (_, w.yield.store.counted o.namesp o.selector) := done
    rw [Store.counted_eq_zero faults none_left'] at asked
    rw [asked]
    exact Or.inr ⟨rfl, turn.of_eq rfl rfl rfl⟩

end Faultless

end World

/-! ## Runs that have succeeded -/

/-- If the outcome is that the run has succeeded, everything is finished without errors. -/
theorem Progress.clean_of_outcome {p : Progress}
    (apart : ∀ {c}, p.children.contains c = true → p.generators.contains c = false)
    {canceled : Bool} (succeeded : (p.report canceled).outcome = .succeeded) {id : Identifier}
    {st : Standing} (at_id : p.standing? id = some st) : p.Clean id := by
  have phase : p.phase? id = some st.phase := by
    rw [phase?_eq_standing?, at_id, Option.map_some]
  have finished : ¬0 < (p.report canceled).blocked.size := by
    intro some
    rw [report_outcome, decide_eq_true some] at succeeded
    cases canceled <;> cases succeeded
  have unfailed : ¬0 < (p.report canceled).failed.size := by
    intro some
    rw [report_outcome, decide_eq_true some, decide_eq_false finished] at succeeded
    cases canceled <;> cases succeeded
  refine ⟨st, at_id, ?_⟩
  cases at_phase : st.phase with
  | succeeded | passed => rfl
  | failed =>
    rw [at_phase] at phase
    exact absurd (IdMap.size_pos_iff.2 ⟨id, (reported_failed_iff apart canceled).2 phase⟩) unfailed
  | pending =>
    rw [at_phase] at phase
    exact absurd
      (IdMap.size_pos_iff.2 ⟨id, (reported_blocked_iff apart canceled).2 (Or.inl phase)⟩) finished
  | running =>
    rw [at_phase] at phase
    exact absurd
      (IdMap.size_pos_iff.2 ⟨id, (reported_blocked_iff apart canceled).2 (Or.inr phase)⟩) finished

/-- After a run that has succeeded nothing is left of its migrations. -/
theorem World.nothing_left_of_succeeded {w w₀ w₁ : World} {env : Environment}
    {options : RunOptions} {generators : List Generator} {report : Report}
    (fresh : ∀ g ∈ generators, g.buffered = []) (separate : Separate generators)
    (unlimited : ∀ g ∈ generators, g.migration.limit = none)
    (prepared : w.prepare env options generators = (w₀, .ok ()))
    (clears : ∀ n, (w₀.moment env options generators n).Clears env options generators)
    (run : w.run env options generators = (w₁, .ok report))
    (succeeded : report.outcome = .succeeded) {g : Generator} (given : g ∈ generators) (d : Value) :
    ¬w₁.store.Left g.migration.namesp g.migration.selector d := by
  obtain ⟨n, canceled, s, ended, run'⟩ := run_eq_moment prepared
  cases run.symm.trans run'
  have orderly : (w₀.moment env options generators n).Orderly generators
      (w₀.handedOver env options generators n) := w₀.moment_orderly fresh separate n
  have left := nothing_left fresh separate (prepare_nodup prepared) unlimited clears (n := n) given
  rw [ended] at left orderly
  have known := (orderly.migrations g.id).2 (List.mem_map_of_mem given)
  obtain ⟨e, found⟩ := IdMap.find?_of_contains known
  exact left (Progress.clean_of_outcome orderly.lawful.apart succeeded
    (Progress.standing?_of_generator found)) d

/-! ## Runs without work -/

namespace Progress

/-- Every migration has passed. -/
def AllPassed (p : Progress) : Prop :=
  ∀ id g, p.generators.find? id = some g → g.entry.phase = .passed

variable {p : Progress} (passed : p.AllPassed) (none : p.children = IdMap.empty)

include passed none

theorem AllPassed.entries {id : Identifier} {e : Entry} (mem : (id, e) ∈ p.entries) :
    p.generators.contains id = true ∧ e.phase = .passed := by
  rw [Progress.entries, none] at mem
  have migration := (List.mem_append.1 mem).resolve_right fun task => by cases task
  obtain ⟨⟨id, g⟩, owner, same⟩ := List.mem_map.1 migration
  cases same
  have found := Keyed.find?_of_mem p.generators.ascending owner
  exact ⟨IdMap.contains_of_find? found, passed id g found⟩

theorem AllPassed.isFinished : p.isFinished = true := by
  rw [isFinished_eq_all, List.all_eq_true]
  rintro ⟨id, e⟩ mem
  rw [(passed.entries none mem).2]
  rfl

end Progress

/-- The report of a run without work: it has succeeded in its first round, each migration has
passed, and nothing else is listed. -/
structure Report.NothingDone (r : Report) (ids : List Identifier) : Prop where
  outcome : r.outcome = .succeeded
  rounds : r.rounds = 1
  passed : ∀ id, id ∈ r.passed ↔ id ∈ ids
  ascending : r.passed.Pairwise (· < ·)
  succeeded : r.succeeded = []
  failed : r.failed = IdMap.empty
  blocked : r.blocked = IdMap.empty

theorem Progress.AllPassed.nothingDone {p : Progress} (passed : p.AllPassed)
    (none : p.children = IdMap.empty) (rounds : p.rounds = 1) {ids : List Identifier}
    (migrations : ∀ id, p.generators.contains id = true ↔ id ∈ ids) :
    (p.report false).NothingDone ids := by
  have absent (test : Phase → Bool) (other : test .passed = false) :
      (p.entries.filter fun e => test e.2.phase) = [] := by
    refine List.filter_eq_nil_iff.2 fun ⟨id, e⟩ mem => ?_
    rw [(passed.entries none mem).2, other]
    exact Bool.noConfusion
  have listed : (p.report false).passed = p.generators.keys := by
    have all : (p.entries.filter fun e => e.2.phase == .passed) = p.entries := by
      refine List.filter_eq_self.2 fun ⟨id, e⟩ mem => ?_
      rw [(passed.entries none mem).2]
      rfl
    show (p.entries.filter fun e => e.2.phase == .passed).map Prod.fst = _
    rw [all, Progress.entries, none, List.map_append, List.map_map]
    exact List.append_nil _
  have failed : (p.report false).failed = IdMap.empty := by
    show IdMap.ofList ((p.entries.filter fun e => e.2.phase == .failed).map _) = _
    rw [absent (· == .failed) rfl]
    rfl
  have blocked : (p.report false).blocked = IdMap.empty := by
    show IdMap.ofList ((p.entries.filter fun e => !e.2.phase.isTerminal).map _) = _
    rw [absent (!·.isTerminal) rfl]
    rfl
  refine ⟨?_, rounds, fun id => ?_, ?_, ?_, failed, blocked⟩
  · rw [Progress.report_outcome, failed, blocked]
    rfl
  · rw [listed, IdMap.mem_keys, migrations]
  · rw [listed]
    exact p.generators.ascending
  · show ((p.entries.filter fun e => e.2.phase == .succeeded).map Prod.fst).filter _ = _
    rw [absent (· == .succeeded) rfl]
    rfl

/-- How far a run without work is at a stage of its only round. -/
def Stage.Idle (p : Progress) : Stage → Prop
  | .opening => p.rounds = 0 ∧ ∀ id g, p.generators.find? id = some g → g = {}
  | .asking ids _ => p.rounds = 0 ∧
      ∀ id g, p.generators.find? id = some g → g.entry.phase = .passed ∨ id ∈ ids ∧ g = {}
  | .working flights _ canceled =>
      p.rounds = 0 ∧ flights = [] ∧ canceled = false ∧ p.AllPassed
  | .closing settled _ => p.rounds = 0 ∧ settled = [] ∧ p.AllPassed
  | .over canceled => canceled = false ∧ p.rounds = 1 ∧ p.AllPassed

namespace Moment

/-- What holds of a run over migrations of which nothing is left. -/
structure Idle (deadline : Option Nat) (generators : List Generator) (m : Moment) : Prop where
  world : m.state.world.Faultless deadline
  none_left : ∀ g ∈ generators, ∀ d ∈ m.state.world.store.documents g.migration.namesp,
    g.migration.selector.accepts d = .ok false
  sources : m.state.generators = IdMap.ofList (generators.map fun g => (g.id, g))
  migrations : ∀ id, m.state.progress.generators.contains id = true ↔
    id ∈ generators.map Generator.id
  children : m.state.progress.children = IdMap.empty
  stage : m.stage.Idle m.state.progress

variable {env : Environment} {deadline : Option Nat} {generators : List Generator} {m : Moment}
  {s : RunState}

namespace Idle

/-- No task is at work. -/
theorem grounded (h : m.Idle deadline generators) : m.stage.flights = [] := by
  have reach := h.stage
  obtain ⟨stage, s⟩ := m
  match stage, reach with
  | .working _ _ _, ⟨_, nobody, _⟩ => exact nobody
  | .opening, _ | .asking _ _, _ | .closing _ _, _ | .over _, _ => rfl

/-- No operation is called. -/
theorem not_calls (h : m.Idle deadline generators) (options : RunOptions) (t : Task) :
    ¬m.Calls env options t := fun calls => by
  obtain ⟨f, mem, -⟩ := calls.flight
  rw [h.grounded] at mem
  cases mem

/-- A migration that is asked is told that it has nothing to do, unless the run is
stopped. -/
theorem asked (h : m.Idle deadline generators) (env : Environment) {id : Identifier}
    (migration : m.state.progress.generators.contains id = true) :
    ∃ g ∈ generators, m.state.generators.find? id = some g ∧
      ((((g.oracle.state env.metadata m.state.world).2 = none ∨
          (g.oracle.state env.metadata m.state.world).2 = some .unresolved) ∧
          (g.oracle.state env.metadata m.state.world).1.Stopped deadline) ∨
        (g.oracle.state env.metadata m.state.world).2 = some .passed ∧
          (g.oracle.state env.metadata m.state.world).1.Faultless deadline) := by
  have given := (h.migrations id).1 migration
  have known := (IdMap.contains_ofList generators Generator.id (fun g => g) id).2 given
  obtain ⟨g, found⟩ := IdMap.find?_of_contains known
  obtain ⟨g', given, -, rfl⟩ := IdMap.find?_ofList generators Generator.id (fun g => g) found
  exact ⟨g', given, h.sources ▸ found, h.world.state env.metadata (h.none_left g' given)⟩

/-- No task is made. -/
theorem scanning_eq_nil (h : m.Idle deadline generators) (todo : m.stage.Sound m.state) :
    m.scanning env = [] := by
  refine List.eq_nil_iff_forall_not_mem.2 fun t mem => ?_
  obtain ⟨id, ids, progressed, g, w, stage, source, ready, -⟩ := scanning_cases mem
  rw [stage] at todo
  obtain ⟨e, found, -⟩ := todo.2 id List.mem_cons_self
  obtain ⟨g', -, source', answer⟩ := h.asked env (IdMap.contains_of_find? found)
  cases source.symm.trans source'
  rw [ready] at answer
  rcases answer with ⟨none | unresolved, -⟩ | ⟨passed, -⟩
  · cases none
  · cases unresolved
  · cases passed

/-- No document is touched. -/
theorem none_left_next (h : m.Idle deadline generators) (env : Environment)
    (options : RunOptions) : ∀ g ∈ generators,
    ∀ d ∈ (m.next env options).state.world.store.documents g.migration.namesp,
      g.migration.selector.accepts d = .ok false := by
  rcases next_frame World.documents_frame (fun _ _ _ => rfl) options m with same | ⟨f, mem, -⟩
  · rw [same]
    exact h.none_left
  · rw [h.grounded] at mem
    cases mem

/-- A migration that is asked passes, unless the run is stopped. -/
theorem asking {id : Identifier} {ids : List Identifier} {progressed : Bool}
    (h : Idle deadline generators ⟨.asking (id :: ids) progressed, s⟩)
    (todo : Stage.Sound s (.asking (id :: ids) progressed)) (options : RunOptions) :
    (next env options ⟨.asking (id :: ids) progressed, s⟩).state.world.Stopped deadline ∨
      (next env options ⟨.asking (id :: ids) progressed, s⟩).Idle deadline generators := by
  obtain ⟨e, found, pending⟩ := todo.2 id List.mem_cons_self
  obtain ⟨rounds, each⟩ := h.stage
  have bare : e = {} := by
    rcases each id e found with passed | ⟨-, bare⟩
    · cases pending.symm.trans passed
    · exact bare
  obtain ⟨g, given, source, answer⟩ := h.asked env (IdMap.contains_of_find? found)
  have none_left := h.none_left_next env options
  have passes {world : World} (faultless : world.Faultless deadline)
      (none_left : ∀ g ∈ generators, ∀ d ∈ world.store.documents g.migration.namesp,
        g.migration.selector.accepts d = .ok false) (progressed : Bool) :
      Idle deadline generators ⟨.asking ids progressed,
        { s with world, progress := s.progress.generatorPassed id [] }⟩ := by
    refine ⟨faultless, none_left, h.sources, fun id' => ?_, h.children, rounds,
      fun id' g' found' => ?_⟩
    · rw [← h.migrations id']
      exact Eq.congr_left (IdMap.contains_adjust _ _ _ _)
    · rw [Progress.generatorPassed, IdMap.find?_adjust] at found'
      split at found'
      · rename_i same
        rw [same, found, bare] at found'
        cases found'
        exact Or.inl rfl
      · rename_i other
        refine (each id' g' found').imp_right fun ⟨mem, bare⟩ => ⟨?_, bare⟩
        exact (List.mem_cons.1 mem).resolve_left other
  rw [next, RunState.advance, source] at none_left ⊢
  dsimp only at answer none_left ⊢
  generalize g.oracle.state env.metadata s.world = r at *
  obtain ⟨world, a⟩ := r
  rcases answer with ⟨told | told, stopped⟩ | ⟨told, faultless⟩
  · cases told
    exact Or.inl stopped
  · cases told
    exact Or.inl stopped
  cases told
  have saved := faultless.saveRecord env.metadata id id false
  dsimp only at none_left ⊢ saved
  generalize world.saveRecord env.metadata id id false = q at *
  obtain ⟨world', b⟩ := q
  rcases saved with stopped | ⟨told, faultless⟩
  · cases b <;> exact Or.inl stopped
  cases told
  exact Or.inr (passes faultless none_left _)

/-- After a step of a run without work there is none either, unless the run is stopped. -/
theorem next (h : m.Idle deadline generators) (todo : m.stage.Sound m.state)
    (options : RunOptions) : (m.next env options).state.world.Stopped deadline ∨
      (m.next env options).Idle deadline generators := by
  have none_left := h.none_left_next env options
  have reach := h.stage
  obtain ⟨stage, s⟩ := m
  match stage, reach with
  | .opening, ⟨rounds, bare⟩ =>
    rw [Moment.next] at none_left ⊢
    split
    · rename_i canceled
      exact Or.inl (Or.inl canceled)
    · rename_i going
      rw [if_neg going] at none_left
      refine Or.inr ⟨h.world.yield, none_left, h.sources, h.migrations, h.children, rounds,
        fun id g found => Or.inr ⟨?_, bare id g found⟩⟩
      exact Progress.mem_pendingGenerators found (by rw [bare id g found])
  | .asking [] progressed, ⟨rounds, each⟩ =>
    refine Or.inr ⟨h.world, h.none_left, h.sources, h.migrations, h.children, rounds, ?_, rfl,
      fun id g found => (each id g found).resolve_right fun waits => by cases waits.1⟩
    show s.flights = []
    have none : s.progress.children = IdMap.empty := h.children
    rw [RunState.flights, Progress.pendingChildren, none]
    rfl
  | .asking (id :: ids) progressed, _ => exact h.asking todo options
  | .working [] progressed canceled, ⟨rounds, _, going, passed⟩ =>
    obtain rfl : canceled = false := going
    refine Or.inr ⟨h.world, h.none_left, h.sources, h.migrations, h.children, rounds, ?_, passed⟩
    refine List.eq_nil_iff_forall_not_mem.2 fun x mem => ?_
    obtain ⟨g, found, settled, -⟩ := RunState.settledGenerators_flag mem
    cases (passed x.1 g found).symm.trans (Progress.isSettled_iff.1 settled).1
  | .working (f :: fs) progressed canceled, ⟨_, impossible, _⟩ => cases impossible
  | .closing [] progressed, ⟨rounds, _, passed⟩ =>
    have finished := passed.isFinished h.children
    rw [Moment.next, RunState.conclude, if_pos finished]
    exact Or.inr ⟨h.world, h.none_left, h.sources, h.migrations, h.children, rfl,
      congrArg (· + 1) rounds, passed⟩
  | .closing (x :: settled) progressed, ⟨_, impossible, _⟩ => cases impossible
  | .over canceled, _ => exact Or.inr h

end Idle

end Moment

namespace World

variable {env env' : Environment} {options options' : RunOptions} {generators : List Generator}

/-- A run over migrations of which nothing is left has no work at any moment, if it is never
stopped. -/
theorem moment_idle {deadline : Option Nat} {w : World} (faultless : w.Faultless deadline)
    (none_left : ∀ g ∈ generators, ∀ d ∈ w.store.documents g.migration.namesp,
      g.migration.selector.accepts d = .ok false)
    (going : ∀ n, ¬(w.moment env options generators n).state.world.Stopped deadline) (n : Nat) :
    (w.moment env options generators n).Idle deadline generators := by
  induction n with
  | zero =>
    refine ⟨faultless, none_left, rfl, Progress.start_contains _ _, rfl, rfl, fun id g found => ?_⟩
    obtain ⟨_, _, _, rfl⟩ := IdMap.find?_ofList (generators.map Generator.id) (fun id => id)
      (fun _ => ({} : GeneratorEntry)) found
    rfl
  | succ n ih =>
    exact (ih.next (w.moment_stage options n) options).resolve_left (going (n + 1))

/-- A run over migrations of which nothing is left calls no operation and makes no task, and it
ends with its first round, if it is never stopped. -/
theorem nothing_done {deadline : Option Nat} {w w₀ : World} (faultless : w.Faultless deadline)
    (none_left : ∀ g ∈ generators, ∀ d ∈ w.store.documents g.migration.namesp,
      g.migration.selector.accepts d = .ok false)
    (prepared : w.prepare env options generators = (w₀, .ok ()))
    (going : ∀ n, ¬(w₀.moment env options generators n).state.world.Stopped deadline) :
    (∀ n, (∀ t, ¬(w₀.moment env options generators n).Calls env options t) ∧
      (w₀.moment env options generators n).scanning env = []) ∧
    ∃ w' report, w.run env options generators = (w', .ok report) ∧
      report.NothingDone (generators.map Generator.id) := by
  obtain ⟨graph, journal, rfl⟩ := prepare_frame prepared
  have ready : ({ w with graph, journal } : World).Faultless deadline := faultless.of_eq rfl rfl rfl
  have idle := moment_idle ready none_left going
  refine ⟨fun n => ⟨(idle n).not_calls options,
    (idle n).scanning_eq_nil (moment_stage _ options n)⟩, ?_⟩
  obtain ⟨n, canceled, s, ended, run⟩ := run_eq_moment prepared
  have at_end := idle n
  rw [ended] at at_end
  obtain ⟨rfl, rounds, passed⟩ := at_end.stage
  exact ⟨_, _, run, passed.nothingDone at_end.children rounds at_end.migrations⟩

/-- Running again what has succeeded does nothing. Suppose that the migrations have no limit and no
dot in their identifiers, that their selectors have an answer for every document, that no operation
of the run makes a document match that did not, and that each operation that ends well stops the
documents of its task from matching (`Moment.Clears`). If the run succeeds, a second run over the
documents that it leaves calls no operation and makes no task: it succeeds in its first round, and
its report lists each migration as passed and nothing else. The second run passes its preparation,
no fault is set for it, and it is neither cancelled nor stopped by its deadline. -/
theorem rerun_passes {deadline : Option Nat} {w w₀ w₁ w₂ w₃ : World} {report : Report}
    (fresh : ∀ g ∈ generators, ∃ m, g = Generator.new m) (plain : ∀ g ∈ generators, Plain g.id)
    (unlimited : ∀ g ∈ generators, g.migration.limit = none)
    (total : ∀ g ∈ generators, g.migration.selector.Total)
    (prepared : w.prepare env options generators = (w₀, .ok ()))
    (clears : ∀ n, (w₀.moment env options generators n).Clears env options generators)
    (run : w.run env options generators = (w₁, .ok report))
    (succeeded : report.outcome = .succeeded)
    (kept : ∀ g ∈ generators,
      w₂.store.documents g.migration.namesp = w₁.store.documents g.migration.namesp)
    (faultless : w₂.Faultless deadline)
    (prepared' : w₂.prepare env' options' generators = (w₃, .ok ()))
    (going : ∀ n, ¬(w₃.moment env' options' generators n).state.world.Stopped deadline) :
    (∀ n, (∀ t, ¬(w₃.moment env' options' generators n).Calls env' options' t) ∧
      (w₃.moment env' options' generators n).scanning env' = []) ∧
    ∃ w' report', w₂.run env' options' generators = (w', .ok report') ∧
      report'.NothingDone (generators.map Generator.id) := by
  have drained : ∀ g ∈ generators, g.buffered = [] := by
    intro g given
    obtain ⟨m, rfl⟩ := fresh g given
    rfl
  refine nothing_done faultless (fun g given d mem => ?_) prepared' going
  obtain ⟨hit, answer⟩ := total g given d
  cases hit with
  | false => exact answer
  | true =>
    refine absurd ⟨d, ?_, answer, rfl⟩ (nothing_left_of_succeeded drained (.of_plain plain)
      unlimited prepared clears run succeeded given (Document.id d))
    rwa [← kept g given]

end World

/-! ## Two migrations of the same documents -/

namespace Sample

/-- The documents without a mark. -/
def unmarked : Selector := ⟨[("done", .null)]⟩

/-- Two migrations mark the orders that have no mark. -/
def rivals : List Generator :=
  [.new ⟨"v", ⟨"db", "orders"⟩, unmarked, "mark", none, none, []⟩,
    .new ⟨"u", ⟨"db", "orders"⟩, unmarked, "mark", none, none, []⟩]

/-- Two orders; the tasks for the first one take turns. -/
def contested : World := { twoOrders with turns := [0, 2, 0, 2, 0, 2] }

/-- The world once the run over the orders is prepared. -/
def rivalsReady : World := (contested.prepare env {} rivals).1

theorem rivals_prepared : contested.prepare env {} rivals = (rivalsReady, .ok ()) :=
  Prod.ext rfl (by decide +kernel)

theorem rivals_stage : (rivalsReady.moment env {} rivals 33).stage = .over false := by
  decide +kernel

/-- The world over a store at another time, without faults. -/
def later (s : Store) : World :=
  { World.initial with store := { s with faults := {} }, clock := 1000 }

theorem later_documents (s : Store) (ns : Namespace) :
    (later s).store.documents ns = s.documents ns :=
  rfl

theorem later_faultless (s : Store) : (later s).Faultless none :=
  ⟨⟨0, rfl⟩, fun _ mem => absurd mem List.not_mem_nil, rfl⟩

/-- What the run over the orders has left behind, at another time. -/
def afterRivals : World := later (rivalsReady.moment env {} rivals 33).state.world.store

/-- The world once the second run is prepared. -/
def rivalsAgain : World := (afterRivals.prepare env {} rivals).1

theorem rivals_prepared_again : afterRivals.prepare env {} rivals = (rivalsAgain, .ok ()) :=
  Prod.ext rfl (by decide +kernel)

theorem rivals_stage_again : (rivalsAgain.moment env {} rivals 6).stage = .over false := by
  decide +kernel

theorem unmarked_wellFormed : Selector.WellFormed unmarked.entries :=
  .intro (List.forall_mem_singleton.2 (.field (by decide) (Condition.fits_of_value rfl)))

theorem selector_of_rivals {g : Generator} (given : g ∈ rivals) :
    g.migration.selector = unmarked := by
  simp only [rivals, List.mem_cons, List.not_mem_nil, or_false] at given
  rcases given with rfl | rfl <;> rfl

/-- A document that gets a mark is not without one. -/
theorem unmarked_accepts_marked (d : Document) :
    unmarked.accepts (Keyed.insert "done" (.bool true) d) = .ok false := by
  have parts : pathParts "done" = ["done"] := by decide
  have field : Document.lookup (Keyed.insert "done" (.bool true) d) "done" = some (.bool true) := by
    rw [Document.lookup, parts, Value.descend, Keyed.find?_insert_self]
    rfl
  have entry : Selector.meetsEntry (Keyed.insert "done" (.bool true) d) "done" .null =
      .ok false := by
    rw [Selector.meetsEntry, if_neg (by decide), if_neg (by decide), field]
    · rfl
    · exact fun _ e => by cases e
  rw [Selector.accepts, unmarked, Selector.meetsEntries, entry]

/-- Marking leaves no more documents without a mark. -/
theorem left_of_mark {t : Task} {s : Store} {ns : Namespace} {d : Value}
    (h : (s.setField t.namesp t.documentId "done" (.bool true)).1.Left ns unmarked d) :
    s.Left ns unmarked d := by
  obtain ⟨doc, mem, hit, same⟩ := h
  refine ⟨doc, ?_, hit, same⟩
  unfold Store.setField at mem
  split at mem
  · rename_i docs changed
    by_cases here : ns = t.namesp
    · subst here
      rw [Store.documents, Store.setDocuments, PerNamespace.get_set_self] at mem
      refine (Store.mem_of_changeFirst changed mem).resolve_right ?_
      rintro ⟨d', rfl⟩
      cases hit.symm.trans (unmarked_accepts_marked d')
    · rwa [Store.documents, Store.setDocuments, PerNamespace.get_set_of_ne _ here] at mem
  · exact mem

theorem mark_obeys : env.registry.Obeys
    (fun _ a b => ∀ ns d, b.store.Left ns unmarked d → a.store.Left ns unmarked d)
    fun _ _ => True := by
  intro name op known t
  rw [get_eq_mark known]
  exact fun scene => ⟨fun ns d => left_of_mark, trivial⟩

/-- Two different integers. -/
def differ : Value → Value → Bool
  | .int a, .int b => a != b
  | _, _ => false

theorem ne_of_differ {v v' : Value} (h : differ v v' = true) : v ≠ v' := by
  rintro rfl
  cases v <;> simp [differ] at h

/-- If the operation of a task has come to its end, the document of the task is no longer left. -/
def leavesNothing (s : Store) : Flight → Bool
  | ⟨t, .applying (.done _)⟩ => (s.documents t.namesp).all fun d =>
    (t.oracle.selector.accepts d).toOption != some true || differ (Document.id d) t.documentId
  | _ => true

/-- The operations of the run leave nothing new, and each clears the order of its task. -/
theorem rivals_clear (n : Nat) : (rivalsReady.moment env {} rivals n).Clears env {} rivals := by
  refine ⟨fun part ⟨⟨f, mem, rest, at_work⟩, done⟩ g given d left => ?_, fun t well left => ?_⟩
  · have obeys := World.moment_obeys mark_obeys rivalsReady {} n f mem
    rw [at_work] at obeys
    rw [Moment.Left, done, selector_of_rivals given] at left
    rw [Moment.Left, selector_of_rivals given, ← Store.left_congr
      ((World.documents_frame.yield _).trans (World.documents_frame.turn _))]
    exact (obeys (World.scene _)).1 _ d left
  · rcases Nat.lt_or_ge n 33 with before | after
    · have clear : ∀ n < 33, (rivalsReady.moment env {} rivals n).stage.flights.all
          (leavesNothing (rivalsReady.moment env {} rivals n).state.world.store) = true := by
        decide +kernel
      have all := List.all_eq_true.1 (clear n before) _ well
      obtain ⟨d, mem, hit, same⟩ := left
      have either := List.all_eq_true.1 all d mem
      rw [hit, Bool.or_eq_true] at either
      rcases either with miss | other
      · cases miss
      · exact ne_of_differ other same
    · rw [World.moment_over (World.moment_of_stage rivals_stage) after] at well
      cases well

/-- The second run is never stopped. -/
theorem rivals_go_on (n : Nat) :
    ¬(rivalsAgain.moment env {} rivals n).state.world.Stopped none := by
  have before : ∀ n ≤ 6, (rivalsAgain.moment env {} rivals n).state.world.isCanceled = false := by
    decide +kernel
  rintro (canceled | late)
  · rcases Nat.le_total n 6 with early | after
    · cases canceled.symm.trans (before n early)
    · rw [World.moment_over (World.moment_of_stage rivals_stage_again) after] at canceled
      dsimp only at canceled
      cases canceled.symm.trans (before 6 (Nat.le_refl 6))
  · cases late

end Sample

/-- The tasks of the two migrations for the first order are at work at once, and the task of one for
the second order finds that of the other one has marked it. When the two migrations are run again,
they pass at once. -/
theorem World.rivals_pass_again :
    (∀ n, (∀ t, ¬(Sample.rivalsAgain.moment Sample.env {} Sample.rivals n).Calls Sample.env {} t) ∧
      (Sample.rivalsAgain.moment Sample.env {} Sample.rivals n).scanning Sample.env = []) ∧
    ∃ w report, Sample.afterRivals.run Sample.env {} Sample.rivals = (w, .ok report) ∧
      report.NothingDone ["v", "u"] ∧ report.passed = ["u", "v"] := by
  have fresh : ∀ g ∈ Sample.rivals, ∃ m, g = Generator.new m := by
    intro g given
    simp only [Sample.rivals, List.mem_cons, List.not_mem_nil, or_false] at given
    rcases given with rfl | rfl <;> exact ⟨_, rfl⟩
  have total : ∀ g ∈ Sample.rivals, g.migration.selector.Total := by
    intro g given
    rw [Sample.selector_of_rivals given]
    exact Sample.unmarked_wellFormed.total
  have first := run_of_over Sample.rivals_prepared (moment_of_stage Sample.rivals_stage)
  obtain ⟨idle, w, report, run, nothing⟩ := rerun_passes fresh (by decide) (by decide) total
    Sample.rivals_prepared Sample.rivals_clear first (by decide +kernel)
    (fun _ _ => Sample.later_documents _ _) (Sample.later_faultless _) Sample.rivals_prepared_again
    Sample.rivals_go_on
  have second := run_of_over Sample.rivals_prepared_again
    (moment_of_stage Sample.rivals_stage_again)
  obtain ⟨-, same⟩ := Prod.mk.inj (run.symm.trans second)
  refine ⟨idle, w, report, run, nothing, ?_⟩
  rw [Except.ok.inj same]
  decide +kernel

end GatedMigration
