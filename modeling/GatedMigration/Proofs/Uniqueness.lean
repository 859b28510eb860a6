import GatedMigration.Proofs.Calls
import GatedMigration.Proofs.Change
import GatedMigration.Proofs.Decision
import GatedMigration.Proofs.Preparation

/-!
# No task is lost

If the generators of a run are fresh, and no identifier of a migration stands under another one
(`Under`), all tasks that are handed over in the run have different identifiers, and none is that
of a migration (`Moment.Orderly`). So no task takes the place of another one, and each task of a
migration that has succeeded has passed or had its own operation called for it
(`World.tasks_unique`).

Nothing else keeps identifiers apart: two migrations of which one stands under the other one may
both hand over a task with the same identifier, and then one of the two documents is passed over
without an error (`World.document_passed_over`).
-/

namespace GatedMigration

/-! ## Generators without tasks of their own -/

namespace RunState

variable {env : Environment} {s : RunState} {id : Identifier}

/-- No generator keeps a task that is not handed over. -/
def Drained (s : RunState) : Prop :=
  ∀ {id : Identifier} {g : Generator}, s.generators.find? id = some g → g.buffered = []

theorem Drained.of_eq {s' : RunState} (h : s.Drained) (same : s'.generators = s.generators) :
    s'.Drained :=
  fun found => h (same ▸ found)

theorem Drained.advance (h : s.Drained) (going : (s.advance env id).2 ≠ .canceled) :
    (s.advance env id).1.Drained := by
  unfold RunState.advance at going ⊢
  split
  · exact h
  rename_i g source
  rw [source] at going
  dsimp only at going
  generalize g.oracle.state env.metadata s.world = p at *
  obtain ⟨world, _ | _ | _ | _ | _⟩ := p
  · exact h.of_eq rfl
  · exact h.of_eq rfl
  · dsimp only
    split <;> exact h.of_eq rfl
  · dsimp only at going ⊢
    generalize g.run env world = r at *
    split
    · exact absurd rfl going
    · rename_i world' g' result _
      intro id' g'' found
      by_cases e : id' = id
      · rw [e] at found
        cases (IdMap.find?_insert_self _ _ _).symm.trans found
        rfl
      · exact h ((IdMap.find?_insert_of_ne _ e _).symm.trans found)
  · exact h.of_eq rfl

end RunState

namespace Moment

variable {env : Environment} {generators : List Generator} {m : Moment} {handed : List Task}

/-- What a scan has produced is handed over at once, unless the run is over. -/
def Drained (m : Moment) : Prop := (∃ canceled, m.stage = .over canceled) ∨ m.state.Drained

theorem Drained.next (h : m.Drained) (options : RunOptions) : (m.next env options).Drained := by
  rcases h with ⟨canceled, ended⟩ | h
  · obtain ⟨_, s⟩ := m
    obtain rfl := ended
    exact Or.inl ⟨canceled, rfl⟩
  cases m.next_transition env options with
  | asks id _ _ _ state canceled =>
    by_cases ended : (m.state.advance env id).2 = .canceled
    · exact Or.inl ⟨true, canceled ended⟩
    · exact Or.inr (state ▸ h.advance ended)
  | starts _ _ next =>
    rw [next]
    exact Or.inr h
  | works _ _ _ _ _ r works next =>
    rw [next]
    refine Or.inr ?_
    cases works <;> exact h.of_eq rfl
  | closes id hasErrors _ _ _ state =>
    exact Or.inr (state ▸ h.of_eq (RunState.close_generators env id hasErrors m.state))
  | waits _ _ _ _ state => exact Or.inr (state ▸ h.of_eq rfl)

theorem Drained.handing (h : m.Drained) {id : Identifier} {g : Generator} {tasks : List Task}
    (source : m.state.generators.find? id = some g)
    (scanned : m.handing env = g.buffered ++ tasks) : m.handing env = tasks := by
  rcases h with ⟨canceled, ended⟩ | drained
  · have none : m.handing env = [] := by
      unfold Moment.handing
      rw [ended]
    rw [none, (List.append_eq_nil_iff.1 (scanned.symm.trans none)).2]
  · rw [scanned, drained source, List.nil_append]

/-! ## The tasks that have been handed over -/

/-- What holds of a run over some generators once these tasks have been handed over. -/
structure Orderly (generators : List Generator) (handed : List Task) (m : Moment) : Prop where
  lawful : m.state.progress.Lawful
  stage : m.stage.Sound m.state
  migrations : ∀ id, m.state.progress.generators.contains id = true ↔
    id ∈ generators.map Generator.id
  sources : ∀ {id g}, m.state.generators.find? id = some g →
    ∃ g₀ ∈ generators, g₀.id = id ∧ g.migration = g₀.migration
  drained : m.Drained
  /-- Each task is one of a migration that is no longer pending. -/
  own : ∀ t ∈ handed, (∃ g ∈ generators, ∃ d n, t = g.task d n) ∧
    ∃ st, m.state.progress.standing? t.migration = some st ∧ st.phase ≠ .pending ∧ t.id ∈ st.tasks
  distinct : (handed.map Task.id).Nodup
  /-- The tasks are known under their own identifiers, and no others are known. -/
  tasks : ∀ {id t}, m.state.tasks.find? id = some t ↔ t ∈ handed ∧ t.id = id

namespace Orderly

variable (h : m.Orderly generators handed)

include h

/-- The tasks of a scan are those of the migration that the generator is at work on. -/
theorem scan_own {id : Identifier} {g : Generator} (source : m.state.generators.find? id = some g)
    {w : World} {t : Task} (mem : t ∈ (g.scan env w).2.1) :
    t.migration = id ∧ ∃ g₀ ∈ generators, ∃ d n, t = g₀.task d n := by
  obtain ⟨d, n, rfl⟩ := g.scan_tasks env w t mem
  obtain ⟨g₀, given, rfl, same⟩ := h.sources source
  exact ⟨congrArg Migration.id same, g₀, given, d, n, by rw [Generator.task_congr same]⟩

/-- A migration is pending when its tasks are scanned. -/
theorem scanning {t : Task} (mem : t ∈ m.scanning env) :
    (∃ g ∈ generators, ∃ d n, t = g.task d n) ∧
      ∃ st, m.state.progress.standing? t.migration = some st ∧ st.phase = .pending := by
  obtain ⟨id, ids, progressed, g, w, stage, source, -, scanned⟩ := scanning_cases mem
  obtain ⟨rfl, own⟩ := h.scan_own source scanned
  obtain ⟨-, todo⟩ : Stage.Sound m.state (.asking (t.migration :: ids) progressed) :=
    stage ▸ h.stage
  obtain ⟨e, found, pending⟩ := todo _ List.mem_cons_self
  exact ⟨own, _, Progress.standing?_of_generator found, pending⟩

/-- A task that is handed over belongs to a migration that was pending before and no longer is
then. -/
theorem handing {s' : RunState} (change : Change env m s') {t : Task} (mem : t ∈ m.handing env) :
    (∃ g ∈ generators, ∃ d n, t = g.task d n) ∧
      (∃ old, m.state.progress.standing? t.migration = some old ∧ old.phase = .pending) ∧
      ∃ st, s'.progress.standing? t.migration = some st ∧ st.phase ≠ .pending ∧
        t.id ∈ st.tasks := by
  obtain ⟨id, g, w, old, st, source, scanned, before, pending, after, begun, member⟩ :=
    change.handed mem
  rw [h.drained.handing source scanned] at mem
  obtain ⟨rfl, own⟩ := h.scan_own source mem
  exact ⟨own, ⟨old, before, pending⟩, st, after, begun, member⟩

/-- The tasks that are handed over together have different identifiers. -/
theorem handing_nodup {s' : RunState} (change : Change env m s') :
    ((m.handing env).map Task.id).Nodup := by
  cases tasks : m.handing env with
  | nil => exact List.nodup_nil
  | cons t rest =>
    obtain ⟨id, g, w, _, _, source, scanned, -⟩ :=
      change.handed (tasks ▸ List.mem_cons_self : t ∈ m.handing env)
    rw [← tasks, h.drained.handing source scanned]
    exact g.scan_nodup env w

/-- A task that is handed over has an identifier that no other task has. -/
theorem handing_new (separate : Separate generators) {s' : RunState} (change : Change env m s')
    {t t' : Task} (old : t ∈ handed) (new : t' ∈ m.handing env) : t.id ≠ t'.id := by
  intro same
  obtain ⟨⟨g, given, d, n, rfl⟩, st, at_g, begun, -⟩ := h.own t old
  obtain ⟨⟨g', given', d', n', rfl⟩, ⟨st', at_g', pending⟩, -⟩ := h.handing change new
  have at_g' : m.state.progress.standing? g.id = some st' :=
    separate.migration_eq given given' same ▸ at_g'
  cases at_g.symm.trans at_g'
  exact begun pending

end Orderly

/-- What holds of a run goes on to hold after the next step. -/
theorem Orderly.next (h : m.Orderly generators handed) (separate : Separate generators)
    (options : RunOptions) :
    (m.next env options).Orderly generators (handed ++ m.handing env) := by
  have change : Change env m (m.next env options).state :=
    next_change h.lawful h.stage options
  have distinct : ((handed ++ m.handing env).map Task.id).Nodup := by
    rw [List.map_append, List.nodup_append]
    refine ⟨h.distinct, h.handing_nodup change, ?_⟩
    refine List.forall_mem_map.2 fun t old => List.forall_mem_map.2 fun t' new => ?_
    exact h.handing_new separate change old new
  refine ⟨change.lawful h.lawful fun t mem => ?_, next_stage env options h.stage,
    fun id => by rw [change.generators, h.migrations],
    (next_sources env m options).given h.sources, h.drained.next options,
    fun t mem => ?_, distinct, ?_⟩
  · obtain ⟨⟨g, given, d, n, rfl⟩, -⟩ := h.handing change mem
    rw [← Bool.not_eq_true, h.migrations]
    exact separate.task_ne given d n
  · rcases List.mem_append.1 mem with old | mem
    · obtain ⟨own, st, at_g, begun, member⟩ := h.own t old
      obtain ⟨st', after, begun', same⟩ := change.begun at_g begun
      exact ⟨own, st', after, begun', same ▸ member⟩
    · obtain ⟨own, -, after⟩ := h.handing change mem
      exact ⟨own, after⟩
  · rw [change.tasks]
    exact IdMap.find?_foldl_insert_iff distinct h.tasks

end Moment

/-! ## All moments -/

namespace World

variable {env : Environment} {options : RunOptions} {generators : List Generator}

/-- The tasks that have been handed over before a moment of a run, in that order. -/
def handedOver (w : World) (env : Environment) (options : RunOptions)
    (generators : List Generator) : Nat → List Task
  | 0 => []
  | n + 1 => handedOver w env options generators n ++
      (w.moment env options generators n).handing env

theorem moment_orderly (w : World) (fresh : ∀ g ∈ generators, g.buffered = [])
    (separate : Separate generators) (n : Nat) :
    (w.moment env options generators n).Orderly generators
      (w.handedOver env options generators n) := by
  induction n with
  | zero =>
    refine ⟨Progress.start_lawful _ _, trivial, Progress.start_contains _ _, fun found => ?_,
      Or.inr fun found => ?_, fun t mem => absurd mem List.not_mem_nil, List.nodup_nil, ?_⟩
    · obtain ⟨given, named⟩ := RunState.start_given w options found
      exact ⟨_, given, named, rfl⟩
    · exact fresh _ (RunState.start_given w options found).1
    · intro id t
      exact ⟨fun found => (by cases found), fun h => absurd h.1 List.not_mem_nil⟩
  | succ n ih => exact ih.next separate options

theorem handedOver_mono (w : World) {n k : Nat} (later : n ≤ k) {t : Task}
    (mem : t ∈ w.handedOver env options generators n) :
    t ∈ w.handedOver env options generators k := by
  induction later with
  | refl => exact mem
  | step _ ih => exact List.mem_append_left _ ih

section

variable (fresh : ∀ g ∈ generators, g.buffered = []) (separate : Separate generators)

include fresh separate

/-- What a scan produces is handed over, if the migration goes on to begin its tasks. -/
theorem handedOver_of_scanning (w : World) {k n : Nat} (later : k < n) {t : Task}
    (mem : t ∈ (w.moment env options generators k).scanning env) {st : Standing}
    (at_g : (w.moment env options generators n).state.progress.standing? t.migration = some st)
    (begun : st.phase ≠ .pending) : t ∈ w.handedOver env options generators n := by
  have orderly : (w.moment env options generators k).Orderly generators _ :=
    w.moment_orderly fresh separate k
  have scanned : t ∈ (w.moment env options generators k).handing env ∨
      (w.moment env options generators (k + 1)).stage = .over true ∧
        (w.moment env options generators (k + 1)).state.progress =
          (w.moment env options generators k).state.progress :=
    Moment.handing_of_scanning mem options
  rcases scanned with handed | ⟨ended, same⟩
  · exact w.handedOver_mono later (List.mem_append_right _ handed)
  · -- The run is over with the scan, and the migration stays pending.
    obtain ⟨-, st', at_g', pending⟩ := orderly.scanning mem
    rw [moment_over (moment_of_stage ended) later] at at_g
    rw [← same] at at_g'
    cases at_g.symm.trans at_g'
    exact absurd pending begun

/-- A task that has succeeded at some moment has had its operation called before. -/
theorem called_of_succeeded (w : World) (n : Nat) {id : Identifier}
    (task : id ∉ generators.map Generator.id) {st : Standing}
    (at_id : (w.moment env options generators n).state.progress.standing? id = some st)
    (succeeded : st.phase = .succeeded) :
    ∃ k < n, ∃ t, (w.moment env options generators k).Calls env options t ∧
      t ∈ w.handedOver env options generators n ∧ t.id = id := by
  induction n with
  | zero =>
    cases (congrArg Standing.phase (Progress.start_standing at_id)).symm.trans succeeded
  | succ n ih =>
    have orderly : (w.moment env options generators n).Orderly generators _ :=
      w.moment_orderly fresh separate n
    have change : Moment.Change env _ (w.moment env options generators (n + 1)).state :=
      Moment.next_change orderly.lawful orderly.stage options
    have other : (w.moment env options generators n).state.progress.generators.contains id =
        false := by rw [← Bool.not_eq_true, orderly.migrations]; exact task
    have clean : st.phase.isClean = true := by rw [succeeded]; rfl
    rcases change.finished other at_id clean with before | ⟨f, mem, rfl, ending, q, writing, how⟩
    · obtain ⟨k, earlier, t, calls, handed, named⟩ := ih before
      have still := w.handedOver_mono (Nat.le_succ n) handed
      exact ⟨k, Nat.lt_succ_of_lt earlier, t, calls, still, named⟩
    · obtain rfl : ending = .executed none := by
        obtain ⟨errors, phase⟩ := how
        rw [succeeded] at phase
        obtain _ | _ | text := ending
        · cases phase
        · rfl
        · cases errors
      have called := w.moment_called env options generators n f mem
      rw [writing] at called
      obtain ⟨k, earlier, calls⟩ := called
      have known := orderly.tasks.1 (orderly.stage.expects.known f mem)
      exact ⟨k, Nat.lt_succ_of_lt earlier, f.task, calls,
        w.handedOver_mono (Nat.le_succ n) known.1, rfl⟩

/-- Each task that a scan has produced for a migration has passed or had its operation called, once
the migration has succeeded. -/
theorem finished_of_scanning (w : World) {k n : Nat} (later : k < n) {t : Task}
    (mem : t ∈ (w.moment env options generators k).scanning env) {st : Standing}
    (at_g : (w.moment env options generators n).state.progress.standing? t.migration = some st)
    (succeeded : st.phase = .succeeded) :
    (w.moment env options generators n).state.progress.phase? t.id = some .passed ∨
      ∃ j < n, (w.moment env options generators j).Calls env options t := by
  have orderly : (w.moment env options generators n).Orderly generators _ :=
    w.moment_orderly fresh separate n
  have handed : t ∈ w.handedOver env options generators n := by
    refine w.handedOver_of_scanning fresh separate later mem at_g fun pending => ?_
    cases succeeded.symm.trans pending
  obtain ⟨⟨g, given, d, i, rfl⟩, st', at_g', -, member⟩ := orderly.own t handed
  cases at_g.symm.trans at_g'
  obtain ⟨-, clean⟩ := orderly.lawful.clean at_g succeeded
  obtain ⟨st', at_t, is_clean⟩ := clean _ member
  cases phase : st'.phase with
  | passed =>
    refine Or.inl ?_
    rw [Progress.phase?_eq_standing?, at_t, Option.map_some, phase]
  | succeeded =>
    obtain ⟨j, before, t', calls, handed', same⟩ := w.called_of_succeeded fresh separate n
      (separate.task_ne given d i) at_t phase
    -- Only one task is known under the identifier.
    have known := orderly.tasks.2 ⟨handed', same⟩
    cases known.symm.trans (orderly.tasks.2 ⟨handed, rfl⟩)
    exact Or.inr ⟨j, before, calls⟩
  | pending | running | failed =>
    rw [phase] at is_clean
    cases is_clean

end

/-- In a run over fresh generators of which none stands under another one, all tasks have different
identifiers, and none is that of a migration. So a task that is handed over is known under its
identifier for the rest of the run. If a migration is reported to have succeeded, each task of its
scan is its own, and has passed or had its operation called. -/
theorem tasks_unique {w w₀ : World}
    (prepared : w.prepare env options generators = (w₀, .ok ()))
    (fresh : ∀ g ∈ generators, g.buffered = []) (separate : Separate generators) :
    (∀ n, ((w₀.handedOver env options generators n).map Task.id).Nodup ∧
      ∀ t ∈ w₀.handedOver env options generators n, t.id ∉ generators.map Generator.id ∧
        ∀ k, n ≤ k → (w₀.moment env options generators k).state.tasks.find? t.id = some t) ∧
    ∃ n canceled s, w₀.moment env options generators n = ⟨.over canceled, s⟩ ∧
      w.run env options generators = (s.world, .ok (s.progress.report canceled)) ∧
      ∀ g ∈ generators, (s.progress.report canceled).generators.find? g.id = some .succeeded →
        ∀ k, ∀ t ∈ (w₀.moment env options generators k).scanning env, t.migration = g.id →
          (∃ d i, t = g.task d i) ∧ (s.progress.phase? t.id = some .passed ∨
            ∃ j < n, (w₀.moment env options generators j).Calls env options t) := by
  have orderly (n : Nat) : (w₀.moment env options generators n).Orderly generators
      (w₀.handedOver env options generators n) := w₀.moment_orderly fresh separate n
  refine ⟨fun n => ⟨(orderly n).distinct, fun t mem => ⟨?_, fun k later => ?_⟩⟩, ?_⟩
  · obtain ⟨⟨g, given, d, i, rfl⟩, -⟩ := (orderly n).own t mem
    exact separate.task_ne given d i
  · exact (orderly k).tasks.2 ⟨w₀.handedOver_mono later mem, rfl⟩
  obtain ⟨n, canceled, s, ended, run⟩ := run_eq_moment prepared
  refine ⟨n, canceled, s, ended, run, fun g given reported k t mem of_g => ⟨?_, ?_⟩⟩
  · obtain ⟨⟨g', given', own⟩, -⟩ := (orderly k).scanning mem
    obtain ⟨d, i, rfl⟩ := own
    obtain rfl := prepare_inj prepared given' given of_g
    exact ⟨d, i, rfl⟩
  · rw [Progress.find?_report_generators, Option.map_eq_some_iff] at reported
    obtain ⟨e, found, succeeded⟩ := reported
    have earlier : k < n := by
      by_contra later
      obtain ⟨_, _, _, _, _, stage, -⟩ := Moment.scanning_cases mem
      rw [moment_over ended (Nat.le_of_not_lt later)] at stage
      cases stage
    obtain rfl : (w₀.moment env options generators n).state = s := by rw [ended]
    exact w₀.finished_of_scanning fresh separate earlier mem
      (of_g ▸ Progress.standing?_of_generator found) succeeded

end World

/-! ## A document that is passed over -/

namespace Sample

/-- The migration `a` marks the orders. -/
def above : Generator := .new ⟨"a", ⟨"db", "orders"⟩, ⟨[]⟩, "mark", none, none, []⟩

/-- The migration `a.b` marks the invoices. -/
def below : Generator := .new ⟨"a.b", ⟨"db", "invoices"⟩, ⟨[]⟩, "mark", none, none, []⟩

/-- The documents with a mark. -/
def marked : Selector := ⟨[("done", .bool true)]⟩

/-- One order and one invoice, whose identifying values make up for the difference. -/
def lookalikes : World :=
  { World.initial with
    store := (Store.empty.insertMany ⟨"db", "orders"⟩ [[("_id", .string "b.x")]]).insertMany
      ⟨"db", "invoices"⟩ [[("_id", .string "x")]] }

/-- The world once the run over both migrations is prepared. -/
def lookalikesReady : World := (lookalikes.prepare env {} [above, below]).1

theorem lookalikes_prepared :
    lookalikes.prepare env {} [above, below] = (lookalikesReady, .ok ()) :=
  Prod.ext rfl (by decide +kernel)

theorem lookalikes_stage :
    (lookalikesReady.moment env {} [above, below] 15).stage = .over false := by decide +kernel

end Sample

namespace World

/-- Neither identifier of the two sample migrations stands under the other one: the order and the
invoice have tasks of their own, and both are marked. -/
theorem sample_tasks_unique :
    (∀ g ∈ Sample.generators, g.buffered = []) ∧ Separate Sample.generators ∧
    ((Sample.ready.handedOver Sample.env {} Sample.generators 15).map Task.id).Nodup ∧
    ∃ n canceled s, Sample.ready.moment Sample.env {} Sample.generators n =
        ⟨.over canceled, s⟩ ∧
      Sample.world.run Sample.env {} Sample.generators =
        (s.world, .ok (s.progress.report canceled)) ∧
      ∀ g ∈ Sample.generators,
        (s.progress.report canceled).generators.find? g.id = some .succeeded →
        ∀ k, ∀ t ∈ (Sample.ready.moment Sample.env {} Sample.generators k).scanning Sample.env,
          t.migration = g.id → (∃ d i, t = g.task d i) ∧
            (s.progress.phase? t.id = some .passed ∨ ∃ j < n,
              (Sample.ready.moment Sample.env {} Sample.generators j).Calls Sample.env {} t) := by
  have fresh : ∀ g ∈ Sample.generators, g.buffered = [] := by
    simp [Sample.generators, Sample.orders, Sample.invoices, Generator.new]
  have separate : Separate Sample.generators := .of_plain Sample.plain
  obtain ⟨unique, ended⟩ := tasks_unique Sample.prepared fresh separate
  exact ⟨fresh, separate, (unique 15).1, ended⟩

/-- The migration `a.b` stands under the migration `a`. Both hand over a task, under the same
identifier, and the operation is called for the invoice alone; still both migrations are reported to
have succeeded. -/
theorem document_passed_over :
    Sample.lookalikes.prepare Sample.env {} [Sample.above, Sample.below] =
      (Sample.lookalikesReady, .ok ()) ∧
    (∀ g ∈ [Sample.above, Sample.below], g.buffered = []) ∧
    ¬Separate [Sample.above, Sample.below] ∧
    ¬((Sample.lookalikesReady.handedOver Sample.env {} [Sample.above, Sample.below] 15).map
      Task.id).Nodup ∧
    ∃ w report, Sample.lookalikes.run Sample.env {} [Sample.above, Sample.below] =
        (w, .ok report) ∧
      w.calls.map Task.migration = ["a.b"] ∧
      report.outcome = .succeeded ∧ report.passed = [] ∧
      report.generators.find? "a" = some .succeeded ∧
      report.generators.find? "a.b" = some .succeeded ∧
      w.store.anyMatching ⟨"db", "orders"⟩ Sample.marked = false ∧
      w.store.anyMatching ⟨"db", "invoices"⟩ Sample.marked = true := by
  have ended := moment_of_stage Sample.lookalikes_stage
  exact ⟨Sample.lookalikes_prepared, by simp [Sample.above, Sample.below, Generator.new],
    by decide +kernel, by decide +kernel, _, _, run_of_over Sample.lookalikes_prepared ended,
    by decide +kernel, by decide +kernel, by decide +kernel, by decide +kernel, by decide +kernel,
    by decide +kernel, by decide +kernel⟩

end World

end GatedMigration
