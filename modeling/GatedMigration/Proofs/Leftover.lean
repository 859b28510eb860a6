import GatedMigration.Proofs.Order

/-!
# Records of earlier runs

A satisfied record that an earlier run has left counts as a prerequisite like any other. So a
migration `b` may run while a migration `a` that it comes after has work of its own in this run:
just when an operation of `b` is called while `a` is busy (`World.waitsFor_iff`), and then it is
the record of the earlier run that has let `b` go on.
-/

namespace GatedMigration.World

variable {env : Environment} {generators : List Generator}

/-- No operation of the migration `b` is called before all tasks that the migration `a` gets in the
run are finished. -/
def WaitsFor (w₀ : World) (env : Environment) (options : RunOptions) (generators : List Generator)
    (a b : Identifier) : Prop :=
  ∀ n t, (w₀.moment env options generators n).Calls env options t → t.migration = b →
    ∀ k c, (w₀.moment env options generators k).state.progress.Member a c →
      (w₀.moment env options generators n).state.progress.isDone c = true

/-- At a moment a migration is pending and is going to get tasks, or it is running and has a task
that is not finished. -/
def Busy (w₀ : World) (env : Environment) (options : RunOptions) (generators : List Generator)
    (n : Nat) (a : Identifier) : Prop :=
  let p := (w₀.moment env options generators n).state.progress
  (p.phase? a = some .pending ∧
    ∃ k c, (w₀.moment env options generators k).state.progress.Member a c) ∨
  p.phase? a = some .running ∧ ∃ c, p.Member a c ∧ p.isDone c = false

section

variable (plain : ∀ g ∈ generators, Plain g.id) (made : ∀ g ∈ generators, g.Made)
  (ops : env.registry.KeepsRecords env.metadata)

include plain made ops

/-- A task that is known at a moment and belongs to a migration at any moment belongs to it then. -/
theorem member_of_known (w : World) (options : RunOptions) {n k : Nat} {a c : Identifier}
    (ha : a ∈ generators.map Generator.id)
    (known : (w.moment env options generators n).state.progress.children.contains c = true)
    (member : (w.moment env options generators k).state.progress.Member a c) :
    (w.moment env options generators n).state.progress.Member a c := by
  have sound := (moment_sound plain made ops w options n).state
  obtain ⟨d, i, named⟩ := (moment_sound plain made ops w options k).state.named member
  obtain ⟨t, found⟩ := IdMap.find?_of_contains (sound.tasked known)
  obtain ⟨-, ⟨g, mem, _, _, rfl⟩, belongs⟩ := sound.tasks found
  obtain ⟨d', i', named'⟩ := sound.named belongs
  obtain ⟨g', mem', rfl⟩ := List.mem_map.1 ha
  have same : g.id = g'.id := (plain g mem).childId_inj (plain g' mem') (named'.symm.trans named)
  rw [← same]
  exact belongs

/-- If a migration is not busy, all its tasks are finished, those to come included. -/
theorem done_of_not_busy (w : World) (options : RunOptions) {n k : Nat} {a c : Identifier}
    (idle : ¬Busy w env options generators n a)
    (member : (w.moment env options generators k).state.progress.Member a c) :
    (w.moment env options generators n).state.progress.isDone c = true := by
  have sound := (moment_sound plain made ops w options n).state
  have later := moment_belongs plain made ops w options (Nat.le_max_right n k)
  have earlier := moment_belongs plain made ops w options (Nat.le_max_left n k)
  obtain ⟨migration, st, at_a, mem⟩ := later.2 member
  rw [earlier.1] at migration
  obtain ⟨g, found⟩ := IdMap.find?_of_contains migration
  have stands := Progress.standing?_of_generator found
  have phase := Progress.phase?_eq_standing? (w.moment env options generators n).state.progress a
  rw [stands] at phase
  -- A migration that is no longer pending has all its tasks.
  have has (begun : g.standing.phase ≠ .pending) : c ∈ g.standing.tasks := by
    obtain ⟨st', at_a', -, same⟩ :=
      moment_begun plain made ops w options (Nat.le_max_left n k) stands begun
    cases at_a.symm.trans at_a'
    exact same ▸ mem
  by_cases terminal : g.standing.phase.isTerminal = true
  · have begun : g.standing.phase ≠ .pending := fun pending => by
      rw [pending] at terminal
      cases terminal
    rw [sound.lawful.isDone_iff (sound.lawful.tasks stands c (has begun))]
    exact sound.lawful.finished stands terminal c (has begun)
  by_contra unfinished
  refine idle ?_
  cases at_g : g.standing.phase with
  | pending =>
    refine Or.inl ⟨?_, k, c, member⟩
    rw [phase, Option.map_some, at_g]
  | running =>
    refine Or.inr ⟨?_, c, ⟨migration, _, stands, has ?_⟩, eq_false_of_ne_true unfinished⟩
    · rw [phase, Option.map_some, at_g]
    · rw [at_g]
      exact Phase.noConfusion
  | succeeded | passed | failed =>
    rw [at_g] at terminal
    exact absurd rfl terminal

/-- If a migration is busy, one of its tasks is not finished or still to come. -/
theorem not_done_of_busy (w : World) (options : RunOptions) {n : Nat} {a : Identifier}
    (busy : Busy w env options generators n a) :
    ∃ k c, (w.moment env options generators k).state.progress.Member a c ∧
      (w.moment env options generators n).state.progress.isDone c = false := by
  rcases busy with ⟨phase, k, c, member⟩ | ⟨-, c, member, unfinished⟩
  · refine ⟨k, c, member, eq_false_of_ne_true fun done => ?_⟩
    have sound := (moment_sound plain made ops w options n).state
    have ha : a ∈ generators.map Generator.id :=
      ((moment_sound plain made ops w options k).state.migrations a).1 member.1
    have known : (w.moment env options generators n).state.progress.children.contains c = true := by
      rw [Progress.isDone, Option.any_eq_true] at done
      obtain ⟨e, found, -⟩ := done
      exact IdMap.contains_of_find? found
    obtain ⟨-, st, at_a, mem⟩ := member_of_known plain made ops w options ha known member
    rw [Progress.phase?_eq_standing?, at_a] at phase
    have none := (sound.lawful.bare at_a (Or.inl (Option.some.inj phase))).2
    rw [none] at mem
    cases mem
  · exact ⟨n, c, member, unfinished⟩

end

/-- A busy migration has the record that was stored before the run. -/
theorem record_of_busy {w w₀ : World} {options : RunOptions}
    (prepared : w.prepare env options generators = (w₀, .ok ()))
    (plain : ∀ g ∈ generators, Plain g.id) (made : ∀ g ∈ generators, g.Made)
    (ops : env.registry.KeepsRecords env.metadata) {n : Nat} {a : Identifier}
    (busy : Busy w₀ env options generators n a) :
    (w₀.moment env options generators n).state.world.store.record? env.metadata a =
      w.store.record? env.metadata a := by
  obtain ⟨rs, saves, recorded⟩ := (moment_sound plain made ops w₀ options n).state.recorded
  rw [← (prepare_saves env.metadata prepared).find?_of_notMem List.not_mem_nil]
  refine saves.find?_of_notMem fun written => ?_
  obtain ⟨r, mem, rfl⟩ := List.mem_map.1 written
  obtain ⟨-, st, at_r, terminal, -⟩ := recorded.truthful r mem
  have phase :=
    Progress.phase?_eq_standing? (w₀.moment env options generators n).state.progress r.id
  rw [at_r, Option.map_some] at phase
  rcases busy with ⟨pending, -⟩ | ⟨running, -⟩
  · rw [Option.some.inj (phase.symm.trans pending)] at terminal
    cases terminal
  · rw [Option.some.inj (phase.symm.trans running)] at terminal
    cases terminal

/-- A migration `b` waits for the tasks of a migration `a` that it comes after just if no operation
of `b` is called while `a` is busy. When one is, the record of `a` that counts as a prerequisite is
one that was stored before the run, so without such a record `b` always waits. -/
theorem waitsFor_iff {w w₀ : World} {options : RunOptions}
    (prepared : w.prepare env options generators = (w₀, .ok ()))
    (plain : ∀ g ∈ generators, Plain g.id) (made : ∀ g ∈ generators, g.Made)
    (ops : env.registry.KeepsRecords env.metadata)
    {a b : Generator} (ha : a ∈ generators) (hb : b ∈ generators)
    (edge : a.id ∈ b.migration.after) :
    (WaitsFor w₀ env options generators a.id b.id ↔
      ∀ n t, (w₀.moment env options generators n).Calls env options t →
        t.migration = b.id → ¬Busy w₀ env options generators n a.id) ∧
    (∀ n t, (w₀.moment env options generators n).Calls env options t →
      t.migration = b.id → Busy w₀ env options generators n a.id →
      ∃ r, w.store.record? env.metadata a.id = some r ∧ r.satisfied = true ∧
        (w₀.moment env options generators n).state.world.store.record? env.metadata a.id =
          some r) ∧
    (¬w.Satisfied env.metadata a.id → WaitsFor w₀ env options generators a.id b.id) := by
  have waits (idle : ∀ n t, (w₀.moment env options generators n).Calls env options t →
      t.migration = b.id → ¬Busy w₀ env options generators n a.id) :
      WaitsFor w₀ env options generators a.id b.id := fun n t calls of_b k c member =>
    done_of_not_busy plain made ops w₀ options (idle n t calls of_b) member
  have released (n : Nat) (t : Task)
      (calls : (w₀.moment env options generators n).Calls env options t)
      (of_b : t.migration = b.id) (busy : Busy w₀ env options generators n a.id) :
      ∃ r, w.store.record? env.metadata a.id = some r ∧ r.satisfied = true ∧
        (w₀.moment env options generators n).state.world.store.record? env.metadata a.id =
          some r := by
    have sound := moment_sound plain made ops w₀ options
    obtain ⟨g, mem, d, i, rfl⟩ := calls.task (sound n)
    obtain rfl : g = b := prepare_inj prepared mem hb of_b
    obtain ⟨k, before, r, stored, good⟩ := satisfied_of_calls calls (IdSet.mem_ofList.2 edge)
    rcases (sound k).finishedCleanly (List.mem_map_of_mem ha) stored good with finished | left
    · obtain ⟨ph, phase, clean⟩ := (finishedCleanly_later plain made ops before finished).phase?
      rcases busy with ⟨pending, -⟩ | ⟨running, -⟩
      · cases phase.symm.trans pending
        cases clean
      · cases phase.symm.trans running
        cases clean
    · rw [(prepare_saves _ prepared).find?_of_notMem List.not_mem_nil] at left
      exact ⟨r, left, good, (record_of_busy prepared plain made ops busy).trans left⟩
  refine ⟨⟨fun waiting n t calls of_b busy => ?_, waits⟩, released,
    fun unsatisfied => waits fun n t calls of_b busy => ?_⟩
  · obtain ⟨k, c, member, unfinished⟩ := not_done_of_busy plain made ops w₀ options busy
    rw [waiting n t calls of_b k c member] at unfinished
    cases unfinished
  · obtain ⟨r, stored, good, -⟩ := released n t calls of_b busy
    exact unsatisfied ⟨r, stored, good⟩

/-! ## A leftover record that releases work early -/

/-- The run of the two migrations over a store with a record of an earlier run for the orders. -/
def leftover : World :=
  { Sample.world with
    store := Sample.world.store.putRecord Sample.env.metadata (.finished "z" "z" false) }

/-- The world once this run is prepared. -/
def leftoverReady : World := (leftover.prepare Sample.env {} Sample.generators).1

theorem leftover_prepared :
    leftover.prepare Sample.env {} Sample.generators = (leftoverReady, .ok ()) :=
  Prod.ext rfl (by decide +kernel)

/-- The moment at which the invoice is marked: its migration and that of the orders have fanned out
in the same round, and the task of the invoice comes first. -/
def early : Moment := leftoverReady.moment Sample.env {} Sample.generators 12

theorem early_eq : leftoverReady.moment Sample.env {} Sample.generators 12 = early := rfl

theorem early_calls : ∃ t, early.Calls Sample.env {} t ∧ t.migration = "a" :=
  exists_calls 12 (by decide +kernel)

theorem early_member : early.state.progress.Member "z" "z.1.0" := by
  have known : (early.state.progress.standing? "z").map Standing.tasks = some ["z.1.0"] := by
    decide +kernel
  obtain ⟨st, at_z, tasks⟩ := Option.map_eq_some_iff.1 known
  exact ⟨by decide +kernel, st, at_z, tasks ▸ List.mem_cons_self⟩

theorem early_unfinished : early.state.progress.isDone "z.1.0" = false := by decide +kernel

/-- There is an order that is not marked, but the leftover record lets the invoice be marked before
it. -/
theorem invoices_before_orders :
    leftover.Satisfied Sample.env.metadata "z" ∧
    Store.countMatching Sample.orders.migration.selector
      (leftover.store.documents Sample.orders.migration.namesp) = .ok 1 ∧
    leftover.prepare Sample.env {} Sample.generators = (leftoverReady, .ok ()) ∧
    (∀ g ∈ Sample.generators, Plain g.id) ∧ (∀ g ∈ Sample.generators, g.Made) ∧
    Sample.env.registry.KeepsRecords Sample.env.metadata ∧
    Sample.orders ∈ Sample.generators ∧ Sample.invoices ∈ Sample.generators ∧
    Sample.orders.id ∈ Sample.invoices.migration.after ∧
    ¬WaitsFor leftoverReady Sample.env {} Sample.generators Sample.orders.id
      Sample.invoices.id := by
  refine ⟨⟨.finished "z" "z" false, by decide +kernel, rfl⟩, by rfl, leftover_prepared,
    Sample.plain, Sample.made, Sample.keepsRecords _, Sample.orders_mem, Sample.invoices_mem,
    by decide +kernel, fun waits => ?_⟩
  obtain ⟨t, calls, of_a⟩ := early_calls
  have done := waits 12 t (early_eq ▸ calls) of_a 12 "z.1.0" (early_eq ▸ early_member)
  rw [early_eq] at done
  exact Bool.noConfusion (done.symm.trans early_unfinished)

/-- What lets the invoice be marked is the record from before the run. -/
theorem invoices_released_by_leftover :
    ∃ t, early.Calls Sample.env {} t ∧
      ∃ r, leftover.store.record? Sample.env.metadata "z" = some r ∧ r.satisfied = true ∧
        early.state.world.store.record? Sample.env.metadata "z" = some r := by
  obtain ⟨t, calls, of_a⟩ := early_calls
  have busy : Busy leftoverReady Sample.env {} Sample.generators 12 "z" := by
    unfold Busy
    rw [early_eq]
    exact Or.inr ⟨by decide +kernel, "z.1.0", early_member, early_unfinished⟩
  obtain ⟨-, released, -⟩ := waitsFor_iff leftover_prepared Sample.plain Sample.made
    (Sample.keepsRecords _) Sample.orders_mem Sample.invoices_mem (by decide +kernel)
  have found := released 12 t (early_eq ▸ calls) of_a busy
  rw [early_eq] at found
  exact ⟨t, calls, found⟩

end GatedMigration.World
