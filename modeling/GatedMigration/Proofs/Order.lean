import GatedMigration.Proofs.Calls
import GatedMigration.Proofs.Preparation

/-!
# The order of dependent migrations

An operation of a migration is called only once every migration that it comes after has come to its
end without errors and has a record that says so (`World.applied_after_prerequisites`): the oracle
of its task has found such a record at some time (`World.satisfied_of_calls`), a record that was
saved in the run tells how far the migration is (`Moment.Sound.finishedCleanly`), and that does not
change any more (`World.finishedCleanly_later`).
-/

namespace GatedMigration

/-- A migration has come to its end without errors: it had nothing to do, or it and all its tasks
have succeeded or had nothing to do. -/
def Progress.FinishedCleanly (p : Progress) (id : Identifier) : Prop :=
  ∃ g, p.generators.find? id = some g ∧ g.entry.errors = [] ∧
    (g.entry.phase = .passed ∧ g.children = [] ∨
      g.entry.phase = .succeeded ∧ ∀ c ∈ g.children, ∃ e, p.children.find? c = some e ∧
        (e.phase = .succeeded ∨ e.phase = .passed))

theorem Progress.Lawful.finishedCleanly {p : Progress} (laws : p.Lawful) {id : Identifier}
    (migration : p.generators.contains id = true) {st : Standing}
    (at_id : p.standing? id = some st) (clean : st.phase.isClean = true) :
    p.FinishedCleanly id := by
  obtain ⟨g, found, rfl⟩ := generator_of_standing migration at_id
  refine ⟨g, found, ?_⟩
  cases phase : g.standing.phase with
  | pending | running | failed =>
    rw [phase] at clean
    cases clean
  | passed =>
    obtain ⟨errors, none⟩ := laws.bare at_id (Or.inr phase)
    exact ⟨errors, Or.inl ⟨phase, none⟩⟩
  | succeeded =>
    obtain ⟨errors, all⟩ := laws.clean at_id phase
    refine ⟨errors, Or.inr ⟨phase, fun c mem => ?_⟩⟩
    obtain ⟨st, at_c, clean⟩ := all c mem
    obtain ⟨e, found, rfl⟩ := child_of_standing (laws.apart (laws.tasks at_id c mem)) at_c
    refine ⟨e, found, ?_⟩
    replace clean : e.phase.isClean = true := clean
    cases phase : e.phase with
    | pending | running | failed =>
      rw [phase] at clean
      cases clean
    | succeeded => exact Or.inl rfl
    | passed => exact Or.inr rfl

theorem Progress.FinishedCleanly.phase? {p : Progress} {id : Identifier}
    (h : p.FinishedCleanly id) : ∃ ph, p.phase? id = some ph ∧ ph.isClean = true := by
  obtain ⟨g, found, -, how⟩ := h
  refine ⟨g.entry.phase, by rw [Progress.phase?, found], ?_⟩
  rcases how with ⟨phase, -⟩ | ⟨phase, -⟩ <;> rw [phase] <;> rfl

/-! ## What a satisfied record tells -/

namespace Moment

variable {env : Environment} {generators : List Generator} {w : World} {m : Moment}

/-- A satisfied record of a migration says that the migration has come to its end without errors,
unless it is the record from before the run. -/
theorem Sound.finishedCleanly (sound : m.Sound env generators w) {id : Identifier}
    (migration : id ∈ generators.map Generator.id) {r : CompletionRecord}
    (stored : m.state.world.store.record? env.metadata id = some r) (good : r.satisfied = true) :
    m.state.progress.FinishedCleanly id ∨ w.store.record? env.metadata id = some r := by
  obtain ⟨rs, saves, recorded⟩ := sound.state.recorded
  by_cases written : id ∈ rs.map CompletionRecord.id
  · refine Or.inl ?_
    obtain ⟨r', mem, rfl⟩ := List.mem_map.1 written
    cases stored.symm.trans (saves.find?_of_mem recorded.distinct mem)
    obtain ⟨-, st, at_r, terminal, failed⟩ := recorded.truthful r mem
    refine sound.state.lawful.finishedCleanly ((sound.state.migrations _).2 migration) at_r ?_
    refine Phase.isClean_of_isTerminal terminal fun phase => ?_
    rw [CompletionRecord.satisfied, failed.2 phase, Bool.not_true, Bool.and_false] at good
    cases good
  · rw [saves.find?_of_notMem written] at stored
    exact Or.inr stored

/-- A migration that has come to its end without errors has a satisfied record. -/
theorem Sound.satisfied (sound : m.Sound env generators w) {id : Identifier}
    (finished : m.state.progress.FinishedCleanly id) :
    m.state.world.Satisfied env.metadata id := by
  obtain ⟨ph, phase, clean⟩ := finished.phase?
  rw [Progress.phase?_eq_standing?] at phase
  obtain ⟨st, at_id, rfl⟩ := Option.map_eq_some_iff.1 phase
  obtain ⟨rs, saves, recorded⟩ := sound.state.recorded
  obtain ⟨r, mem, rfl, fine⟩ := recorded.complete at_id clean
  refine ⟨r, saves.find?_of_mem recorded.distinct mem, ?_⟩
  rw [CompletionRecord.satisfied, fine, (recorded.truthful r mem).1]
  rfl

end Moment

namespace World

variable {w w₀ : World} {env : Environment} {options : RunOptions} {generators : List Generator}

/-- What has come to its end without errors stays so. -/
theorem finishedCleanly_later (plain : ∀ g ∈ generators, Plain g.id)
    (made : ∀ g ∈ generators, g.Made) (ops : env.registry.KeepsRecords env.metadata)
    {n k : Nat} (later : n ≤ k) {id : Identifier}
    (finished : (w.moment env options generators n).state.progress.FinishedCleanly id) :
    (w.moment env options generators k).state.progress.FinishedCleanly id := by
  obtain ⟨ph, phase, clean⟩ := finished.phase?
  rw [Progress.phase?_eq_standing?] at phase
  obtain ⟨st, at_id, rfl⟩ := Option.map_eq_some_iff.1 phase
  obtain ⟨g, found, -⟩ := finished
  have sound := moment_sound plain made ops w options
  have migration := ((sound n).state.migrations id).1 (IdMap.contains_of_find? found)
  exact (sound k).state.lawful.finishedCleanly (((sound k).state.migrations id).2 migration)
    (moment_keeps plain made ops w options later at_id (Phase.isTerminal_of_isClean clean)) clean

/-- Dependent migrations are in order. In every run over migrations none of which has a record at
the start, whichever of the tasks at work goes on at each turn, the operation of a migration `b` is
called only when every migration `a` that `b` comes after has come to its end without errors and its
record is stored. So if `a` fails or does not come to its end, no operation of `b` is ever called.
-/
theorem applied_after_prerequisites
    (prepared : w.prepare env options generators = (w₀, .ok ()))
    (plain : ∀ g ∈ generators, Plain g.id) (made : ∀ g ∈ generators, g.Made)
    (ops : env.registry.KeepsRecords env.metadata)
    (unrecorded : ∀ g ∈ generators, w.store.record? env.metadata g.id = none)
    {a b : Generator} (ha : a ∈ generators) (hb : b ∈ generators)
    (edge : a.id ∈ b.migration.after) :
    (∀ n t, (w₀.moment env options generators n).Calls env options t → t.migration = b.id →
      (w₀.moment env options generators n).state.progress.FinishedCleanly a.id ∧
        (w₀.moment env options generators n).state.world.Satisfied env.metadata a.id) ∧
    ∀ w' report, w.run env options generators = (w', .ok report) →
      (∀ ph, report.generators.find? a.id = some ph → ph.isClean = false) →
      ∀ n t, (w₀.moment env options generators n).Calls env options t → t.migration ≠ b.id := by
  have ordered (n : Nat) (t : Task)
      (calls : (w₀.moment env options generators n).Calls env options t)
      (of_b : t.migration = b.id) :
      (w₀.moment env options generators n).state.progress.FinishedCleanly a.id ∧
        (w₀.moment env options generators n).state.world.Satisfied env.metadata a.id := by
    have sound := moment_sound plain made ops w₀ options
    obtain ⟨g, mem, d, i, rfl⟩ := calls.task (sound n)
    obtain rfl : g = b := prepare_inj prepared mem hb of_b
    obtain ⟨k, before, r, stored, good⟩ := satisfied_of_calls calls (IdSet.mem_ofList.2 edge)
    have finished : (w₀.moment env options generators k).state.progress.FinishedCleanly a.id := by
      refine ((sound k).finishedCleanly (List.mem_map_of_mem ha) stored good).resolve_right
        fun left => ?_
      rw [(prepare_saves _ prepared).find?_of_notMem List.not_mem_nil, unrecorded a ha] at left
      cases left
    have still := finishedCleanly_later plain made ops before finished
    exact ⟨still, (sound n).satisfied still⟩
  refine ⟨ordered, fun w' report run unclean n t calls of_b => ?_⟩
  obtain ⟨k, canceled, s, ended, run'⟩ := run_eq_moment prepared
  cases run.symm.trans run'
  have before := Nat.le_of_lt (lt_of_calls calls ended)
  have still := finishedCleanly_later plain made ops before (ordered n t calls of_b).1
  rw [ended] at still
  obtain ⟨g, found, -, how⟩ := still
  have unclean := unclean g.entry.phase (by rw [Progress.find?_report_generators, found]; rfl)
  rcases how with ⟨phase, -⟩ | ⟨phase, -⟩ <;> rw [phase] at unclean <;> cases unclean

/-- The invoices are marked when the orders are finished. -/
theorem invoices_after_orders :
    ∃ n t, (Sample.ready.moment Sample.env {} Sample.generators n).Calls Sample.env {} t ∧
      t.migration = "a" ∧
      (Sample.ready.moment Sample.env {} Sample.generators n).state.progress.FinishedCleanly "z" ∧
      (Sample.ready.moment Sample.env {} Sample.generators n).state.world.Satisfied
        Sample.env.metadata "z" := by
  obtain ⟨t, calls, of_a⟩ : ∃ t,
      (Sample.ready.moment Sample.env {} Sample.generators 25).Calls Sample.env {} t ∧
        t.migration = "a" := exists_calls 25 (by decide +kernel)
  have unrecorded : ∀ g ∈ Sample.generators,
      Sample.world.store.record? Sample.env.metadata g.id = none := by decide +kernel
  obtain ⟨ordered, -⟩ := applied_after_prerequisites Sample.prepared Sample.plain Sample.made
    (Sample.keepsRecords _) unrecorded Sample.orders_mem Sample.invoices_mem (by decide +kernel)
  exact ⟨25, t, calls, of_a, ordered 25 t calls of_a⟩

end World

end GatedMigration
