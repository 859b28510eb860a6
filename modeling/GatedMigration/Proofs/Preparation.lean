import GatedMigration.Proofs.Saves
import GatedMigration.Run
import Mathlib.Data.List.Nodup

/-!
# The preparation of a run

A run that passes its preparation is over migrations with different identifiers
(`World.prepare_nodup`). So far only the graph and the journal have changed (`World.prepare_frame`),
and nothing has been saved (`World.prepare_saves`).
-/

namespace GatedMigration.World

theorem enterAll_saves (ns : Namespace) (env : Environment) (generators : List Generator)
    (seen : List Identifier) (w : World) : Saves ns [] w (enterAll env generators seen w).1 := by
  induction generators generalizing seen w with
  | nil => exact .refl ns w
  | cons g generators ih =>
    rw [enterAll]
    split
    · exact .refl ns w
    refine (ih _ _).after ?_
    unfold enter
    dsimp only
    split
    · exact .of_eq rfl rfl
    · exact (saves_warn ns _ _).after (.of_eq rfl rfl)

/-- The preparation of a run saves no record. -/
theorem prepare_saves (ns : Namespace) {w w' : World} {env : Environment} {options : RunOptions}
    {generators : List Generator} {answer : Except Failure Unit}
    (h : w.prepare env options generators = (w', answer)) : Saves ns [] w w' := by
  have entered := enterAll_saves ns env generators [] w
  unfold prepare at h
  generalize enterAll env generators [] w = r at *
  obtain ⟨w₁, _ | _⟩ := r
  · cases h
    exact entered
  · dsimp only at h
    unfold checkGraph at h
    split at h
    · cases h
      exact entered
    · cases h
      exact entered
    · cases h
      exact (saves_warnAll ns _ _).after entered

theorem warnAll_frame (w : World) (xs : List Warning) :
    ∃ journal, w.warnAll xs = { w with journal } := by
  induction xs generalizing w with
  | nil => exact ⟨w.journal, rfl⟩
  | cons x xs ih => exact ih (w.warn x)

theorem enterAll_frame (env : Environment) (generators : List Generator) (seen : List Identifier)
    (w : World) :
    ∃ graph journal, (enterAll env generators seen w).1 = { w with graph, journal } := by
  induction generators generalizing seen w with
  | nil => exact ⟨w.graph, w.journal, rfl⟩
  | cons g generators ih =>
    rw [enterAll]
    split
    · exact ⟨w.graph, w.journal, rfl⟩
    have entered : ∃ graph journal, w.enter env g = { w with graph, journal } := by
      unfold enter
      dsimp only
      split <;> exact ⟨_, _, rfl⟩
    obtain ⟨graph, journal, e⟩ := entered
    obtain ⟨graph', journal', e'⟩ := ih (g.id :: seen) (w.enter env g)
    exact ⟨graph', journal', by rw [e', e]⟩

/-- The preparation of a run changes the graph and the journal and nothing else. -/
theorem prepare_frame {w w' : World} {env : Environment} {options : RunOptions}
    {generators : List Generator} {answer : Except Failure Unit}
    (h : w.prepare env options generators = (w', answer)) :
    ∃ graph journal, w' = { w with graph, journal } := by
  obtain ⟨graph, journal, entered⟩ := enterAll_frame env generators [] w
  unfold prepare at h
  generalize enterAll env generators [] w = r at *
  obtain ⟨w₁, _ | _⟩ := r
  · cases h
    exact ⟨graph, journal, entered⟩
  · obtain rfl : w₁ = { w with graph, journal } := entered
    dsimp only at h
    unfold checkGraph at h
    split at h
    · cases h
      exact ⟨graph, journal, rfl⟩
    · cases h
      exact ⟨graph, journal, rfl⟩
    · cases h
      exact ⟨graph, warnAll_frame _ _⟩

theorem enterAll_nodup {env : Environment} {generators : List Generator} {seen : List Identifier}
    {w w' : World} (h : enterAll env generators seen w = (w', .ok ())) :
    (generators.map Generator.id).Nodup ∧ ∀ g ∈ generators, g.id ∉ seen := by
  induction generators generalizing seen w with
  | nil => exact ⟨List.nodup_nil, fun g mem => absurd mem List.not_mem_nil⟩
  | cons g generators ih =>
    rw [enterAll] at h
    split at h
    · cases h
    rename_i new
    obtain ⟨nodup, others⟩ := ih h
    refine ⟨List.nodup_cons.2 ⟨fun mem => ?_, nodup⟩, fun g' mem => ?_⟩
    · obtain ⟨g', mem, same⟩ := List.mem_map.1 mem
      exact others g' mem (same ▸ List.mem_cons_self)
    · rcases List.mem_cons.1 mem with rfl | mem
      · exact new
      · exact fun seen => others g' mem (List.mem_cons_of_mem _ seen)

/-- No two migrations of a run that passes its preparation have the same identifier. -/
theorem prepare_nodup {w w' : World} {env : Environment} {options : RunOptions}
    {generators : List Generator} (h : w.prepare env options generators = (w', .ok ())) :
    (generators.map Generator.id).Nodup := by
  unfold prepare at h
  split at h
  · cases h
  · rename_i entered
    exact (enterAll_nodup entered).1

/-- Migrations of a run with the same identifier are the same. -/
theorem prepare_inj {w w' : World} {env : Environment} {options : RunOptions}
    {generators : List Generator} (h : w.prepare env options generators = (w', .ok ()))
    {g g' : Generator} (mem : g ∈ generators) (mem' : g' ∈ generators) (same : g.id = g'.id) :
    g = g' :=
  List.inj_on_of_nodup_map (prepare_nodup h) mem mem' same

end GatedMigration.World
