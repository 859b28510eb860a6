import GatedMigration.Generator
import Mathlib.Data.List.Chain
import Mathlib.Data.List.Perm.Subperm
import Mathlib.Logic.Relation

/-!
# Chains of dependent migrations

A migration can finish if it leads to migrations of the run only and to no cycle, however its
dependencies are followed (`CanFinish`). The chains of such migrations have no repetitions, so they
are no longer than the run has migrations (`DependencyChain.length_le`). If none has more than `k`
migrations, every migration that can finish stands on others in at most `k` layers (`Grounded`,
`CanFinish.grounded`), and what holds of a migration as soon as it holds of all that it comes after
holds layer by layer.
-/

namespace GatedMigration

variable {generators : List Generator}

/-- A migration of the run comes after another one. -/
def DependsOn (generators : List Generator) (id a : Identifier) : Prop :=
  ∃ g ∈ generators, g.id = id ∧ a ∈ g.migration.after

/-- A migration of the run that leads, however its dependencies are followed, to migrations of the
run only and to no cycle. -/
def CanFinish (generators : List Generator) (id : Identifier) : Prop :=
  ∀ a, Relation.ReflTransGen (DependsOn generators) id a →
    a ∈ generators.map Generator.id ∧ ¬Relation.TransGen (DependsOn generators) a a

/-- Migrations that can finish, each of which comes after the next. -/
def DependencyChain (generators : List Generator) (chain : List Identifier) : Prop :=
  chain.IsChain (DependsOn generators) ∧ ∀ id ∈ chain, CanFinish generators id

/-- A migration of the run that stands on others in at most so many layers, its own included: all
that it comes after are in the layers below. -/
inductive Grounded (generators : List Generator) : Nat → Identifier → Prop where
  | layer {k : Nat} {g : Generator} (given : g ∈ generators)
      (below : ∀ a ∈ g.migration.after, Grounded generators k a) : Grounded generators (k + 1) g.id

theorem CanFinish.given {id : Identifier} (h : CanFinish generators id) :
    id ∈ generators.map Generator.id := (h id .refl).1

theorem CanFinish.of_dependsOn {id a : Identifier} (h : CanFinish generators id)
    (edge : DependsOn generators id a) : CanFinish generators a :=
  fun b path => h b (path.head edge)

/-- A migration of the run can finish if all that it comes after can. -/
theorem CanFinish.of_all {id : Identifier} (given : id ∈ generators.map Generator.id)
    (after : ∀ a, DependsOn generators id a → CanFinish generators a) :
    CanFinish generators id := by
  intro b path
  rcases path.cases_head with rfl | ⟨a, edge, path⟩
  · refine ⟨given, fun cycle => ?_⟩
    obtain ⟨a, edge, back⟩ := Relation.TransGen.head'_iff.1 cycle
    exact (after a edge id back).2 cycle
  · exact after a edge b path

/-- No chain comes back to a migration. -/
theorem DependencyChain.nodup {chain : List Identifier} (h : DependencyChain generators chain) :
    chain.Nodup := by
  obtain ⟨linked, finite⟩ := h
  have ordered : chain.Pairwise (Relation.TransGen (DependsOn generators)) :=
    List.isChain_iff_pairwise.1 (linked.imp fun _ _ edge => .single edge)
  refine ordered.imp_of_mem fun {a b} mem _ path same => ?_
  subst same
  exact (finite a mem a .refl).2 path

/-- No chain is longer than the run has migrations. -/
theorem DependencyChain.length_le {chain : List Identifier} (h : DependencyChain generators chain) :
    chain.length ≤ generators.length := by
  have among : chain ⊆ generators.map Generator.id := fun id mem => (h.2 id mem).given
  have fewer := (h.nodup.subperm among).length_le
  rwa [List.length_map] at fewer

/-- A migration that can finish is within as many layers as its chains have migrations. -/
theorem CanFinish.grounded {id : Identifier} (h : CanFinish generators id) {k : Nat}
    (chains : ∀ rest, DependencyChain generators (id :: rest) → rest.length < k) :
    Grounded generators k id := by
  induction k generalizing id with
  | zero =>
    have alone : DependencyChain generators [id] :=
      ⟨List.isChain_singleton id, fun a mem => List.mem_singleton.1 mem ▸ h⟩
    exact absurd (chains [] alone) (Nat.not_lt_zero _)
  | succ k ih =>
    obtain ⟨g, given, rfl⟩ := List.mem_map.1 h.given
    refine .layer given fun a after => ?_
    have edge : DependsOn generators g.id a := ⟨g, given, rfl, after⟩
    refine ih (h.of_dependsOn edge) fun rest ⟨linked, finite⟩ => ?_
    -- A chain from a migration below is continued by the migration itself.
    have longer : DependencyChain generators (g.id :: a :: rest) := by
      refine ⟨List.isChain_cons_cons.2 ⟨edge, linked⟩, fun b mem => ?_⟩
      rcases List.mem_cons.1 mem with rfl | mem
      · exact h
      · exact finite b mem
    have short := chains _ longer
    rw [List.length_cons] at short
    omega

theorem Grounded.given {k : Nat} {id : Identifier} (h : Grounded generators k id) :
    id ∈ generators.map Generator.id := by
  cases h with
  | layer given below => exact List.mem_map_of_mem given

/-- What holds of a migration as soon as it holds of all that it comes after holds in all
layers. -/
theorem Grounded.induct {P : Identifier → Prop}
    (step : ∀ g ∈ generators, (∀ a ∈ g.migration.after, P a) → P g.id) {k : Nat}
    {id : Identifier} (h : Grounded generators k id) : P id := by
  induction h with
  | layer given below ih => exact step _ given ih

end GatedMigration
