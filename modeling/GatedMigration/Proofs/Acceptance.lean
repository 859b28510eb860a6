import GatedMigration.CommandLine
import GatedMigration.Proofs.Generators
import GatedMigration.Proofs.Preparation
import GatedMigration.Proofs.Problems
import Mathlib.Algebra.Module.Submodule.Lattice
import Mathlib.Computability.Primrec.List
import Mathlib.Data.List.Permutation

/-!
# Which plans are accepted

A plan is accepted just if it is complete apart from dependencies (`Plan.Complete`) and its
dependencies are sound (`Plan.Ordered`); one that warns of dependencies is accepted as soon as it is
complete (`Plan.accepted_exact`). The check of a plan, the preparation of a run and the command line
each build a graph and check it. They agree, because the graph of a plan holds exactly what its
migrations say (`Plan.isNode_graph`, `Plan.depends_graph`), and the preparation of a run over a
graph without nodes builds the same one (`World.enterAll_graph`).
-/

namespace GatedMigration

/-! ## Graphs of migrations -/

namespace Graph

variable {g : Graph} {a b : Identifier}

/-- One thing is wrong with a graph just if it is depended on without being a node, or is a
cycle. -/
theorem mem_problems {x : GraphProblem} : x ∈ g.problems ↔
    (∃ b, x = .missing b ∧ (∃ a, g.Depends a b) ∧ g.isNode b = false) ∨
      ∃ c, x = .cycle c ∧ g.IsCycle c := by
  rw [problems, List.mem_append, List.mem_map, List.mem_map]
  refine or_congr (exists_congr fun b => ?_) (exists_congr fun c => ?_)
  · rw [mem_missing, and_comm, eq_comm]
  · rw [mem_cycles, and_comm, eq_comm]

/-- A graph is sound just if everything that is depended on is a node and nothing leads back to
itself. -/
theorem problems_eq_nil_iff : g.problems = [] ↔
    (∀ a b, g.Depends a b → g.isNode b = true) ∧ ∀ a, ¬Relation.TransGen g.Depends a a := by
  rw [List.eq_nil_iff_forall_not_mem]
  constructor
  · intro none
    refine ⟨fun a b dep => ?_, fun a back => ?_⟩
    · by_contra unknown
      exact none _ (mem_problems.2 (Or.inl ⟨b, rfl, ⟨a, dep⟩, eq_false_of_ne_true unknown⟩))
    · obtain ⟨c, cycle⟩ := exists_isCycle back
      exact none _ (mem_problems.2 (Or.inr ⟨c, rfl, cycle⟩))
  · rintro ⟨known, acyclic⟩ x mem
    rcases mem_problems.1 mem with ⟨b, -, ⟨a, dep⟩, unknown⟩ | ⟨c, -, cycle⟩
    · exact Bool.noConfusion ((known a b dep).symm.trans unknown)
    · obtain ⟨-, a, back, -⟩ := isCycle_iff.1 cycle
      exact acyclic a back

theorem validate_cases (g : Graph) :
    g.validate = .ok () ∧ g.problems = [] ∨
      g.validate = .error ⟨g.problems⟩ ∧ g.problems ≠ [] := by
  rw [validate]
  split
  · rename_i none
    exact Or.inl ⟨rfl, none⟩
  · rename_i some
    exact Or.inr ⟨rfl, some⟩

theorem validate_eq_ok_iff_problems : g.validate = .ok () ↔ g.problems = [] := by
  rcases g.validate_cases with ⟨sound, none⟩ | ⟨unsound, some⟩
  · exact ⟨fun _ => none, fun _ => sound⟩
  · rw [unsound]
    exact ⟨fun h => (by cases h), fun none => absurd none some⟩

theorem isNode_enter (g : Graph) (m : Migration) (a : Identifier) :
    (g.enter m).isNode a = true ↔ a = m.id ∨ g.isNode a = true := by
  have added : (g.addNode m.id).isNode a = true ↔ a = m.id ∨ g.isNode a = true :=
    IdMap.contains_insert _ _ _ _
  unfold enter add IdMap.joinAt isNode
  split
  · exact added
  · rw [IdMap.contains_insert]
    exact ⟨fun h => h.elim Or.inl added.1, fun h => Or.inr (added.2 h)⟩

theorem depends_enter (g : Graph) (m : Migration) (a b : Identifier) :
    (g.enter m).Depends a b ↔ g.Depends a b ∨ m.id = a ∧ b ∈ m.after := by
  unfold Depends enter
  by_cases self : a = m.id
  · subst self
    rw [mem_resolve_add_self, resolve_addNode]
    simp
  · rw [resolve_add_of_ne self, resolve_addNode]
    simp [Ne.symm self]

/-- The nodes of a graph that migrations are put into are those from before and the migrations. -/
theorem isNode_foldl_enter (ms : List Migration) (g : Graph) (a : Identifier) :
    (ms.foldl enter g).isNode a = true ↔ g.isNode a = true ∨ a ∈ ms.map Migration.id := by
  induction ms generalizing g with
  | nil => simp
  | cons m ms ih =>
    rw [List.foldl_cons, ih, isNode_enter, List.map_cons, List.mem_cons]
    tauto

/-- The dependencies of a graph that migrations are put into are those from before and what the
migrations come after. -/
theorem depends_foldl_enter (ms : List Migration) (g : Graph) (a b : Identifier) :
    (ms.foldl enter g).Depends a b ↔ g.Depends a b ∨ ∃ m ∈ ms, m.id = a ∧ b ∈ m.after := by
  induction ms generalizing g with
  | nil => simp
  | cons m ms ih =>
    rw [List.foldl_cons, ih, depends_enter, List.exists_mem_cons_iff, or_assoc]

end Graph

/-! ## The preparation of a run -/

namespace World

variable {env : Environment}

theorem enter_graph (w : World) (env : Environment) (g : Generator) :
    (w.enter env g).graph = w.graph.enter g.migration := by
  unfold enter
  dsimp only
  split <;> rfl

/-- Migrations with different identifiers are all put into the graph. -/
theorem enterAll_graph {generators : List Generator} {seen : List Identifier}
    (distinct : (generators.map Generator.id).Nodup) (new : ∀ g ∈ generators, g.id ∉ seen)
    (w : World) (env : Environment) : (w.enterAll env generators seen).2 = .ok () ∧
      (w.enterAll env generators seen).1.graph =
        (generators.map Generator.migration).foldl Graph.enter w.graph := by
  induction generators generalizing seen w with
  | nil => exact ⟨rfl, rfl⟩
  | cons g generators ih =>
    obtain ⟨unique, distinct⟩ := List.nodup_cons.1 distinct
    have others : ∀ g' ∈ generators, g'.id ∉ g.id :: seen := by
      intro g' mem seen'
      rcases List.mem_cons.1 seen' with same | seen'
      · exact unique (same ▸ List.mem_map_of_mem mem)
      · exact new g' (List.mem_cons_of_mem _ mem) seen'
    rw [enterAll, if_neg (new g List.mem_cons_self), List.map_cons, List.foldl_cons,
      ← enter_graph w env]
    exact ih distinct others (w.enter env g)

/-- A graph that is sound, or that the policy only warns of, passes. -/
theorem checkGraph_ok {w : World} {policy : ValidationPolicy}
    (sound : policy = .require → w.graph.validate = .ok ()) :
    (w.checkGraph policy).2 = .ok () := by
  unfold checkGraph
  cases policy with
  | require => rw [sound rfl]
  | warn => split <;> simp_all

/-- A run over migrations with different identifiers is prepared, if their graph is sound or the
policy only warns of it. -/
theorem prepare_ok {w : World} {options : RunOptions} {generators : List Generator}
    (distinct : (generators.map Generator.id).Nodup)
    (sound : options.validation = .require →
      ((generators.map Generator.migration).foldl Graph.enter w.graph).validate = .ok ()) :
    (w.prepare env options generators).2 = .ok () := by
  obtain ⟨entered, graph⟩ := enterAll_graph distinct (fun _ _ => List.not_mem_nil) w env
  unfold prepare
  generalize w.enterAll env generators [] = r at *
  obtain ⟨w', _⟩ := r
  cases entered
  exact checkGraph_ok fun require => (congrArg Graph.validate graph).trans (sound require)

end World

/-! ## Plans -/

namespace Plan

variable {p : Plan}

/-- A migration of the plan comes after something. -/
def ComesAfter (p : Plan) (a b : Identifier) : Prop :=
  ∃ m ∈ p.migrations, m.id = a ∧ b ∈ m.after

/-- Apart from what the migrations come after nothing is wrong with the plan. -/
structure Complete (p : Plan) : Prop where
  some_migration : p.migrations ≠ []
  workers : 1 ≤ p.settings.options.workers
  idle_rounds : 1 ≤ p.settings.options.maxIdleRounds
  metadata : p.settings.metadata.isValid = true
  plain : ∀ m ∈ p.migrations, Plain m.id
  namespaces : ∀ m ∈ p.migrations, m.namesp.isValid = true
  operations : ∀ m ∈ p.migrations, Unicode.hasInk m.operation = true

/-- The migrations come after other migrations of the plan only, and never after themselves. -/
structure Ordered (p : Plan) : Prop where
  others : ∀ m ∈ p.migrations, ∀ a ∈ m.after, a ∈ p.ids ∧ a ≠ m.id
  acyclic : ∀ a, ¬Relation.TransGen p.ComesAfter a a

/-- The plan passes its check. -/
def Accepted (p : Plan) : Prop := p.check.2 = .ok ()

/-- The migrations of the plan at work. -/
def generators (p : Plan) : List Generator := p.migrations.map Generator.new

theorem generators_ids (p : Plan) : p.generators.map Generator.id = p.ids := by
  rw [generators, List.map_map]
  rfl

/-- The preparation of a run builds the graph of the plan. -/
theorem generators_graph (p : Plan) :
    (p.generators.map Generator.migration).foldl Graph.enter Graph.empty = p.graph := by
  rw [generators, List.map_map, List.foldl_map]
  rfl

/-! ## The graph of a plan -/

theorem isNode_graph (p : Plan) (a : Identifier) : p.graph.isNode a = true ↔ a ∈ p.ids := by
  rw [graph, Graph.isNode_foldl_enter]
  exact or_iff_right Bool.noConfusion

theorem depends_graph (p : Plan) (a b : Identifier) : p.graph.Depends a b ↔ p.ComesAfter a b := by
  rw [graph, Graph.depends_foldl_enter]
  exact or_iff_right List.not_mem_nil

/-- The graph of a plan is sound just if the migrations come after other migrations of the plan
only, and never after themselves. -/
theorem graph_problems_eq_nil_iff : p.graph.problems = [] ↔ p.Ordered := by
  have same : p.graph.Depends = p.ComesAfter := by
    funext a b
    exact propext (p.depends_graph a b)
  rw [Graph.problems_eq_nil_iff, same]
  constructor
  · rintro ⟨known, acyclic⟩
    refine ⟨fun m mem a after => ?_, acyclic⟩
    have edge : p.ComesAfter m.id a := ⟨m, mem, rfl, after⟩
    refine ⟨(p.isNode_graph a).1 (known _ _ edge), fun self => ?_⟩
    exact acyclic m.id (.single (self ▸ edge))
  · rintro ⟨others, acyclic⟩
    refine ⟨fun a b edge => ?_, acyclic⟩
    obtain ⟨m, mem, rfl, after⟩ := edge
    exact (p.isNode_graph b).2 (others m mem b after).1

/-! ## What the check looks at -/

theorem failIf_eq_none_iff {c : Bool} {text : String} : failIf c text = none ↔ c = false := by
  unfold failIf
  cases c <;> simp

theorem settings_failure_eq_none_iff {s : PlanSettings} : s.failure? = none ↔
    1 ≤ s.options.workers ∧ 1 ≤ s.options.maxIdleRounds ∧ s.metadata.isValid = true := by
  simp only [PlanSettings.failure?, Option.or_eq_none_iff, failIf_eq_none_iff, beq_eq_false_iff_ne,
    Bool.not_eq_false', Nat.one_le_iff_ne_zero]

theorem migration_failure_eq_none_iff {m : Migration} : m.failure? = none ↔
    Plain m.id ∧ m.namesp.isValid = true ∧ Unicode.hasInk m.operation = true := by
  simp [Migration.failure?, failIf_eq_none_iff, Plain]

/-- Nothing is wrong with a plan apart from dependencies just if it is complete. -/
theorem failure_eq_none_iff : p.failure? = none ↔ p.Complete := by
  simp only [failure?, Option.or_eq_none_iff, failIf_eq_none_iff, settings_failure_eq_none_iff,
    List.findSome?_eq_none_iff, migration_failure_eq_none_iff, List.isEmpty_eq_false_iff]
  constructor
  · rintro ⟨some, ⟨workers, idle, metadata⟩, each⟩
    exact ⟨some, workers, idle, metadata, fun m mem => (each m mem).1,
      fun m mem => (each m mem).2.1, fun m mem => (each m mem).2.2⟩
  · rintro ⟨some, workers, idle, metadata, plain, namespaces, operations⟩
    exact ⟨some, ⟨workers, idle, metadata⟩,
      fun m mem => ⟨plain m mem, namespaces m mem, operations m mem⟩⟩

/-- Nothing is wrong with what the migrations come after just if that are other migrations of the
plan. -/
theorem dependencyFailure_eq_none_iff : p.dependencyFailure? = none ↔
    ∀ m ∈ p.migrations, ∀ a ∈ m.after, a ∈ p.ids ∧ a ≠ m.id := by
  simp only [dependencyFailure?, Migration.dependencyFailure?, List.findSome?_eq_none_iff,
    Option.or_eq_none_iff, failIf_eq_none_iff, Bool.not_eq_false', beq_eq_false_iff_ne,
    List.contains_iff_mem]

theorem graphFailure_eq_none_iff : p.graphFailure? = none ↔ p.graph.validate = .ok () := by
  unfold graphFailure?
  rcases p.graph.validate_cases with ⟨sound, -⟩ | ⟨unsound, -⟩
  · simp [sound]
  · rw [unsound]
    dsimp only
    split <;> simp

/-- Where the migrations come after migrations of the plan only, whatever is wrong with the graph is
a cycle. -/
theorem graphFailure_cyclic (known : p.dependencyFailure? = none) (e : GraphError) :
    p.graphFailure? ≠ some (.invalidGraph e) := by
  unfold graphFailure?
  rcases p.graph.validate_cases with ⟨sound, -⟩ | ⟨unsound, some⟩
  · simp [sound]
  · rw [unsound]
    dsimp only
    split
    · rename_i none
      obtain ⟨x, mem⟩ := List.exists_mem_of_ne_nil _ some
      rcases Graph.mem_problems.1 mem with ⟨b, -, ⟨a, dep⟩, unknown⟩ | ⟨c, rfl, -⟩
      · obtain ⟨m, mem, -, after⟩ := (p.depends_graph a b).1 dep
        have node := (p.isNode_graph b).2 (dependencyFailure_eq_none_iff.1 known m mem b after).1
        exact absurd (node.symm.trans unknown) Bool.noConfusion
      · have listed : c ∈ GraphError.cycles ⟨p.graph.problems⟩ :=
          List.mem_filterMap.2 ⟨_, mem, rfl⟩
        rw [none] at listed
        exact absurd listed List.not_mem_nil
    · simp

/-! ## The answer of the check -/

theorem accepted_iff_of_require (require : p.settings.options.validation = .require) :
    p.Accepted ↔ p.failure? = none ∧ p.dependencyFailure?.or p.graphFailure? = none := by
  unfold Accepted check
  rw [require]
  cases p.failure? with
  | some e => simp
  | none => cases p.dependencyFailure?.or p.graphFailure? <;> simp

theorem accepted_iff_of_warn (warn : p.settings.options.validation = .warn) :
    p.Accepted ↔ p.failure? = none := by
  unfold Accepted check
  rw [warn]
  cases p.failure? with
  | some e => simp
  | none => cases p.dependencyFailure?.or p.graphFailure? <;> simp

/-- Whatever the policy, an accepted plan is complete. -/
theorem Accepted.complete (accepted : p.Accepted) : p.Complete := by
  refine failure_eq_none_iff.1 ?_
  cases policy : p.settings.options.validation with
  | require => exact ((accepted_iff_of_require policy).1 accepted).1
  | warn => exact (accepted_iff_of_warn policy).1 accepted

/-- A plan that does not only warn of dependencies is accepted just if it is complete and its
dependencies are sound. -/
theorem accepted_iff (require : p.settings.options.validation = .require) :
    p.Accepted ↔ p.Complete ∧ p.Ordered := by
  rw [accepted_iff_of_require require, failure_eq_none_iff, Option.or_eq_none_iff,
    graphFailure_eq_none_iff, Graph.validate_eq_ok_iff_problems, graph_problems_eq_nil_iff]
  exact and_congr_right fun _ =>
    ⟨And.right, fun ordered => ⟨dependencyFailure_eq_none_iff.2 ordered.others, ordered⟩⟩

/-! ## The kinds of failures -/

/-- Whatever failure there is, it is one of the configuration. -/
def OfConfig (failure? : Option Failure) : Prop :=
  ∀ ⦃e⦄, failure? = some e → ∃ text, e = .config text

theorem OfConfig.failIf (c : Bool) (text : String) : OfConfig (failIf c text) := by
  intro e h
  unfold GatedMigration.failIf at h
  split at h
  · exact ⟨text, (Option.some.inj h).symm⟩
  · cases h

theorem OfConfig.or {x y : Option Failure} (hx : OfConfig x) (hy : OfConfig y) :
    OfConfig (x.or y) := by
  intro e h
  rcases Option.or_eq_some_iff.1 h with h | ⟨-, h⟩
  · exact hx h
  · exact hy h

theorem OfConfig.findSome? {α : Type} {f : α → Option Failure} (each : ∀ x, OfConfig (f x))
    (l : List α) : OfConfig (l.findSome? f) := by
  intro e h
  obtain ⟨x, -, h⟩ := List.exists_of_findSome?_eq_some h
  exact each x h

theorem failure_ofConfig (p : Plan) : OfConfig p.failure? := by
  have settings : OfConfig p.settings.failure? :=
    (OfConfig.failIf _ _).or ((OfConfig.failIf _ _).or (OfConfig.failIf _ _))
  have each (m : Migration) : OfConfig m.failure? :=
    (OfConfig.failIf _ _).or ((OfConfig.failIf _ _).or (OfConfig.failIf _ _))
  exact (OfConfig.failIf _ _).or (settings.or (OfConfig.findSome? each _))

theorem dependencyFailure_ofConfig (p : Plan) : OfConfig p.dependencyFailure? :=
  OfConfig.findSome? (fun _ => OfConfig.findSome?
    (fun _ => (OfConfig.failIf _ _).or (OfConfig.failIf _ _)) _) _

/-- A plan is never refused, and never warned of, because its graph is unsound in another way than
by a cycle: the dependencies have been looked at before. -/
theorem check_cyclic (p : Plan) (e : GraphError) :
    p.check.2 ≠ .error (.invalidGraph e) ∧ .planProblem (.invalidGraph e) ∉ p.check.1 := by
  have first : p.failure? ≠ some (.invalidGraph e) := fun h => by
    obtain ⟨text, same⟩ := p.failure_ofConfig h
    cases same
  have second : p.dependencyFailure?.or p.graphFailure? ≠ some (.invalidGraph e) := fun h => by
    rcases Option.or_eq_some_iff.1 h with h | ⟨known, h⟩
    · obtain ⟨text, same⟩ := p.dependencyFailure_ofConfig h
      cases same
    · exact graphFailure_cyclic known e h
  unfold check
  split
  · rename_i x h
    refine ⟨fun same => first ?_, List.not_mem_nil⟩
    rw [h, Except.error.inj same]
  · split
    · exact ⟨fun same => (by cases same), List.not_mem_nil⟩
    · rename_i x h _
      refine ⟨fun same => second ?_, List.not_mem_nil⟩
      rw [h, Except.error.inj same]
    · rename_i x h _
      refine ⟨fun same => (by cases same), fun mem => second ?_⟩
      rw [h, Warning.planProblem.inj (List.mem_singleton.1 mem)]

/-! ## The program and the run -/

/-- The program ends without a failure when it shows an accepted plan. -/
theorem Accepted.run (accepted : p.Accepted)
    (sound : p.settings.options.validation = .require → p.graph.validate = .ok ())
    (a : CommandLine.Arguments) {content : Except Failure String}
    (read : content.bind Plan.read = .ok p) : (a.run content).result = .ok () := by
  unfold CommandLine.Arguments.run
  rw [read]
  dsimp only
  unfold Accepted at accepted
  generalize p.check = answer at *
  obtain ⟨warnings, _⟩ := answer
  cases accepted
  dsimp only
  unfold CommandLine.Arguments.present
  dsimp only
  cases policy : p.settings.options.validation with
  | require => rw [sound policy]
  | warn => split <;> simp_all

/-- An accepted plan is accepted by everything that looks at it later. -/
theorem accepted_exact {p : Plan} (distinct : p.ids.Nodup) :
    (p.settings.options.validation = .require →
      (p.Accepted ↔ p.Complete ∧ p.Ordered) ∧
      (p.Complete → (p.Accepted ↔ p.graph.validate = .ok ()))) ∧
    (p.settings.options.validation = .warn → (p.Accepted ↔ p.Complete)) ∧
    (p.Accepted →
      (p.settings.options.validation = .require → p.graph.validate = .ok ()) ∧
      (∀ (w : World) (env : Environment), w.graph = Graph.empty →
        (w.prepare env p.settings.options p.generators).2 = .ok ()) ∧
      ∀ (a : CommandLine.Arguments) (content : Except Failure String),
        content.bind Plan.read = .ok p → (a.run content).result = .ok ()) ∧
    ∀ e, p.check.2 ≠ .error (.invalidGraph e) ∧
      .planProblem (.invalidGraph e) ∉ p.check.1 := by
  have graph_sound : p.graph.validate = .ok () ↔ p.Ordered :=
    Graph.validate_eq_ok_iff_problems.trans graph_problems_eq_nil_iff
  refine ⟨fun require => ?_, fun warn => ?_, fun accepted => ?_, p.check_cyclic⟩
  · have exact := accepted_iff require
    refine ⟨exact, fun complete => ?_⟩
    rw [exact, graph_sound]
    exact and_iff_right complete
  · rw [accepted_iff_of_warn warn, failure_eq_none_iff]
  · have sound (require : p.settings.options.validation = .require) :
        p.graph.validate = .ok () :=
      graph_sound.2 ((accepted_iff require).1 accepted).2
    refine ⟨sound, fun w env fresh => ?_, fun a content => accepted.run sound a⟩
    refine World.prepare_ok ?_ fun require => ?_
    · rw [generators_ids]
      exact distinct
    · rw [fresh, generators_graph]
      exact sound require

/-- A plan of two migrations, of which the first comes after the second. -/
def invoicesText : String := "[migration.a]
store=\"db\"
collection=\"invoices\"
operation=\"mark\"
after=[\"z\"]
[migration.z]
store=\"db\"
collection=\"orders\"
operation=\"mark\"
"

/-- What the text of the two migrations stands for. -/
def invoicesPlan : Plan where
  settings := {}
  migrations := [
    ⟨"a", ⟨"db", "invoices"⟩, Selector.all, "mark", none, none, ["z"]⟩,
    ⟨"z", ⟨"db", "orders"⟩, Selector.all, "mark", none, none, []⟩]

/-- What is compared of a migration: all but its selector and its update, and whether these two say
nothing. -/
def outline (m : Migration) :
    (Identifier × Namespace × String) × Bool × Option Nat × List Identifier :=
  ((m.id, m.namesp, m.operation), m.selector.entries.isEmpty && m.update.isNone, m.limit, m.after)

theorem eq_of_outline {m m' : Migration} (same : outline m = outline m')
    (every : m'.selector = Selector.all) (unchanged : m'.update = none) : m = m' := by
  obtain ⟨id, namesp, ⟨entries⟩, operation, update, limit, after⟩ := m
  obtain ⟨_, _, _, _, _, _, _⟩ := m'
  subst every unchanged
  simp only [outline, Prod.mk.injEq] at same
  obtain ⟨⟨rfl, rfl, rfl⟩, nothing, rfl, rfl⟩ := same
  obtain ⟨no_entries, no_update⟩ := Bool.and_eq_true_iff.1 nothing
  rw [List.isEmpty_iff.1 no_entries, Option.isNone_iff_eq_none.1 no_update]
  rfl

set_option synthInstance.maxSize 400 in
theorem outline_invoicesText :
    (Plan.read invoicesText).toOption.map settings = some invoicesPlan.settings ∧
    (Plan.read invoicesText).toOption.map (fun p => p.migrations.map outline) =
      some (invoicesPlan.migrations.map outline) := by
  decide +kernel

theorem read_invoicesText :
    (Except.ok invoicesText : Except Failure String).bind Plan.read = .ok invoicesPlan := by
  have seen := outline_invoicesText
  rw [Except.bind]
  generalize Plan.read invoicesText = answer at *
  cases answer with
  | error e => cases seen.1
  | ok p =>
    obtain ⟨settings, migrations⟩ := p
    obtain ⟨rfl, same⟩ := seen.imp Option.some.inj Option.some.inj
    obtain ⟨a, migrations, rfl, first, same⟩ := List.map_eq_cons_iff.1 same
    obtain ⟨z, migrations, rfl, second, same⟩ := List.map_eq_cons_iff.1 same
    obtain rfl := List.map_eq_nil_iff.1 same
    rw [eq_of_outline first rfl rfl, eq_of_outline second rfl rfl]
    rfl

theorem check_invoicesPlan : invoicesPlan.Accepted := by
  unfold Accepted
  cbv

/-- The plan of two migrations is accepted, and everything that looks at it later accepts it. -/
theorem invoicesPlan_accepted :
    (invoicesPlan.ids.Nodup ∧ invoicesPlan.settings.options.validation = .require ∧
      invoicesPlan.Accepted) ∧
    (invoicesPlan.Complete ∧ invoicesPlan.Ordered) ∧ invoicesPlan.graph.validate = .ok () ∧
    (∀ (w : World) (env : Environment), w.graph = Graph.empty →
      (w.prepare env invoicesPlan.settings.options invoicesPlan.generators).2 = .ok ()) ∧
    ∀ a : CommandLine.Arguments, (a.run (.ok invoicesText)).result = .ok () := by
  have distinct : invoicesPlan.ids.Nodup := by decide
  obtain ⟨require, -, later, -⟩ := accepted_exact distinct
  obtain ⟨sound, prepared, shown⟩ := later check_invoicesPlan
  exact ⟨⟨distinct, rfl, check_invoicesPlan⟩, (require rfl).1.1 check_invoicesPlan, sound rfl,
    prepared, fun a => shown a (.ok invoicesText) read_invoicesText⟩

end Plan

end GatedMigration
