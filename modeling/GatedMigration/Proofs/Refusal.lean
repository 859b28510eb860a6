import GatedMigration.Proofs.Acceptance
import GatedMigration.Proofs.Additions
import GatedMigration.Proofs.Groups

/-!
# What a refused run leaves behind

The preparation of a run puts the migrations into the dependency graph before it knows whether it
will refuse them, and nothing is ever taken out of the graph. So a refused run leaves behind every
migration up to the first whose identifier is repeated (`uptoRepeat`, `World.prepare_graph`).
Whether a later list of migrations is accepted is decided on the graph with these in it
(`World.prepare_eq_ok_iff`).

* `World.refused_prepare_exact`: what a refused run leaves behind, and which lists are accepted
  after it.
* `World.accepted_after_refusal`: a list that repeats what was left behind fares as if nothing had
  been.
* `World.refused_after_cycle`: after a cycle was refused, everything is refused.
-/

namespace GatedMigration

/-! ## The migrations that are left behind -/

/-- The migrations of a list up to the first whose identifier stands before it or has been seen. -/
def uptoRepeat : List Generator → List Identifier → List Generator
  | [], _ => []
  | g :: rest, seen => if g.id ∈ seen then [] else g :: uptoRepeat rest (g.id :: seen)

/-- The migrations up to the first repetition have different identifiers, and behind them nothing
follows or an identifier that was there before. -/
theorem uptoRepeat_spec (generators : List Generator) (seen : List Identifier) :
    ∃ rest, generators = uptoRepeat generators seen ++ rest ∧
      ((uptoRepeat generators seen).map Generator.id).Nodup ∧
      (∀ g ∈ uptoRepeat generators seen, g.id ∉ seen) ∧
      ∀ g ∈ rest.head?, g.id ∈ seen ∨ g.id ∈ (uptoRepeat generators seen).map Generator.id := by
  induction generators generalizing seen with
  | nil => exact ⟨[], rfl, List.nodup_nil, by simp [uptoRepeat], by simp⟩
  | cons g rest ih =>
    rw [uptoRepeat]
    split
    · rename_i old
      exact ⟨g :: rest, rfl, List.nodup_nil, by simp, by simpa using old⟩
    rename_i new
    obtain ⟨others, parts, distinct, unseen, repeats⟩ := ih (g.id :: seen)
    refine ⟨others, by rw [List.cons_append, ← parts], ?_, ?_, fun g' head => ?_⟩
    · refine List.nodup_cons.2 ⟨fun mem => ?_, distinct⟩
      obtain ⟨g', mem', same⟩ := List.mem_map.1 mem
      exact unseen g' mem' (same ▸ List.mem_cons_self)
    · refine List.forall_mem_cons.2 ⟨new, fun g' mem old => ?_⟩
      exact unseen g' mem (List.mem_cons_of_mem _ old)
    · rw [List.map_cons, List.mem_cons]
      rcases repeats g' head with old | again
      · rcases List.mem_cons.1 old with first | old
        · exact Or.inr (Or.inl first)
        · exact Or.inl old
      · exact Or.inr (Or.inr again)

/-- Nothing is left out just if no identifier is repeated. -/
theorem uptoRepeat_eq_self_iff {generators : List Generator} :
    uptoRepeat generators [] = generators ↔ (generators.map Generator.id).Nodup := by
  obtain ⟨rest, parts, distinct, -, repeats⟩ := uptoRepeat_spec generators []
  refine ⟨fun all => all ▸ distinct, fun distinct => ?_⟩
  cases rest with
  | nil => exact (parts.trans (List.append_nil _)).symm
  | cons g rest =>
    have again := (repeats g rfl).resolve_left List.not_mem_nil
    rw [parts, List.map_append, List.nodup_append, List.map_cons] at distinct
    exact absurd rfl (distinct.2.2 _ again _ List.mem_cons_self)

namespace Graph

variable {g : Graph} {left later : List Migration}

theorem problems_of_validate {e : GraphError} (unsound : g.validate = .error e) :
    e.problems = g.problems := by
  rcases g.validate_cases with ⟨sound, -⟩ | ⟨all, -⟩
  · cases sound.symm.trans unsound
  · cases all.symm.trans unsound
    rfl

theorem groups_foldl_enter (ms : List Migration) (g : Graph) :
    (ms.foldl enter g).groups = g.groups := by
  induction ms generalizing g with
  | nil => rfl
  | cons m ms ih => exact ih (g.enter m)

/-- A graph is its groups, its nodes and its dependencies. -/
theorem ext_network {g g' : Graph} (groups : g.groups = g'.groups)
    (nodes : ∀ a, g.isNode a = true ↔ g'.isNode a = true)
    (depends : ∀ a b, g.Depends a b ↔ g'.Depends a b) : g = g' := by
  have edges : g.edges = g'.edges := IdMap.ext_members nodes depends
  obtain ⟨_, _⟩ := g
  obtain ⟨_, _⟩ := g'
  cases edges
  cases groups
  rfl

/-- Migrations change nothing in a graph just if it knows them and what they come after. -/
theorem foldl_enter_eq_self_iff : left.foldl enter g = g ↔
    ∀ m ∈ left, g.isNode m.id = true ∧ ∀ b ∈ m.after, g.Depends m.id b := by
  constructor
  · intro same m mem
    constructor
    · rw [← same, isNode_foldl_enter]
      exact Or.inr (List.mem_map_of_mem mem)
    · intro b after
      rw [← same, depends_foldl_enter]
      exact Or.inr ⟨m, mem, rfl, after⟩
  · intro known
    refine ext_network (groups_foldl_enter left g)
      (fun a => (isNode_foldl_enter left g a).trans (or_iff_left_of_imp fun mem => ?_))
      fun a b => (depends_foldl_enter left g a b).trans (or_iff_left_of_imp ?_)
    · obtain ⟨m, there, rfl⟩ := List.mem_map.1 mem
      exact (known m there).1
    · rintro ⟨m, mem, rfl, after⟩
      exact (known m mem).2 b after

/-- Migrations leave no trace beside others that say the same and more. -/
theorem foldl_enter_beside
    (repeated : ∀ m ∈ left, ∃ m' ∈ later, m'.id = m.id ∧ m.after ⊆ m'.after) :
    later.foldl enter (left.foldl enter g) = later.foldl enter g := by
  refine ext_network ?_ (fun a => ?_) fun a b => ?_
  · rw [groups_foldl_enter, groups_foldl_enter, groups_foldl_enter]
  · rw [isNode_foldl_enter, isNode_foldl_enter, isNode_foldl_enter, or_assoc]
    refine or_congr_right (or_iff_right_of_imp fun mem => ?_)
    obtain ⟨m, there, rfl⟩ := List.mem_map.1 mem
    obtain ⟨m', mem', same, -⟩ := repeated m there
    exact List.mem_map.2 ⟨m', mem', same⟩
  · rw [depends_foldl_enter, depends_foldl_enter, depends_foldl_enter, or_assoc]
    refine or_congr_right (or_iff_right_of_imp ?_)
    rintro ⟨m, mem, rfl, after⟩
    obtain ⟨m', mem', same, more⟩ := repeated m mem
    exact ⟨m', mem', same, more after⟩

/-- Migrations that are in a graph besides do no harm to others: whatever they come after is there,
and no cycle comes about. -/
structure Harmless (g : Graph) (left later : List Migration) : Prop where
  known : ∀ m ∈ left, ∀ b ∈ m.after, g.isNode b = true ∨ b ∈ (left ++ later).map Migration.id
  acyclic : ∀ a, ¬Relation.TransGen
    (fun a b => g.Depends a b ∨ ∃ m ∈ left ++ later, m.id = a ∧ b ∈ m.after) a a

/-- If migrations are sound without others, they are so beside them just if these do no harm. -/
theorem validate_beside_iff (sound : (later.foldl enter g).validate = .ok ()) :
    (later.foldl enter (left.foldl enter g)).validate = .ok () ↔ g.Harmless left later := by
  rw [validate_eq_ok_iff_problems, problems_eq_nil_iff] at sound ⊢
  have depends : (later.foldl enter (left.foldl enter g)).Depends =
      fun a b => g.Depends a b ∨ ∃ m ∈ left ++ later, m.id = a ∧ b ∈ m.after := by
    funext a b
    rw [← List.foldl_append, depends_foldl_enter]
  rw [depends, ← List.foldl_append]
  simp only [isNode_foldl_enter, depends_foldl_enter] at sound ⊢
  constructor
  · rintro ⟨known, acyclic⟩
    exact ⟨fun m mem b after =>
      known m.id b (Or.inr ⟨m, List.mem_append_left _ mem, rfl, after⟩), acyclic⟩
  · rintro ⟨known, acyclic⟩
    refine ⟨fun a b edge => ?_, acyclic⟩
    -- What is depended on without the others is a node without them already.
    have widen (there : g.isNode b = true ∨ b ∈ later.map Migration.id) :
        g.isNode b = true ∨ b ∈ (left ++ later).map Migration.id :=
      there.imp_right fun mem => by
        rw [List.map_append]
        exact List.mem_append_right _ mem
    rcases edge with edge | ⟨m, mem, rfl, after⟩
    · exact widen (sound.1 a b (Or.inl edge))
    · rcases List.mem_append.1 mem with mem | mem
      · exact known m mem b after
      · exact widen (sound.1 m.id b (Or.inr ⟨m, mem, rfl, after⟩))

end Graph

namespace World

variable {w w' : World} {env : Environment} {options : RunOptions} {generators : List Generator}

/-! ## What the preparation of a run does -/

theorem enterAll_eq (env : Environment) (generators : List Generator) (seen : List Identifier)
    (w : World) : (w.enterAll env generators seen).1.graph =
        ((uptoRepeat generators seen).map Generator.migration).foldl Graph.enter w.graph ∧
      ((w.enterAll env generators seen).2 = .ok () ↔ uptoRepeat generators seen = generators) := by
  induction generators generalizing seen w with
  | nil => exact ⟨rfl, iff_of_true rfl rfl⟩
  | cons g rest ih =>
    rw [enterAll, uptoRepeat]
    split
    · exact ⟨rfl, iff_of_false (fun h => by cases h) fun h => by cases h⟩
    · obtain ⟨graph, answer⟩ := ih (g.id :: seen) (w.enter env g)
      rw [List.map_cons, List.foldl_cons, ← enter_graph w env]
      exact ⟨graph, answer.trans (List.cons_inj_right g).symm⟩

theorem enterAll_error {seen : List Identifier} {e : Failure}
    (refused : (w.enterAll env generators seen).2 = .error e) : ∃ text, e = .config text := by
  induction generators generalizing seen w with
  | nil => cases refused
  | cons g rest ih =>
    rw [enterAll] at refused
    split at refused
    · cases refused
      exact ⟨_, rfl⟩
    · exact ih refused

theorem checkGraph_graph (w : World) (policy : ValidationPolicy) :
    (w.checkGraph policy).1.graph = w.graph := by
  unfold checkGraph
  split
  · rfl
  · rfl
  · obtain ⟨journal, warned⟩ := w.warnAll_frame _
    rw [warned]

theorem checkGraph_eq_ok_iff {policy : ValidationPolicy} :
    (w.checkGraph policy).2 = .ok () ↔ (policy = .require → w.graph.validate = .ok ()) := by
  refine ⟨fun passes require => ?_, checkGraph_ok⟩
  subst require
  unfold checkGraph at passes
  cases sound : w.graph.validate with
  | ok => rfl
  | error e =>
    rw [sound] at passes
    cases passes

/-- Whether a run is refused or not, its migrations are in the graph then, up to the first whose
identifier is repeated. -/
theorem prepare_graph (w : World) (env : Environment) (options : RunOptions)
    (generators : List Generator) : (w.prepare env options generators).1.graph =
      ((uptoRepeat generators []).map Generator.migration).foldl Graph.enter w.graph := by
  rw [← (enterAll_eq env generators [] w).1]
  unfold prepare
  generalize w.enterAll env generators [] = r
  obtain ⟨w', _ | _⟩ := r
  · rfl
  · exact checkGraph_graph w' _

/-- A run is prepared just if no identifier is repeated and the graph with all its migrations in it
is sound, or the policy only warns of it. -/
theorem prepare_eq_ok_iff : (w.prepare env options generators).2 = .ok () ↔
    (generators.map Generator.id).Nodup ∧ (options.validation = .require →
      ((generators.map Generator.migration).foldl Graph.enter w.graph).validate = .ok ()) := by
  obtain ⟨graph, entered⟩ := enterAll_eq env generators [] w
  unfold prepare
  generalize w.enterAll env generators [] = r at *
  obtain ⟨w', e | _⟩ := r
  · have repeats := (not_congr entered).1 fun h => by cases h
    exact iff_of_false (fun h => by cases h) fun h => repeats (uptoRepeat_eq_self_iff.2 h.1)
  · have all := entered.1 rfl
    rw [all] at graph
    rw [← graph, and_iff_right (uptoRepeat_eq_self_iff.1 all)]
    exact checkGraph_eq_ok_iff

/-- A graph is refused with all its problems. -/
theorem prepare_invalidGraph {problems : GraphError}
    (refused : w.prepare env options generators = (w', .error (.invalidGraph problems))) :
    problems.problems = w'.graph.problems := by
  have entered (e : Failure) (stopped : (w.enterAll env generators []).2 = .error e) :
      ∃ text, e = .config text := enterAll_error stopped
  unfold prepare at refused
  generalize w.enterAll env generators [] = r at *
  obtain ⟨w₁, e | _⟩ := r
  · obtain ⟨text, config⟩ := entered e rfl
    rw [config] at refused
    cases refused
  · dsimp only at refused
    unfold checkGraph at refused
    split at refused
    · cases refused
    · rename_i unsound _
      cases refused
      exact Graph.problems_of_validate unsound
    · cases refused

/-- The policy decides what an unsound graph leads to. -/
theorem warn_or_iff {policy : ValidationPolicy} {p : Prop} :
    (policy = .require → p) ↔ policy = .warn ∨ p := by
  cases policy <;> simp

/-! ## Refused runs -/

/-- A list that repeats what was left behind, each with all that it came after and maybe more, fares
as if nothing had been refused before. -/
theorem accepted_after_refusal {later : List Generator} {options' : RunOptions}
    (repeated : ∀ g ∈ uptoRepeat generators [], ∃ g' ∈ later,
      g'.id = g.id ∧ g.migration.after ⊆ g'.migration.after) :
    ((w.prepare env options generators).1.prepare env options' later).2 = .ok () ↔
      (w.prepare env options' later).2 = .ok () := by
  rw [prepare_eq_ok_iff, prepare_eq_ok_iff, prepare_graph, Graph.foldl_enter_beside]
  intro m mem
  obtain ⟨g, there, rfl⟩ := List.mem_map.1 mem
  obtain ⟨g', mem', same⟩ := repeated g there
  exact ⟨g'.migration, List.mem_map_of_mem mem', same⟩

/-- Once a cycle was refused, every list is refused, unless the policy only warns. -/
theorem refused_after_cycle {problems : GraphError} {cycle : List Identifier}
    (refused : w.prepare env options generators = (w', .error (.invalidGraph problems)))
    (mem : .cycle cycle ∈ problems.problems) {options' : RunOptions}
    (require : options'.validation = .require) (later : List Generator) :
    (w'.prepare env options' later).2 ≠ .ok () := by
  intro accepted
  rw [prepare_invalidGraph refused, Graph.mem_problems] at mem
  obtain ⟨_, same, -⟩ | ⟨c, same, isCycle⟩ := mem
  · cases same
  cases same
  obtain ⟨-, a, back, -⟩ := Graph.isCycle_iff.1 isCycle
  have sound := (prepare_eq_ok_iff.1 accepted).2 require
  rw [Graph.validate_eq_ok_iff_problems, Graph.problems_eq_nil_iff] at sound
  have kept (a b : Identifier) (edge : w'.graph.Depends a b) :
      ((later.map Generator.migration).foldl Graph.enter w'.graph).Depends a b :=
    (Graph.depends_foldl_enter _ _ a b).2 (Or.inl edge)
  exact sound.2 a (Relation.TransGen.mono kept _ _ back)

/-- A refused run leaves behind what the graph did not know of the migrations up to the first whose
identifier is repeated, and nothing else is changed but the journal. A list of migrations that would
have been accepted is still accepted just if what is left behind does no harm to it, or the policy
only warns. -/
theorem refused_prepare_exact {e : Failure}
    (refused : w.prepare env options generators = (w', .error e)) :
    let left := (uptoRepeat generators []).map Generator.migration
    (∃ rest, generators = uptoRepeat generators [] ++ rest ∧ (left.map Migration.id).Nodup ∧
      ∀ g ∈ rest.head?, g.id ∈ left.map Migration.id) ∧
    (∃ journal, w' = { w with graph := w'.graph, journal }) ∧
    ((∀ a, w'.graph.isNode a = true ↔ w.graph.isNode a = true ∨ a ∈ left.map Migration.id) ∧
      (∀ a b, w'.graph.Depends a b ↔
        w.graph.Depends a b ∨ ∃ m ∈ left, m.id = a ∧ b ∈ m.after) ∧
      ∀ a, w'.graph.getGroup a = w.graph.getGroup a) ∧
    (w'.graph = w.graph ↔
      ∀ m ∈ left, w.graph.isNode m.id = true ∧ ∀ b ∈ m.after, w.graph.Depends m.id b) ∧
    ∀ (options' : RunOptions) (later : List Generator),
      (w.prepare env options' later).2 = .ok () →
      ((w'.prepare env options' later).2 = .ok () ↔ options'.validation = .warn ∨
        w.graph.Harmless left (later.map Generator.migration)) := by
  intro left
  have graph : w'.graph = left.foldl Graph.enter w.graph := by
    rw [← w.prepare_graph env options generators, refused]
  have ids : left.map Migration.id = (uptoRepeat generators []).map Generator.id := List.map_map
  obtain ⟨rest, parts, distinct, -, repeats⟩ := uptoRepeat_spec generators []
  obtain ⟨_, journal, frame⟩ := prepare_frame refused
  refine ⟨⟨rest, parts, ids ▸ distinct, fun g head => ?_⟩, ⟨journal, by rw [frame]⟩,
    ⟨fun a => ?_, fun a b => ?_, prepare_getGroup refused⟩, ?_, fun options' later accepted => ?_⟩
  · exact ids ▸ (repeats g head).resolve_left List.not_mem_nil
  · rw [graph]
    exact Graph.isNode_foldl_enter left w.graph a
  · rw [graph]
    exact Graph.depends_foldl_enter left w.graph a b
  · rw [graph]
    exact Graph.foldl_enter_eq_self_iff
  · obtain ⟨distinct, sound⟩ := prepare_eq_ok_iff.1 accepted
    rw [prepare_eq_ok_iff, and_iff_right distinct, warn_or_iff, graph]
    rw [warn_or_iff] at sound
    rcases sound with warns | sound
    · exact iff_of_true (Or.inl warns) (Or.inl warns)
    · rw [Graph.validate_beside_iff sound]

end World

namespace Sample

/-- A migration of the customers, which comes after no other. -/
def customers : Generator := .new ⟨"k", ⟨"db", "customers"⟩, ⟨[]⟩, "mark", none, none, []⟩

/-- The orders, put behind their invoices. -/
def lateOrders : Generator := .new ⟨"z", ⟨"db", "orders"⟩, ⟨[]⟩, "mark", none, none, ["a"]⟩

/-- The world in which the customers have been prepared. -/
def customersKnown : World := (World.initial.prepare env {} [customers]).1

/-- The world after the invoices were refused because there were no orders. -/
def invoicesRefused : World := (customersKnown.prepare env {} [invoices]).1

/-- The world after orders and invoices were refused because each came after the other. -/
def crossedRefused : World := (customersKnown.prepare env {} [lateOrders, invoices]).1

theorem generators_accepted : (customersKnown.prepare env {} generators).2 = .ok () := rfl

end Sample

namespace World

theorem invoices_accepted_with_orders :
    Sample.customersKnown.prepare Sample.env {} [Sample.invoices] =
      (Sample.invoicesRefused, .error (.invalidGraph ⟨[.missing "z"]⟩)) ∧
    Sample.invoicesRefused.graph.isNode "a" = true ∧
    Sample.customersKnown.graph.isNode "a" = false ∧
    Sample.customersKnown.graph.Harmless [Sample.invoices.migration]
      (Sample.generators.map Generator.migration) ∧
    (Sample.invoicesRefused.prepare Sample.env {} Sample.generators).2 = .ok () := by
  have refused : Sample.customersKnown.prepare Sample.env {} [Sample.invoices] =
      (Sample.invoicesRefused, .error (.invalidGraph ⟨[.missing "z"]⟩)) := rfl
  obtain ⟨-, -, ⟨nodes, -, -⟩, -, later⟩ := refused_prepare_exact refused
  have accepted : (Sample.invoicesRefused.prepare Sample.env {} Sample.generators).2 = .ok () := rfl
  have harmless := (later {} Sample.generators Sample.generators_accepted).1 accepted
  refine ⟨refused, (nodes "a").2 (Or.inr List.mem_cons_self), rfl, ?_, accepted⟩
  exact harmless.resolve_left fun h => by cases h

/-- The refused attempt is still in the graph, and so the list that corrects it is refused too. -/
theorem crossed_not_forgotten :
    Sample.customersKnown.graph.isNode "k" = true ∧
    Sample.customersKnown.prepare Sample.env {} [Sample.lateOrders, Sample.invoices] =
      (Sample.crossedRefused, .error (.invalidGraph ⟨[.cycle ["a", "z"]]⟩)) ∧
    Sample.crossedRefused.graph ≠ Sample.customersKnown.graph ∧
    (Sample.customersKnown.prepare Sample.env {} Sample.generators).2 = .ok () ∧
    (Sample.crossedRefused.prepare Sample.env {} Sample.generators).2 =
      .error (.invalidGraph ⟨[.cycle ["a", "z"]]⟩) := by
  refine ⟨rfl, rfl, fun same => ?_, rfl, rfl⟩
  have node : Sample.crossedRefused.graph.isNode "a" = true := rfl
  rw [same] at node
  cases node

end World

end GatedMigration
