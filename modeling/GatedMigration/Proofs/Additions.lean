import GatedMigration.Graph.Text
import GatedMigration.Proofs.Problems

/-!
# A graph is what was added to it

A graph is filled by additions of dependencies, of nodes and of members of groups
(`Graph.Addition`). Each addition states some facts, and what a graph knows after several additions
are the facts that they state (`Graph.knows_joinAll`): their order, their portions and their
repetition are lost. The answers of a graph about nodes and dependencies follow from the facts about
these (`Graph.edges_eq`), and those about groups from the facts about groups (`Graph.getGroup_eq`).

* `Graph.determined_by_facts`: additions that state the same facts lead to the same answers.
-/

namespace GatedMigration

/-! ## Joining a set to the one under an identifier -/

namespace IdMap

variable {m : IdMap IdSet} {id a b : Identifier} {ids : List Identifier}

theorem contains_joinAt :
    (m.joinAt id ids).contains a = true ↔ m.contains a = true ∨ a = id ∧ ids ≠ [] := by
  cases ids with
  | nil => simp [joinAt]
  | cons x xs =>
    have some : ¬(x :: xs).isEmpty = true := Bool.false_ne_true
    rw [joinAt, if_neg some, contains_insert]
    simp [or_comm]

theorem mem_members_joinAt :
    b ∈ (m.joinAt id ids).members a ↔ b ∈ m.members a ∨ a = id ∧ b ∈ ids := by
  cases ids with
  | nil => simp [joinAt]
  | cons x xs =>
    have some : ¬(x :: xs).isEmpty = true := Bool.false_ne_true
    rw [joinAt, if_neg some, members, members]
    by_cases self : a = id
    · subst self
      rw [find?_insert_self, Option.getD_some]
      refine IdSet.mem_insertAll.trans (or_congr_right ?_)
      simp
    · rw [find?_insert_of_ne _ self]
      simp [self]

theorem members_ascending (m : IdMap IdSet) (a : Identifier) : (m.members a).Pairwise (· < ·) :=
  ((m.find? a).getD IdSet.empty).ascending

/-- Sets under one identifier that have the same members are listed alike. -/
theorem members_eq {m m' : IdMap IdSet} (h : ∀ b, b ∈ m.members a ↔ b ∈ m'.members a) :
    m.members a = m'.members a :=
  congrArg IdSet.toList (IdSet.ext_mem h)

/-- A map of sets is its identifiers and their members. -/
theorem ext_members {m m' : IdMap IdSet}
    (known : ∀ a, m.contains a = true ↔ m'.contains a = true)
    (same : ∀ a b, b ∈ m.members a ↔ b ∈ m'.members a) : m = m' := by
  refine ext_find? fun a => ?_
  have set : (m.find? a).getD IdSet.empty = (m'.find? a).getD IdSet.empty :=
    IdSet.ext_mem (same a)
  have known := known a
  unfold contains at known
  cases found : m.find? a <;> cases found' : m'.find? a <;> simp_all

end IdMap

namespace Graph

/-! ## Facts and additions -/

/-- What there is to know of a graph. -/
inductive Fact where
  | node (id : Identifier)
  /-- One identifier depends on another. -/
  | dependency (id dep : Identifier)
  | member (group id : Identifier)
deriving DecidableEq

/-- One addition to a graph. -/
inductive Addition where
  | dependencies (id : Identifier) (deps : List Identifier)
  | node (id : Identifier)
  | members (group : Identifier) (ids : List Identifier)
deriving DecidableEq

/-- What an addition states. Whatever depends on something is a node; an addition of nothing states
nothing. -/
def Addition.facts : Addition → List Fact
  | dependencies id deps => deps.flatMap fun dep => [.node id, .dependency id dep]
  | node id => [.node id]
  | members group ids => ids.map (.member group)

/-- What several additions state. -/
def facts (xs : List Addition) : List Fact := xs.flatMap Addition.facts

/-- The graph with one more addition. -/
def join (g : Graph) : Addition → Graph
  | .dependencies id deps => g.add id deps
  | .node id => g.addNode id
  | .members group ids => g.addGroup group ids

/-- The graph with several more additions, one after the other. -/
def joinAll (g : Graph) (xs : List Addition) : Graph := xs.foldl join g

/-- The graph that some additions lead to. -/
def ofAdditions (xs : List Addition) : Graph := empty.joinAll xs

/-- What a graph knows. -/
def Knows (g : Graph) : Fact → Prop
  | .node id => g.isNode id = true
  | .dependency id dep => dep ∈ g.resolve id
  | .member group id => id ∈ g.getGroup group

namespace Addition

variable {id a b : Identifier} {deps : List Identifier}

@[simp] theorem node_mem_dependencies :
    .node a ∈ (dependencies id deps).facts ↔ a = id ∧ deps ≠ [] := by
  cases deps with
  | nil => simp [facts]
  | cons dep deps => simp [facts]

@[simp] theorem dependency_mem_dependencies :
    .dependency a b ∈ (dependencies id deps).facts ↔ a = id ∧ b ∈ deps := by
  rw [and_comm]
  simp [facts]

@[simp] theorem member_mem_members :
    .member a b ∈ (members id deps).facts ↔ a = id ∧ b ∈ deps := by
  rw [and_comm, eq_comm]
  simp [facts]

@[simp] theorem mem_node {f : Fact} : f ∈ (node id).facts ↔ f = .node id := by
  simp [facts]

@[simp] theorem member_notMem_dependencies : .member a b ∉ (dependencies id deps).facts := by
  simp [facts]

@[simp] theorem node_notMem_members : .node a ∉ (members id deps).facts := by
  simp [facts]

@[simp] theorem dependency_notMem_members : .dependency a b ∉ (members id deps).facts := by
  simp [facts]

end Addition

/-! ## What a graph knows -/

theorem knows_join (g : Graph) (x : Addition) (f : Fact) :
    (g.join x).Knows f ↔ g.Knows f ∨ f ∈ x.facts := by
  cases x with
  | dependencies id deps =>
    cases f with
    | node a =>
      rw [Addition.node_mem_dependencies]
      exact IdMap.contains_joinAt
    | dependency a b =>
      rw [Addition.dependency_mem_dependencies]
      exact IdMap.mem_members_joinAt
    | member a b =>
      rw [or_iff_left Addition.member_notMem_dependencies]
      rfl
  | node id =>
    rw [Addition.mem_node]
    cases f with
    | node a =>
      rw [Fact.node.injEq, or_comm]
      exact IdMap.contains_insert _ _ _ _
    | dependency a b => simp [Knows, join]
    | member a b =>
      rw [or_iff_left Fact.noConfusion]
      rfl
  | members group ids =>
    cases f with
    | member a b =>
      rw [Addition.member_mem_members]
      exact IdMap.mem_members_joinAt
    | node a =>
      rw [or_iff_left Addition.node_notMem_members]
      rfl
    | dependency a b =>
      rw [or_iff_left Addition.dependency_notMem_members]
      rfl

theorem knows_joinAll (g : Graph) (xs : List Addition) (f : Fact) :
    (g.joinAll xs).Knows f ↔ g.Knows f ∨ f ∈ facts xs := by
  induction xs generalizing g with
  | nil => simp [joinAll, facts]
  | cons x xs ih =>
    refine (ih (g.join x)).trans ?_
    rw [knows_join, facts, facts, List.flatMap_cons, List.mem_append, or_assoc]

/-- A graph knows what was added to it. -/
theorem knows_ofAdditions (xs : List Addition) (f : Fact) :
    (ofAdditions xs).Knows f ↔ f ∈ facts xs := by
  refine (knows_joinAll empty xs f).trans (or_iff_right fun known => ?_)
  cases f <;> cases known

variable {xs ys : List Addition}

theorem mem_nodes_ofAdditions {a : Identifier} :
    a ∈ (ofAdditions xs).nodes ↔ .node a ∈ xs ∨ ∃ deps, deps ≠ [] ∧ .dependencies a deps ∈ xs := by
  refine mem_nodes.trans ((knows_ofAdditions xs (.node a)).trans (List.mem_flatMap.trans ?_))
  constructor
  · rintro ⟨_ | _ | _, mem, stated⟩
    · obtain ⟨rfl, some⟩ := Addition.node_mem_dependencies.1 stated
      exact Or.inr ⟨_, some, mem⟩
    · cases Addition.mem_node.1 stated
      exact Or.inl mem
    · exact absurd stated Addition.node_notMem_members
  · rintro (mem | ⟨deps, some, mem⟩)
    · exact ⟨_, mem, Addition.mem_node.2 rfl⟩
    · exact ⟨_, mem, Addition.node_mem_dependencies.2 ⟨rfl, some⟩⟩

theorem mem_resolve_ofAdditions {a b : Identifier} :
    b ∈ (ofAdditions xs).resolve a ↔ ∃ deps, .dependencies a deps ∈ xs ∧ b ∈ deps := by
  refine (knows_ofAdditions xs (.dependency a b)).trans (List.mem_flatMap.trans ?_)
  constructor
  · rintro ⟨_ | _ | _, mem, stated⟩
    · obtain ⟨rfl, dep⟩ := Addition.dependency_mem_dependencies.1 stated
      exact ⟨_, mem, dep⟩
    · cases Addition.mem_node.1 stated
    · exact absurd stated Addition.dependency_notMem_members
  · rintro ⟨deps, mem, dep⟩
    exact ⟨_, mem, Addition.dependency_mem_dependencies.2 ⟨rfl, dep⟩⟩

theorem mem_getGroup_ofAdditions {a b : Identifier} :
    b ∈ (ofAdditions xs).getGroup a ↔ ∃ ids, .members a ids ∈ xs ∧ b ∈ ids := by
  refine (knows_ofAdditions xs (.member a b)).trans (List.mem_flatMap.trans ?_)
  constructor
  · rintro ⟨_ | _ | _, mem, stated⟩
    · exact absurd stated Addition.member_notMem_dependencies
    · cases Addition.mem_node.1 stated
    · obtain ⟨rfl, id⟩ := Addition.member_mem_members.1 stated
      exact ⟨_, mem, id⟩
  · rintro ⟨ids, mem, id⟩
    exact ⟨_, mem, Addition.member_mem_members.2 ⟨rfl, id⟩⟩

/-! ## What a graph answers -/

/-- Two graphs answer all questions about nodes and dependencies alike, and are shown alike. -/
structure SameNetwork (g g' : Graph) : Prop where
  nodes : g.nodes = g'.nodes
  network : g.network = g'.network
  resolve : ∀ id, g.resolve id = g'.resolve id
  validate : g.validate = g'.validate
  display : g.display = g'.display
  pretty : g.toJson.pretty = g'.toJson.pretty
  compact : g.toJson.compact = g'.toJson.compact

/-- The dependencies decide, whatever the groups are. -/
theorem SameNetwork.of_edges {g g' : Graph} (h : g.edges = g'.edges) : SameNetwork g g' := by
  obtain ⟨edges, groups⟩ := g
  obtain ⟨edges', groups'⟩ := g'
  obtain rfl : edges = edges' := h
  exact ⟨rfl, rfl, fun _ => rfl, rfl, rfl, rfl, rfl⟩

/-- Additions with the same facts about nodes and dependencies lead to the same dependencies. -/
theorem edges_eq (nodes : ∀ a, .node a ∈ facts xs ↔ .node a ∈ facts ys)
    (deps : ∀ a b, .dependency a b ∈ facts xs ↔ .dependency a b ∈ facts ys) :
    (ofAdditions xs).edges = (ofAdditions ys).edges :=
  IdMap.ext_members
    (fun a => (knows_ofAdditions xs (.node a)).trans
      ((nodes a).trans (knows_ofAdditions ys (.node a)).symm))
    fun a b => (knows_ofAdditions xs (.dependency a b)).trans
      ((deps a b).trans (knows_ofAdditions ys (.dependency a b)).symm)

/-- Additions with the same facts about groups lead to the same groups. -/
theorem getGroup_eq (members : ∀ a b, .member a b ∈ facts xs ↔ .member a b ∈ facts ys)
    (a : Identifier) : (ofAdditions xs).getGroup a = (ofAdditions ys).getGroup a :=
  IdMap.members_eq fun b => (knows_ofAdditions xs (.member a b)).trans
    ((members a b).trans (knows_ofAdditions ys (.member a b)).symm)

/-- Additions that state the same facts, however these are split, repeated or ordered, lead to
graphs that cannot be told apart. Facts about groups have no part in the answers about nodes and
dependencies, and the other facts have none in those about groups. What an identifier depends on is
all that was added for it, in ascending order and without repetition, and so it is with a group. -/
theorem determined_by_facts (xs ys : List Addition) :
    ((∀ a, .node a ∈ facts xs ↔ .node a ∈ facts ys) →
      (∀ a b, .dependency a b ∈ facts xs ↔ .dependency a b ∈ facts ys) →
      SameNetwork (ofAdditions xs) (ofAdditions ys)) ∧
    ((∀ a b, .member a b ∈ facts xs ↔ .member a b ∈ facts ys) →
      ∀ a, (ofAdditions xs).getGroup a = (ofAdditions ys).getGroup a) ∧
    (∀ a, a ∈ (ofAdditions xs).nodes ↔
      .node a ∈ xs ∨ ∃ deps, deps ≠ [] ∧ .dependencies a deps ∈ xs) ∧
    (∀ a, ((ofAdditions xs).resolve a).Pairwise (· < ·) ∧
      ∀ b, b ∈ (ofAdditions xs).resolve a ↔ ∃ deps, .dependencies a deps ∈ xs ∧ b ∈ deps) ∧
    ∀ a, ((ofAdditions xs).getGroup a).Pairwise (· < ·) ∧
      ∀ b, b ∈ (ofAdditions xs).getGroup a ↔ ∃ ids, .members a ids ∈ xs ∧ b ∈ ids := by
  refine ⟨fun nodes deps => ?_, fun members a => ?_, fun a => ?_, fun a => ?_, fun a => ?_⟩
  · exact .of_edges (edges_eq nodes deps)
  · exact getGroup_eq members a
  · exact mem_nodes_ofAdditions
  · exact ⟨IdMap.members_ascending _ a, fun b => mem_resolve_ofAdditions⟩
  · exact ⟨IdMap.members_ascending _ a, fun b => mem_getGroup_ofAdditions⟩

end Graph

namespace Sample

/-- The task `b` waits for `a` and `c` and has two tasks; only `c` is no node. -/
def atOnce : List Graph.Addition :=
  [.dependencies "b" ["c", "a"], .members "b" ["b.2.1", "b.1.0"], .node "a"]

/-- The same in another order, in portions that overlap, and with additions of nothing. -/
def inPortions : List Graph.Addition :=
  [.node "a", .members "c" [], .dependencies "b" ["a"], .members "b" ["b.1.0"],
    .dependencies "c" [], .dependencies "b" ["a", "c"], .members "b" ["b.1.0", "b.2.1"]]

end Sample

namespace Graph

theorem portions_lead_to_same_graph :
    (∀ f, f ∈ facts Sample.atOnce ↔ f ∈ facts Sample.inPortions) ∧
    SameNetwork (ofAdditions Sample.atOnce) (ofAdditions Sample.inPortions) ∧
    (∀ a, (ofAdditions Sample.atOnce).getGroup a = (ofAdditions Sample.inPortions).getGroup a) ∧
    (ofAdditions Sample.inPortions).resolve "b" = ["a", "c"] ∧
    (ofAdditions Sample.inPortions).validate = .error ⟨[.missing "c"]⟩ := by
  have there : facts Sample.atOnce ⊆ facts Sample.inPortions := by decide
  have back : facts Sample.inPortions ⊆ facts Sample.atOnce := by decide
  have same (f : Fact) : f ∈ facts Sample.atOnce ↔ f ∈ facts Sample.inPortions :=
    ⟨@there f, @back f⟩
  obtain ⟨network, groups, -⟩ := determined_by_facts Sample.atOnce Sample.inPortions
  have network := network (fun _ => same _) fun _ _ => same _
  refine ⟨same, network, groups fun _ _ => same _, ?_, ?_⟩
  · rw [← network.resolve]
    decide +kernel
  · rw [← network.validate]
    decide +kernel

end Graph

end GatedMigration
