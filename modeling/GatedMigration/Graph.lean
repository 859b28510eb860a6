import GatedMigration.Keyed

/-!
# Dependency graphs

A dependency graph holds what depends on what, and which tasks a migration fanned out into (its
group). Both only ever grow by union, and neither influences the other: the order and the
repetition of what is added leave no trace.

* `resolve_addNode`, `resolve_add_self`, `resolve_add_of_ne`: what additions do to dependencies.
* `getGroup_addGroup_self`, `getGroup_addGroup_of_ne`: what they do to groups.
-/

namespace GatedMigration

/-- What depends on what, and the groups of tasks. -/
structure Graph where
  /-- The dependencies of each node. -/
  edges : IdMap IdSet
  /-- The members of each group. -/
  groups : IdMap IdSet
deriving Inhabited

/-- A set joined to the one under an identifier; the empty list adds nothing, not even a key. -/
def IdMap.joinAt (m : IdMap IdSet) (id : Identifier) (ids : List Identifier) : IdMap IdSet :=
  if ids.isEmpty then m else m.insert id (((m.find? id).getD IdSet.empty).insertAll ids)

/-- The members under an identifier, none if it is unknown. -/
def IdMap.members (m : IdMap IdSet) (id : Identifier) : List Identifier :=
  ((m.find? id).getD IdSet.empty).toList

namespace Graph

/-- The graph without nodes and groups. -/
def empty : Graph := ⟨IdMap.empty, IdMap.empty⟩

/-- `id` depends on every entry of `deps`; without an entry nothing is recorded. -/
def add (g : Graph) (id : Identifier) (deps : List Identifier) : Graph :=
  { g with edges := g.edges.joinAt id deps }

/-- `id` is a node, whether it depends on something or not. -/
def addNode (g : Graph) (id : Identifier) : Graph :=
  { g with edges := g.edges.insert id ((g.edges.find? id).getD IdSet.empty) }

/-- Every entry of `members` is in the group of `id`; without an entry nothing is recorded. -/
def addGroup (g : Graph) (id : Identifier) (members : List Identifier) : Graph :=
  { g with groups := g.groups.joinAt id members }

/-- The dependencies of a node in ascending order; none if it is unknown. -/
def resolve (g : Graph) (id : Identifier) : List Identifier := g.edges.members id

/-- The members of a group in ascending order; none if it is unknown. -/
def getGroup (g : Graph) (id : Identifier) : List Identifier := g.groups.members id

/-- The nodes in ascending order. -/
def nodes (g : Graph) : List Identifier := g.edges.keys

/-- Whether an identifier is a node. -/
def isNode (g : Graph) (id : Identifier) : Bool := g.edges.contains id

/-- The nodes in ascending order, each with its dependencies in ascending order. -/
def network (g : Graph) : List (Identifier × List Identifier) :=
  g.edges.toList.map fun p => (p.1, p.2.toList)

theorem mem_resolve {g : Graph} {a b : Identifier} :
    b ∈ g.resolve a ↔ b ∈ (g.edges.find? a).getD IdSet.empty := Iff.rfl

@[simp] theorem resolve_addNode (g : Graph) (id a : Identifier) :
    (g.addNode id).resolve a = g.resolve a := by
  unfold resolve addNode IdMap.members
  by_cases h : a = id
  · simp [h]
  · simp [IdMap.find?_insert_of_ne _ h]

theorem mem_resolve_add_self {g : Graph} {id b : Identifier} {deps : List Identifier} :
    b ∈ (g.add id deps).resolve id ↔ b ∈ g.resolve id ∨ b ∈ deps := by
  unfold add IdMap.joinAt
  split
  · rename_i h
    simp [List.isEmpty_iff.1 h, resolve]
  · simp [mem_resolve]

theorem resolve_add_of_ne {g : Graph} {id a : Identifier} (h : a ≠ id) (deps : List Identifier) :
    (g.add id deps).resolve a = g.resolve a := by
  unfold add IdMap.joinAt
  split
  · rfl
  · simp [resolve, IdMap.members, IdMap.find?_insert_of_ne _ h]

theorem mem_getGroup_addGroup_self {g : Graph} {id b : Identifier} {members : List Identifier} :
    b ∈ (g.addGroup id members).getGroup id ↔ b ∈ g.getGroup id ∨ b ∈ members := by
  unfold addGroup IdMap.joinAt
  split
  · rename_i h
    simp [List.isEmpty_iff.1 h, getGroup]
  · simp only [getGroup, IdMap.members, IdMap.find?_insert_self, Option.getD_some]
    exact IdSet.mem_insertAll

theorem getGroup_addGroup_of_ne {g : Graph} {id a : Identifier} (h : a ≠ id)
    (members : List Identifier) : (g.addGroup id members).getGroup a = g.getGroup a := by
  unfold addGroup IdMap.joinAt
  split
  · rfl
  · simp [getGroup, IdMap.members, IdMap.find?_insert_of_ne _ h]

end Graph

end GatedMigration
