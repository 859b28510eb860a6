import GatedMigration.Graph.Text
import GatedMigration.Proofs.Decoding

/-!
# The JSON text of a graph tells its nodes and dependencies

A graph is written as an object from its nodes to the lists of what they depend on. There is no
number in it and it is not nested deep, so that both of its texts are read as what was written, as a
tree (`Json.parse_compact`, `Json.parse_pretty`) and as a value (`Graph.ofJson?_toJson`). The names
in the object are the nodes in ascending order, so none of them is lost or met twice.

* `Graph.network_read_back`: what the texts of a graph are read as, and which graphs share them.
-/

namespace GatedMigration.Graph

variable (g : Graph)

/-- A text is read as the nodes of a graph, each with what it depends on. -/
structure ReadFrom (text : String) : Prop where
  /-- Every node is a name in the text just once. -/
  tree : Json.parse text =
    some (.object (g.nodes.map fun id => (id, Json.strings (g.resolve id))))
  /-- What stands under a name is what the node depends on; only nodes are names. -/
  value : ∃ fields, Value.parse? text = some (.map fields) ∧ Keyed.keys fields = g.nodes ∧
    ∀ id, Keyed.find? id fields =
      if g.isNode id then some (.array ((g.resolve id).map .string)) else none

theorem network_eq_map_nodes : g.network = g.nodes.map fun id => (id, g.resolve id) := by
  rw [network, nodes, IdMap.keys, Keyed.keys, List.map_map]
  refine List.map_congr_left fun p mem => ?_
  have found : g.edges.find? p.1 = some p.2 := Keyed.find?_of_mem g.edges.ascending mem
  rw [Function.comp_apply, resolve, IdMap.members, found, Option.getD_some]

theorem toJson_eq :
    g.toJson = .object (g.nodes.map fun id => (id, Json.strings (g.resolve id))) := by
  rw [toJson, network_eq_map_nodes, List.map_map]
  rfl

/-- A graph is written without numbers. -/
theorem whole_toJson : g.toJson.Whole := by
  refine .object fun f mem => ?_
  obtain ⟨p, -, rfl⟩ := List.mem_map.1 mem
  refine .array fun j mem => ?_
  obtain ⟨id, -, rfl⟩ := List.mem_map.1 mem
  exact .string id

/-- Graphs that are written alike have the same nodes and dependencies. -/
theorem network_eq_of_toJson_eq {g g' : Graph} (same : g.toJson = g'.toJson) :
    g.network = g'.network := by
  have strings : Function.Injective Json.strings := fun ss ts same =>
    List.map_injective_iff.2 (fun _ _ => Json.string.inj) (Json.array.inj same)
  refine List.map_injective_iff.2 (fun p q same => ?_) (Json.object.inj same)
  obtain ⟨name, deps⟩ := Prod.mk.inj same
  exact Prod.ext name (strings deps)

/-! ## The value of a graph -/

/-- The fields of a graph as a value. -/
def fields : List (String × Value) :=
  g.nodes.map fun id => (id, .array ((g.resolve id).map .string))

theorem keys_fields : Keyed.keys g.fields = g.nodes := by
  rw [fields, Keyed.keys, List.map_map]
  exact List.map_id _

theorem toJson_map_fields : (Value.map g.fields).toJson = g.toJson := by
  rw [toJson_eq, Value.toJson, Value.toJsonFields_eq_map, fields, List.map_map]
  refine congrArg Json.object (List.map_congr_left fun id _ => ?_)
  rw [Function.comp_apply, Value.toJson, Value.toJsonItems_eq_map, List.map_map]
  rfl

theorem ascending_fields : Keyed.Ascending g.fields := by
  rw [Keyed.Ascending, keys_fields]
  exact g.edges.ascending

theorem every_fields {p : Value → Prop} (map : p (.map g.fields)) (array : ∀ vs, p (.array vs))
    (string : ∀ s, p (.string s)) : (Value.map g.fields).Every p := by
  refine .map map fun f mem => ?_
  obtain ⟨id, -, rfl⟩ := List.mem_map.1 mem
  refine .array (array _) fun v mem => ?_
  obtain ⟨dep, -, rfl⟩ := List.mem_map.1 mem
  exact .scalar rfl (string dep)

theorem nesting_fields : (Value.map g.fields).nesting ≤ 2 := by
  refine Nat.succ_le_succ (Value.nestingFields_le_iff.2 fun f mem => ?_)
  obtain ⟨id, -, rfl⟩ := List.mem_map.1 mem
  refine Nat.succ_le_succ (Value.nestingItems_le_iff.2 fun v mem => ?_)
  obtain ⟨dep, -, rfl⟩ := List.mem_map.1 mem
  exact Nat.le_refl 0

theorem ofJson?_toJson : Value.ofJson? g.toJson = some (.map g.fields) := by
  have shallow : (Value.map g.fields).nesting ≤ Value.maxNesting :=
    g.nesting_fields.trans (by decide)
  rw [← toJson_map_fields, Value.ofJson?, Value.nesting_toJson, if_pos shallow]
  refine Value.ofTree?_toJson
    (g.every_fields g.ascending_fields (fun _ => trivial) fun _ => trivial)
    (g.every_fields ?_ ?_ ?_)
  -- there are no numbers in it
  · rintro _ ⟨⟩
  · rintro _ _ ⟨⟩
  · rintro _ _ ⟨⟩

theorem find?_fields (id : Identifier) : Keyed.find? id g.fields =
    if g.isNode id then some (.array ((g.resolve id).map .string)) else none := by
  split
  · rename_i node
    have mem : id ∈ g.nodes := Keyed.find?_isSome_iff.1 node
    exact Keyed.find?_of_mem g.ascending_fields (List.mem_map.2 ⟨id, mem, rfl⟩)
  · rename_i other
    refine Keyed.find?_eq_none_of_notMem fun mem => other (Keyed.find?_isSome_iff.2 ?_)
    rwa [keys_fields] at mem

/-! ## The texts of a graph -/

variable {g} in
theorem ReadFrom.of_parse {text : String} (read : Json.parse text = some g.toJson) :
    g.ReadFrom text where
  tree := read.trans (congrArg some g.toJson_eq)
  value := by
    refine ⟨g.fields, ?_, g.keys_fields, g.find?_fields⟩
    rw [Value.parse?, read]
    exact g.ofJson?_toJson

/-- The compact and the pretty text of a graph are read as an object that has the nodes as its
names, each of them once, and under each of them what it depends on. So two graphs have the same
text just if they have the same nodes and dependencies. -/
theorem network_read_back (g g' : Graph) :
    g.ReadFrom g.toJson.compact ∧ g.ReadFrom g.toJson.pretty ∧
    (g.toJson.compact = g'.toJson.compact ↔ g.network = g'.network) ∧
    (g.toJson.pretty = g'.toJson.pretty ↔ g.network = g'.network) := by
  have compact (g : Graph) := Json.parse_compact g.whole_toJson
  have pretty (g : Graph) := Json.parse_pretty g.whole_toJson
  have written (same : g.network = g'.network) : g.toJson = g'.toJson := by
    rw [toJson, same, toJson]
  refine ⟨.of_parse (compact g), .of_parse (pretty g), ⟨fun same => ?_, fun same => ?_⟩,
    ⟨fun same => ?_, fun same => ?_⟩⟩
  · exact network_eq_of_toJson_eq (Option.some.inj ((compact g).symm.trans (same ▸ compact g')))
  · rw [written same]
  · exact network_eq_of_toJson_eq (Option.some.inj ((pretty g).symm.trans (same ▸ pretty g')))
  · rw [written same]

end GatedMigration.Graph
