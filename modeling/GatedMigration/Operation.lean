import GatedMigration.World

/-!
# Operations

An operation is applied to one document at a time. It may change documents, note things, cancel the
run, take its time, and end well, with an error or without any result. It does so part by part
(`Script`): nothing comes between the beginning and the end of a part, but other tasks may be at
work between two parts. What a part does, and what follows it, depends on what the operation can
reach when the part begins (`Scene`); its own variables are whatever the rest of the script has been
built from.
-/

namespace GatedMigration

/-- What an operation can reach of the world. -/
structure Scene where
  store : Store
  graph : Graph
  clock : Nat
  context : Context

/-- What is left of an operation. -/
inductive Script where
  /-- The operation ends. -/
  | done (outcome : Outcome)
  /-- A part, with the lines that it notes, and then the rest, by the scene that the part began
  with. -/
  | act (part : Scene → Scene × List String) (rest : Scene → Script)

/-- What is done to the documents of a migration, one task at a time. -/
abbrev Operation := Task → Script

namespace World

/-- What an operation can reach. -/
def scene (w : World) : Scene := ⟨w.store, w.graph, w.clock, w.context⟩

/-- A part of an operation done. -/
def enact (w : World) (part : Scene → Scene × List String) : World :=
  let (scene, lines) := part w.scene
  { w with
    store := scene.store
    graph := scene.graph
    clock := scene.clock
    context := scene.context
    journal := (lines.map Event.noted).reverse ++ w.journal }

end World

namespace Script

/-- The rest of a script is less than the script. -/
inductive Follows : Script → Script → Prop
  | rest (part : Scene → Scene × List String) (rest : Scene → Script) (scene : Scene) :
      Follows (rest scene) (.act part rest)

/-- Every script comes to its end. -/
theorem acc_follows (s : Script) : Acc Follows s := by
  induction s with
  | done outcome => exact ⟨_, fun _ h => by cases h⟩
  | act part rest ih => exact ⟨_, fun _ h => by cases h; exact ih _⟩

instance : WellFoundedRelation Script := ⟨Follows, ⟨acc_follows⟩⟩

end Script

/-- The operations that are known, by name. -/
structure Registry where
  operations : IdMap Operation

namespace Registry

/-- No operation. -/
def empty : Registry := ⟨IdMap.empty⟩

/-- The operation with a name. -/
def get (r : Registry) (name : String) : Except RegistryFailure Operation :=
  match r.operations.find? name with
  | some op => .ok op
  | none => .error (.notFound name)

/-- Whether there is an operation with a name. -/
def contains (r : Registry) (name : String) : Bool := r.operations.contains name

/-- One more operation; a name is given only once. -/
def register (r : Registry) (name : String) (op : Operation) : Except RegistryFailure Registry :=
  if r.contains name then .error (.duplicate name) else .ok ⟨r.operations.insert name op⟩

/-- The names in ascending order. -/
def names (r : Registry) : List String := r.operations.keys

end Registry

/-- What a run is given from outside and does not change. -/
structure Environment where
  registry : Registry
  /-- Where completion records are kept. -/
  metadata : Namespace
  /-- Whether the store heeds the limit of a query for documents. -/
  limitsQueries : Bool

namespace Environment

/-- An environment with a metadata namespace, over a store that heeds limits. -/
def ofRegistry (registry : Registry) (metadata : Namespace) : Environment :=
  ⟨registry, metadata, true⟩

/-- A query for documents as the store gets it. -/
def findIds (env : Environment) (s : Store) (ns : Namespace) (sel : Selector)
    (limit : Option Nat) : Call (Cursor Value) :=
  s.findIds ns sel (if env.limitsQueries then limit else none)

end Environment

end GatedMigration
