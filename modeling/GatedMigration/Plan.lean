import GatedMigration.Failure
import GatedMigration.Migration
import GatedMigration.Run.Options
import GatedMigration.Toml.Table

/-!
# Migration plans

A plan is a TOML text with the settings of a run and a table of migrations by their identifiers.
`Plan.read` takes it as it stands; whether the plan makes sense is checked afterwards. A structure
is written as a table, in which unknown fields are passed over, or as a list of its fields in their
order, of which the last ones may be left out.
-/

namespace GatedMigration

/-- What a plan says about the run as a whole. -/
structure PlanSettings where
  /-- Where completion records are kept. -/
  metadata : Namespace := Namespace.defaultMetadata
  options : RunOptions := {}
deriving DecidableEq, Inhabited

/-- A plan: its settings and its migrations in ascending order of their identifiers. -/
structure Plan where
  settings : PlanSettings
  migrations : List Migration

/-! ## Fields -/

namespace Toml

/-- The named fields of a structure, each if it is there. -/
def structure? (names : List String) : Toml → Option (List (Option Toml))
  | .table fields => some (names.map fun name => Keyed.find? name fields)
  | .array items => some ((List.range names.length).map fun i => items[i]?)
  | _ => none

/-- The string that a part of a text is. -/
def string? : Toml → Option String
  | .string s => some s
  | _ => none

/-- The natural up to a bound that a part of a text is. -/
def natural? (bound : Nat) : Toml → Option Nat
  | .integer n => if 0 ≤ n ∧ n ≤ bound then some n.toNat else none
  | _ => none

/-- The list of strings that a part of a text is. -/
def strings? : Toml → Option (List String)
  | .array items => items.mapM string?
  | _ => none

/-- The policy that a part of a text is: its word, or a table with nothing under the word. -/
def policy? : Toml → Option ValidationPolicy
  | .string s => ValidationPolicy.ofWord? s
  | .table [(word, .table [])] => ValidationPolicy.ofWord? word
  | .table [(word, .array [])] => ValidationPolicy.ofWord? word
  | _ => none

/-- The selector that a part of a text is. -/
def selector? (t : Toml) : Option Selector := Selector.ofValue? t.toValue

/-- A field that need not be there. -/
def orDefault {α : Type} (field : Option Toml) (read : Toml → Option α) (default : α) : Option α :=
  match field with
  | none => some default
  | some t => read t

end Toml

/-! ## Plans -/

namespace PlanSettings

/-- The settings that a part of a text is. -/
def ofToml? (t : Toml) : Option PlanSettings := do
  let base : PlanSettings := {}
  match ← t.structure? ["metadata_store", "metadata_collection", "workers", "poll_interval_ms",
      "max_idle_rounds", "validation"] with
  | [store, collection, workers, pollInterval, maxIdleRounds, validation] =>
    return {
      metadata := {
        store := ← Toml.orDefault store Toml.string? base.metadata.store
        collection := ← Toml.orDefault collection Toml.string? base.metadata.collection }
      options := {
        workers := ← Toml.orDefault workers (Toml.natural? (Nat.pow 2 64 - 1)) base.options.workers
        pollInterval :=
          ← Toml.orDefault pollInterval (Toml.natural? (Nat.pow 2 64 - 1)) base.options.pollInterval
        maxIdleRounds :=
          ← Toml.orDefault maxIdleRounds (Toml.natural? (Nat.pow 2 32 - 1))
            base.options.maxIdleRounds
        validation := ← Toml.orDefault validation Toml.policy? base.options.validation } }
  | _ => none

end PlanSettings

/-- The migration with an identifier that a part of a text is. -/
def Migration.ofToml? (id : Identifier) (t : Toml) : Option Migration := do
  match ← t.structure? ["store", "collection", "operation", "query", "update", "limit",
      "after"] with
  | [store, collection, operation, query, update, limit, after] =>
    return {
      id
      namesp := { store := ← store.bind Toml.string?, collection := ← collection.bind Toml.string? }
      operation := ← operation.bind Toml.string?
      selector := ← Toml.orDefault query Toml.selector? Selector.all
      update := update.map Toml.toValue
      limit := ← Toml.orDefault limit (fun t => (t.natural? (Nat.pow 2 64 - 1)).map some) none
      after := ← Toml.orDefault after Toml.strings? [] }
  | _ => none

namespace Plan

/-- The migrations that a part of a text is. -/
def migrations? : Toml → Option (List Migration)
  | .table fields => fields.mapM fun (id, t) => Migration.ofToml? id t
  | _ => none

/-- The plan that the fields of a text are. -/
def ofFields? (fields : List (String × Toml)) : Option Plan := do
  let settings ← Toml.orDefault (Keyed.find? "config" fields) PlanSettings.ofToml? {}
  let migrations ← Toml.orDefault (Keyed.find? "migration" fields) migrations? []
  return ⟨settings, migrations⟩

/-- The plan that a text is. -/
def read (text : String) : Except Failure Plan :=
  match (Toml.parse text).bind ofFields? with
  | some p => .ok p
  | none => .error (.toml "the text is no migration plan")

/-- The identifiers of the migrations. -/
def ids (p : Plan) : List Identifier := p.migrations.map Migration.id

/-- The dependencies among the migrations. -/
def graph (p : Plan) : Graph := p.migrations.foldl Graph.enter Graph.empty

end Plan

end GatedMigration
