import GatedMigration.Graph.Problem

/-!
# Failures

What can go wrong, by cause, and what is said about it. Being asked to stop is a failure of its own
kind (`Failure.isCanceled`): it says nothing about the migration. A task collects the texts of its
failures in a list (`Failure.ofTexts`).
-/

namespace GatedMigration

/-- What a call to a store can end with instead of an answer. -/
inductive StoreFailure where
  | unreachable (text : String)
  | query (text : String)
  | cursor (text : String)
  | write (text : String)
  /-- The run was cancelled before the call ended. -/
  | canceled
  /-- The run's time was over before the call ended. -/
  | deadlineExceeded
deriving DecidableEq

/-- What is said about a failed call to a store. -/
def StoreFailure.message : StoreFailure → String
  | .unreachable text => "store unreachable: " ++ text
  | .query text => "query failed: " ++ text
  | .cursor text => "cursor failed: " ++ text
  | .write text => "write failed: " ++ text
  | .canceled => "store call canceled"
  | .deadlineExceeded => "store call exceeded the run deadline"

/-- What a registry of operations can refuse. -/
inductive RegistryFailure where
  | duplicate (name : String)
  | notFound (name : String)
deriving DecidableEq

/-- What is said about a refusal of a registry. -/
def RegistryFailure.message : RegistryFailure → String
  | .duplicate name => "operation '" ++ name ++ "' is already registered"
  | .notFound name => "no operation registered under '" ++ name ++ "'"

/-- What can go wrong. -/
inductive Failure where
  | config (text : String)
  | io (text : String)
  | cyclicPlan (text : String)
  | toml (text : String)
  | json (text : String)
  | store (e : StoreFailure)
  | invalidGraph (e : GraphError)
  | registry (e : RegistryFailure)
  | canceled
  /-- Several failures, by their texts. -/
  | aggregate (texts : List String)
deriving DecidableEq

namespace Failure

/-- What is said about a failure. -/
def message : Failure → String
  | config text => "Configuration error: " ++ text
  | io text => "IO error: " ++ text
  | cyclicPlan text => "Cycle detected in migration plan: " ++ text
  | toml text => "TOML parsing error: " ++ text
  | json text => "JSON encoding error: " ++ text
  | store e => e.message
  | invalidGraph e => e.message
  | registry e => e.message
  | canceled => "operation canceled"
  | aggregate texts => joinTexts "; " texts

/-- Whether a failure only says that the run was asked to stop. -/
def isCanceled : Failure → Bool
  | canceled => true
  | store .canceled => true
  | _ => false

/-- The outcome of a task that has collected the texts of its failures. -/
def ofTexts (texts : List String) : Except Failure Unit :=
  if texts.isEmpty then .ok () else .error (.aggregate texts)

end Failure

end GatedMigration
