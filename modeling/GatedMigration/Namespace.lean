import GatedMigration.Json.Fields
import GatedMigration.Json.Reader
import GatedMigration.Unicode.Trim

/-!
# Namespaces

Documents and completion records live in collections of stores. A namespace names one of them; it
is shown as the two names with a dot between, and ordered by the store, then by the collection.
-/

namespace GatedMigration

/-- A collection of a store. -/
structure Namespace where
  store : String
  collection : String
deriving DecidableEq, Inhabited

namespace Namespace

/-- Where completion records are kept unless a plan says otherwise. -/
def defaultMetadata : Namespace := ⟨"anser", "migrations.metadata"⟩

/-- The text of a namespace. -/
def display (ns : Namespace) : String := ns.store ++ "." ++ ns.collection

/-- Neither name consists of blanks alone. -/
def isValid (ns : Namespace) : Bool := Unicode.hasInk ns.store && Unicode.hasInk ns.collection

/-- By the store, then by the collection. -/
def le (a b : Namespace) : Bool :=
  decide (a.store < b.store) ||
    (a.store == b.store && decide (a.collection ≤ b.collection))

/-- The names of the fields in JSON. -/
def fieldNames : List String := ["store", "collection"]

/-- The namespace that a JSON tree is. -/
def ofJson? (j : Json) : Option Namespace := do
  match ← j.structure? fieldNames with
  | [store, collection] => return ⟨← store.string?, ← collection.string?⟩
  | _ => none

/-- The namespace that a JSON text is. Fields that a namespace has not are passed over. -/
def parse? (text : String) : Option Namespace :=
  (Json.parseOnly fieldNames.contains text).bind ofJson?

end Namespace

/-- What is kept for each namespace; one that was never written holds the default. -/
structure PerNamespace (α : Type) where
  entries : List (Namespace × α)

namespace PerNamespace

variable {α : Type} [Inhabited α]

/-- Nothing written. -/
def empty : PerNamespace α := ⟨[]⟩

/-- What a list of pairs holds for a namespace. -/
def lookup (ns : Namespace) : List (Namespace × α) → α
  | [] => default
  | (ns', a) :: rest => if ns = ns' then a else lookup ns rest

/-- A list of pairs with the content of one namespace replaced. -/
def replace (ns : Namespace) (a : α) : List (Namespace × α) → List (Namespace × α)
  | [] => [(ns, a)]
  | (ns', b) :: rest => if ns = ns' then (ns, a) :: rest else (ns', b) :: replace ns a rest

/-- The content of a namespace. -/
def get (m : PerNamespace α) (ns : Namespace) : α := lookup ns m.entries

/-- The content of a namespace written. -/
def set (m : PerNamespace α) (ns : Namespace) (a : α) : PerNamespace α :=
  ⟨replace ns a m.entries⟩

@[simp] theorem get_set_self (m : PerNamespace α) (ns : Namespace) (a : α) :
    (m.set ns a).get ns = a := by
  unfold get set
  generalize m.entries = l
  induction l with
  | nil => simp [replace, lookup]
  | cons p l ih =>
    rw [replace]
    split
    · simp [lookup]
    · rename_i h
      rw [lookup, if_neg h, ih]

theorem get_set_of_ne (m : PerNamespace α) {ns ns' : Namespace} (h : ns' ≠ ns) (a : α) :
    (m.set ns a).get ns' = m.get ns' := by
  unfold get set
  generalize m.entries = l
  induction l with
  | nil => simp [replace, lookup, h]
  | cons p l ih =>
    rw [replace]
    split
    · rename_i e
      rw [lookup, if_neg h, lookup, if_neg (e ▸ h)]
    · rw [lookup, lookup, ih]

end PerNamespace

end GatedMigration
