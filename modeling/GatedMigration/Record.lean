import GatedMigration.Document.Text
import GatedMigration.Json.Fields

/-!
# Completion records

A record says that a task has run to its end, and whether with errors. It has two encodings, as a
JSON text and as a document, with the same four fields. Records are kept in books, each under its
own identifier (`RecordBook`).
-/

namespace GatedMigration

/-- The mark that a task has finished. -/
structure CompletionRecord where
  id : Identifier
  /-- The migration that the task belongs to. -/
  group : Identifier
  hasErrors : Bool
  completed : Bool
deriving DecidableEq

namespace CompletionRecord

/-- The record of a task that has run to its end. -/
def finished (id group : Identifier) (hasErrors : Bool) : CompletionRecord :=
  ⟨id, group, hasErrors, true⟩

/-- Only what is completed without errors counts as a prerequisite. -/
def satisfied (r : CompletionRecord) : Bool := r.completed && !r.hasErrors

/-- The record as a document. -/
def toDocument (r : CompletionRecord) : Document := [
  ("_id", .string r.id), ("completed", .bool r.completed), ("has_errors", .bool r.hasErrors),
  ("migration", .string r.group)]

/-- The record in JSON. -/
def toJson (r : CompletionRecord) : Json := .object [
  ("_id", .string r.id), ("migration", .string r.group), ("has_errors", .bool r.hasErrors),
  ("completed", .bool r.completed)]

/-- The names of the fields in JSON. -/
def fieldNames : List String := ["_id", "migration", "has_errors", "completed"]

/-- The record that a JSON tree is. -/
def ofJson? (j : Json) : Option CompletionRecord := do
  match ← j.structure? fieldNames with
  | [id, group, hasErrors, completed] =>
    return ⟨← id.string?, ← group.string?, ← hasErrors.bool?, ← completed.bool?⟩
  | _ => none

/-- The record that a JSON text is. Fields that a record has not are passed over. -/
def parse? (text : String) : Option CompletionRecord :=
  (Json.parseOnly fieldNames.contains text).bind ofJson?

end CompletionRecord

/-! ## Books of records -/

/-- Completion records, each under its own identifier. -/
structure RecordBook where
  entries : IdMap CompletionRecord
  filed : ∀ {id : Identifier} {r : CompletionRecord}, entries.find? id = some r → r.id = id

namespace RecordBook

/-- The book without a record. -/
def empty : RecordBook := ⟨IdMap.empty, fun h => by cases h⟩

instance : Inhabited RecordBook := ⟨empty⟩

/-- The record of an identifier. -/
def find? (b : RecordBook) (id : Identifier) : Option CompletionRecord := b.entries.find? id

/-- The records in ascending order of their identifiers. -/
def toList (b : RecordBook) : List CompletionRecord := b.entries.values

/-- A record written over an older one of its identifier. -/
def put (b : RecordBook) (r : CompletionRecord) : RecordBook where
  entries := b.entries.insert r.id r
  filed {id r'} h := by
    by_cases e : id = r.id
    · subst e
      obtain rfl : r = r' := by simpa using h
      rfl
    · rw [IdMap.find?_insert_of_ne _ e] at h
      exact b.filed h

@[simp] theorem find?_put_self (b : RecordBook) (r : CompletionRecord) :
    (b.put r).find? r.id = some r := IdMap.find?_insert_self _ _ _

theorem find?_put_of_ne (b : RecordBook) {r : CompletionRecord} {id : Identifier}
    (h : id ≠ r.id) : (b.put r).find? id = b.find? id := IdMap.find?_insert_of_ne _ h _

end RecordBook

end GatedMigration
