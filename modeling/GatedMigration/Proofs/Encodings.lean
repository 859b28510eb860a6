import GatedMigration.Proofs.Layouts
import GatedMigration.Record
import GatedMigration.Selector

/-!
# The two encodings of a completion record

The names of a record's fields are given twice, for its JSON text and for its document, and the
fields of the two stand in different orders. Still the text is read as the record
(`CompletionRecord.parse?_compact`), and as a value it is the map of the document
(`CompletionRecord.parse?_value`), so that a selector finds the same in both.

* `CompletionRecord.encodings_agree`: text and document say the same, and each says all of the
  record.
-/

namespace GatedMigration.CompletionRecord

variable (r : CompletionRecord)

theorem whole_toJson : r.toJson.Whole := by
  refine .object fun f mem => ?_
  simp only [List.mem_cons, List.not_mem_nil, or_false] at mem
  rcases mem with rfl | rfl | rfl | rfl
  · exact .string r.id
  · exact .string r.group
  · exact .bool r.hasErrors
  · exact .bool r.completed

theorem parse?_compact : parse? r.toJson.compact = some r := by
  rw [parse?, Json.parseOnly_compact r.whole_toJson, Option.bind_some]
  rfl

theorem parse?_value : Value.parse? r.toJson.compact = some (.map r.toDocument) := by
  have sorted : Keyed.ofList [("_id", Value.string r.id), ("migration", .string r.group),
      ("has_errors", .bool r.hasErrors), ("completed", .bool r.completed)] = r.toDocument := by
    simp +decide only [Keyed.ofList, List.foldl_cons, List.foldl_nil, Keyed.insert, ↓reduceIte,
      toDocument]
  rw [Value.parse?, Json.parse_compact r.whole_toJson, Option.bind_some, ← sorted]
  rfl

theorem toDocument_injective : Function.Injective toDocument := by
  intro r r' same
  cases r
  cases r'
  simp only [toDocument] at same
  cases same
  rfl

/-- The JSON text of a record is read as the record, and as a value it is the document of the
record, so that every selector answers on it as on that document. Records with one document are
equal. -/
theorem encodings_agree :
    parse? r.toJson.compact = some r ∧
    Value.parse? r.toJson.compact = some (.map r.toDocument) ∧
    (∀ s : Selector, ((Value.parse? r.toJson.compact).bind Value.map?).map s.accepts =
      some (s.accepts r.toDocument)) ∧
    ∀ r' : CompletionRecord, r.toDocument = r'.toDocument ↔ r = r' := by
  refine ⟨r.parse?_compact, r.parse?_value, fun s => ?_, fun r' => toDocument_injective.eq_iff⟩
  rw [parse?_value]
  rfl

end GatedMigration.CompletionRecord
