import GatedMigration.Json

/-!
# Structures in JSON

A structure with named fields is given as an object or as a list. In an object every field of the
structure stands exactly once and other fields are passed over; a list holds the fields in their
order and nothing else.
-/

namespace GatedMigration.Json

/-- The string that a JSON tree is. -/
def string? : Json → Option String
  | .string s => some s
  | _ => none

/-- The truth value that a JSON tree is. -/
def bool? : Json → Option Bool
  | .bool b => some b
  | _ => none

/-- The values of the named fields of a structure. -/
def structure? (names : List String) : Json → Option (List Json)
  | .object fields => names.mapM fun name =>
      match fields.filter fun f => f.1 == name with
      | [(_, value)] => some value
      | _ => none
  | .array items => if items.length = names.length then some items else none
  | _ => none

end GatedMigration.Json
