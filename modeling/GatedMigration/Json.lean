/-!
# JSON

The syntax of a JSON text: a number is kept as it is written and an object as its fields in order,
repeated keys included. What a text stands for is decided where it is used.
-/

namespace GatedMigration

/-- The syntax tree of a JSON text. -/
inductive Json where
  | null
  | bool (b : Bool)
  /-- A number, as it is written. -/
  | number (text : String)
  | string (s : String)
  | array (items : List Json)
  | object (fields : List (String × Json))
deriving Inhabited

namespace Json

/-- An integer in decimal. -/
def int (n : Int) : Json := .number (toString n)

/-- A list of strings. -/
def strings (ss : List String) : Json := .array (ss.map .string)

mutual

/-- How many arrays and objects stand one inside the other. -/
def nesting : Json → Nat
  | .array items => nestingItems items + 1
  | .object fields => nestingFields fields + 1
  | _ => 0

/-- The nesting of the deepest item. -/
def nestingItems : List Json → Nat
  | [] => 0
  | j :: rest => max (nesting j) (nestingItems rest)

/-- The nesting of the deepest field. -/
def nestingFields : List (String × Json) → Nat
  | [] => 0
  | (_, j) :: rest => max (nesting j) (nestingFields rest)

end

end Json

end GatedMigration
