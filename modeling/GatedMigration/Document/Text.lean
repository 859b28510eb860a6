import GatedMigration.Document.Value
import GatedMigration.Json.Printer
import GatedMigration.Json.Reader
import GatedMigration.Number.Literal

/-!
# The text of a value

A value is written as JSON (`Value.toJson`) or, for people, as its bare text if it is a scalar and
as JSON otherwise (`Value.display`). A JSON text is read as a value (`Value.ofJson?`): a number
written as an integer that fits into 64 bits is an integer, every other number the nearest double,
and of fields with one name the last counts.
-/

namespace GatedMigration

/-- Numbers for people: always positional, no point behind a whole number. -/
def displayLayout : NumberLayout where
  tie := .up
  positional := fun _ => true
  keepsFraction := false
  nan := "NaN"
  infinity := "inf"
  negativeInfinity := "-inf"

/-- Numbers in JSON: positional from 10⁻⁵ up to 10¹⁵, with a point always; JSON has no word for the
others. -/
def jsonLayout : NumberLayout where
  tie := .toEven
  positional := fun e => decide (-5 ≤ e ∧ e ≤ 15)
  keepsFraction := true
  nan := "null"
  infinity := "null"
  negativeInfinity := "null"

namespace Value

mutual

/-- The JSON form of a value. -/
def toJson : Value → Json
  | .null => .null
  | .bool b => .bool b
  | .int n => .int n.toInt
  | .number x => if x.isFinite then .number (x.render jsonLayout) else .null
  | .string s => .string s
  | .array items => .array (toJsonItems items)
  | .map fields => .object (toJsonFields fields)

/-- The JSON forms of a list of values. -/
def toJsonItems : List Value → List Json
  | [] => []
  | v :: rest => toJson v :: toJsonItems rest

/-- The JSON forms of a list of fields. -/
def toJsonFields : List (String × Value) → List (String × Json)
  | [] => []
  | (k, v) :: rest => (k, toJson v) :: toJsonFields rest

end

/-- The JSON text of a value. -/
def json (v : Value) : String := v.toJson.compact

/-- The text of a value for people: scalars bare, lists and maps as JSON. -/
def display : Value → String
  | .null => "null"
  | .bool b => toString b
  | .int n => toString n.toInt
  | .number x => x.render displayLayout
  | .string s => s
  | v => v.json

/-- The number that a JSON number stands for; none if no double is that large. -/
def ofNumber? (text : String) : Option Value :=
  let l := NumberLiteral.ofChars text.toList
  let double : Option Value := if l.toBinary64.isFinite then some (.number l.toBinary64) else none
  if l.integral ∧ ¬(l.negative ∧ l.digits = 0) then
    if Int64.minValue.toInt ≤ l.toInt ∧ l.toInt ≤ Int64.maxValue.toInt then
      some (.int (Int64.ofInt l.toInt))
    else double
  else double

mutual

/-- The value of a JSON tree, however deep. -/
def ofTree? : Json → Option Value
  | .null => some .null
  | .bool b => some (.bool b)
  | .number text => ofNumber? text
  | .string s => some (.string s)
  | .array items => (ofItems? items).map .array
  | .object fields => (ofFields? fields).map fun fs => .map (Keyed.ofList fs)

/-- The values of a list of JSON trees. -/
def ofItems? : List Json → Option (List Value)
  | [] => some []
  | j :: rest =>
    match ofTree? j, ofItems? rest with
    | some v, some vs => some (v :: vs)
    | _, _ => none

/-- The values of the fields of a JSON object. -/
def ofFields? : List (String × Json) → Option (List (String × Value))
  | [] => some []
  | (k, j) :: rest =>
    match ofTree? j, ofFields? rest with
    | some v, some vs => some ((k, v) :: vs)
    | _, _ => none

end

/-- Deeper texts than this are not read. -/
def maxNesting : Nat := 127

/-- The value of a JSON tree. -/
def ofJson? (j : Json) : Option Value := if j.nesting ≤ maxNesting then ofTree? j else none

/-- The value of a JSON text. -/
def parse? (text : String) : Option Value := (Json.parse text).bind ofJson?

end Value

end GatedMigration
