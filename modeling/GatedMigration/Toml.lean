import GatedMigration.Document.Value

/-!
# TOML

What a TOML text stands for: scalars, lists, and tables whose fields are kept in ascending order of
their names. A date and time is a table of one field that holds its text. As a value of a document
(`Toml.toValue`) an integer beyond the signed 64 bits becomes the nearest double.
-/

namespace GatedMigration

/-- What a part of a TOML text stands for. -/
inductive Toml where
  | boolean (b : Bool)
  | integer (n : Int)
  | float (x : Binary64)
  | string (s : String)
  | array (items : List Toml)
  | table (fields : List (String × Toml))
deriving Inhabited

namespace Toml

/-- The name of the only field of a date and time. -/
def dateTimeField : String := "$__toml_private_datetime"

/-- A date and time, by its text. -/
def dateTime (text : String) : Toml := .table [(dateTimeField, .string text)]

/-- The integers that a TOML text may hold: those of 64 bits, with a sign or without. -/
def inRange (n : Int) : Bool := decide (Int64.minValue.toInt ≤ n ∧ n < Nat.pow 2 64)

mutual

/-- The value of a document that a part of a TOML text is. -/
def toValue : Toml → Value
  | .boolean b => .bool b
  | .integer n =>
    if Int64.minValue.toInt ≤ n ∧ n ≤ Int64.maxValue.toInt then .int (Int64.ofInt n)
    else .number (Binary64.ofInt n)
  | .float x => .number x
  | .string s => .string s
  | .array items => .array (toValues items)
  | .table fields => .map (toFields fields)

/-- The values that a list is. -/
def toValues : List Toml → List Value
  | [] => []
  | t :: rest => toValue t :: toValues rest

/-- The fields that a table is. -/
def toFields : List (String × Toml) → List (String × Value)
  | [] => []
  | (k, t) :: rest => (k, toValue t) :: toFields rest

end

end Toml

end GatedMigration
