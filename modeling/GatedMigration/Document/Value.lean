import GatedMigration.Keyed
import GatedMigration.Number.Shortest

/-!
# Values of documents

A value is null, a truth value, a signed 64-bit integer, a double, a string, a list of values or a
map of values. There are two equalities: `==` compares two values of one kind, where an integer
never equals a double, and `sameAs` also compares an integer with a double, if the two are the
whole values. The order (`compare?`) knows numbers, strings and truth values, and none across kinds.
-/

namespace GatedMigration

/-- A value of a document. The fields of a map stand in ascending order of their names. -/
inductive Value where
  | null
  | bool (b : Bool)
  | int (n : Int64)
  | number (x : Binary64)
  | string (s : String)
  | array (items : List Value)
  | map (fields : List (String × Value))
deriving Inhabited

/-- A document: its fields in ascending order of their names. -/
abbrev Document := List (String × Value)

namespace Value

mutual

/-- Equality within one kind; the doubles in it are compared as numbers, so that a value with a
NaN in it does not equal itself. -/
def beq : Value → Value → Bool
  | .null, .null => true
  | .bool a, .bool b => a == b
  | .int a, .int b => a == b
  | .number a, .number b => a == b
  | .string a, .string b => a == b
  | .array as, .array bs => beqItems as bs
  | .map as, .map bs => beqFields as bs
  | _, _ => false

/-- Equality item by item. -/
def beqItems : List Value → List Value → Bool
  | [], [] => true
  | a :: as, b :: bs => beq a b && beqItems as bs
  | _, _ => false

/-- Equality field by field. -/
def beqFields : List (String × Value) → List (String × Value) → Bool
  | [], [] => true
  | (k, a) :: as, (l, b) :: bs => k == l && (beq a b && beqFields as bs)
  | _, _ => false

end

instance : BEq Value := ⟨beq⟩

/-- An integer as a double. -/
def asDouble (n : Int64) : Binary64 := Binary64.ofInt n.toInt

/-- The order of two values: of numbers, an integer beside a double taken as the nearest double,
of strings, and of truth values. -/
def compare? : Value → Value → Option Ordering
  | .int a, .int b => some (compare a.toInt b.toInt)
  | .int a, .number b => (asDouble a).compare? b
  | .number a, .int b => a.compare? (asDouble b)
  | .number a, .number b => a.compare? b
  | .string a, .string b => some (compare a b)
  | .bool a, .bool b => some (compare a b)
  | _, _ => none

/-- Equality in which an integer and a double are compared by their order. -/
def sameAs : Value → Value → Bool
  | .int a, .number b => Value.compare? (.int a) (.number b) == some .eq
  | .number a, .int b => Value.compare? (.number a) (.int b) == some .eq
  | a, b => a == b

/-- The text of a string value. -/
def string? : Value → Option String
  | .string s => some s
  | _ => none

/-- The fields of a map value. -/
def map? : Value → Option (List (String × Value))
  | .map fields => some fields
  | _ => none

end Value

/-- The name of the field that identifies a document. -/
def idField : String := "_id"

/-- The identifying value of a document, null if it has none. -/
def Document.id (d : Document) : Value := (Keyed.find? idField d).getD .null

end GatedMigration
