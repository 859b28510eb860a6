import GatedMigration.Document.Text
import GatedMigration.Pattern.Reader
import GatedMigration.Pieces

/-!
# Selectors

A selector names documents by conditions. Each of its entries is either one of the combinators
`$and` and `$or` over a list of selectors, or a condition on the field at a dotted path: a map of
`$`-operators, or any other value, which the field has to equal. A document matches if all entries
hold. Evaluation takes the entries in the order of their keys and stops at the first that fails,
so an ill-formed entry behind it goes unnoticed.
-/

namespace GatedMigration

/-- Why a selector cannot be evaluated. -/
inductive SelectorError where
  | unsupportedOperator (name : String)
  /-- A combinator without a list. -/
  | noClauses (combinator : String)
  /-- A combinator over something that is no selector. -/
  | clauseNoSelector (combinator : String)
  /-- A membership operator without a list. -/
  | noList (operator : String)
  | patternNoString
  | badPattern
deriving DecidableEq

/-- The text of an error. What is wrong with a pattern is left out. -/
def SelectorError.message : SelectorError → String
  | .unsupportedOperator name => "unsupported selector operator " ++ name
  | .noClauses combinator => combinator ++ " expects an array of selectors"
  | .clauseNoSelector combinator => combinator ++ " clauses must be selectors"
  | .noList operator => operator ++ " expects an array"
  | .patternNoString => "$regex expects a string pattern"
  | .badPattern => "invalid $regex pattern: ..."

/-! ## Paths -/

/-- The parts of a dotted path; there is always one. -/
def pathParts (path : String) : List String := (pieces (· == '.') path.toList).map String.ofList

/-- The value that is reached by descending from a value through maps. -/
def Value.descend : List String → Value → Option Value
  | [], v => some v
  | part :: parts, .map fields => (Keyed.find? part fields).bind (descend parts)
  | _ :: _, _ => none

/-- The value at a dotted path of a document. -/
def Document.lookup (d : Document) (path : String) : Option Value :=
  Value.descend (pathParts path) (.map d)

/-! ## Conditions on a field -/

/-- Whether a field equals a value, whole or by one item of a list; a field that is not there
equals null. -/
def fieldEquals (field : Option Value) (v : Value) : Bool :=
  match field with
  | none => match v with
    | .null => true
    | _ => false
  | some w =>
    w.sameAs v || match w with
      | .array items => items.any (·.sameAs v)
      | _ => false

/-- Whether a field, whole or by one item of a list, stands to a value in an order that passes. -/
def fieldOrdered (field : Option Value) (v : Value) (passes : Ordering → Bool) : Bool :=
  match field with
  | none => false
  | some (.array items) => items.any fun item => (item.compare? v).any passes
  | some w => (w.compare? v).any passes

/-- Whether a field, as a string or by one string of a list, contains a match of a pattern. -/
def fieldMatches (field : Option Value) (r : Pattern) : Bool :=
  match field with
  | some (.string s) => r.occursIn s
  | some (.array items) => items.any fun item => item.string?.any r.occursIn
  | _ => false

/-- Whether a value counts as true: all do but null, false and the zeros. -/
def Value.truthy : Value → Bool
  | .null => false
  | .bool b => b
  | .int n => n != 0
  | .number x => !x.isZero
  | _ => true

/-- The operators of a condition. -/
inductive Operator where
  | equal
  | notEqual
  | greater
  | greaterOrEqual
  | less
  | lessOrEqual
  | isIn
  | notIn
  | present
  | pattern
deriving DecidableEq

namespace Operator

/-- The operators by their names. -/
def names : List (String × Operator) := [
  ("$eq", equal), ("$ne", notEqual), ("$gt", greater), ("$gte", greaterOrEqual), ("$lt", less),
  ("$lte", lessOrEqual), ("$in", isIn), ("$nin", notIn), ("$exists", present),
  ("$regex", pattern)]

/-- The operator with a name. -/
def named? (name : String) : Option Operator := names.lookup name

/-- Whether a field equals one of a list of values. -/
def oneOf (name : String) (field : Option Value) : Value → Except SelectorError Bool
  | .array candidates => .ok (candidates.any (fieldEquals field))
  | _ => .error (.noList name)

/-- Whether a field contains a match of the pattern that a string denotes. -/
def matchesPattern (field : Option Value) (arg : Value) : Except SelectorError Bool :=
  match arg.string? with
  | none => .error .patternNoString
  | some text =>
    match Pattern.read? text with
    | none => .error .badPattern
    | some r => .ok (fieldMatches field r)

/-- Whether a field passes an operator. -/
def apply (op : Operator) (field : Option Value) (arg : Value) : Except SelectorError Bool :=
  match op with
  | equal => .ok (fieldEquals field arg)
  | notEqual => .ok (!fieldEquals field arg)
  | greater => .ok (fieldOrdered field arg (· == .gt))
  | greaterOrEqual => .ok (fieldOrdered field arg (· != .lt))
  | less => .ok (fieldOrdered field arg (· == .lt))
  | lessOrEqual => .ok (fieldOrdered field arg (· != .gt))
  | isIn => oneOf "$in" field arg
  | notIn => (oneOf "$nin" field arg).map (!·)
  | present => .ok (field.isSome == arg.truthy)
  | pattern => matchesPattern field arg

end Operator

/-- Whether a key names an operator or a combinator. -/
def isOperatorName (key : String) : Bool := key.toList.head? == some '$'

/-- Whether the fields of a map are operators, rather than fields to be equal to. -/
def isOperatorMap (fields : List (String × Value)) : Bool :=
  !fields.isEmpty && fields.all fun p => isOperatorName p.1

/-- Whether a field passes operators, taken in order up to the first that fails. -/
def applyOperators (field : Option Value) : List (String × Value) → Except SelectorError Bool
  | [] => .ok true
  | (name, arg) :: rest =>
    match Operator.named? name with
    | none => .error (.unsupportedOperator name)
    | some op =>
      match op.apply field arg with
      | .error e => .error e
      | .ok false => .ok false
      | .ok true => applyOperators field rest

/-- Whether a field meets a condition. -/
def fieldMeets (field : Option Value) (condition : Value) : Except SelectorError Bool :=
  match condition with
  | .map fields =>
    if isOperatorMap fields then applyOperators field fields
    else .ok (fieldEquals field condition)
  | _ => .ok (fieldEquals field condition)

/-! ## Selectors -/

/-- A selector: its entries in ascending order of their keys. -/
structure Selector where
  entries : List (String × Value)
deriving Inhabited

/-- The value is a map, so it can be a clause. -/
def Value.isMap (v : Value) : Bool := v.map?.isSome

namespace Selector

mutual

/-- Whether a document meets entries, taken in order up to the first that fails. -/
def meetsEntries (d : Document) : List (String × Value) → Except SelectorError Bool
  | [] => .ok true
  | (key, condition) :: rest =>
    match meetsEntry d key condition with
    | .error e => .error e
    | .ok false => .ok false
    | .ok true => meetsEntries d rest

/-- Whether a document meets one entry. -/
def meetsEntry (d : Document) (key : String) (condition : Value) : Except SelectorError Bool :=
  if key = "$and" ∨ key = "$or" then
    match condition with
    | .array clauses =>
      if clauses.all Value.isMap then
        if key = "$and" then meetsAll d clauses else meetsAny d clauses
      else .error (.clauseNoSelector key)
    | _ => .error (.noClauses key)
  else if isOperatorName key then .error (.unsupportedOperator key)
  else fieldMeets (Document.lookup d key) condition

/-- Whether a document meets all clauses, taken in order up to the first that fails. -/
def meetsAll (d : Document) : List Value → Except SelectorError Bool
  | .map entries :: rest =>
    match meetsEntries d entries with
    | .error e => .error e
    | .ok false => .ok false
    | .ok true => meetsAll d rest
  | _ => .ok true

/-- Whether a document meets one of the clauses, taken in order up to the first that it meets. -/
def meetsAny (d : Document) : List Value → Except SelectorError Bool
  | .map entries :: rest =>
    match meetsEntries d entries with
    | .error e => .error e
    | .ok true => .ok true
    | .ok false => meetsAny d rest
  | _ => .ok false

end

/-- The selector that every document matches. -/
def all : Selector := ⟨[]⟩

/-- The selector of the documents whose identifying value is one of some identifiers. -/
def idIn (ids : List Identifier) : Selector :=
  ⟨[(idField, .map [("$in", .array (ids.map .string))])]⟩

/-- Whether a selector has no entry. -/
def isEmpty (s : Selector) : Bool := s.entries.isEmpty

/-- Whether a document matches. -/
def accepts (s : Selector) (d : Document) : Except SelectorError Bool := meetsEntries d s.entries

/-- The JSON text of a selector. -/
def display (s : Selector) : String := (Value.map s.entries).json

/-- The selector that a value is. -/
def ofValue? (v : Value) : Option Selector := v.map?.map Selector.mk

/-- The selector of a JSON text. -/
def parse? (text : String) : Option Selector := (Value.parse? text).bind ofValue?

end Selector

end GatedMigration
