import GatedMigration.Keyed
import GatedMigration.Toml.Line

/-!
# The tables of a TOML text

The second step of reading: the lines of a text are taken one after the other into one table
(`Toml.parse`). A key is assigned once; a header opens a table that no line has opened or filled
before; dotted paths fill the tables that dotted paths have made, and no others. Inline tables and
lists between brackets are closed: nothing is added to them from outside.
-/

namespace GatedMigration.Toml

/-- How a table came about. -/
inductive Origin where
  /-- A header names it. -/
  | header
  /-- It stands on the path of a header. -/
  | headerPath
  /-- It stands on the path of an assignment. -/
  | dottedPath
deriving DecidableEq

/-- A part of a text while it is put together. -/
inductive Node where
  /-- Nothing is added to it. -/
  | closed (t : Toml)
  | table (origin : Origin) (fields : List (String × Node))
  /-- A list of tables whose elements have headers, the latest first. -/
  | elements (tables : List Node)

namespace Node

mutual

/-- What the parts stand for once they are put together. -/
def finish : Node → Toml
  | closed t => t
  | table _ fields => .table (finishFields fields)
  | elements tables => .array (finishElements tables).reverse

/-- The fields of a table put together. -/
def finishFields : List (String × Node) → List (String × Toml)
  | [] => []
  | (k, n) :: rest => (k, finish n) :: finishFields rest

/-- The elements of a list put together. -/
def finishElements : List Node → List Toml
  | [] => []
  | n :: rest => finish n :: finishElements rest

end

/-- A closed value assigned to a path in a table; `open` says whether the table itself may receive
it. -/
def assign (t : Toml) :
    List String → Bool → List (String × Node) → Option (List (String × Node))
  | [], _, _ => none
  | [k], receives, fields =>
    match receives, Keyed.find? k fields with
    | true, none => some (Keyed.insert k (closed t) fields)
    | _, _ => none
  | k :: path, _, fields =>
    match Keyed.find? k fields with
    | none =>
      (assign t path true []).map fun inner => Keyed.insert k (table .dottedPath inner) fields
    | some (table .header _) => none
    | some (table origin inner) =>
      (assign t path (origin == .dottedPath) inner).map fun inner =>
        Keyed.insert k (table origin inner) fields
    | some (elements (table origin inner :: earlier)) =>
      (assign t path false inner).map fun inner =>
        Keyed.insert k (elements (table origin inner :: earlier)) fields
    | some _ => none

/-- The table at the path of a header changed; tables on the way are made where there are none. -/
def within (change : List (String × Node) → Option (List (String × Node))) :
    List String → List (String × Node) → Option (List (String × Node))
  | [], fields => change fields
  | k :: path, fields =>
    match Keyed.find? k fields with
    | none =>
      (within change path []).map fun inner => Keyed.insert k (table .headerPath inner) fields
    | some (table origin inner) =>
      (within change path inner).map fun inner => Keyed.insert k (table origin inner) fields
    | some (elements (table origin inner :: earlier)) =>
      (within change path inner).map fun inner =>
        Keyed.insert k (elements (table origin inner :: earlier)) fields
    | some _ => none

/-- A table opened by its header. -/
def openTable (k : String) (fields : List (String × Node)) : Option (List (String × Node)) :=
  match Keyed.find? k fields with
  | none => some (Keyed.insert k (table .header []) fields)
  | some (table .headerPath inner) => some (Keyed.insert k (table .header inner) fields)
  | some _ => none

/-- One more element of a list of tables opened by its header. -/
def openElement (k : String) (fields : List (String × Node)) : Option (List (String × Node)) :=
  match Keyed.find? k fields with
  | none => some (Keyed.insert k (elements [table .header []]) fields)
  | some (elements earlier) =>
    some (Keyed.insert k (elements (table .header [] :: earlier)) fields)
  | some _ => none

end Node

/-! ## Values -/

/-- Assignments to paths in one table, taken one after the other. -/
def assignAll : List (List String × Toml) → List (String × Node) → Option (List (String × Node))
  | [], fields => some fields
  | (path, t) :: rest, fields => (Node.assign t path true fields).bind (assignAll rest)

mutual

/-- What a written value stands for. -/
def Written.value? : Written → Option Toml
  | .scalar t => some t
  | .array items => (values? items).map .array
  | .inlineTable entries => do
    let fields ← assignAll (← entryValues? entries) []
    return .table (Node.finishFields fields)

/-- What the items of a list stand for. -/
def Written.values? : List Written → Option (List Toml)
  | [] => some []
  | w :: rest => do return (← value? w) :: (← values? rest)

/-- What the values of an inline table stand for. -/
def Written.entryValues? : List (List String × Written) → Option (List (List String × Toml))
  | [] => some []
  | (path, w) :: rest => do return (path, ← value? w) :: (← entryValues? rest)

end

/-! ## Texts -/

/-- A text while it is put together: its parts and the path of the table that is filled. -/
structure Draft where
  fields : List (String × Node)
  here : List String

/-- One more line taken into a text. -/
def Draft.add (d : Draft) : Line → Option Draft
  | .assignment path w => do
    let t ← w.value?
    let fields ← Node.within (Node.assign t path true) d.here d.fields
    return { d with fields }
  | .tableHeader path => do
    let fields ← Node.within (Node.openTable (← path.getLast?)) path.dropLast d.fields
    return ⟨fields, path⟩
  | .elementHeader path => do
    let fields ← Node.within (Node.openElement (← path.getLast?)) path.dropLast d.fields
    return ⟨fields, path⟩

/-- The fields of the table that a whole text is. -/
def parse (text : String) : Option (List (String × Toml)) := do
  let draft ← (← readLines text).foldlM Draft.add ⟨[], []⟩
  return Node.finishFields draft.fields

end GatedMigration.Toml
