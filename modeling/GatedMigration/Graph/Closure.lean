/-!
# The transitive closure of a relation

A relation on the first naturals is a list of rows: bit `j` of row `i` says that `i` is related to
`j`. The closure lets paths through one number after the other.
-/

namespace GatedMigration.Closure

/-- Whether `i` is related to `j`. -/
def related (rows : List Nat) (i j : Nat) : Bool := (rows.getD i 0).testBit j

/-- The row in which the bits of a list of numbers are set. -/
def row (js : List Nat) : Nat := js.foldl (fun r j => r ||| Nat.pow 2 j) 0

/-- Paths through `k` joined to a relation. -/
def through (k : Nat) (rows : List Nat) : List Nat :=
  let via := rows.getD k 0
  rows.map fun r => if r.testBit k then r ||| via else r

/-- Paths through any of the first numbers. -/
def closure (rows : List Nat) : List Nat :=
  (List.range rows.length).foldl (fun rows k => through k rows) rows

end GatedMigration.Closure
