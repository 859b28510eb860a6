/-!
# Digits

The digits up to fifteen are the decimal digits and the letters from a to f of either case. A text
of such digits is read in a base by `Digit.number?`.
-/

namespace GatedMigration.Digit

/-- The value of a digit. -/
def value? (c : Char) : Option Nat :=
  if c.isDigit then some (c.toNat - '0'.toNat)
  else if 'a' ≤ c ∧ c ≤ 'f' then some (c.toNat - 'a'.toNat + 10)
  else if 'A' ≤ c ∧ c ≤ 'F' then some (c.toNat - 'A'.toNat + 10)
  else none

/-- Whether a character is a digit of a base. -/
def isOf (base : Nat) (c : Char) : Bool := (value? c).any fun d => decide (d < base)

/-- The number that digits stand for in a base; `high` is what stands in front of them. -/
def numberFrom? (base : Nat) : Nat → List Char → Option Nat
  | high, [] => some high
  | high, c :: cs =>
    match value? c with
    | some d => if d < base then numberFrom? base (base * high + d) cs else none
    | none => none

/-- The number that digits stand for in a base. -/
def number? (base : Nat) (cs : List Char) : Option Nat := numberFrom? base 0 cs

end GatedMigration.Digit
