import GatedMigration.Number.Binary64

/-!
# Decimal literals

What the text of a number says: its sign, its digits as one natural, the power of ten that they are
taken with, and whether it is written as an integer, with neither a fraction nor an exponent.
-/

namespace GatedMigration

/-- A number as it is written: `± digits × 10 ^ exponent`. -/
structure NumberLiteral where
  negative : Bool
  digits : Nat
  exponent : Int
  /-- Written with neither a fraction nor an exponent. -/
  integral : Bool

namespace NumberLiteral

/-- The value of an exponent with an optional sign. -/
def exponentOf : List Char → Int
  | '-' :: ds => -(Nat.ofDigitChars 10 ds 0 : Int)
  | '+' :: ds => Nat.ofDigitChars 10 ds 0
  | ds => Nat.ofDigitChars 10 ds 0

/-- A literal without its sign. -/
def ofUnsigned (negative : Bool) (cs : List Char) : NumberLiteral :=
  let whole := cs.takeWhile Char.isDigit
  let rest := cs.dropWhile Char.isDigit
  let (fraction, tail) := match rest with
    | '.' :: rest => (rest.takeWhile Char.isDigit, rest.dropWhile Char.isDigit)
    | rest => ([], rest)
  let e := match tail with
    | _ :: e => exponentOf e
    | [] => 0
  { negative
    digits := Nat.ofDigitChars 10 (whole ++ fraction) 0
    exponent := e - fraction.length
    integral := rest.isEmpty }

/-- What a well-formed literal says. -/
def ofChars : List Char → NumberLiteral
  | '-' :: cs => ofUnsigned true cs
  | '+' :: cs => ofUnsigned false cs
  | cs => ofUnsigned false cs

/-- The double nearest to the literal. -/
def toBinary64 (l : NumberLiteral) : Binary64 :=
  Binary64.ofDecimal l.negative l.digits l.exponent

/-- The integer that an integral literal stands for. -/
def toInt (l : NumberLiteral) : Int := if l.negative then -(l.digits : Int) else l.digits

end NumberLiteral

end GatedMigration
