/-!
# Double-precision numbers

A number with a fraction is one of the 2⁶⁴ binary64 patterns, kept as its bits. What the rest of
the library needs of it is exact arithmetic on naturals: what the pattern stands for (`view`), the
pattern nearest to a fraction of naturals, to an integer or to a decimal (`nearest`, `ofInt`,
`ofDecimal`, all to nearest with ties to even), and the order of two numbers, in which NaN stands
beside every other one and the two zeros are equal (`compare?`).
-/

namespace GatedMigration

/-- A double-precision number, given by its bit pattern. -/
structure Binary64 where
  bits : UInt64
deriving DecidableEq, Inhabited

/-- What a bit pattern stands for: a finite one is `± significand × 2 ^ exponent`. -/
inductive Binary64.View where
  | nan
  | infinite (negative : Bool)
  | finite (negative : Bool) (significand : Nat) (exponent : Int)

/-- A numerator over a positive denominator, rounded to the nearest natural, a half to the even
neighbour. -/
def roundHalfEven (num den : Nat) : Nat :=
  let q := num / den
  let r := num % den
  if 2 * r < den then q
  else if den < 2 * r then q + 1
  else q + q % 2

namespace Binary64

/-- The sign bit. -/
def negative (x : Binary64) : Bool := decide (Nat.pow 2 63 ≤ x.bits.toNat)

/-- The bits below the sign. -/
def magnitude (x : Binary64) : Nat := x.bits.toNat % Nat.pow 2 63

/-- The magnitude of the infinities: the greatest one that is not a NaN. -/
def infiniteMagnitude : Nat := 2047 * Nat.pow 2 52

/-- The number with a sign and a magnitude. -/
def ofMagnitude (negative : Bool) (magnitude : Nat) : Binary64 :=
  ⟨UInt64.ofNat ((if negative then Nat.pow 2 63 else 0) + magnitude)⟩

/-- The meaning of a bit pattern. -/
def view (x : Binary64) : View :=
  let biased : Nat := x.magnitude / Nat.pow 2 52
  let fraction : Nat := x.magnitude % Nat.pow 2 52
  if biased = 2047 then
    if fraction = 0 then .infinite x.negative else .nan
  else if biased = 0 then .finite x.negative fraction (-1074)
  else .finite x.negative (Nat.pow 2 52 + fraction) ((biased : Int) - 1075)

def nan : Binary64 := ofMagnitude false (infiniteMagnitude + Nat.pow 2 51)

def infinity (negative : Bool) : Binary64 := ofMagnitude negative infiniteMagnitude

def zero (negative : Bool) : Binary64 := ofMagnitude negative 0

/-- `num × 2 ^ -e` as a fraction of naturals over `den`. -/
def scaleDown (num den : Nat) (e : Int) : Nat × Nat :=
  if 0 ≤ e then (num, den * Nat.pow 2 e.toNat) else (num * Nat.pow 2 (-e).toNat, den)

/-- The double nearest to a fraction with a positive denominator. -/
def nearest (negative : Bool) (num den : Nat) : Binary64 :=
  if num = 0 then zero negative
  else
    let low : Int := (num.log2 : Int) - den.log2 - 53
    let (n, d) := scaleDown num den low
    let e := max (if Nat.pow 2 53 * d ≤ n then low + 1 else low) (-1074)
    let (n, d) := scaleDown num den e
    let magnitude := (e + 1074).toNat * Nat.pow 2 52 + roundHalfEven n d
    ofMagnitude negative (min magnitude infiniteMagnitude)

/-- The double nearest to an integer. -/
def ofInt (n : Int) : Binary64 := nearest (decide (n < 0)) n.natAbs 1

/-- The double nearest to `± digits × 10 ^ exponent`; far outside the range the power is not
computed. -/
def ofDecimal (negative : Bool) (digits : Nat) (exponent : Int) : Binary64 :=
  let top : Int := (digits.log2 : Int) * 3 / 10 + exponent
  if digits = 0 then zero negative
  else if 400 < top then infinity negative
  else if top < -400 then zero negative
  else if 0 ≤ exponent then nearest negative (digits * Nat.pow 10 exponent.toNat) 1
  else nearest negative digits (Nat.pow 10 (-exponent).toNat)

/-- Whether the number is neither infinite nor NaN. -/
def isFinite (x : Binary64) : Bool := decide (x.magnitude < infiniteMagnitude)

/-- The place of a number in the order; NaN has none. Patterns of one sign ascend with their
magnitude, and the two zeros share a place. -/
def rank? (x : Binary64) : Option Int :=
  if infiniteMagnitude < x.magnitude then none
  else some (if x.negative then -(x.magnitude : Int) else x.magnitude)

/-- The order of two numbers; none if one of them is NaN. -/
def compare? (x y : Binary64) : Option Ordering :=
  match x.rank?, y.rank? with
  | some a, some b => some (compare a b)
  | _, _ => none

/-- Equality of numbers: a NaN equals nothing, and the two zeros are equal. -/
instance : BEq Binary64 := ⟨fun x y => x.compare? y == some .eq⟩

/-- Whether the number is a zero of either sign. -/
def isZero (x : Binary64) : Bool := x.magnitude == 0

end Binary64

end GatedMigration
