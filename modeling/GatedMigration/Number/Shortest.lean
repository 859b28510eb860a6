import GatedMigration.Number.Binary64

/-!
# The text of a number

A finite double is written with the fewest decimal digits that read back as the same double, and
among those with the digits nearest to it (`Binary64.shortest`). How digits become text is a choice
of the format that writes them: `NumberLayout` lists these choices and `Binary64.render` follows
them.
-/

namespace GatedMigration

/-- Which of two equally near decimals is taken. -/
inductive TieRule where
  | toEven
  | up

/-- A positive decimal: `digits × 10 ^ exponent`. -/
structure Decimal where
  digits : Nat
  exponent : Int

namespace Decimal

/-- The decimal without the zeros at its end. -/
def trimAux : Nat → Nat → Int → Decimal
  | 0, d, e => ⟨d, e⟩
  | fuel + 1, d, e => if d % 10 = 0 ∧ d ≠ 0 then trimAux fuel (d / 10) (e + 1) else ⟨d, e⟩

/-- The decimal without the zeros at its end; a double has at most seventeen digits. -/
def trim (d : Decimal) : Decimal := trimAux 20 d.digits d.exponent

end Decimal

namespace Binary64

/-- The fractions between which every real rounds to `significand × 2 ^ exponent`, in units of a
quarter of the last place: lower end, the value, upper end. -/
def quarters (significand : Nat) (exponent : Int) : Nat × Nat × Nat :=
  let m := 4 * significand
  (if significand = Nat.pow 2 52 ∧ -1074 < exponent then m - 1 else m - 2, m, m + 2)

/-- The grid with `places` digits below the leading one, tried at the two neighbours of the value:
the hit on it, if one of them rounds to the value. -/
def tryGrid (tie : TieRule) (significand : Nat) (exponent step : Int) : Option Decimal :=
  let (lo, mid, hi) := quarters significand exponent
  let q := exponent - 2
  -- quarter × 2 ^ q over 10 ^ step, as quarter × num / den
  let num := (if 0 ≤ q then Nat.pow 2 q.toNat else 1)
    * (if step < 0 then Nat.pow 10 (-step).toNat else 1)
  let den := (if q < 0 then Nat.pow 2 (-q).toNat else 1)
    * (if 0 ≤ step then Nat.pow 10 step.toNat else 1)
  let down := mid * num / den
  let even := significand % 2 = 0
  let within (c : Nat) : Bool :=
    decide (c ≠ 0) &&
      if even then decide (lo * num ≤ c * den ∧ c * den ≤ hi * num)
      else decide (lo * num < c * den ∧ c * den < hi * num)
  match within down, within (down + 1) with
  | false, false => none
  | true, false => some ⟨down, step⟩
  | false, true => some ⟨down + 1, step⟩
  | true, true =>
    let twice := 2 * (mid * num)
    let middle := (2 * down + 1) * den
    if twice < middle then some ⟨down, step⟩
    else if middle < twice then some ⟨down + 1, step⟩
    else match tie with
      | .toEven => some ⟨down + down % 2, step⟩
      | .up => some ⟨down + 1, step⟩

/-- The power of ten of the leading digit of `significand × 2 ^ exponent`. -/
def leadingPlace (significand : Nat) (exponent : Int) : Int :=
  if 0 ≤ exponent then
    ((Nat.toDigits 10 (significand * Nat.pow 2 exponent.toNat)).length : Int) - 1
  else
    -- shift the value left by enough places to have an integer part
    let places := (-exponent).toNat
    let digits := Nat.toDigits 10 (significand * Nat.pow 10 places / Nat.pow 2 places)
    (digits.length : Int) - 1 - places

/-- The grids from one digit on, at most `fuel` of them; the first that has a hit wins. -/
def searchGrids (tie : TieRule) (significand : Nat) (exponent : Int) : Nat → Int → Decimal
  | 0, step => ⟨0, step⟩
  | fuel + 1, step =>
    match tryGrid tie significand exponent step with
    | some d => d
    | none => searchGrids tie significand exponent fuel (step - 1)

/-- The shortest decimal that rounds to the positive double `significand × 2 ^ exponent`. -/
def shortest (tie : TieRule) (significand : Nat) (exponent : Int) : Decimal :=
  (searchGrids tie significand exponent 18 (leadingPlace significand exponent)).trim

end Binary64

/-- The choices of a format that writes numbers. -/
structure NumberLayout where
  tie : TieRule
  /-- The powers of ten of the leading digit that are written without an exponent. -/
  positional : Int → Bool
  /-- Whether a whole number that is written without an exponent ends in `.0`. -/
  keepsFraction : Bool
  nan : String
  infinity : String
  negativeInfinity : String

/-- Digits with the point after the leading `intDigits` of them; zeros fill the gaps. -/
def pointAt (digits : List Char) (intDigits : Int) (keepsFraction : Bool) : List Char :=
  if intDigits ≤ 0 then
    '0' :: '.' :: (List.replicate (-intDigits).toNat '0' ++ digits)
  else
    let n := intDigits.toNat
    let whole := digits.take n ++ List.replicate (n - digits.length) '0'
    match digits.drop n with
    | [] => if keepsFraction then whole ++ ['.', '0'] else whole
    | fraction => whole ++ '.' :: fraction

/-- One digit, the point and the others, then the power of ten with its sign. -/
def withExponent (digits : List Char) (e : Int) : List Char :=
  let mantissa := match digits with
    | [] => []
    | [d] => [d]
    | d :: ds => d :: '.' :: ds
  mantissa ++ 'e' :: (if e < 0 then '-' else '+') :: Nat.toDigits 10 e.natAbs

/-- The text of a number in a layout. -/
def Binary64.render (layout : NumberLayout) (x : Binary64) : String :=
  match x.view with
  | .nan => layout.nan
  | .infinite false => layout.infinity
  | .infinite true => layout.negativeInfinity
  | .finite negative m q =>
    let unsigned :=
      if m = 0 then if layout.keepsFraction then ['0', '.', '0'] else ['0']
      else
        let d := shortest layout.tie m q
        let digits := Nat.toDigits 10 d.digits
        let e : Int := d.exponent + digits.length - 1
        if layout.positional e then pointAt digits (e + 1) layout.keepsFraction
        else withExponent digits e
    String.ofList (if negative then '-' :: unsigned else unsigned)

end GatedMigration
