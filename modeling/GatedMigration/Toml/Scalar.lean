import GatedMigration.Number.Digit
import GatedMigration.Number.Literal
import GatedMigration.Toml

/-!
# Bare scalars of TOML

Truth values, integers, floats, and dates and times are written without quotes. `Toml.scalar?` says
what such a word stands for: integers in four bases, with underscores between digits; floats with a
fraction or an exponent; dates and times, which are kept as text in one normal form, with the
seconds, at most nine digits of a fraction of a second and no zero at its end.
-/

namespace GatedMigration.Toml

/-! ## Numbers -/

/-- Digits without the underscores, of which every one stands between two digits. -/
def ungroup? (isDigit : Char → Bool) : List Char → Option (List Char)
  | [] => none
  | [c] => if isDigit c then some [c] else none
  | c :: '_' :: rest => if isDigit c then (ungroup? isDigit rest).map (c :: ·) else none
  | c :: rest => if isDigit c then (ungroup? isDigit rest).map (c :: ·) else none

/-- Whether a character can be part of a decimal number between its marks. -/
def isDigitOrMark (c : Char) : Bool := c.isDigit || c == '_'

/-- The digits of a number in front of the point: the first is no zero unless it is the only one. -/
def wholeDigits? (cs : List Char) : Option (List Char) :=
  match ungroup? Char.isDigit cs with
  | some ('0' :: _ :: _) => none
  | ds => ds

/-- An exponent, with its mark. -/
def exponent? : List Char → Option (List Char)
  | '+' :: ds => (ungroup? Char.isDigit ds).map fun ds => 'e' :: '+' :: ds
  | '-' :: ds => (ungroup? Char.isDigit ds).map fun ds => 'e' :: '-' :: ds
  | ds => (ungroup? Char.isDigit ds).map ('e' :: ·)

/-- What stands behind the whole part of a float: a fraction, an exponent, or both. -/
def tail? : List Char → Option (List Char)
  | '.' :: rest => do
    let fraction ← ungroup? Char.isDigit (rest.takeWhile isDigitOrMark)
    match rest.dropWhile isDigitOrMark with
    | [] => return '.' :: fraction
    | e :: rest =>
      if e = 'e' ∨ e = 'E' then return '.' :: fraction ++ (← exponent? rest) else none
  | e :: rest => if e = 'e' ∨ e = 'E' then exponent? rest else none
  | [] => none

/-- An integer, if it is in the range. -/
def integer? (negative : Bool) (n : Nat) : Option Toml :=
  let n : Int := if negative then -(n : Int) else n
  if inRange n then some (.integer n) else none

/-- A float, if there is a double of that size. -/
def float? (cs : List Char) : Option Toml :=
  let x := (NumberLiteral.ofChars cs).toBinary64
  if x.isFinite then some (.float x) else none

/-- A decimal number behind its sign. -/
def decimal? (negative : Bool) (cs : List Char) : Option Toml := do
  let whole ← wholeDigits? (cs.takeWhile isDigitOrMark)
  match cs.dropWhile isDigitOrMark with
  | [] => integer? negative (Nat.ofDigitChars 10 whole 0)
  | rest =>
    let text := whole ++ (← tail? rest)
    float? (if negative then '-' :: text else text)

/-- A natural in a base other than ten. -/
def based? (base : Nat) (cs : List Char) : Option Toml := do
  let ds ← ungroup? (Digit.isOf base) cs
  integer? false (← Digit.number? base ds)

/-- A number or one of the words for what is none. -/
def number? : List Char → Option Toml
  | '0' :: 'x' :: ds => based? 16 ds
  | '0' :: 'o' :: ds => based? 8 ds
  | '0' :: 'b' :: ds => based? 2 ds
  | cs =>
    let (negative, rest) := match cs with
      | '-' :: rest => (true, rest)
      | '+' :: rest => (false, rest)
      | rest => (false, rest)
    match rest with
    | ['i', 'n', 'f'] => some (.float (Binary64.infinity negative))
    | ['n', 'a', 'n'] => some (.float Binary64.nan)
    | _ => decimal? negative rest

/-! ## Dates and times -/

/-- The number that two digits stand for, if it is in a range. -/
def pair? (low high : Nat) (a b : Char) : Option Nat :=
  let n := (a.toNat - '0'.toNat) * 10 + (b.toNat - '0'.toNat)
  if a.isDigit ∧ b.isDigit ∧ low ≤ n ∧ n ≤ high then some n else none

/-- Whether a year has a 29th of February. -/
def isLeapYear (year : Nat) : Bool :=
  decide (year % 4 = 0 ∧ (year % 100 ≠ 0 ∨ year % 400 = 0))

/-- The last day of a month. -/
def lastDay (year month : Nat) : Nat :=
  if month = 2 then (if isLeapYear year then 29 else 28)
  else if month = 4 ∨ month = 6 ∨ month = 9 ∨ month = 11 then 30
  else 31

/-- A date in front of a text. -/
def readDate : List Char → Option (List Char × List Char)
  | c :: y :: e :: a :: '-' :: m :: n :: '-' :: d :: f :: rest => do
    let year := (← pair? 0 99 c y) * 100 + (← pair? 0 99 e a)
    let month ← pair? 1 12 m n
    let _ ← pair? 1 (lastDay year month) d f
    return ([c, y, e, a, '-', m, n, '-', d, f], rest)
  | _ => none

/-- A fraction of a second in normal form. -/
def normalFraction (ds : List Char) : List Char :=
  match ((ds.take 9).reverse.dropWhile (· == '0')).reverse with
  | [] => []
  | ds => '.' :: ds

/-- A time of day in front of a text. A time without seconds is that of the full minute. -/
def readTime : List Char → Option (List Char × List Char)
  | h :: i :: ':' :: m :: n :: rest => do
    let _ ← pair? 0 23 h i
    let _ ← pair? 0 59 m n
    match rest with
    | ':' :: s :: t :: rest =>
      let _ ← pair? 0 60 s t
      let time := [h, i, ':', m, n, ':', s, t]
      match rest with
      | '.' :: rest =>
        match rest.takeWhile Char.isDigit with
        | [] => none
        | ds => return (time ++ normalFraction ds, rest.dropWhile Char.isDigit)
      | rest => return (time, rest)
    | rest => return ([h, i, ':', m, n, ':', '0', '0'], rest)
  | _ => none

/-- The offset of a time zone in normal form, or nothing at all. -/
def offset? : List Char → Option (List Char)
  | [] => some []
  | ['Z'] => some ['Z']
  | ['z'] => some ['Z']
  | [sign, h, i, ':', m, n] => do
    let hours ← pair? 0 23 h i
    let minutes ← pair? 0 59 m n
    if sign = '+' then return ['+', h, i, ':', m, n]
    else if sign = '-' then
      return (if hours = 0 ∧ minutes = 0 then '+' else '-') :: [h, i, ':', m, n]
    else none
  | _ => none

/-- A date, a time of day or both, in normal form. -/
def dateTime? (cs : List Char) : Option Toml :=
  match readDate cs with
  | none => do
    let (time, rest) ← readTime cs
    if rest.isEmpty then return dateTime (String.ofList time) else none
  | some (date, []) => some (dateTime (String.ofList date))
  | some (date, mark :: rest) => do
    let (time, rest) ← readTime rest
    let offset ← offset? rest
    if mark = 'T' ∨ mark = 't' ∨ mark = ' ' then
      return dateTime (String.ofList (date ++ 'T' :: time ++ offset))
    else none

/-! ## All together -/

/-- What a bare word stands for. -/
def scalar? (cs : List Char) : Option Toml :=
  match cs with
  | ['t', 'r', 'u', 'e'] => some (.boolean true)
  | ['f', 'a', 'l', 's', 'e'] => some (.boolean false)
  | cs => (number? cs).or (dateTime? cs)

end GatedMigration.Toml
