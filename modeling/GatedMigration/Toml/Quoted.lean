import GatedMigration.Number.Digit

/-!
# Quoted strings of TOML

Strings stand between quotation marks, where a backslash escapes, or between apostrophes, where
nothing does; each kind has a long form between three marks, which may go over lines and may end
with one or two marks of its own. The readers start behind the opening marks.
-/

namespace GatedMigration.Toml

/-- Whether a character can stand for itself in a comment or a string: all can but the control
characters, of which only the tab can. -/
def isPrintable (c : Char) : Bool := c == '\t' || (32 ≤ c.toNat && c.toNat != 127)

/-- The character that hexadecimal digits stand for. -/
def hexChar? (cs : List Char) : Option Char := do
  let n ← Digit.number? 16 cs
  if h : n.isValidChar then some (Char.ofNatAux n h) else none

/-- The character behind a one-letter escape. -/
def escaped? (c : Char) : Option Char :=
  if c = '"' ∨ c = '\\' then some c
  else if c = 'n' then some '\n'
  else if c = 'r' then some '\r'
  else if c = 't' then some '\t'
  else if c = 'b' then some '\x08'
  else if c = 'e' then some '\x1b'
  else if c = 'f' then some '\x0c'
  else none

/-- A character put in front of what was read. -/
def prepend (c : Option Char) (r : Option (List Char × List Char)) :
    Option (List Char × List Char) :=
  match c, r with
  | some c, some (cs, rest) => some (c :: cs, rest)
  | _, _ => none

/-- A string between quotation marks. -/
def readBasic : List Char → Option (List Char × List Char)
  | '"' :: rest => some ([], rest)
  | '\\' :: 'x' :: a :: b :: rest => prepend (hexChar? [a, b]) (readBasic rest)
  | '\\' :: 'u' :: a :: b :: c :: d :: rest => prepend (hexChar? [a, b, c, d]) (readBasic rest)
  | '\\' :: 'U' :: a :: b :: c :: d :: e :: f :: g :: h :: rest =>
    prepend (hexChar? [a, b, c, d, e, f, g, h]) (readBasic rest)
  | '\\' :: c :: rest => prepend (escaped? c) (readBasic rest)
  | c :: rest => if isPrintable c then prepend (some c) (readBasic rest) else none
  | [] => none

/-- A string between apostrophes. -/
def readLiteral : List Char → Option (List Char × List Char)
  | '\'' :: rest => some ([], rest)
  | c :: rest => if isPrintable c then prepend (some c) (readLiteral rest) else none
  | [] => none

/-- The marks of its own that a long string ends with, behind the three that close it. -/
def ownMarks (mark : Char) : List Char → List Char × List Char
  | a :: b :: rest =>
    if a = mark ∧ b = mark then ([a, b], rest)
    else if a = mark then ([a], b :: rest)
    else ([], a :: b :: rest)
  | [a] => if a = mark then ([a], []) else ([], [a])
  | [] => ([], [])

/-- Whether a text goes on with blanks up to the end of the line. -/
def endsLine (cs : List Char) : Bool :=
  match cs.dropWhile fun c => c == ' ' || c == '\t' with
  | '\n' :: _ => true
  | '\r' :: '\n' :: _ => true
  | _ => false

/-- A long string between quotation marks. A backslash at the end of a line takes away all blanks
and line ends up to the next other character, as long as `skips` is set. -/
def readLongBasic : Bool → List Char → Option (List Char × List Char)
  | _, '"' :: '"' :: '"' :: rest => some (ownMarks '"' rest)
  | _, '\\' :: 'x' :: a :: b :: rest => prepend (hexChar? [a, b]) (readLongBasic false rest)
  | _, '\\' :: 'u' :: a :: b :: c :: d :: rest =>
    prepend (hexChar? [a, b, c, d]) (readLongBasic false rest)
  | _, '\\' :: 'U' :: a :: b :: c :: d :: e :: f :: g :: h :: rest =>
    prepend (hexChar? [a, b, c, d, e, f, g, h]) (readLongBasic false rest)
  | _, '\\' :: c :: rest =>
    if endsLine (c :: rest) then readLongBasic true (c :: rest)
    else prepend (escaped? c) (readLongBasic false rest)
  | skips, '\r' :: '\n' :: rest =>
    if skips then readLongBasic true rest
    else prepend (some '\r') (prepend (some '\n') (readLongBasic false rest))
  | skips, c :: rest =>
    if skips ∧ (c = ' ' ∨ c = '\t' ∨ c = '\n') then readLongBasic true rest
    else if c = '\n' ∨ isPrintable c then prepend (some c) (readLongBasic false rest)
    else none
  | _, [] => none

/-- A long string between apostrophes. -/
def readLongLiteral : List Char → Option (List Char × List Char)
  | '\'' :: '\'' :: '\'' :: rest => some (ownMarks '\'' rest)
  | '\r' :: '\n' :: rest => prepend (some '\r') (prepend (some '\n') (readLongLiteral rest))
  | c :: rest =>
    if c = '\n' ∨ isPrintable c then prepend (some c) (readLongLiteral rest) else none
  | [] => none

/-- A text without the line end that it starts with, if it does. -/
def dropLineEnd : List Char → List Char
  | '\n' :: rest => rest
  | '\r' :: '\n' :: rest => rest
  | cs => cs

/-- A string of any kind, if one stands in front of a text. -/
def readString (cs : List Char) : Option (List Char × List Char) :=
  match cs with
  | '"' :: '"' :: '"' :: rest => readLongBasic false (dropLineEnd rest)
  | '"' :: rest => readBasic rest
  | '\'' :: '\'' :: '\'' :: rest => readLongLiteral (dropLineEnd rest)
  | '\'' :: rest => readLiteral rest
  | _ => none

end GatedMigration.Toml
