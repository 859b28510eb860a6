import GatedMigration.Number.Digit
import GatedMigration.Pattern.Expression
import GatedMigration.Unicode.Folding

/-!
# Flags of the notation

The flags that say how a regular expression is to be read, and what depends on them: which blanks
and comments are left out, which characters count as the same, and what the class letters stand for.
-/

namespace GatedMigration.Pattern

open Unicode (CharSet)

/-- The flags in force at a place of the notation. -/
structure Mode where
  ignoreCase : Bool
  multiLine : Bool
  dotMatchesAll : Bool
  crlf : Bool
  unicode : Bool
  /-- Repetitions have few rounds unless a mark asks for many, and not the other way round. -/
  fewRounds : Bool
  /-- Blanks and comments in the notation are left out. -/
  verbose : Bool

/-- The flags at the start. -/
def Mode.start : Mode := ⟨false, false, false, false, true, false, false⟩

/-! ## Blanks and comments -/

/-- The text from the first character that belongs neither to a blank nor to a comment. -/
def skipTrivia (inComment : Bool) : List Char → List Char
  | [] => []
  | c :: cs =>
    if inComment then skipTrivia (c ≠ '\n') cs
    else if Unicode.isBlank c then skipTrivia false cs
    else if c = '#' then skipTrivia true cs
    else c :: cs

/-- Blanks and comments left out in verbose mode. -/
def Mode.skip (m : Mode) (cs : List Char) : List Char :=
  if m.verbose then skipTrivia false cs else cs

/-- What follows a character inside brackets, as far as it decides whether that character is the
hyphen of a range: blanks are passed over, and so is the mark of a comment, but not the comment. -/
def Mode.peek (m : Mode) (cs : List Char) : Option Char :=
  if m.verbose then
    match cs.dropWhile Unicode.isBlank with
    | '#' :: rest => (rest.dropWhile Unicode.isBlank).head?
    | rest => rest.head?
  else cs.head?

/-! ## Sets -/

/-- The ASCII letters, digits and underscore. -/
def asciiWord : CharSet := CharSet.ofText "30-39 41-5A 5F 61-7A"

/-- The word characters of a mode. -/
def Mode.word (m : Mode) : CharSet := if m.unicode then Unicode.wordCharacters else asciiWord

/-- The other case of the ASCII letters of a set. -/
def foldAscii (s : CharSet) : CharSet :=
  let upper := s.intersect (CharSet.ofText "41-5A")
  let lower := s.intersect (CharSet.ofText "61-7A")
  CharSet.unions [s, ⟨upper.ranges.map fun r => (r.1 + 32, r.2 + 32)⟩,
    ⟨lower.ranges.map fun r => (r.1 - 32, r.2 - 32)⟩]

/-- A set closed under case, if the mode asks for it. -/
def Mode.fold (m : Mode) (s : CharSet) : CharSet :=
  if m.ignoreCase then if m.unicode then s.fold else foldAscii s else s

/-- A set closed under case and negated. Without Unicode a set holds bytes, and only those of ASCII
are characters. -/
def Mode.close? (m : Mode) (negated : Bool) (s : CharSet) : Option CharSet :=
  let folded := m.fold s
  let top := if m.unicode then CharSet.last else 0xFF
  let closed := if negated then folded.complement top else folded
  if m.unicode ∨ closed.isUpTo 0x7F then some closed else none

/-- The sets with a name between colons. -/
def namedAscii : List (String × String) := [
  ("alnum", "30-39 41-5A 61-7A"), ("alpha", "41-5A 61-7A"), ("ascii", "0-7F"), ("blank", "9 20"),
  ("cntrl", "0-1F 7F"), ("digit", "30-39"), ("graph", "21-7E"), ("lower", "61-7A"),
  ("print", "20-7E"), ("punct", "21-2F 3A-40 5B-60 7B-7E"), ("space", "9-D 20"),
  ("upper", "41-5A"), ("word", "30-39 41-5A 5F 61-7A"), ("xdigit", "30-39 41-46 61-66")]

/-- The set of a class letter. -/
def Mode.letterClass? (m : Mode) (c : Char) : Option CharSet :=
  match c.toLower with
  | 'd' => m.close? c.isUpper (if m.unicode then Unicode.decimalDigits else CharSet.ofText "30-39")
  | 's' => m.close? c.isUpper (if m.unicode then Unicode.blanks else CharSet.ofText "9-D 20")
  | 'w' => m.close? c.isUpper m.word
  | _ => none

/-- What the dot stands for. -/
def Mode.dot? (m : Mode) : Option CharSet :=
  let left := if m.dotMatchesAll then CharSet.empty
    else if m.crlf then CharSet.ofText "A D" else CharSet.ofText "A"
  if m.unicode then some (left.complement CharSet.last) else none

/-- The start of a line or of the text. -/
def Mode.startAnchor (m : Mode) : Anchor :=
  if m.multiLine then if m.crlf then .lineStartCrlf else .lineStart else .textStart

/-- The end of a line or of the text. -/
def Mode.endAnchor (m : Mode) : Anchor :=
  if m.multiLine then if m.crlf then .lineEndCrlf else .lineEnd else .textEnd

/-- A flag switched on or off. -/
def Mode.set? (m : Mode) (flag : Char) (on : Bool) : Option Mode :=
  match flag with
  | 'i' => some { m with ignoreCase := on }
  | 'm' => some { m with multiLine := on }
  | 's' => some { m with dotMatchesAll := on }
  | 'U' => some { m with fewRounds := on }
  | 'u' => some { m with unicode := on }
  | 'R' => some { m with crlf := on }
  | 'x' => some { m with verbose := on }
  | _ => none

end GatedMigration.Pattern
