import GatedMigration.Pattern.Mode
import GatedMigration.Pattern.Property

/-!
# Escapes

What a backslash begins: characters that would mean something else without it, characters by their
code, classes, properties, and conditions on a place.
-/

namespace GatedMigration.Pattern

open Unicode (CharSet)

/-- What one atom of the notation stands for. -/
inductive Atom where
  /-- A character; `isByte` if it is given as a byte. -/
  | literal (c : Char) (isByte : Bool)
  | set (s : CharSet)
  | anchor (a : Anchor)

/-- The character with a code, unless the code is half of a surrogate pair or too large. -/
def charOf? (n : Nat) : Option Char :=
  if n < 0xD800 ∨ (0xDFFF < n ∧ n < 0x110000) then some (Char.ofNat n) else none

/-- A fixed number of hexadecimal digits. -/
def readHexDigits (m : Mode) : Nat → Nat → List Char → Option (Nat × List Char)
  | 0, n, cs => some (n, cs)
  | k + 1, n, cs =>
    match cs with
    | c :: rest => (Digit.value? c).bind fun d => readHexDigits m k (16 * n + d) (m.skip rest)
    | [] => none

/-- What stands up to a closing brace, in verbose mode without blanks and comments. -/
def readBraced (m : Mode) : Nat → List Char → Option (List Char × List Char)
  | 0, _ => none
  | fuel + 1, cs =>
    match m.skip cs with
    | [] => none
    | '\x7d' :: rest => some ([], rest)
    | c :: rest => (readBraced m fuel rest).map fun (text, rest) => (c :: text, rest)

/-- A character given by its code: in braces, or with a fixed number of digits. -/
def readHex (m : Mode) (digits : Nat) (cs : List Char) : Option (Atom × List Char) :=
  match m.skip cs with
  | '\x7b' :: rest => do
    let (text, rest) ← readBraced m (rest.length + 1) rest
    if text.isEmpty then none
    else return (.literal (← charOf? (← Digit.number? 16 text)) false, m.skip rest)
  | cs => do
    let (n, rest) ← readHexDigits m digits 0 cs
    return (.literal (← charOf? n) (digits == 2), rest)

/-- The name of a Unicode property, in braces or of one letter: its set, and whether the name
negates it. -/
def readPropertyName (m : Mode) (cs : List Char) : Option ((CharSet × Bool) × List Char) :=
  match m.skip cs with
  | '\x7b' :: rest => do
    let (text, rest) ← readBraced m (rest.length + 1) rest
    return (← propertyText? text, rest)
  | '\\' :: _ => none
  | c :: rest => (propertyNamed? (plainName [c])).map fun s => ((s, false), m.skip rest)
  | [] => none

/-- A Unicode property after its letter. -/
def readProperty (m : Mode) (negated : Bool) (cs : List Char) : Option (Atom × List Char) := do
  let ((set, inner), rest) ← readPropertyName m cs
  if m.unicode then return (.set (← m.close? (negated != inner) set), rest) else none

/-- Whether a character has a meaning of its own in the notation. -/
def isMeta (c : Char) : Bool := "\\.+*?()|[]\x7b\x7d^$#&-~".toList.contains c

/-- Whether a character stands for itself after a backslash. -/
def isEscapable (c : Char) : Bool :=
  isMeta c || (decide (c.toNat < 128) && !c.isAlphanum && c != '<' && c != '>')

/-- The characters that a letter after a backslash stands for. -/
def controlEscape? (c : Char) : Option Char :=
  match c with
  | 'a' => some '\x07'
  | 'f' => some '\x0c'
  | 't' => some '\t'
  | 'n' => some '\n'
  | 'r' => some '\r'
  | 'v' => some '\x0b'
  | _ => none

/-- Whether a character can stand in the name of a word boundary. -/
def isBoundaryChar (c : Char) : Bool := c.isAlpha || c == '-'

/-- The name of a word boundary, up to the first character that cannot stand in it. -/
def readBoundaryName (m : Mode) : Nat → List Char → List Char × List Char
  | 0, cs => ([], cs)
  | fuel + 1, cs =>
    match cs with
    | c :: rest =>
      if isBoundaryChar c then
        let (name, rest) := readBoundaryName m fuel (m.skip rest)
        (c :: name, rest)
      else ([], cs)
    | [] => ([], [])

/-- The word boundary of a name. -/
def boundaryNamed? (m : Mode) (name : String) : Option Anchor :=
  if name = "start" then some (.wordStart m.word)
  else if name = "end" then some (.wordEnd m.word)
  else if name = "start-half" then some (.wordStartHalf m.word)
  else if name = "end-half" then some (.wordEndHalf m.word)
  else none

/-- A word boundary with a name in braces; an opening brace that no name follows belongs to what
comes next. -/
def readBoundary (m : Mode) (cs : List Char) : Option (Atom × List Char) :=
  let plain : Atom := .anchor (.boundary m.word)
  match cs with
  | '\x7b' :: rest =>
    match m.skip rest with
    | [] => none
    | inner =>
      match readBoundaryName m inner.length inner with
      | ([], _) => some (plain, cs)
      | (name, '\x7d' :: rest) =>
        (boundaryNamed? m (String.ofList name)).map fun a => (.anchor a, rest)
      | _ => none
  | _ => some (plain, cs)

/-- What follows a backslash. -/
def readEscape (m : Mode) : List Char → Option (Atom × List Char)
  | [] => none
  | c :: rest =>
    if c = 'x' then readHex m 2 rest
    else if c = 'u' then readHex m 4 rest
    else if c = 'U' then readHex m 8 rest
    else if c = 'p' ∨ c = 'P' then readProperty m (c == 'P') rest
    else if c ∈ ['d', 'D', 's', 'S', 'w', 'W'] then (m.letterClass? c).map fun s => (.set s, rest)
    else if isEscapable c then some (.literal c false, rest)
    else if c = 'A' then some (.anchor .textStart, rest)
    else if c = 'z' then some (.anchor .textEnd, rest)
    else if c = 'b' then readBoundary m rest
    else if c = 'B' then some (.anchor (.noBoundary m.word), rest)
    else if c = '<' then some (.anchor (.wordStart m.word), rest)
    else if c = '>' then some (.anchor (.wordEnd m.word), rest)
    else (controlEscape? c).map fun c => (.literal c false, rest)

end GatedMigration.Pattern
