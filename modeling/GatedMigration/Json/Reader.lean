import GatedMigration.Json
import GatedMigration.Number.Digit

/-!
# Reading JSON

`Json.parse` reads one value with blanks around it and refuses everything else: numbers with a
leading zero or a bare point, control characters inside strings, commas without an item, half a
surrogate pair among the escapes. `Json.parseOnly` is for a structure of which some fields are
wanted: the others have to be well written, but what their strings stand for is not looked at. The
readers work on lists of characters and give back what they read together with the rest.
-/

namespace GatedMigration

namespace Json

/-- The blanks between the parts of a text. -/
def isBlank (c : Char) : Bool := c == ' ' || c == '\n' || c == '\r' || c == '\t'

/-- The text from its first character that is no blank. -/
def skipBlanks (cs : List Char) : List Char := cs.dropWhile isBlank

/-! ## Strings -/

/-- A part of a string: a character, or a 16-bit unit from an escape. -/
inductive Piece where
  | char (c : Char)
  | unit (u : Nat)

/-- The unit that four hexadecimal digits stand for. -/
def hexUnit? (a b c d : Char) : Option Nat := Digit.number? 16 [a, b, c, d]

/-- The character behind a one-letter escape. -/
def letterEscape? (c : Char) : Option Char :=
  if c = '"' ∨ c = '\\' ∨ c = '/' then some c
  else if c = 'n' then some '\n'
  else if c = 'r' then some '\r'
  else if c = 't' then some '\t'
  else if c = 'b' then some '\x08'
  else if c = 'f' then some '\x0c'
  else none

/-- The parts of a string up to the closing quote. -/
def readPieces : List Char → Option (List Piece × List Char)
  | '"' :: rest => some ([], rest)
  | '\\' :: 'u' :: a :: b :: c :: d :: rest =>
    match hexUnit? a b c d, readPieces rest with
    | some u, some (pieces, rest) => some (.unit u :: pieces, rest)
    | _, _ => none
  | '\\' :: e :: rest =>
    match letterEscape? e, readPieces rest with
    | some c, some (pieces, rest) => some (.char c :: pieces, rest)
    | _, _ => none
  | c :: rest =>
    if c.toNat < 32 then none
    else
      match readPieces rest with
      | some (pieces, rest) => some (.char c :: pieces, rest)
      | none => none
  | [] => none

/-- Whether a unit is the first half of a surrogate pair. -/
def isHighHalf (u : Nat) : Bool := decide (0xD800 ≤ u ∧ u < 0xDC00)

/-- Whether a unit is the second half of a surrogate pair. -/
def isLowHalf (u : Nat) : Bool := decide (0xDC00 ≤ u ∧ u < 0xE000)

/-- The characters of a string's parts; half a pair stands for none. -/
def joinPieces : List Piece → Option (List Char)
  | [] => some []
  | .char c :: rest => (joinPieces rest).map (c :: ·)
  | .unit u :: .unit v :: rest =>
    if isHighHalf u then
      if isLowHalf v then
        (joinPieces rest).map (Char.ofNat (0x10000 + (u - 0xD800) * 0x400 + (v - 0xDC00)) :: ·)
      else none
    else if isLowHalf u then none
    else (joinPieces (.unit v :: rest)).map (Char.ofNat u :: ·)
  | .unit u :: rest =>
    if isHighHalf u ∨ isLowHalf u then none
    else (joinPieces rest).map (Char.ofNat u :: ·)

/-- A string after its opening quote. One that stands for no text is read only where nothing is
made of it, and then as the empty one. -/
def readString (strict : Bool) (cs : List Char) : Option (String × List Char) :=
  match readPieces cs with
  | some (pieces, rest) =>
    match joinPieces pieces with
    | some s => some (String.ofList s, rest)
    | none => if strict then none else some ("", rest)
  | none => none

/-! ## Numbers -/

/-- One digit or more. -/
def readDigits (cs : List Char) : Option (List Char × List Char) :=
  match cs.takeWhile Char.isDigit with
  | [] => none
  | ds => some (ds, cs.dropWhile Char.isDigit)

/-- A zero, or digits of which the first is no zero. -/
def readWhole : List Char → Option (List Char × List Char)
  | '0' :: rest => some (['0'], rest)
  | cs => readDigits cs

/-- A point with digits, or nothing. -/
def readFraction : List Char → Option (List Char × List Char)
  | '.' :: rest => (readDigits rest).map fun (ds, rest) => ('.' :: ds, rest)
  | cs => some ([], cs)

/-- An optional sign and digits. -/
def readSigned : List Char → Option (List Char × List Char)
  | '+' :: rest => (readDigits rest).map fun (ds, rest) => ('+' :: ds, rest)
  | '-' :: rest => (readDigits rest).map fun (ds, rest) => ('-' :: ds, rest)
  | cs => readDigits cs

/-- An exponent, or nothing. -/
def readExponent : List Char → Option (List Char × List Char)
  | 'e' :: rest => (readSigned rest).map fun (ds, rest) => ('e' :: ds, rest)
  | 'E' :: rest => (readSigned rest).map fun (ds, rest) => ('E' :: ds, rest)
  | cs => some ([], cs)

/-- A number without its sign, as it is written. -/
def readUnsigned (cs : List Char) : Option (List Char × List Char) := do
  let (whole, rest) ← readWhole cs
  let (fraction, rest) ← readFraction rest
  let (exponent, rest) ← readExponent rest
  return (whole ++ fraction ++ exponent, rest)

/-- A number, as it is written. -/
def readNumber : List Char → Option (List Char × List Char)
  | '-' :: rest => (readUnsigned rest).map fun (text, rest) => ('-' :: text, rest)
  | cs => readUnsigned cs

/-! ## Values -/

mutual

/-- A value, blanks in front of it allowed. All its strings have to stand for text if it is read
strictly, except in those fields of its own that are not wanted. -/
def readValue (strict : Bool) (wanted : String → Bool) :
    Nat → List Char → Option (Json × List Char)
  | 0, _ => none
  | fuel + 1, cs =>
    match skipBlanks cs with
    | '"' :: rest => (readString strict rest).map fun (s, rest) => (.string s, rest)
    | '[' :: rest =>
      match skipBlanks rest with
      | ']' :: rest => some (.array [], rest)
      | _ => (readItems strict fuel rest).map fun (items, rest) => (.array items, rest)
    | '{' :: rest =>
      match skipBlanks rest with
      | '}' :: rest => some (.object [], rest)
      | _ =>
        (readFields strict wanted fuel rest).map fun (fields, rest) => (.object fields, rest)
    | 't' :: 'r' :: 'u' :: 'e' :: rest => some (.bool true, rest)
    | 'f' :: 'a' :: 'l' :: 's' :: 'e' :: rest => some (.bool false, rest)
    | 'n' :: 'u' :: 'l' :: 'l' :: rest => some (.null, rest)
    | cs => (readNumber cs).map fun (text, rest) => (.number (String.ofList text), rest)

/-- The items of an array up to its end. -/
def readItems (strict : Bool) : Nat → List Char → Option (List Json × List Char)
  | 0, _ => none
  | fuel + 1, cs =>
    match readValue strict (fun _ => true) fuel cs with
    | none => none
    | some (item, rest) =>
      match skipBlanks rest with
      | ']' :: rest => some ([item], rest)
      | ',' :: rest =>
        (readItems strict fuel rest).map fun (items, rest) => (item :: items, rest)
      | _ => none

/-- The fields of an object up to its end. -/
def readFields (strict : Bool) (wanted : String → Bool) :
    Nat → List Char → Option (List (String × Json) × List Char)
  | 0, _ => none
  | fuel + 1, cs =>
    match skipBlanks cs with
    | '"' :: rest =>
      match readString strict rest with
      | none => none
      | some (key, rest) =>
        match skipBlanks rest with
        | ':' :: rest =>
          match readValue (strict && wanted key) (fun _ => true) fuel rest with
          | none => none
          | some (value, rest) =>
            match skipBlanks rest with
            | '}' :: rest => some ([(key, value)], rest)
            | ',' :: rest =>
              (readFields strict wanted fuel rest).map fun (fields, rest) =>
                ((key, value) :: fields, rest)
            | _ => none
        | _ => none
    | _ => none

end

/-- The value that a whole text is, for a reader who looks only at the wanted fields of an object.
Every call of a reader is behind a character of its own or behind the value that it starts with, so
twice the length of the text bounds their depth. -/
def parseOnly (wanted : String → Bool) (text : String) : Option Json :=
  let cs := text.toList
  match readValue true wanted (2 * cs.length + 2) cs with
  | some (value, rest) => if skipBlanks rest = [] then some value else none
  | none => none

/-- The value that a whole text is. -/
def parse (text : String) : Option Json := parseOnly (fun _ => true) text

end Json

end GatedMigration
