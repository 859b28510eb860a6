import GatedMigration.Toml.Quoted
import GatedMigration.Toml.Scalar

/-!
# The lines of a TOML text

A TOML text is read in two steps. This one (`Toml.readLines`) takes the text apart into its lines:
assignments of a value to a dotted path of keys, and headers of tables and of elements of lists of
tables. What stands between brackets or braces may go over several lines of text. What the lines say
together is not looked at here.
-/

namespace GatedMigration.Toml

/-- A value as it is written. -/
inductive Written where
  | scalar (t : Toml)
  | array (items : List Written)
  /-- A table between braces: assignments to dotted paths. -/
  | inlineTable (entries : List (List String × Written))
deriving Inhabited

/-- A line that says something. -/
inductive Line where
  | assignment (path : List String) (value : Written)
  /-- The header of a table. -/
  | tableHeader (path : List String)
  /-- The header of one more element of a list of tables. -/
  | elementHeader (path : List String)

mutual

/-- How many lists and inline tables stand one inside the other. -/
def Written.nesting : Written → Nat
  | .scalar _ => 0
  | .array items => nestingItems items + 1
  | .inlineTable entries => nestingEntries entries + 1

/-- The nesting of the deepest item. -/
def Written.nestingItems : List Written → Nat
  | [] => 0
  | w :: rest => max (nesting w) (nestingItems rest)

/-- The nesting of the deepest entry. -/
def Written.nestingEntries : List (List String × Written) → Nat
  | [] => 0
  | (_, w) :: rest => max (nesting w) (nestingEntries rest)

end

/-! ## Blanks and comments -/

/-- A text without the blanks that it starts with. -/
def skipBlanks (cs : List Char) : List Char := cs.dropWhile fun c => c == ' ' || c == '\t'

/-- A text without the blanks, line ends and comments that it starts with. -/
def skipFiller (inComment : Bool) : List Char → Option (List Char)
  | '\r' :: '\n' :: rest => skipFiller false rest
  | '\n' :: rest => skipFiller false rest
  | c :: rest =>
    if inComment then (if isPrintable c then skipFiller true rest else none)
    else if c = ' ' ∨ c = '\t' then skipFiller false rest
    else if c = '#' then skipFiller true rest
    else some (c :: rest)
  | [] => some []

/-- Whether a line ends here, but for blanks and a comment. -/
def isLineEnd (cs : List Char) : Bool :=
  match skipBlanks cs with
  | [] => true
  | '#' :: _ => true
  | '\n' :: _ => true
  | '\r' :: '\n' :: _ => true
  | _ => false

/-! ## Keys -/

/-- Whether a character can stand in a key without quotes. -/
def isKeyChar (c : Char) : Bool := c.isAlphanum || c == '-' || c == '_'

/-- A key. -/
def readKey : List Char → Option (String × List Char)
  | '"' :: rest => (readBasic rest).map fun (k, rest) => (String.ofList k, rest)
  | '\'' :: rest => (readLiteral rest).map fun (k, rest) => (String.ofList k, rest)
  | cs =>
    match cs.takeWhile isKeyChar with
    | [] => none
    | k => some (String.ofList k, cs.dropWhile isKeyChar)

/-- Keys with points between them, up to the next other character. -/
def readPath : Nat → List Char → Option (List String × List Char)
  | 0, _ => none
  | fuel + 1, cs => do
    let (key, rest) ← readKey (skipBlanks cs)
    match skipBlanks rest with
    | '.' :: rest =>
      let (keys, rest) ← readPath fuel rest
      return (key :: keys, rest)
    | rest => return ([key], rest)

/-! ## Values -/

/-- Whether a character can stand in a bare scalar. -/
def isScalarChar (c : Char) : Bool :=
  c.isAlphanum || c == '+' || c == '-' || c == '_' || c == '.' || c == ':'

/-- A bare scalar. A date goes on behind one blank if a digit stands there. -/
def readScalar (cs : List Char) : Option (Toml × List Char) :=
  let word := cs.takeWhile isScalarChar
  let rest := cs.dropWhile isScalarChar
  match readDate word, rest with
  | some (_, []), ' ' :: c :: more =>
    if c.isDigit then
      let time := (c :: more).takeWhile isScalarChar
      (scalar? (word ++ ' ' :: time)).map fun t => (t, (c :: more).dropWhile isScalarChar)
    else (scalar? word).map fun t => (t, rest)
  | _, _ => (scalar? word).map fun t => (t, rest)

mutual

/-- A value. -/
def readWritten : Nat → List Char → Option (Written × List Char)
  | 0, _ => none
  | fuel + 1, cs =>
    match cs with
    | '[' :: rest => (readItems fuel rest).map fun (items, rest) => (.array items, rest)
    | '\x7b' :: rest =>
      (readEntries fuel rest).map fun (entries, rest) => (.inlineTable entries, rest)
    | '"' :: _ => (readString cs).map fun (s, rest) => (.scalar (.string (String.ofList s)), rest)
    | '\'' :: _ => (readString cs).map fun (s, rest) => (.scalar (.string (String.ofList s)), rest)
    | _ => (readScalar cs).map fun (t, rest) => (.scalar t, rest)

/-- The items of a list up to its end; line ends, comments and a last comma are allowed. -/
def readItems : Nat → List Char → Option (List Written × List Char)
  | 0, _ => none
  | fuel + 1, cs =>
    match skipFiller false cs with
    | some (']' :: rest) => some ([], rest)
    | some cs =>
      match readWritten fuel cs with
      | none => none
      | some (item, rest) =>
        match skipFiller false rest with
        | some (']' :: rest) => some ([item], rest)
        | some (',' :: rest) =>
          (readItems fuel rest).map fun (items, rest) => (item :: items, rest)
        | _ => none
    | none => none

/-- The entries of an inline table up to its end; line ends, comments and a last comma are
allowed. -/
def readEntries : Nat → List Char → Option (List (List String × Written) × List Char)
  | 0, _ => none
  | fuel + 1, cs =>
    match skipFiller false cs with
    | some ('\x7d' :: rest) => some ([], rest)
    | some cs =>
      match readAssignment fuel (skipFiller false) cs with
      | none => none
      | some (entry, rest) =>
        match skipFiller false rest with
        | some ('\x7d' :: rest) => some ([entry], rest)
        | some (',' :: rest) =>
          (readEntries fuel rest).map fun (entries, rest) => (entry :: entries, rest)
        | _ => none
    | none => none

/-- A path with the value that is assigned to it; `skip` passes over what may stand on either side
of the sign between them. -/
def readAssignment : Nat → (List Char → Option (List Char)) → List Char →
    Option ((List String × Written) × List Char)
  | 0, _, _ => none
  | fuel + 1, skip, cs =>
    match readPath fuel cs with
    | none => none
    | some (path, rest) =>
      match skip rest with
      | some ('=' :: rest) =>
        match skip rest with
        | some rest => (readWritten fuel rest).map fun (w, rest) => ((path, w), rest)
        | none => none
      | _ => none

end

/-! ## Lines -/

/-- Deeper lists and inline tables than this are not read. -/
def maxNesting : Nat := 80

/-- A line without its end. -/
def readLine (fuel : Nat) : List Char → Option (Line × List Char)
  | '[' :: '[' :: rest =>
    match readPath fuel rest with
    | some (path, ']' :: ']' :: rest) => some (.elementHeader path, rest)
    | _ => none
  | '[' :: rest =>
    match readPath fuel rest with
    | some (path, ']' :: rest) => some (.tableHeader path, rest)
    | _ => none
  | cs =>
    match readAssignment fuel (fun cs => some (skipBlanks cs)) cs with
    | some ((path, w), rest) =>
      if w.nesting ≤ maxNesting then some (.assignment path w, rest) else none
    | none => none

/-- Lines up to the end of the text. -/
def readLinesFrom (inner : Nat) : Nat → List Char → Option (List Line)
  | 0, _ => none
  | fuel + 1, cs =>
    match skipFiller false cs with
    | none => none
    | some [] => some []
    | some cs =>
      match readLine inner cs with
      | none => none
      | some (line, rest) =>
        if isLineEnd rest then (readLinesFrom inner fuel rest).map (line :: ·) else none

/-- The lines of a whole text. A byte order mark in front is passed over. Every call of a reader is
behind a character of its own or goes before one that is, three deep at most. -/
def readLines (text : String) : Option (List Line) :=
  let cs := match text.toList with
    | '\uFEFF' :: rest => rest
    | cs => cs
  readLinesFrom (3 * cs.length + 3) (cs.length + 1) cs

end GatedMigration.Toml
