import GatedMigration.Pattern.Class
import GatedMigration.Pattern.Size
import GatedMigration.Unicode.Latest

/-!
# Reading patterns

The usual notation of regular expressions, without look-around and back-references: groups, flags,
classes with set operations, Unicode properties, counted repetitions. `Expression.read?` gives the
tree of a text, and `Pattern.read?` the pattern that the text denotes; a text that denotes none,
that goes too deep or that would make too large an automaton gives nothing.
-/

namespace GatedMigration.Pattern

open Unicode (CharSet)

/-! ## Repetitions -/

/-- The digits of a number, between which verbose mode allows blanks and comments. -/
def readDigits (m : Mode) : Nat → List Char → List Char × List Char
  | 0, cs => ([], cs)
  | fuel + 1, cs =>
    match cs with
    | c :: rest =>
      if c.isDigit then
        let (digits, rest) := readDigits m fuel (m.skip rest)
        (c :: digits, rest)
      else ([], cs)
    | [] => ([], [])

/-- A text from its first character that is no blank; in verbose mode comments behind a blank are
left out too. -/
def skipBlanks (m : Mode) (cs : List Char) : List Char :=
  match cs.dropWhile Unicode.isBlank with
  | rest => if rest.length < cs.length then m.skip rest else cs

/-- A number of a repetition, with blanks around it. -/
def readCount (m : Mode) (cs : List Char) : Option Nat × List Char :=
  let cs := cs.dropWhile Unicode.isBlank
  let (digits, rest) := readDigits m cs.length cs
  let n := Nat.ofDigitChars 10 digits 0
  (if digits.isEmpty ∨ Nat.pow 2 32 ≤ n then none else some n, skipBlanks m rest)

/-- The bounds of a repetition after its opening brace. -/
def readBounds (m : Mode) (cs : List Char) : Option ((Nat × Option Nat) × List Char) := do
  let (least, rest) := readCount m (m.skip cs)
  match rest with
  | ',' :: rest =>
    match m.skip rest with
    | '\x7d' :: rest => return ((← least, none), rest)
    | rest =>
      let (most, rest) := readCount m rest
      match rest with
      | '\x7d' :: rest => if (← least) ≤ (← most) then return ((← least, ← most), rest) else none
      | _ => none
  | '\x7d' :: rest => return ((← least, ← least), rest)
  | _ => none

/-- Whether a mark behind a repetition turns its preference for many or few rounds round, and what
follows. -/
def readPreference : List Char → Bool × List Char
  | '?' :: rest => (true, rest)
  | cs => (false, cs)

/-! ## Groups -/

/-- Flags up to a colon or a closing parenthesis, each at most once; `seen` holds those read. -/
def readFlags (m : Mode) (on : Bool) (seen : List Char) :
    List Char → Option (Mode × List Char × List Char)
  | [] => none
  | c :: rest =>
    if c = ':' ∨ c = ')' then
      if seen.head? = some '-' then none else some (m, seen, c :: rest)
    else if c ∈ seen then none
    else if c = '-' then readFlags m false (c :: seen) rest
    else
      match m.set? c on with
      | some m => readFlags m on (c :: seen) rest
      | none => none

/-- Whether a character may stand in the name of a group. -/
def isNameChar (first : Bool) (c : Char) : Bool :=
  c == '_' || Unicode.letters.contains c
    || (!first && (c == '.' || c == '[' || c == ']' || Unicode.numbers.contains c))

/-- The name of a group up to its closing angle. -/
def readName (cs : List Char) : Option (String × List Char) :=
  match cs.takeWhile (· ≠ '>'), cs.dropWhile (· ≠ '>') with
  | c :: name, '>' :: rest =>
    if isNameChar true c ∧ name.all (isNameChar false) then some (String.ofList (c :: name), rest)
    else none
  | _, _ => none

/-! ## Expressions -/

/-- An atom as an expression. A byte above ASCII is no character. -/
def Atom.toExpression? (m : Mode) : Atom → Option Expression
  | .literal c isByte =>
    if isByte ∧ ¬m.unicode ∧ 128 ≤ c.toNat then none
    else if ¬m.unicode ∧ 128 ≤ c.toNat then some (.set (CharSet.single c) 0)
    else some (.set (m.fold (CharSet.single c)) 0)
  | .set s => some (.set s 0)
  | .anchor a => some (.anchor a)

/-- What is known while an expression is read: the flags, the names of the groups so far, the number
of groups that capture, the alternatives before the present one, and the parts of the present one;
both from the last to the first. -/
structure ReadState where
  mode : Mode
  names : List String
  captures : Nat
  alternatives : List Expression
  parts : List Expression

/-- The state at the start of a text. -/
def ReadState.start : ReadState := ⟨.start, [], 0, [], []⟩

/-- A part put behind the others. -/
def ReadState.push (st : ReadState) (e : Expression) : ReadState :=
  { st with parts := e :: st.parts }

/-- The last part repeated; flags are nothing that could be. -/
def ReadState.repeat? (st : ReadState) (least : Nat) (most : Option Nat) (turned : Bool) :
    Option ReadState :=
  match st.parts with
  | [] => none
  | .flags :: _ => none
  | e :: parts =>
    some { st with parts := .repeated e least most (turned == st.mode.fewRounds) :: parts }

/-- The alternative that is being read. -/
def ReadState.present (st : ReadState) : Expression := .ofParts st.parts.reverse

/-- The next alternative begun. -/
def ReadState.nextAlternative (st : ReadState) : ReadState :=
  { st with alternatives := st.present :: st.alternatives, parts := [] }

/-- The expression of all alternatives. -/
def ReadState.expression (st : ReadState) : Expression :=
  .ofAlternatives (st.present :: st.alternatives).reverse

/-- The state in which the inside of a group is read. -/
def ReadState.inside (st : ReadState) (m : Mode) : ReadState :=
  { st with mode := m, alternatives := [], parts := [] }

/-- The state behind a group whose inside has been read. -/
def ReadState.outside (st inner : ReadState) (number : Option Nat) : ReadState :=
  { st with
    names := inner.names
    captures := inner.captures
    parts := .group number inner.expression :: st.parts }

/-- One more group that captures. -/
def ReadState.capture (st : ReadState) (name : Option String) : ReadState :=
  { st with names := name.toList ++ st.names, captures := st.captures + 1 }

/-- An expression up to the parenthesis that closes it (`depth` above zero) or to the end. -/
def readExpression : Nat → Nat → ReadState → List Char → Option (ReadState × List Char)
  | 0, _, _, _ => none
  | fuel + 1, depth, st, cs =>
    let m := st.mode
    match m.skip cs with
    | [] => if depth = 0 then some (st, []) else none
    | ')' :: rest => if depth = 0 then none else some (st, rest)
    | '|' :: rest => readExpression fuel depth st.nextAlternative rest
    | '(' :: rest =>
      let group (number : Option Nat) (st : ReadState) (inner : Mode) (rest : List Char) :=
        match readExpression fuel (depth + 1) (st.inside inner) rest with
        | some (inside, rest) => readExpression fuel depth (st.outside inside number) rest
        | none => none
      let named (rest : List Char) :=
        match readName rest with
        | some (name, rest) =>
          if name ∈ st.names then none
          else group (some (st.captures + 1)) (st.capture (some name)) m rest
        | none => none
      match m.skip rest with
      | '?' :: '=' :: _ => none
      | '?' :: '!' :: _ => none
      | '?' :: '<' :: '=' :: _ => none
      | '?' :: '<' :: '!' :: _ => none
      | '?' :: 'P' :: '<' :: rest => named rest
      | '?' :: '<' :: rest => named rest
      | '?' :: rest =>
        match readFlags m true [] rest with
        | some (inner, seen, ')' :: rest) =>
          if seen.isEmpty then none
          else readExpression fuel depth ({ st with mode := inner }.push .flags) rest
        | some (inner, _, ':' :: rest) => group none st inner rest
        | _ => none
      | rest => group (some (st.captures + 1)) (st.capture none) m rest
    | '[' :: rest =>
      match readClass m (2 * rest.length + 2) rest with
      | some (s, rest) => readExpression fuel depth (st.push (.set s.set s.nesting)) rest
      | none => none
    | '?' :: rest =>
      let (turned, rest) := readPreference rest
      match st.repeat? 0 (some 1) turned with
      | some st => readExpression fuel depth st rest
      | none => none
    | '*' :: rest =>
      let (turned, rest) := readPreference rest
      match st.repeat? 0 none turned with
      | some st => readExpression fuel depth st rest
      | none => none
    | '+' :: rest =>
      let (turned, rest) := readPreference rest
      match st.repeat? 1 none turned with
      | some st => readExpression fuel depth st rest
      | none => none
    | '\x7b' :: rest =>
      match readBounds m rest with
      | some ((least, most), rest) =>
        let (turned, rest) := readPreference (m.skip rest)
        match st.repeat? least most turned with
        | some st => readExpression fuel depth st rest
        | none => none
      | none => none
    | '\\' :: rest =>
      match readEscape m rest with
      | some (u, rest) =>
        match u.toExpression? m with
        | some e => readExpression fuel depth (st.push e) rest
        | none => none
      | none => none
    | '.' :: rest =>
      match m.dot? with
      | some s => readExpression fuel depth (st.push (.set s 0)) rest
      | none => none
    | '^' :: rest => readExpression fuel depth (st.push (.anchor m.startAnchor)) rest
    | '$' :: rest => readExpression fuel depth (st.push (.anchor m.endAnchor)) rest
    | c :: rest =>
      match (Atom.literal c false).toExpression? m with
      | some e => readExpression fuel depth (st.push e) rest
      | none => none

end GatedMigration.Pattern

namespace GatedMigration

/-- The nesting that no expression may go beyond. -/
def Expression.maxNesting : Nat := 250

/-- The expression that a text is. Every call of the reader takes a character away, but for the one
behind a group, which the group's own parenthesis pays for. -/
def Expression.read? (text : String) : Option Expression :=
  let cs := text.toList
  match Pattern.readExpression (2 * cs.length + 2) 0 .start cs with
  | some (st, _) =>
    if st.expression.nesting ≤ maxNesting then some st.expression else none
  | none => none

/-- The pattern that a text denotes. -/
def Pattern.read? (text : String) : Option Pattern :=
  match Expression.read? text with
  | some e => if e.normal.fits then some e.pattern else none
  | none => none

end GatedMigration
