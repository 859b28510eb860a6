import GatedMigration.Json

/-!
# Writing JSON

Two forms: compact, without blanks (`Json.compact`), and pretty, one item a line with two spaces of
indentation a level, where an empty array or object stays on its line (`Json.pretty`). In a string
the quote, the backslash and the control characters below the space are escaped, five of them by a
letter; every other character stands for itself.
-/

namespace GatedMigration

namespace Json

/-- A hexadecimal digit in lower case. -/
def hexDigit (n : Nat) : Char := Nat.digitChar (n % 16)

/-- A character of a string. -/
def escape (c : Char) : List Char :=
  if c = '"' then ['\\', '"']
  else if c = '\\' then ['\\', '\\']
  else if c = '\n' then ['\\', 'n']
  else if c = '\r' then ['\\', 'r']
  else if c = '\t' then ['\\', 't']
  else if c = '\x08' then ['\\', 'b']
  else if c = '\x0c' then ['\\', 'f']
  else if c.toNat < 32 then
    ['\\', 'u', '0', '0', hexDigit (c.toNat / 16), hexDigit c.toNat]
  else [c]

/-- A string between quotes. -/
def quoted (s : String) : List Char := '"' :: (s.toList.flatMap escape ++ ['"'])

mutual

/-- The compact form. -/
def chars : Json → List Char
  | .null => ['n', 'u', 'l', 'l']
  | .bool true => ['t', 'r', 'u', 'e']
  | .bool false => ['f', 'a', 'l', 's', 'e']
  | .number text => text.toList
  | .string s => quoted s
  | .array [] => ['[', ']']
  | .array (j :: rest) => '[' :: (chars j ++ charsItems rest)
  | .object [] => ['{', '}']
  | .object ((k, j) :: rest) => '{' :: (quoted k ++ ':' :: (chars j ++ charsFields rest))

/-- The items after the first, and the end of the array. -/
def charsItems : List Json → List Char
  | [] => [']']
  | j :: rest => ',' :: (chars j ++ charsItems rest)

/-- The fields after the first, and the end of the object. -/
def charsFields : List (String × Json) → List Char
  | [] => ['}']
  | (k, j) :: rest => ',' :: (quoted k ++ ':' :: (chars j ++ charsFields rest))

end

/-- The compact form of a JSON text. -/
def compact (j : Json) : String := String.ofList (chars j)

/-- A new line at a level of indentation. -/
def newLine (level : Nat) : List Char := '\n' :: List.replicate (2 * level) ' '

mutual

/-- The pretty form at a level of indentation. -/
def prettyChars (level : Nat) : Json → List Char
  | .array (j :: rest) =>
    '[' :: (newLine (level + 1) ++ prettyChars (level + 1) j ++ prettyItems level rest)
  | .object ((k, j) :: rest) =>
    '{' :: (newLine (level + 1) ++ quoted k ++ [':', ' '] ++ prettyChars (level + 1) j
      ++ prettyFields level rest)
  | .array [] => ['[', ']']
  | .object [] => ['{', '}']
  | .null => chars .null
  | .bool b => chars (.bool b)
  | .number text => text.toList
  | .string s => quoted s

/-- The items after the first, and the end of the array. -/
def prettyItems (level : Nat) : List Json → List Char
  | [] => newLine level ++ [']']
  | j :: rest => ',' :: (newLine (level + 1) ++ prettyChars (level + 1) j ++ prettyItems level rest)

/-- The fields after the first, and the end of the object. -/
def prettyFields (level : Nat) : List (String × Json) → List Char
  | [] => newLine level ++ ['}']
  | (k, j) :: rest =>
    ',' :: (newLine (level + 1) ++ quoted k ++ [':', ' '] ++ prettyChars (level + 1) j
      ++ prettyFields level rest)

end

/-- The pretty form of a JSON text. -/
def pretty (j : Json) : String := String.ofList (prettyChars 0 j)

end Json

end GatedMigration
