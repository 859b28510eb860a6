import GatedMigration.Unicode.Age
import GatedMigration.Unicode.Break
import GatedMigration.Unicode.Script

/-!
# Properties by name

The sets of characters that a pattern can name: binary properties, general categories and scripts by
their names alone, and these and some other properties by a name and a value. Case, blanks, hyphens,
underscores and an initial `is` make no difference.
-/

namespace GatedMigration.Pattern

open Unicode (CharSet)

/-- A property name without the letters that do not count. The short name of the comments of another
standard is kept as it is, which leaves the category of one letter to itself. -/
def plainName (cs : List Char) : String :=
  let counts (c : Char) : Bool := c.toNat < 128 && c != ' ' && c != '_' && c != '-'
  let plain (cs : List Char) : String := String.ofList ((cs.filter counts).map Char.toLower)
  match cs with
  | a :: b :: rest =>
    if a.toLower = 'i' ∧ b.toLower = 's' then
      if plain rest = "c" then "isc" else plain rest
    else plain cs
  | cs => plain cs

/-- The sets that are asked for like categories. -/
def categoryLike? (name : String) : Option CharSet :=
  if name = "any" then some (CharSet.empty.complement CharSet.last)
  else if name = "assigned" then some (Unicode.unassigned.complement CharSet.last)
  else if name = "ascii" then some (CharSet.ofText "0-7F")
  else Unicode.category? name

/-- The set of a property that is named alone. -/
def propertyNamed? (name : String) : Option CharSet :=
  let viaProperty :=
    if name = "cf" ∨ name = "sc" ∨ name = "lc" then none else Unicode.property? name
  (viaProperty.or (categoryLike? name)).or (Unicode.script? name)

/-- The set of a property that is given a value. -/
def propertyValued? (name value : String) : Option CharSet :=
  if name = "gc" ∨ name = "generalcategory" then categoryLike? value
  else if name = "sc" ∨ name = "script" then Unicode.script? value
  else if name = "scx" ∨ name = "scriptextensions" then Unicode.scriptExtension? value
  else if name = "age" then Unicode.age? value
  else if name = "gcb" ∨ name = "graphemeclusterbreak" then Unicode.graphemeBreak? value
  else if name = "wb" ∨ name = "wordbreak" then Unicode.wordBreak? value
  else if name = "sb" ∨ name = "sentencebreak" then Unicode.sentenceBreak? value
  else none

/-- A text cut at the first occurrence of a mark. -/
def cutAt (mark : List Char) : List Char → Option (List Char × List Char)
  | [] => none
  | c :: cs =>
    if mark.isPrefixOf (c :: cs) then some ([], (c :: cs).drop mark.length)
    else (cutAt mark cs).map fun (a, b) => (c :: a, b)

/-- The set between the braces of a property, and whether it is negated there. -/
def propertyText? (cs : List Char) : Option (CharSet × Bool) :=
  match cutAt ['!', '='] cs with
  | some (name, value) => (propertyValued? (plainName name) (plainName value)).map (·, true)
  | none =>
    match (cutAt [':'] cs).or (cutAt ['='] cs) with
    | some (name, value) => (propertyValued? (plainName name) (plainName value)).map (·, false)
    | none => (propertyNamed? (plainName cs)).map (·, false)

end GatedMigration.Pattern
