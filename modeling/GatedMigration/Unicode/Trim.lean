import GatedMigration.Unicode.Property

/-!
# Blanks at the ends of a text

`trim` leaves out the blanks at both ends of a text; a text of blanks alone becomes empty.
-/

namespace GatedMigration.Unicode

/-- The text without the blanks at its ends. -/
def trim (s : String) : String :=
  String.ofList (((s.toList.dropWhile isBlank).reverse.dropWhile isBlank).reverse)

/-- Whether a text has a character that is no blank. -/
def hasInk (s : String) : Bool := s.toList.any fun c => !isBlank c

end GatedMigration.Unicode
