import GatedMigration.Unicode.Property

/-!
# The latest characters

The tables of categories, properties and scripts, by which patterns go, hold the characters up to
the sixteenth edition of the standard. Names, the lower case and the display of texts know those of
the seventeenth edition too, which are listed here with what these uses ask of them. The edition has
also made one lower-case letter into a letter without a case.
-/

namespace GatedMigration.Unicode

/-- The code points that the edition has added, in hexadecimal. -/
def latestCharacters : CharSet := CharSet.ofText "
88F C5C CDC 1ACF-1ADD 1AE0-1AEB 20C1 2B96 A7CE-A7CF A7D2 A7D4 A7F1 FBC3-FBD2 FD90-FD91 FDC8-FDCE
10940-10959 10EC5-10EC7 10ED0-10ED8 10EFA-10EFB 11B60-11B67 11DB0-11DDB 11DE0-11DE9 16EA0-16EB8
16EBB-16ED3 16FF2-16FF6 187F8-187FF 18D09-18D1E 18D80-18DF2 1CCFA-1CCFC 1CEBA-1CED0 1CEE0-1CEF0
1E6C0-1E6DE 1E6E0-1E6F5 1E6FE-1E6FF 1F6D8 1F777-1F77A 1F8D0-1F8D8 1FA54-1FA57 1FA8A 1FA8E 1FAC8
1FACD 1FAEA 1FAEF 1FBFA 2B73A-2B73F 2CEA2-2CEAD 323B0-33479"

/-- The new ones among the code points with a property. -/
def latestTable : List (String × String) := [
  ("alphabetic", "
88F C5C CDC A7CE-A7CF A7D2 A7D4 A7F1 10940-10959 10EC5-10EC7 10EFA-10EFB 11B60-11B67 11DB0-11DDB
16EA0-16EB8 16EBB-16ED3 16FF2-16FF6 187F8-187FF 18D09-18D1E 18D80-18DF2 1E6C0-1E6DE 1E6E0-1E6F5
1E6FE-1E6FF 2B73A-2B73F 2CEA2-2CEAD 323B0-33479"),
  ("number", "
11DE0-11DE9 16FF4-16FF6"),
  ("cased", "
A7CE-A7CF A7D2 A7D4 A7F1 16EA0-16EB8 16EBB-16ED3"),
  ("caseignorable", "
1ACF-1ADD 1AE0-1AEB A7F1 10EC5 10EFA-10EFB 11B60 11B62-11B64 11B66 11DD9 16FF2-16FF3 1E6E3 1E6E6
1E6EE-1E6EF 1E6F5 1E6FF"),
  ("graphemeextend", "
1ACF-1ADD 1AE0-1AEB 10EFA-10EFB 11B60 11B62-11B64 11B66 1E6E3 1E6E6 1E6EE-1E6EF 1E6F5")
]

/-- The new code points with a property. -/
def latest (name : String) : CharSet :=
  ((latestTable.lookup name).map CharSet.ofText).getD CharSet.empty

/-- The letters of all kinds. -/
def letters : CharSet := (property "alphabetic").union (latest "alphabetic")

/-- The digits and the other numbers. -/
def numbers : CharSet := (category "number").union (latest "number")

/-- The characters that have a case. -/
def cased : CharSet :=
  ((property "cased").union (latest "cased")).difference (CharSet.ofText "295")

/-- The characters that a cased letter may be followed by within its word. -/
def caseIgnorable : CharSet := (property "caseignorable").union (latest "caseignorable")

/-- The characters that belong to the one before them, but for the two halfwidth sound marks, which
take a place of their own. -/
def joined : CharSet :=
  ((property "graphemeextend").union (latest "graphemeextend")).difference
    (CharSet.ofText "FF9E-FF9F")

/-- The characters that have no shape of their own: controls, unassigned ones, separators other
than the space, those that a display may ignore, and those that join the character before them. -/
def shapeless : CharSet :=
  let blank := CharSet.unions [category "c", category "z", property "defaultignorablecodepoint",
    ⟨[(0xD800, 0xDFFF)]⟩]
  (joined.union (blank.difference latestCharacters)).difference (CharSet.single ' ')

end GatedMigration.Unicode
