import SchemaMigration.Text.LetterTable
import SchemaMigration.Text.CaseTable

namespace SchemaMigration.Text

/-!
# Letters and their cases

Classification of letters and the context-free case mappings. A mapping may
give several characters, so each yields a list.
-/

/-- Whether a character is alphabetic. -/
def isAlphabetic (c : Char) : Bool :=
  inTable alphabeticTable c

/-- Whether a character counts as upper case. -/
def isUppercase (c : Char) : Bool :=
  inTable uppercaseTable c

/-- Whether a character counts as lower case. -/
def isLowercase (c : Char) : Bool :=
  inTable lowercaseTable c

/-- The image of a character under a case mapping given by its two tables. -/
def caseImage
    (shifts : List Shift)
    (expansions : List (Nat × List Nat))
    (c : Char) :
    List Char :=
  match expansions.lookup c.toNat with
  | some points => points.map Char.ofNat
  | none => [(shifted? shifts c).getD c]

/-- The lower-case form of a character. -/
def lower (c : Char) : List Char :=
  caseImage lowerShifts lowerExpansions c

/-- The upper-case form of a character. -/
def upper (c : Char) : List Char :=
  caseImage upperShifts upperExpansions c

/-- The lower-case form of one ASCII letter; other characters stay. -/
def lowerAscii (c : Char) : Char :=
  if 'A' ≤ c ∧ c ≤ 'Z' then Char.ofNat (c.toNat + 32) else c

end SchemaMigration.Text
