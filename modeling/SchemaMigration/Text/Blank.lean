import SchemaMigration.Text.Stretch

namespace SchemaMigration.Text

/-!
# Blank and control characters

White space is the Unicode property White_Space. Control characters are those
of the general category Cc.
-/

/-- The property White_Space. -/
def blankTable : List Stretch := [
  ⟨9, 13, 1⟩, ⟨32, 32, 1⟩, ⟨133, 133, 1⟩, ⟨160, 160, 1⟩, ⟨5760, 5760, 1⟩, ⟨8192, 8202, 1⟩,
  ⟨8232, 8233, 1⟩, ⟨8239, 8239, 1⟩, ⟨8287, 8287, 1⟩, ⟨12288, 12288, 1⟩]

/-- Whether a character is white space. -/
def isBlank (c : Char) : Bool :=
  inTable blankTable c

/-- Whether a character is a control character. -/
def isControl (c : Char) : Bool :=
  decide (c.toNat < 32) || (decide (127 ≤ c.toNat) && decide (c.toNat < 160))

/-- Whether a character is a decimal digit of ASCII. -/
def isDigit (c : Char) : Bool :=
  decide ('0' ≤ c) && decide (c ≤ '9')

/-- Drop the longest run at the end whose characters all satisfy `drop`. -/
def trimEndWhere (drop : Char → Bool) (text : List Char) : List Char :=
  (text.reverse.dropWhile drop).reverse

/-- Drop the longest runs at both ends whose characters all satisfy `drop`. -/
def trimWhere (drop : Char → Bool) (text : List Char) : List Char :=
  trimEndWhere drop (text.dropWhile drop)

/-- A text without the white space at its ends. -/
def trim (text : String) : String :=
  String.ofList (trimWhere isBlank text.toList)

/-- A text without the white space at its end. -/
def trimEnd (text : String) : String :=
  String.ofList (trimEndWhere isBlank text.toList)

/-- Whether a text holds nothing but white space. -/
def isBlankText (text : String) : Bool :=
  text.toList.all isBlank

end SchemaMigration.Text
