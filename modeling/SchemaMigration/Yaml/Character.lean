import SchemaMigration.Text.Blank

namespace SchemaMigration.Yaml

/-!
# Characters of YAML

The classes of characters that decide where tokens start and end.
-/

/-- Whether a character may occur in a document. -/
def isAllowed (c : Char) : Bool :=
  let n := c.toNat
  n = 9 || n = 10 || n = 13 || (32 ≤ n && n ≤ 126) || n = 0x85 || (0xA0 ≤ n && n ≤ 0xD7FF) ||
    (0xE000 ≤ n && n ≤ 0xFFFD) || 0x10000 ≤ n

/-- The next line sign. -/
def nextLine : Char :=
  Char.ofNat 0x85

/-- The line separator. -/
def lineSeparator : Char :=
  Char.ofNat 0x2028

/-- The paragraph separator. -/
def paragraphSeparator : Char :=
  Char.ofNat 0x2029

/-- The mark that may start a text. -/
def byteOrderMark : Char :=
  Char.ofNat 0xFEFF

/-- Line breaks of every kind as line feeds, apart from separators, which stay. -/
def withLineFeeds : List Char → List Char
  | [] => []
  | '\r' :: '\n' :: rest => '\n' :: withLineFeeds rest
  | c :: rest => (if c = '\r' || c = nextLine then '\n' else c) :: withLineFeeds rest

/-- Whether a character ends a line. -/
def isBreak (c : Char) : Bool :=
  c = '\n' || c = lineSeparator || c = paragraphSeparator

/-- Whether a character separates words on a line. -/
def isSpace (c : Char) : Bool :=
  c = ' ' || c = '\t'

/-- Whether a character separates words or ends a line. -/
def isGap (c : Char) : Bool :=
  isSpace c || isBreak c

/-- Whether a text starts with something that separates words, or ends. -/
def startsGap : List Char → Bool
  | [] => true
  | c :: _ => isGap c

/-- Whether a line of a text ends where the text starts. -/
def startsBreak : List Char → Bool
  | [] => true
  | c :: _ => isBreak c

/-- Whether a character may stand in the name of an anchor. -/
def isWordChar (c : Char) : Bool :=
  Text.isDigit c || ('a' ≤ c && c ≤ 'z') || ('A' ≤ c && c ≤ 'Z') || c = '_' || c = '-'

/-- Whether a character has a meaning of its own between brackets. -/
def isFlowMark (c : Char) : Bool :=
  c = ',' || c = '[' || c = ']' || c = '\x7b' || c = '\x7d'

/-- Whether a text starts with the three marks between documents. -/
def startsDocumentMark (mark : Char) : List Char → Bool
  | a :: b :: c :: rest => a = mark && b = mark && c = mark && startsGap rest
  | _ => false

/-- Whether a document starts or ends where a text starts, given its column. -/
def atDocumentMark (column : Nat) (text : List Char) : Bool :=
  column = 0 && (startsDocumentMark '-' text || startsDocumentMark '.' text)

end SchemaMigration.Yaml
