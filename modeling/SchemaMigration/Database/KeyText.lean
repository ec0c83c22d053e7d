import SchemaMigration.Database.Live
import SchemaMigration.Text.Blank
import SchemaMigration.Text.Letter
import SchemaMigration.Text.Pieces

namespace SchemaMigration.KeyText

/-!
# Keys as the catalog writes them

The catalog reports a foreign key as the text of its constraint and an index as
the statement that made it. Both are read back here. What is around the clause
of a foreign key does not matter; the columns of an index have to end its
statement.
-/

/-- The quote around names. -/
def nameQuote : Char :=
  '\x22'

/-- Write a name quote once where it is written twice. -/
def undouble : List Char → List Char
  | '\x22' :: '\x22' :: rest => nameQuote :: undouble rest
  | c :: rest => c :: undouble rest
  | [] => []

/-- A name without the blanks and the quotes around it. -/
def unquote (name : List Char) : String :=
  String.ofList
    (undouble (Text.trimWhere (· == nameQuote) (Text.trimWhere Text.isBlank name)))

/-- The names between commas, apart from empty ones. -/
def splitNames (list : List Char) : List String :=
  ((Text.pieces (· == ',') list).map unquote).filter (fun name => name != "")

/-! ## Indexes -/

/-- Whether a character is a parenthesis. -/
def isParenthesis (c : Char) : Bool :=
  c == '(' || c == ')'

/-- A text read backwards without the blanks and the semicolon that end it. -/
def beforeEnd (backwards : List Char) : List Char :=
  match backwards.dropWhile Text.isBlank with
  | ';' :: rest => rest.dropWhile Text.isBlank
  | rest => rest

/-- The columns between the parentheses that end the statement of an index. -/
def indexColumns (statement : String) : List String :=
  match beforeEnd statement.toList.reverse with
  | ')' :: rest =>
      match rest.dropWhile (fun c => !isParenthesis c) with
      | '(' :: _ => splitNames (rest.takeWhile (fun c => !isParenthesis c)).reverse
      | _ => []
  | _ => []

/-! ## Foreign keys -/

/--
What letters of keywords are compared by. The signs for kelvin and the long s
count as letters of ASCII.
-/
def keywordForm (c : Char) : Char :=
  if c.toNat = 0x212A then 'k' else if c.toNat = 0x17F then 's' else Text.lowerAscii c

/-- What follows a keyword, if the text starts with it. -/
def afterKeyword? : List Char → List Char → Option (List Char)
  | [], text => some text
  | _ :: _, [] => none
  | expected :: keyword, c :: text =>
      if keywordForm c = expected then afterKeyword? keyword text else none

/-- What follows blanks, of which there must be one at least. -/
def afterBlanks? : List Char → Option (List Char)
  | [] => none
  | c :: rest => if Text.isBlank c then some (rest.dropWhile Text.isBlank) else none

/-- What stands between parentheses after blanks, and what follows them. -/
def parenthesised? (text : List Char) : Option (List Char × List Char) :=
  match text.dropWhile Text.isBlank with
  | '(' :: rest =>
      match rest.dropWhile (· != ')') with
      | ')' :: later => some (rest.takeWhile (· != ')'), later)
      | _ => none
  | _ => none

/-- Whether a character may stand in the name of a referenced table. -/
def inTableName (c : Char) : Bool :=
  !Text.isBlank c && c != '('

/-- The three parts of the clause of a foreign key. -/
structure Clause where
  columns : List Char
  /-- The referenced table, perhaps with its schema before a point. -/
  table : List Char
  refColumns : List Char

/-- The clause of a foreign key that a text starts with. -/
def clauseAt? (text : List Char) : Option Clause := do
  let rest ← afterKeyword? "foreign".toList text
  let rest ← afterBlanks? rest
  let rest ← afterKeyword? "key".toList rest
  let (columns, rest) ← parenthesised? rest
  let rest ← afterKeyword? "references".toList (rest.dropWhile Text.isBlank)
  let rest ← afterBlanks? rest
  let table := rest.takeWhile inTableName
  let (refColumns, _) ← parenthesised? (rest.dropWhile inTableName)
  if table.isEmpty then none else some ⟨columns, table, refColumns⟩

/-- The first clause of a foreign key in a text. -/
def clause? : List Char → Option Clause
  | [] => none
  | c :: rest =>
      match clauseAt? (c :: rest) with
      | some clause => some clause
      | none => clause? rest

/-- The foreign key that the text of a constraint writes. -/
def foreignKey? (text : String) : Option LiveForeignKey :=
  match clause? text.toList with
  | none => none
  | some clause =>
      let columns := splitNames clause.columns
      let refColumns := splitNames clause.refColumns
      let table := unquote ((Text.pieces (· == '.') clause.table).getLast?.getD [])
      if columns.isEmpty || refColumns.isEmpty then
        none
      else
        some ⟨none, columns, table, refColumns, none, none⟩

end SchemaMigration.KeyText
