import SchemaMigration.Dialect
import SchemaMigration.Text.Pieces

namespace SchemaMigration.Sql

/-!
# Quoting

Identifiers between delimiters and texts between single quotes. The delimiter
that ends the quotation is written twice inside it.
-/

/-- The characters around a quoted identifier. -/
structure Delimiters where
  opening : Char
  closing : Char

/-- The delimiters of a dialect. -/
def delimiters : Dialect → Delimiters
  | .mysql => ⟨'\x60', '\x60'⟩
  | .mssql => ⟨'[', ']'⟩
  | .duckdb | .postgres | .sqlite => ⟨'\x22', '\x22'⟩

/-- An identifier between delimiters. -/
def quoteWith (marks : Delimiters) (name : String) : String :=
  String.ofList
    (marks.opening :: Text.double marks.closing name.toList ++ [marks.closing])

/-- An identifier as a dialect quotes it. -/
def quote (dialect : Dialect) (name : String) : String :=
  quoteWith (delimiters dialect) name

/-- Quoted identifiers with commas between them. -/
def quoteList (dialect : Dialect) (names : List String) : String :=
  Text.join ", " (names.map (quote dialect))

/-- The quote around texts. -/
def textQuote : Char :=
  '\x27'

/-- A text with its single quotes written twice. -/
def escapeText (value : String) : String :=
  String.ofList (Text.double textQuote value.toList)

/-- A text as a string literal. -/
def textLiteral (value : String) : String :=
  String.ofList (textQuote :: Text.double textQuote value.toList ++ [textQuote])

end SchemaMigration.Sql
