import SchemaMigration.Yaml.Character

namespace SchemaMigration.Yaml

/-!
# Cursors

A cursor is what is left of a text together with the place where that starts.
-/

/-- A place in a text and what follows it. -/
structure Cursor where
  rest : List Char
  line : Nat
  column : Nat

namespace Cursor

/-- The start of a text. -/
def ofText (text : List Char) : Cursor :=
  ⟨text, 0, 0⟩

/-- Pass over characters of one line. -/
def skip (cursor : Cursor) (count : Nat) : Cursor :=
  ⟨cursor.rest.drop count, cursor.line, cursor.column + count⟩

/-- The characters that go on as long as a property holds. -/
def run (cursor : Cursor) (property : Char → Bool) : List Char :=
  cursor.rest.takeWhile property

/-- Pass over characters of one line as long as a property holds. -/
def skipRun (cursor : Cursor) (property : Char → Bool) : Cursor :=
  cursor.skip (cursor.run property).length

/-- Pass over a line break, if one is there. -/
def skipBreak (cursor : Cursor) : Cursor :=
  match cursor.rest with
  | [] => cursor
  | c :: rest => if isBreak c then ⟨rest, cursor.line + 1, 0⟩ else cursor

/-- Pass over what is left of a line, without the break that ends it. -/
def skipLine (cursor : Cursor) : Cursor :=
  cursor.skipRun (fun c => !isBreak c)

/-- Pass over blanks and a comment, up to the end of the line. -/
def toLineEnd? (cursor : Cursor) : Option Cursor :=
  let next := cursor.skipRun isSpace
  let next := if next.rest.head? = some '#' then next.skipLine else next
  if startsBreak next.rest then some next.skipBreak else none

end Cursor

end SchemaMigration.Yaml
