import SchemaMigration.Text.Letter
import SchemaMigration.Text.Pieces

namespace SchemaMigration.Name

/-!
# Migration names

A migration file carries its name in snake case, and the entity it declares is
the same name in Pascal case.
-/

/-- Whether a character of a free-form name ends a word. -/
def isWordBreak (c : Char) : Bool :=
  c == '_' || c == ' ' || c == '-'

/--
The snake-case form of the rest of a name.

`started` tells whether a letter was written, `broken` whether a word ended
since, and `afterLower` whether the last letter was in lower case. A single
underscore separates two words, and a word also ends before an upper-case
letter that follows a lower-case one. All other characters are dropped.
-/
def snakeFrom (started broken afterLower : Bool) : List Char → List Char
  | [] => []
  | c :: rest =>
      if isWordBreak c then
        snakeFrom started true false rest
      else if Text.isAlphabetic c then
        let separator :=
          if started && (broken || (Text.isUppercase c && afterLower)) then ['_'] else []
        separator ++ Text.lower c ++ snakeFrom true false (Text.isLowercase c) rest
      else
        snakeFrom started broken afterLower rest

/-- The snake-case name for a free-form one; empty when it has no letter. -/
def sanitize (name : String) : String :=
  String.ofList (snakeFrom false false false name.toList)

/-- A word with its first character in upper case. -/
def capitalize : List Char → List Char
  | [] => []
  | c :: rest => Text.upper c ++ rest

/-- The Pascal-case form of a snake-case name. -/
def pascalCase (name : String) : String :=
  String.ofList ((Text.pieces (· == '_') name.toList).flatMap capitalize)

end SchemaMigration.Name
