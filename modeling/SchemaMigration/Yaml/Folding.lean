import SchemaMigration.Yaml.Cursor

namespace SchemaMigration.Yaml

/-!
# Folding of lines

Inside quoted and plain scalars a line break between two words counts as one
space, and further breaks after it count as themselves. Blanks around breaks do
not count; blanks on one line do.
-/

/-- What lies between the last word of a scalar and the next one. -/
inductive Spacing
  | none
  /-- Blanks on one line. -/
  | blanks (seen : List Char)
  /-- A break, unless it was escaped, and the breaks after it. -/
  | lines (first : Option Char) (later : List Char)

namespace Spacing

/-- The spacing with one more blank. -/
def addBlank (c : Char) : Spacing → Spacing
  | .none => .blanks [c]
  | .blanks seen => .blanks (seen ++ [c])
  | .lines first later => .lines first later

/-- The spacing with one more break. -/
def addBreak (c : Char) : Spacing → Spacing
  | .none | .blanks _ => .lines (some c) []
  | .lines first later => .lines first (later ++ [c])

/-- What the spacing counts as. -/
def folded : Spacing → List Char
  | .none => []
  | .blanks seen => seen
  | .lines first later =>
      if first = some '\n' then
        if later.isEmpty then [' '] else later
      else
        first.toList ++ later

/-- Whether the spacing is over a line break. -/
def isOverLines : Spacing → Bool
  | .lines .. => true
  | _ => false

/-- Whether there is any spacing. -/
def isSome : Spacing → Bool
  | .none => false
  | _ => true

end Spacing

end SchemaMigration.Yaml
