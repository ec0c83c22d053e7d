namespace SchemaMigration.Text

/-!
# Pieces of a text

Splitting at a separator, joining with one, and searching for a fragment.
-/

variable {α : Type}

/-- The parts of a list between separators, which are dropped. -/
def pieces (isSeparator : α → Bool) : List α → List (List α)
  | [] => [[]]
  | c :: rest =>
      if isSeparator c then
        [] :: pieces isSeparator rest
      else
        match pieces isSeparator rest with
        | [] => [[c]]
        | piece :: later => (c :: piece) :: later

/-- The part of a list before the last mark, or the list when that part is empty. -/
def beforeLast [DecidableEq α] (mark : α) (list : List α) : List α :=
  let kept := (list.reverse.dropWhile (· != mark)).drop 1
  if kept.isEmpty then list else kept.reverse

/-- The parts of a text between occurrences of one character. -/
def splitAt (separator : Char) (text : String) : List String :=
  (pieces (· == separator) text.toList).map String.ofList

/-- The nonempty parts of a text between separators. -/
def words (isSeparator : Char → Bool) (text : String) : List String :=
  ((pieces isSeparator text.toList).filter (fun piece => !piece.isEmpty)).map String.ofList

/-- Texts one after the other with a separator between neighbours. -/
def join (separator : String) (texts : List String) : String :=
  separator.intercalate texts

/-- Whether a character list starts with another one. -/
def begins (start : List Char) (text : List Char) : Bool :=
  start.isPrefixOf text

/-- Whether a character list occurs inside another one. -/
def occursIn (fragment : List Char) : List Char → Bool
  | [] => fragment.isEmpty
  | c :: rest => begins fragment (c :: rest) || occursIn fragment rest

/-- Whether a text occurs inside another one. -/
def contains (text fragment : String) : Bool :=
  occursIn fragment.toList text.toList

/-- Write a character twice wherever it occurs. -/
def double (c : Char) (text : List Char) : List Char :=
  text.flatMap (fun d => if d = c then [d, d] else [d])

/-- A text with one more character `pad` until it has `width` characters. -/
def padRight (pad : Char) (width : Nat) (text : String) : String :=
  text ++ String.ofList (List.replicate (width - text.length) pad)

end SchemaMigration.Text
