import SchemaMigration.Text.Pieces
import SchemaMigration.Text.Utf8

namespace SchemaMigration

/-!
# Places

A place is a path as it was written, together with the steps that lead there
from the working directory. The written form appears in messages; only the
steps matter for where the place is.
-/

/-- A path: how it is written and the steps along it. -/
structure Place where
  label : String
  steps : List String
  deriving DecidableEq

namespace Place

/-- Whether a written path starts at the root of the file system. -/
def isAbsolute (path : String) : Bool :=
  match path.toList with
  | '/' :: _ => true
  | _ => false

/-- Two written paths one after the other; an absolute second one stands alone. -/
def joined (first second : String) : String :=
  if isAbsolute second || first.toList.isEmpty then
    second
  else if first.toList.getLast? = some '/' then
    first ++ second
  else
    first ++ "/" ++ second

/--
The steps along a written path.

An empty step stays where it is, like a step named by one dot. The root of the
file system is a step of its own, since it lies outside every working
directory.
-/
def stepsAlong (path : String) : List String :=
  let named := (Text.splitAt '/' path).map (fun step => if step.isEmpty then "." else step)
  if path.isEmpty then [""]
  else if isAbsolute path then "/" :: named.drop 1
  else named

/-- The place a written path leads to from the working directory. -/
def ofPath (path : String) : Place :=
  ⟨path, stepsAlong path⟩

/-- The place a written path leads to from another place. -/
def join (place : Place) (path : String) : Place :=
  if isAbsolute path || place.label.isEmpty then
    ofPath path
  else if path.isEmpty then
    ⟨joined place.label path, place.steps ++ ["."]⟩
  else
    ⟨joined place.label path, place.steps ++ stepsAlong path⟩

/-- The steps to the directory in which a place is. -/
def stepsAbove (place : Place) : List String :=
  ((place.steps.reverse.dropWhile (· == ".")).drop 1).reverse

/-- Whether a written path ends by staying in a directory, with a step named by one dot. -/
def endsByStaying (path : String) : Bool :=
  (Text.words (· == '/') path).getLast? == some "."

/--
The last name on a path that slashes divide, unless the path ends by going up.

Empty steps and steps of one dot stay where they are and have no name.
-/
def lastName? {α : Type} [DecidableEq α] (slash dot : α) (path : List α) : Option (List α) :=
  let names := (Text.pieces (· == slash) path).filter (fun step => step != [] && step != [dot])
  match names.getLast? with
  | none => none
  | some name => if name = [dot, dot] then none else some name

/-- The name at the end of a written path, unless it ends by going up. -/
def fileName? (path : String) : Option String :=
  (lastName? '/' '.' path.toList).map String.ofList

/-- A name without what follows its last dot, unless the dot comes first. -/
def stemOf (name : String) : String :=
  String.ofList (Text.beforeLast '.' name.toList)

/-- The octet that divides the steps of a path. -/
def slashOctet : Nat :=
  '/'.toNat

/-- The octet that stands before an extension. -/
def dotOctet : Nat :=
  '.'.toNat

/-- The octets of a path after a written one; octets that start at the root stand alone. -/
def joinedOctets (first : String) (second : List Nat) : List Nat :=
  if second.head? = some slashOctet then second
  else Text.octetsOf first ++ slashOctet :: second

/--
The step that octets name. A name that is no text is kept with one mark for
every octet beyond ASCII, so that it is as long as its octets.
-/
def stepNamed (octets : List Nat) : String :=
  (Text.ofOctets? octets).getD
    (String.ofList (octets.map (fun octet => if octet < 128 then Char.ofNat octet else '?')))

/-- The place a path of octets leads to from another place. -/
def joinOctets (place : Place) (path : List Nat) : Place :=
  let named := Text.join "/" ((Text.pieces (· == slashOctet) path).map stepNamed)
  ⟨(place.join (Text.ofOctetsLossy path)).label, (place.join named).steps⟩

/--
How the entries of a directory are written when the directory is searched.

Searching follows the written path step by step. Steps that stay in the
working directory leave no trace, and an empty step taken there leads nowhere.
-/
def searchedFrom? (written : String) : List String → Option String
  | [] => some written
  | step :: rest =>
      if written = "." then
        if step.isEmpty then none else searchedFrom? step rest
      else
        searchedFrom? (joined written step) rest

/-- The written form of a directory that is searched, if it can be searched. -/
def searched? (directory : String) : Option String :=
  let steps := Text.splitAt '/' directory
  if isAbsolute directory then searchedFrom? "/" (steps.drop 1) else searchedFrom? "." steps

/-- The written form of an entry of a searched directory. -/
def searchedEntry (written name : String) : String :=
  if written = "." then name else joined written name

end Place

end SchemaMigration
