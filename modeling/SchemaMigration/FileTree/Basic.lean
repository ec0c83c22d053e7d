import SchemaMigration.FileTree.Place
import SchemaMigration.Text.Utf8

namespace SchemaMigration

/-!
# File trees

A file tree holds the files and directories below a working directory as a
value. Every operation gives the new tree or the reason for its failure, and a
failing operation changes nothing.

Replacing a file can also break off for reasons that are not in the tree, at any
call: these come with the tree, call by call.
-/

/-- Why a file operation fails. -/
inductive FileProblem
  | notFound
  | notADirectory
  | isADirectory
  | nameTooLong
  | alreadyExists
  /-- A name with a character that ends names. -/
  | zeroInName
  | notText
  /-- The system refuses for a reason of its own. -/
  | refused (reason : String)
  deriving DecidableEq

/-- The wording of a file problem. -/
def FileProblem.message : FileProblem → String
  | .notFound => "No such file or directory (os error 2)"
  | .notADirectory => "Not a directory (os error 20)"
  | .isADirectory => "Is a directory (os error 21)"
  | .alreadyExists => "File exists (os error 17)"
  | .nameTooLong => "File name too long (os error 36)"
  | .zeroInName => "file name contained an unexpected NUL byte"
  | .notText => "stream did not contain valid UTF-8"
  | .refused reason => reason

/-- What a file holds. -/
inductive FileContent
  | text (value : String)
  /-- Octets that are not the encoding of a text. -/
  | octets (values : List Nat)
  deriving DecidableEq

namespace FileContent

/-- The content that octets make up. -/
def ofOctets (values : List Nat) : FileContent :=
  match Text.ofOctets? values with
  | some value => .text value
  | none => .octets values

/-- What a content shows, with marks for octets that are no text. -/
def shown : FileContent → String
  | .text value => value
  | .octets values => Text.ofOctetsLossy values

end FileContent

/-- A file or a directory. -/
inductive FileEntry
  | file (content : FileContent)
  | directory
  deriving DecidableEq

/-- Where an entry is: the names on the way to it from the working directory. -/
abbrev Location : Type :=
  List String

/-- How a call of the system breaks off, whatever is in the tree. -/
structure FileFault where
  problem : FileProblem
  /-- What the file holds then, where writing it had begun. -/
  begun : Option String

/-- The files and directories below a working directory. -/
structure FileTree where
  entries : List (Location × FileEntry)
  /--
  What the next calls that replace files run into, an entry for each call.
  Where the list ends, no call runs into anything.
  -/
  faults : List (Option FileFault)

namespace FileTree

/-- A tree without entries. -/
def empty : FileTree :=
  ⟨[], []⟩

/-- The entry at a location. -/
def holding? (tree : FileTree) (location : Location) : Option FileEntry :=
  if location.isEmpty then some .directory else tree.entries.lookup location

/-- Put an entry at a location, in place of the one there. -/
def put (tree : FileTree) (location : Location) (entry : FileEntry) : FileTree :=
  { tree with
    entries := (location, entry) :: tree.entries.filter (fun kept => kept.1 != location) }

/-- Take the entry at a location away. -/
def remove (tree : FileTree) (location : Location) : FileTree :=
  { tree with entries := tree.entries.filter (fun kept => kept.1 != location) }

/-- The longest name of an entry, in octets. -/
def longestName : Nat :=
  255

/-- The location above another one; above the working directory there is nothing. -/
def above (location : Location) : Location :=
  if location.isEmpty then [".."] else location.dropLast

/--
Follow steps from a location. Every step but the last has to end at a
directory; whether anything is at the end is not asked.
-/
def follow (tree : FileTree) (location : Location) : List String → Except FileProblem Location
  | [] => .ok location
  | step :: rest =>
      match tree.holding? location with
      | none => .error .notFound
      | some (.file _) => .error .notADirectory
      | some .directory =>
          if step.isEmpty then .error .notFound
          else if step = "." then tree.follow location rest
          else if step = ".." then tree.follow (above location) rest
          else if longestName < step.utf8ByteSize then .error .nameTooLong
          else tree.follow (location ++ [step]) rest

/-- Whether a name has the character that ends names. -/
def hasZero (name : String) : Bool :=
  name.toList.any (fun c => c.toNat = 0)

/-- The longest written path, in octets. -/
def longestPath : Nat :=
  4095

/-- What is wrong with a written path, wherever it leads. -/
def pathProblem? (path : String) : Option FileProblem :=
  if hasZero path then some .zeroInName
  else if longestPath < path.utf8ByteSize then some .nameTooLong
  else none

/-- The location of a place. -/
def locate (tree : FileTree) (place : Place) : Except FileProblem Location :=
  match pathProblem? place.label with
  | some problem => .error problem
  | none => tree.follow [] place.steps

/-- The entry at a place. -/
def find (tree : FileTree) (place : Place) : Except FileProblem FileEntry :=
  match tree.locate place with
  | .error problem => .error problem
  | .ok location =>
      match tree.holding? location with
      | some entry => .ok entry
      | none => .error .notFound

/-- Whether there is an entry at a place. -/
def contains (tree : FileTree) (place : Place) : Bool :=
  match tree.find place with
  | .ok _ => true
  | .error _ => false

/-- Whether there is a directory at a place. -/
def isDirectory (tree : FileTree) (place : Place) : Bool :=
  match tree.find place with
  | .ok .directory => true
  | _ => false

/--
Make the directories along steps that are not there yet.

Those made before a step fails are kept.
-/
def makeDirectories
    (tree : FileTree)
    (location : Location) :
    List String → FileTree × Option FileProblem
  | [] => (tree, none)
  | step :: rest =>
      match tree.follow location [step] with
      | .error problem => (tree, some problem)
      | .ok next =>
          match tree.holding? next with
          | some .directory => tree.makeDirectories next rest
          | some (.file _) =>
              (tree, some (if rest.isEmpty then .alreadyExists else .notADirectory))
          | none => (tree.put next .directory).makeDirectories next rest

/-- Make the directories above a place, as far as they can be made. -/
def makeAbove (tree : FileTree) (place : Place) : FileTree :=
  if place.stepsAbove.any hasZero then tree else (tree.makeDirectories [] place.stepsAbove).1

/--
Make the directory at a place, with those above it.

A path that ends by staying in a directory does not make that directory.
-/
def makeDirectory (tree : FileTree) (place : Place) : FileTree × Option FileProblem :=
  match pathProblem? place.label with
  | some problem => (tree, some problem)
  | none =>
      if Place.endsByStaying place.label then
        match tree.find place with
        | .ok _ => (tree, none)
        | .error .notFound => (tree.makeAbove place, some .notFound)
        | .error problem => (tree, some problem)
      else
        tree.makeDirectories [] place.steps

/-- Put a content into the file at a place, which need not exist. -/
def fill (tree : FileTree) (place : Place) (content : FileContent) :
    Except FileProblem FileTree :=
  match tree.locate place with
  | .error problem => .error problem
  | .ok location =>
      match tree.holding? location with
      | some .directory => .error .isADirectory
      | _ => .ok (tree.put location (.file content))

/-- Put an entry at a place and directories above it, as far as that can be done. -/
def deposit (tree : FileTree) (place : Place) (entry : FileEntry) : FileTree :=
  let made := tree.makeAbove place
  match entry with
  | .directory => (made.makeDirectory place).1
  | .file content =>
      match made.fill place content with
      | .ok filled => filled
      | .error _ => made

/-- Take the file at a place away; a directory stays. -/
def withdraw (tree : FileTree) (place : Place) : FileTree :=
  match tree.locate place with
  | .error _ => tree
  | .ok location =>
      match tree.holding? location with
      | some (.file _) => tree.remove location
      | _ => tree

/-- What the file at a place shows, with marks for octets that are no text. -/
def shown? (tree : FileTree) (place : Place) : Option String :=
  match tree.find place with
  | .ok (.file content) => some content.shown
  | _ => none

/-- The text of the file at a place. -/
def read (tree : FileTree) (place : Place) : Except FileProblem String :=
  match tree.find place with
  | .error problem => .error problem
  | .ok .directory => .error .isADirectory
  | .ok (.file (.octets _)) => .error .notText
  | .ok (.file (.text value)) => .ok value

/-- Write a text to the file at a place, which need not exist. -/
def write (tree : FileTree) (place : Place) (value : String) : Except FileProblem FileTree :=
  tree.fill place (.text value)

/-- Move the file at one place over the one at another place. -/
def rename (tree : FileTree) (source target : Place) : Except FileProblem FileTree :=
  match tree.locate source, tree.locate target with
  | .error problem, _ => .error problem
  | _, .error problem => .error problem
  | .ok before, .ok after =>
      match tree.holding? before, tree.holding? after with
      | none, _ => .error .notFound
      | some _, some .directory => .error .isADirectory
      | some entry, _ => .ok ((tree.remove before).put after entry)

/-! ## Replacing a file -/

/-- What the next call runs into. -/
def fault? (tree : FileTree) : Option FileFault :=
  tree.faults.head?.join

/-- The tree when the next call has been made. -/
def pastFault (tree : FileTree) : FileTree :=
  { tree with faults := tree.faults.tail }

/-- The tree as far as writing a file had begun. -/
def begun (tree : FileTree) (place : Place) (fault : FileFault) : FileTree :=
  match fault.begun.map (tree.write place) with
  | some (.ok written) => written
  | _ => tree

/-- Write a text to the file at a place, unless the call breaks off. -/
def tryWrite (tree : FileTree) (place : Place) (value : String) :
    FileTree × Option FileProblem :=
  match tree.fault? with
  | some fault => (tree.pastFault.begun place fault, some fault.problem)
  | none =>
      match tree.pastFault.write place value with
      | .ok written => (written, none)
      | .error problem => (tree.pastFault, some problem)

/-- Move the file at one place over the one at another place, unless the call breaks off. -/
def tryRename (tree : FileTree) (source target : Place) : FileTree × Option FileProblem :=
  match tree.fault? with
  | some fault => (tree.pastFault, some fault.problem)
  | none =>
      match tree.pastFault.rename source target with
      | .ok moved => (moved, none)
      | .error problem => (tree.pastFault, some problem)

/--
Put a text in place of the file at a place: write a draft beside it and move
the draft over it. A draft that was written stays when it cannot be moved.
-/
def replace (tree : FileTree) (draft target : Place) (value : String) :
    FileTree × Option FileProblem :=
  match tree.tryWrite draft value with
  | (drafted, none) => drafted.tryRename draft target
  | broken => broken

/-- The names of the entries of a directory. -/
def names (tree : FileTree) (location : Location) : List String :=
  tree.entries.filterMap (fun (path, _) =>
    match path.getLast? with
    | some name => if path.dropLast = location then some name else none
    | none => none)

end FileTree

end SchemaMigration
