import SchemaMigration.FileTree.Place
import SchemaMigration.Revision
import SchemaMigration.Text.Utf8

namespace SchemaMigration.Migration

/-!
# Names of migration files

A migration file is named by its revision, an underscore and its name, with the
extension `.yml` or `.yaml`. What comes before the extension identifies the
migration.
-/

/-- What identifies the migration of a revision and a name. -/
def stemOf (revision : Revision) (name : String) : String :=
  revision.text ++ "_" ++ name

/--
The revision and the name in a stem: digits, an underscore, and at least one
character. A name has no line feed.
-/
def splitStem (stem : String) : Option (String × String) :=
  let digits := stem.toList.takeWhile Text.isDigit
  match stem.toList.dropWhile Text.isDigit with
  | '_' :: name =>
      if digits.isEmpty || name.isEmpty || name.contains '\n' then none
      else some (String.ofList digits, String.ofList name)
  | _ => none

/-- The extensions of migration files, with the dot before them. -/
def extensions : List String :=
  [".yml", ".yaml"]

/-- Whether a file name ends with an extension of migration files. -/
def hasExtension (fileName : String) : Bool :=
  extensions.any (fun extension => extension.toList.isSuffixOf fileName.toList)

/-- Whether a file in a directory is taken for a migration file. -/
def isFileName (fileName : String) : Bool :=
  hasExtension fileName && (splitStem (Place.stemOf fileName)).isSome

/-- The stem of a written path, unless the path has no file name. -/
def stem? (path : String) : Option String :=
  (Place.fileName? path).map Place.stemOf

/-- The stem of a path given as octets, when it has a file name whose stem is a text. -/
def stemOfOctets? (path : List Nat) : Option String :=
  (Place.lastName? Place.slashOctet Place.dotOctet path).bind (fun name =>
    Text.ofOctets? (Text.beforeLast Place.dotOctet name))

end SchemaMigration.Migration
