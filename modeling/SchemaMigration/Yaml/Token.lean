import SchemaMigration.Text.Utf8

namespace SchemaMigration.Yaml

/-!
# Tags and tokens

The tokens that a document is made of. Blocks that indentation delimits have
tokens for their start and end.

A tag says what a node stands for. Percent signs write arbitrary octets into it,
so a tag is a run of octets that need not be a text. An octet of zero ends the
tag or the part of it in which it is written.
-/

/-- A tag. -/
structure Tag where
  octets : List Nat
  deriving DecidableEq

namespace Tag

/-- The octets of characters of ASCII. -/
def octetsOf (characters : List Char) : List Nat :=
  characters.map Char.toNat

/-- The octets before the first zero. -/
def beforeZero (octets : List Nat) : List Nat :=
  octets.takeWhile (fun octet => octet != 0)

/-- A tag that is the same in all documents. -/
def core (name : String) : Tag :=
  ⟨octetsOf ("tag:yaml.org,2002:" ++ name).toList⟩

/-- The exclamation mark alone. -/
def mark : List Nat :=
  octetsOf ['!']

/-- Whether a tag has a meaning of its own in this document only. -/
def isLocal (tag : Tag) : Bool :=
  mark.isPrefixOf tag.octets

/-- The text of a local tag, unless its octets are no text. -/
def localText? (tag : Tag) : Option String :=
  if tag.isLocal then Text.ofOctets? tag.octets else none

end Tag

/-- A token of a document. -/
inductive Token
  | version (major minor : Nat)
  /-- The declaration of what a tag handle stands for. -/
  | tagHandle (handle : String) (start : List Nat)
  | documentStart
  | documentEnd
  | blockSequenceStart
  | blockMappingStart
  | blockEnd
  | flowSequenceStart
  | flowSequenceEnd
  | flowMappingStart
  | flowMappingEnd
  | blockEntry
  | flowEntry
  | key
  | value
  | alias (name : String)
  | anchor (name : String)
  /-- A tag, with its handle apart from the octets that follow it. -/
  | tag (handle : String) (suffix : List Nat)
  | scalar (text : String) (isPlain : Bool)
  deriving DecidableEq

end SchemaMigration.Yaml
