namespace SchemaMigration.Yaml

/-!
# YAML errors

Why a text is no YAML document, or a document not what was asked for.
-/

/-- What is wrong with a text or with a document. -/
inductive Error
  /-- A character that may not occur in a document. -/
  | forbiddenCharacter
  /-- A character that starts no token where it stands. -/
  | strayCharacter
  /-- A tab in place of indentation. -/
  | tabIndentation
  /-- A mapping key that no colon follows. -/
  | colonExpected
  /-- An entry, a key or a value where none may start. -/
  | misplacedEntry
  | malformedDirective
  | malformedAnchor
  | malformedTag
  /-- The line that starts a block scalar holds something else. -/
  | malformedBlockHeader
  | unterminatedQuote
  | malformedEscape
  /-- A colon inside a flow scalar that could end it. -/
  | ambiguousColon
  /-- A token that cannot come next. -/
  | unexpectedToken
  | unknownTagHandle (handle : String)
  | repeatedDirective
  | unsupportedVersion
  | unknownAnchor (name : String)
  /-- There is something after the document. -/
  | severalDocuments
  | nestedTooDeep
  | tooManyAliases
  /-- A value of another shape than was asked for. -/
  | shapeExpected (shape : String)
  | missingField (name : String)
  | unknownField (name : String)
  | repeatedField (name : String)
  deriving DecidableEq

/-- The wording of an error. -/
def Error.message : Error → String
  | .forbiddenCharacter => "a control character is not allowed"
  | .strayCharacter => "found a character that cannot start any token"
  | .tabIndentation => "found a tab where indentation is expected"
  | .colonExpected => "could not find the colon after a key"
  | .misplacedEntry => "an entry is not allowed in this place"
  | .malformedDirective => "malformed directive"
  | .malformedAnchor => "malformed anchor or alias"
  | .malformedTag => "malformed tag"
  | .malformedBlockHeader => "malformed start of a block scalar"
  | .unterminatedQuote => "unterminated quoted scalar"
  | .malformedEscape => "malformed escape sequence"
  | .ambiguousColon => "unexpected colon in a flow scalar"
  | .unexpectedToken => "unexpected token"
  | .unknownTagHandle handle => s!"unknown tag handle '{handle}'"
  | .repeatedDirective => "repeated directive"
  | .unsupportedVersion => "unsupported version"
  | .unknownAnchor name => s!"unknown anchor '{name}'"
  | .severalDocuments => "more than one document"
  | .nestedTooDeep => "nested too deep"
  | .tooManyAliases => "too many aliases"
  | .shapeExpected shape => s!"expected {shape}"
  | .missingField name => s!"missing field '{name}'"
  | .unknownField name => s!"unknown field '{name}'"
  | .repeatedField name => s!"repeated field '{name}'"

end SchemaMigration.Yaml
