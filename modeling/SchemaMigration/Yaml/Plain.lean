import SchemaMigration.Yaml.Quoted

namespace SchemaMigration.Yaml

/-!
# Plain scalars

Scalars without quotes. They end before a colon that a blank follows, before a
comment, before a document mark, at a line that is not indented enough, and
between brackets also before the marks that have a meaning there.
-/

/-- Where plain scalars are read. -/
structure PlainContext where
  /-- Whether the scalar stands between brackets. -/
  isFlow : Bool
  /-- The least column of its further lines, outside brackets. -/
  indentation : Int

/-- A plain scalar, where it ends, and whether lines ended after it. -/
structure PlainScanned where
  text : List Char
  finish : Cursor
  overLines : Bool

/-- Whether a colon and what follows it could be read in two ways. -/
def isAmbiguousColon (context : PlainContext) (c : Char) (rest : List Char) : Bool :=
  context.isFlow && c = ':' &&
    match rest with
    | next :: _ => isFlowMark next || next = '?'
    | [] => false

/-- Whether a character ends a plain scalar. -/
def endsPlain (context : PlainContext) (c : Char) (rest : List Char) : Bool :=
  (c = ':' && startsGap rest) || (context.isFlow && isFlowMark c)

/-- Whether a word after spacing no longer belongs to a plain scalar. -/
def endsAfterSpacing (context : PlainContext) (spacing : Spacing) (column : Nat) (c : Char) :
    Bool :=
  spacing.isSome && (c = '#' || (!context.isFlow && Int.ofNat column < context.indentation))

/-- The rest of a plain scalar, from a place inside it. -/
def scanPlain
    (context : PlainContext)
    (spacing : Spacing)
    (line column : Nat) :
    List Char → Except Error PlainScanned
  | [] => .ok ⟨[], ⟨[], line, column⟩, spacing.isOverLines⟩
  | c :: rest =>
      if isSpace c then
        if spacing.isOverLines && Int.ofNat column < context.indentation && c = '\t' then
          .error .tabIndentation
        else
          scanPlain context (spacing.addBlank c) line (column + 1) rest
      else if isBreak c then
        scanPlain context (spacing.addBreak c) (line + 1) 0 rest
      else if atDocumentMark column (c :: rest) || endsAfterSpacing context spacing column c then
        .ok ⟨[], ⟨c :: rest, line, column⟩, spacing.isOverLines⟩
      else if isAmbiguousColon context c rest then
        .error .ambiguousColon
      else if endsPlain context c rest then
        .ok ⟨[], ⟨c :: rest, line, column⟩, spacing.isOverLines⟩
      else
        match scanPlain context .none line (column + 1) rest with
        | .error problem => .error problem
        | .ok scanned => .ok { scanned with text := spacing.folded ++ c :: scanned.text }

/-- The plain scalar that starts at a cursor. -/
def plainAt (context : PlainContext) (cursor : Cursor) : Except Error PlainScanned :=
  scanPlain context .none cursor.line cursor.column cursor.rest

/-- Whether a plain scalar starts with a character. -/
def startsPlain (isFlow : Bool) (c : Char) (rest : List Char) : Bool :=
  let isIndicator :=
    "-?:,[]#&*!|>%@".toList.contains c || isFlowMark c || c = singleQuote || c = doubleQuote ||
      c = '\x60'
  !(isGap c || isIndicator) ||
    (c = '-' && !(match rest with | next :: _ => isSpace next | [] => false)) ||
      (!isFlow && (c = '?' || c = ':') && !startsGap rest)

end SchemaMigration.Yaml
