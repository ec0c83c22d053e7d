import SchemaMigration.Yaml.Block
import SchemaMigration.Yaml.Plain
import SchemaMigration.Yaml.Property

namespace SchemaMigration.Yaml

/-!
# The tokens of a text

A text is read token by token. Blocks start and end as the indentation tells.
Whether a node is the key of a mapping shows only at the colon after it; so the
place of each possible key is remembered, and the token that marks it as a key
is put in there afterwards.
-/

/-- A node that may turn out to be a key. -/
structure PossibleKey where
  /-- How many tokens come before it. -/
  index : Nat
  /-- What is left of the text from its first character on. -/
  text : List Char
  line : Nat
  column : Nat
  /-- Whether nothing but a key may stand in its place. -/
  isRequired : Bool

/-- What is known in the middle of a text. -/
structure Lexing where
  cursor : Cursor
  /-- The tokens so far, the latest first. -/
  tokens : List Token
  /-- The indentation of the innermost block, or minus one outside all blocks. -/
  indentation : Int
  /-- The indentations of the blocks around it. -/
  outer : List Int
  /-- Whether a key may start here. -/
  keyAllowed : Bool
  /-- The possible key of each level of brackets, the innermost first. -/
  keys : List (Option PossibleKey)

namespace Lexing

/-- The start of a text. -/
def start (text : List Char) : Lexing :=
  ⟨Cursor.ofText text, [], -1, [], true, [none]⟩

/-- Whether the place is inside brackets. -/
def isFlow (state : Lexing) : Bool :=
  decide (1 < state.keys.length)

/-- Add a token. -/
def add (state : Lexing) (token : Token) : Lexing :=
  { state with tokens := token :: state.tokens }

/-- Put tokens in where so many come before them. -/
def insert (state : Lexing) (index : Nat) (tokens : List Token) : Lexing :=
  let later := state.tokens.length - index
  { state with
    tokens := state.tokens.take later ++ tokens.reverse ++ state.tokens.drop later }

/-! ## Blanks between tokens -/

/--
Pass over blanks, comments and line breaks. A tab may stand only where no key
could start, or inside brackets. Outside brackets a key may start after a break.
-/
def skipBlanks (state : Lexing) : Nat → Lexing
  | 0 => state
  | fuel + 1 =>
      let cursor := state.cursor
      let cursor :=
        if cursor.column = 0 && cursor.rest.head? = some byteOrderMark then
          cursor.skip 1
        else
          cursor
      let tabsToo := state.isFlow || !state.keyAllowed
      let cursor := cursor.skipRun (fun c => c = ' ' || (tabsToo && c = '\t'))
      let cursor := if cursor.rest.head? = some '#' then cursor.skipLine else cursor
      match cursor.rest with
      | [] => { state with cursor := cursor }
      | c :: _ =>
          if isBreak c then
            skipBlanks { state with
              cursor := cursor.skipBreak
              keyAllowed := state.keyAllowed || !state.isFlow } fuel
          else
            { state with cursor := cursor }

/-! ## Indentation -/

/-- End the blocks that are indented deeper than a column. -/
def closeBlocks (state : Lexing) (column : Int) : List Int → Lexing
  | [] => state
  | parent :: rest =>
      if column < state.indentation then
        closeBlocks
          { state.add .blockEnd with indentation := parent, outer := rest } column rest
      else
        state

/-- End the blocks that are indented deeper than a column, outside brackets. -/
def unindent (state : Lexing) (column : Int) : Lexing :=
  if state.isFlow then state else state.closeBlocks column state.outer

/-- Start a block at a column, unless one starts there already. -/
def indent (state : Lexing) (column : Nat) (index : Nat) (token : Token) : Lexing :=
  if !state.isFlow && state.indentation < Int.ofNat column then
    { state.insert index [token] with
      indentation := Int.ofNat column
      outer := state.indentation :: state.outer }
  else
    state

/-- Start a block at the place that was reached. -/
def indentHere (state : Lexing) (token : Token) : Lexing :=
  state.indent state.cursor.column state.tokens.length token

/-! ## Possible keys -/

/-- The possible key of the innermost brackets. -/
def possibleKey? (state : Lexing) : Option PossibleKey :=
  state.keys.head?.join

/-- Put a possible key for the innermost brackets. -/
def setKey (state : Lexing) (key : Option PossibleKey) : Lexing :=
  { state with keys := key :: state.keys.drop 1 }

/-- Give a possible key up. -/
def dropKey (state : Lexing) : Except Error Lexing :=
  match state.possibleKey? with
  | some key => if key.isRequired then .error .colonExpected else .ok (state.setKey none)
  | none => .ok state

/-- Remember that a key may start here. -/
def saveKey (state : Lexing) : Except Error Lexing :=
  if state.keyAllowed then
    let cursor := state.cursor
    let isRequired := !state.isFlow && state.indentation = Int.ofNat cursor.column
    state.dropKey.map (fun next =>
      next.setKey
        (some ⟨state.tokens.length, cursor.rest, cursor.line, cursor.column, isRequired⟩))
  else
    .ok state

/-- How many octets a key that no question mark starts may take. -/
def longestKey : Nat :=
  1024

/-- Whether a colon here, on the line of a possible key, still makes it one. -/
def isInReach (state : Lexing) (key : PossibleKey) : Bool :=
  key.line = state.cursor.line &&
    Text.octetCount (key.text.take (state.cursor.column - key.column)) ≤ longestKey

/-- The possible key that a colon here makes a key. -/
def reachedKey? (state : Lexing) : Except Error (Option PossibleKey) :=
  match state.possibleKey? with
  | none => .ok none
  | some key =>
      if state.isInReach key then .ok (some key)
      else if key.isRequired then .error .colonExpected
      else .ok none

/-! ## Tokens -/

/-- Take characters as a token. -/
def take (state : Lexing) (count : Nat) (token : Token) : Lexing :=
  { state.add token with cursor := state.cursor.skip count }

/-- A mark between documents, or a directive before one, ends all blocks. -/
def leaveDocument (state : Lexing) : Except Error Lexing :=
  (state.unindent (-1)).dropKey.map (fun next => { next with keyAllowed := false })

/-- The start of a collection in brackets. -/
def openFlow (state : Lexing) (token : Token) : Except Error Lexing :=
  state.saveKey.map (fun next =>
    { next.take 1 token with keys := none :: next.keys, keyAllowed := true })

/-- The end of a collection in brackets. -/
def closeFlow (state : Lexing) (token : Token) : Except Error Lexing :=
  state.dropKey.map (fun next =>
    let keys := if next.isFlow then next.keys.drop 1 else next.keys
    { next.take 1 token with keys := keys, keyAllowed := false })

/-- The comma between the entries of a collection in brackets. -/
def flowEntry (state : Lexing) : Except Error Lexing :=
  state.dropKey.map (fun next => { next.take 1 .flowEntry with keyAllowed := true })

/-- The dash before an entry of a sequence. -/
def blockEntry (state : Lexing) : Except Error Lexing :=
  if !state.isFlow && !state.keyAllowed then
    .error .misplacedEntry
  else
    (state.indentHere .blockSequenceStart).dropKey.map (fun next =>
      { next.take 1 .blockEntry with keyAllowed := true })

/-- The question mark before a key. -/
def explicitKey (state : Lexing) : Except Error Lexing :=
  if !state.isFlow && !state.keyAllowed then
    .error .misplacedEntry
  else
    (state.indentHere .blockMappingStart).dropKey.map (fun next =>
      { next.take 1 .key with keyAllowed := !next.isFlow })

/-- The colon before a value. -/
def value (state : Lexing) : Except Error Lexing :=
  match state.reachedKey? with
  | .error problem => .error problem
  | .ok (some key) =>
      let marked := (state.insert key.index [.key]).indent key.column key.index .blockMappingStart
      .ok { (marked.setKey none).take 1 .value with keyAllowed := false }
  | .ok none =>
      if !state.isFlow && !state.keyAllowed then
        .error .misplacedEntry
      else
        let next := state.indentHere .blockMappingStart
        .ok { next.take 1 .value with keyAllowed := !next.isFlow }

/-- A scalar that was read. -/
def addScalar (state : Lexing) (text : List Char) (isPlain : Bool) (finish : Cursor) : Lexing :=
  { state.add (.scalar (String.ofList text) isPlain) with cursor := finish }

/-- Remember a possible key and read what starts here. -/
def node (state : Lexing) (read : Lexing → Except Error Lexing) : Except Error Lexing :=
  match state.saveKey with
  | .error problem => .error problem
  | .ok next => read { next with keyAllowed := false }

/-- An anchor or an alias. -/
def anchor (state : Lexing) (token : String → Token) : Except Error Lexing :=
  (anchorNameAt state.cursor).map (fun name =>
    { state.add (token (String.ofList name.text)) with cursor := name.finish })

/-- A tag. -/
def tag (state : Lexing) : Except Error Lexing :=
  (tagAt state.isFlow state.cursor).map (fun (token, finish) =>
    { state.add token with cursor := finish })

/-- A quoted scalar. -/
def quoted (state : Lexing) : Except Error Lexing :=
  (quotedAt state.cursor).map (fun scanned => state.addScalar scanned.text false scanned.finish)

/-- A plain scalar; where lines end after it, a key may start. -/
def plain (state : Lexing) : Except Error Lexing :=
  (plainAt ⟨state.isFlow, state.indentation + 1⟩ state.cursor).map (fun scanned =>
    { state.addScalar scanned.text true scanned.finish with keyAllowed := scanned.overLines })

/-- A block scalar. -/
def block (state : Lexing) : Except Error Lexing := do
  let next ← state.dropKey
  let scanned ← blockAt next.indentation next.cursor
  return { next.addScalar scanned.text false scanned.finish with keyAllowed := true }

/-- A directive. -/
def directive (state : Lexing) : Except Error Lexing := do
  let next ← state.leaveDocument
  let (token, finish) ← directiveAt next.cursor
  return { next.add token with cursor := finish }

/-- A mark between documents. -/
def documentMark (state : Lexing) (token : Token) : Except Error Lexing :=
  state.leaveDocument.map (fun next => next.take 3 token)

/-- Read the token that starts with a character. -/
def next (state : Lexing) (c : Char) (rest : List Char) : Except Error Lexing :=
  let text := c :: rest
  let column := state.cursor.column
  let isMark := state.isFlow || startsGap rest
  if column = 0 && c = '%' then state.directive
  else if column = 0 && startsDocumentMark '-' text then state.documentMark .documentStart
  else if column = 0 && startsDocumentMark '.' text then state.documentMark .documentEnd
  else if c = '[' then state.openFlow .flowSequenceStart
  else if c = '\x7b' then state.openFlow .flowMappingStart
  else if c = ']' then state.closeFlow .flowSequenceEnd
  else if c = '\x7d' then state.closeFlow .flowMappingEnd
  else if c = ',' then state.flowEntry
  else if c = '-' && startsGap rest then state.blockEntry
  else if c = '?' && isMark then state.explicitKey
  else if c = ':' && isMark then state.value
  else if c = '*' then state.node (fun next => next.anchor .alias)
  else if c = '&' then state.node (fun next => next.anchor .anchor)
  else if c = '!' then state.node tag
  else if (c = '|' || c = '>') && !state.isFlow then state.block
  else if c = singleQuote || c = doubleQuote then state.node quoted
  else if startsPlain state.isFlow c rest then state.node plain
  else .error .strayCharacter

/-- Close what is open at the end of the text. -/
def finish (state : Lexing) : Except Error (List Token) :=
  (state.unindent (-1)).dropKey.map (fun next => next.tokens.reverse)

/-- Read tokens up to the end of the text. -/
def run (state : Lexing) : Nat → Except Error (List Token)
  | 0 => .error .strayCharacter
  | fuel + 1 =>
      let state := state.skipBlanks (state.cursor.rest.length + 1)
      let state := state.unindent (Int.ofNat state.cursor.column)
      match state.cursor.rest with
      | [] => state.finish
      | c :: rest =>
          match state.next c rest with
          | .error problem => .error problem
          | .ok later => later.run fuel

end Lexing

/-- The tokens of a text. -/
def tokensOf (text : String) : Except Error (List Token) :=
  let characters := text.toList
  if characters.all isAllowed then
    let lines := withLineFeeds characters
    (Lexing.start lines).run (lines.length + 1)
  else
    .error .forbiddenCharacter

end SchemaMigration.Yaml
