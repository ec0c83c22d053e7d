import SchemaMigration.Yaml.Quoted
import SchemaMigration.Yaml.Token

namespace SchemaMigration.Yaml

/-!
# Anchors, tags and directives

What may stand before a node or before a document.
-/

/-! ## Anchors -/

/-- Whether the name of an anchor may end before a text. -/
def endsAnchor (text : List Char) : Bool :=
  match text with
  | [] => true
  | c :: _ => isGap c || "?:,]\x7d%@\x60".toList.contains c

/-- The name after the mark of an anchor or an alias. -/
def anchorNameAt (cursor : Cursor) : Except Error Scanned :=
  let start := cursor.skip 1
  let name := start.run isWordChar
  let finish := start.skipRun isWordChar
  if name.isEmpty || !endsAnchor finish.rest then
    .error .malformedAnchor
  else
    .ok ⟨name, finish⟩

/-! ## Tags -/

/-- Whether a character may stand in a tag as it is. -/
def isTagChar (isVerbatim : Bool) (c : Char) : Bool :=
  isWordChar c || ";/?:@&=+$.!~*()".toList.contains c || c = singleQuote ||
    (isVerbatim && (c = ',' || c = '[' || c = ']'))

/-- The number of octets of a character, told by the first one. -/
def octetCount? (octet : Nat) : Option Nat :=
  if octet < 0x80 then some 1
  else if octet < 0xC0 then none
  else if octet < 0xE0 then some 2
  else if octet < 0xF0 then some 3
  else if octet < 0xF8 then some 4
  else none

/-- The octet that two hexadecimal digits after a percent sign stand for. -/
def escapedOctet? : List Char → Option (Nat × List Char)
  | '%' :: a :: b :: rest =>
      match Decimal.digit? 16 a, Decimal.digit? 16 b with
      | some high, some low => some (high * 16 + low, rest)
      | _, _ => none
  | _ => none

/-- Octets that go on a character, each after a percent sign. -/
def escapedTail? : Nat → List Char → Option (List Nat × List Char)
  | 0, text => some ([], text)
  | count + 1, text =>
      match escapedOctet? text with
      | some (octet, rest) =>
          if octet / 64 = 2 then
            (escapedTail? count rest).map (fun (octets, later) => (octet :: octets, later))
          else
            none
      | none => none

/-- The octets of a character after percent signs; they need not form one. -/
def escapedOctets? (text : List Char) : Option (List Nat × List Char) := do
  let (first, rest) ← escapedOctet? text
  let count ← octetCount? first
  let (octets, later) ← escapedTail? (count - 1) rest
  return (first :: octets, later)

/-- The octets of a tag, with escaped ones decoded. -/
def scanTag (isVerbatim : Bool) : Nat → List Char → Except Error (List Nat × List Char)
  | 0, text => .ok ([], text)
  | fuel + 1, text =>
      match text with
      | [] => .ok ([], [])
      | c :: rest =>
          if c = '%' then
            match escapedOctets? text with
            | none => .error .malformedTag
            | some (octets, later) =>
                (scanTag isVerbatim fuel later).map (fun (more, end?) => (octets ++ more, end?))
          else if isTagChar isVerbatim c then
            (scanTag isVerbatim fuel rest).map (fun (more, end?) => (c.toNat :: more, end?))
          else
            .ok ([], text)

/-- Octets of a tag that were read, and where they end. -/
structure TagScanned where
  octets : List Nat
  finish : Cursor

/-- The octets of a tag from a cursor on. -/
def tagOctetsAt (isVerbatim : Bool) (cursor : Cursor) : Except Error TagScanned :=
  match scanTag isVerbatim (cursor.rest.length + 1) cursor.rest with
  | .error problem => .error problem
  | .ok (octets, rest) =>
      .ok ⟨octets, ⟨rest, cursor.line, cursor.column + (cursor.rest.length - rest.length)⟩⟩

/-- A handle: an exclamation mark, with a word and another mark after it perhaps. -/
def handleAt (cursor : Cursor) : Except Error Scanned :=
  if cursor.rest.head? = some '!' then
    let start := cursor.skip 1
    let word := start.run isWordChar
    let finish := start.skipRun isWordChar
    if finish.rest.head? = some '!' then
      .ok ⟨'!' :: word ++ ['!'], finish.skip 1⟩
    else
      .ok ⟨'!' :: word, finish⟩
  else
    .error .malformedTag

/-- Whether a handle is closed by an exclamation mark of its own. -/
def isClosedHandle (handle : List Char) : Bool :=
  decide (2 ≤ handle.length) && handle.getLast? = some '!'

/-- A tag, its handle apart from what follows it. -/
def tagPartsAt (cursor : Cursor) : Except Error (List Char × TagScanned) := do
  if (cursor.rest.drop 1).head? = some '<' then
    let suffix ← tagOctetsAt true (cursor.skip 2)
    if suffix.octets.isEmpty || suffix.finish.rest.head? ≠ some '>' then
      .error .malformedTag
    else
      return ([], { suffix with finish := suffix.finish.skip 1 })
  else
    let handle ← handleAt cursor
    let suffix ← tagOctetsAt false handle.finish
    if isClosedHandle handle.text then
      if suffix.octets.isEmpty then
        .error .malformedTag
      else
        return (handle.text, suffix)
    else
      let whole := Tag.octetsOf (handle.text.drop 1) ++ suffix.octets
      if (Tag.beforeZero whole).isEmpty then
        return ([], { suffix with octets := Tag.mark })
      else
        return (['!'], { suffix with octets := whole })

/-- The tag that starts at a cursor. -/
def tagAt (isFlow : Bool) (cursor : Cursor) : Except Error (Token × Cursor) := do
  let (handle, suffix) ← tagPartsAt cursor
  let rest := suffix.finish.rest
  if startsGap rest || (isFlow && rest.head? = some ',') then
    return (.tag (String.ofList handle) (Tag.beforeZero suffix.octets), suffix.finish)
  else
    .error .malformedTag

/-! ## Directives -/

/-- The longest number in a version. -/
def longestVersionPart : Nat :=
  9

/-- A number of a version. -/
def versionPartAt (cursor : Cursor) : Except Error (Nat × Cursor) :=
  let digits := cursor.run Text.isDigit
  match Decimal.natural? 10 digits with
  | some value =>
      if digits.length ≤ longestVersionPart then
        .ok (value, cursor.skip digits.length)
      else
        .error .malformedDirective
  | none => .error .malformedDirective

/-- The version that a directive declares. -/
def versionAt (cursor : Cursor) : Except Error (Token × Cursor) := do
  let (major, point) ← versionPartAt (cursor.skipRun isSpace)
  if point.rest.head? = some '.' then
    let (minor, finish) ← versionPartAt (point.skip 1)
    return (.version major minor, finish)
  else
    .error .malformedDirective

/-- The tag handle that a directive declares. -/
def tagHandleAt (cursor : Cursor) : Except Error (Token × Cursor) := do
  let handle ← handleAt (cursor.skipRun isSpace)
  if !(isClosedHandle handle.text || handle.text = ['!']) then
    .error .malformedDirective
  else if !(handle.finish.rest.head?.any isSpace) then
    .error .malformedDirective
  else
    let start ← tagOctetsAt true (handle.finish.skipRun isSpace)
    if start.octets.isEmpty || !startsGap start.finish.rest then
      .error .malformedDirective
    else
      return (.tagHandle (String.ofList handle.text) (Tag.beforeZero start.octets), start.finish)

/-- The directive that starts at a cursor, with the line it stands on. -/
def directiveAt (cursor : Cursor) : Except Error (Token × Cursor) := do
  let start := cursor.skip 1
  let name := String.ofList (start.run isWordChar)
  let afterName := start.skipRun isWordChar
  if !startsGap afterName.rest then
    .error .malformedDirective
  else
    let (token, finish) ←
      if name = "YAML" then versionAt afterName
      else if name = "TAG" then tagHandleAt afterName
      else .error .malformedDirective
    match finish.toLineEnd? with
    | some next => return (token, next)
    | none => .error .malformedDirective

end SchemaMigration.Yaml
