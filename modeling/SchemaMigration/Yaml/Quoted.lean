import SchemaMigration.Decimal.Reading
import SchemaMigration.Yaml.Error
import SchemaMigration.Yaml.Folding

namespace SchemaMigration.Yaml

/-!
# Quoted scalars

Scalars between single quotes, where a quote is written twice, and between
double quotes, where a backslash starts an escape sequence. Both are read
character by character up to the closing quote.
-/

/-- A scalar that was read, and where it ends. -/
structure Scanned where
  text : List Char
  finish : Cursor

namespace Scanned

/-- Put characters before a scalar that was read. -/
def prepend (characters : List Char) (scanned : Scanned) : Scanned :=
  { scanned with text := characters ++ scanned.text }

end Scanned

/-- The quote around single-quoted scalars. -/
def singleQuote : Char :=
  '\x27'

/-- The quote around double-quoted scalars. -/
def doubleQuote : Char :=
  '\x22'

/-- The rest of a single-quoted scalar, from a place inside it. -/
def scanSingle (spacing : Spacing) (line column : Nat) : List Char → Except Error Scanned
  | [] => .error .unterminatedQuote
  | c :: rest =>
      if isSpace c then
        scanSingle (spacing.addBlank c) line (column + 1) rest
      else if isBreak c then
        scanSingle (spacing.addBreak c) (line + 1) 0 rest
      else if atDocumentMark column (c :: rest) then
        .error .unterminatedQuote
      else if c = singleQuote then
        match rest with
        | '\x27' :: later =>
            (scanSingle .none line (column + 2) later).map
              (Scanned.prepend (spacing.folded ++ [singleQuote]))
        | _ => .ok ⟨spacing.folded, ⟨rest, line, column + 1⟩⟩
      else
        (scanSingle .none line (column + 1) rest).map
          (Scanned.prepend (spacing.folded ++ [c]))

/-- The character that a letter after a backslash stands for. -/
def escaped? (c : Char) : Option Char :=
  match c with
  | '0' => some (Char.ofNat 0)
  | 'a' => some (Char.ofNat 7)
  | 'b' => some (Char.ofNat 8)
  | 't' | '\t' => some '\t'
  | 'n' => some '\n'
  | 'v' => some (Char.ofNat 11)
  | 'f' => some (Char.ofNat 12)
  | 'r' => some '\r'
  | 'e' => some (Char.ofNat 27)
  | ' ' => some ' '
  | '\x22' => some doubleQuote
  | '/' => some '/'
  | '\\' => some '\\'
  | 'N' => some nextLine
  | '_' => some (Char.ofNat 0xA0)
  | 'L' => some lineSeparator
  | 'P' => some paragraphSeparator
  | _ => none

/-- How many hexadecimal digits follow a letter after a backslash. -/
def codeLength? (c : Char) : Option Nat :=
  match c with
  | 'x' => some 2
  | 'u' => some 4
  | 'U' => some 8
  | _ => none

/-- The character of a code point, if it is one. -/
def characterOf? (point : Nat) : Option Char :=
  if point < 0xD800 ∨ (0xDFFF < point ∧ point ≤ 0x10FFFF) then some (Char.ofNat point) else none

/-- Where the reading of a double-quoted scalar stands. -/
inductive Reading
  /-- Between characters, after some spacing. -/
  | between (spacing : Spacing)
  /-- After a backslash. -/
  | escape
  /-- Inside the digits of a code point, with some left to read. -/
  | code (left value : Nat)

/-- The rest of a double-quoted scalar, from a place inside it. -/
def scanDouble (reading : Reading) (line column : Nat) : List Char → Except Error Scanned
  | [] => .error .unterminatedQuote
  | c :: rest =>
      match reading with
      | .between spacing =>
          if isSpace c then
            scanDouble (.between (spacing.addBlank c)) line (column + 1) rest
          else if isBreak c then
            scanDouble (.between (spacing.addBreak c)) (line + 1) 0 rest
          else if atDocumentMark column (c :: rest) then
            .error .unterminatedQuote
          else if c = doubleQuote then
            .ok ⟨spacing.folded, ⟨rest, line, column + 1⟩⟩
          else if c = '\\' then
            (scanDouble .escape line (column + 1) rest).map (Scanned.prepend spacing.folded)
          else
            (scanDouble (.between .none) line (column + 1) rest).map
              (Scanned.prepend (spacing.folded ++ [c]))
      | .escape =>
          if isBreak c then
            scanDouble (.between (.lines none [])) (line + 1) 0 rest
          else
            match escaped? c, codeLength? c with
            | some meant, _ =>
                (scanDouble (.between .none) line (column + 1) rest).map
                  (Scanned.prepend [meant])
            | none, some length => scanDouble (.code length 0) line (column + 1) rest
            | none, none => .error .malformedEscape
      | .code left value =>
          match Decimal.digit? 16 c with
          | none => .error .malformedEscape
          | some digit =>
              let point := value * 16 + digit
              if left ≤ 1 then
                match characterOf? point with
                | some meant =>
                    (scanDouble (.between .none) line (column + 1) rest).map
                      (Scanned.prepend [meant])
                | none => .error .malformedEscape
              else
                scanDouble (.code (left - 1) point) line (column + 1) rest

/-- The quoted scalar that starts at a cursor. -/
def quotedAt (cursor : Cursor) : Except Error Scanned :=
  let next := cursor.skip 1
  if cursor.rest.head? = some singleQuote then
    scanSingle .none next.line next.column next.rest
  else
    scanDouble (.between .none) next.line next.column next.rest

end SchemaMigration.Yaml
