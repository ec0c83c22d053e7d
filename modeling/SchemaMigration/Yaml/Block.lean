import SchemaMigration.Yaml.Quoted

namespace SchemaMigration.Yaml

/-!
# Block scalars

Scalars of whole lines that are indented below their parent. A literal scalar
keeps its line breaks; in a folded one, a single break between two lines that
start with no blank counts as a space. What is kept of the breaks at the end is
said on the first line, and so may be the indentation.
-/

/-- What is kept of the line breaks that end a block scalar. -/
inductive Chomping
  | strip
  | clip
  | keep
  deriving DecidableEq

/-- What the first line of a block scalar says. -/
structure BlockHeader where
  chomping : Chomping
  /-- How much deeper than its parent the scalar is indented, if that is said. -/
  increment : Option Nat

namespace BlockHeader

/-- The chomping that a sign says. -/
def chomping? : Char → Option Chomping
  | '+' => some .keep
  | '-' => some .strip
  | _ => none

/-- The increment that a digit says; zero says none. -/
def increment? (c : Char) : Option Nat :=
  (Decimal.digit? 10 c).filter (fun n => n != 0)

/-- The signs after the mark of a block scalar, in either order. -/
def scan (cursor : Cursor) : Except Error (BlockHeader × Cursor) :=
  let signs := (cursor.rest.takeWhile (fun c => (chomping? c).isSome || Text.isDigit c)).take 2
  match signs with
  | [] => .ok (⟨.clip, none⟩, cursor)
  | c :: more =>
      match chomping? c, increment? c, more with
      | some kept, _, d :: _ =>
          if Text.isDigit d then
            match increment? d with
            | some increment => .ok (⟨kept, some increment⟩, cursor.skip 2)
            | none => .error .malformedBlockHeader
          else
            .ok (⟨kept, none⟩, cursor.skip 1)
      | some kept, _, [] => .ok (⟨kept, none⟩, cursor.skip 1)
      | none, none, _ => .error .malformedBlockHeader
      | none, some increment, d :: _ =>
          match chomping? d with
          | some kept => .ok (⟨kept, some increment⟩, cursor.skip 2)
          | none => .ok (⟨.clip, some increment⟩, cursor.skip 1)
      | none, some increment, [] => .ok (⟨.clip, some increment⟩, cursor.skip 1)

end BlockHeader

/-- Empty lines before the next line of a block scalar. -/
structure EmptyLines where
  breaks : List Char
  /-- The deepest column reached before text or the end of a line. -/
  deepest : Nat
  finish : Cursor

/--
Pass over indentation and empty lines. Indentation ends at a column if one is
known, and at the first other character otherwise.
-/
def scanEmptyLines (indentation : Option Nat) (deepest line column : Nat) :
    List Char → Except Error EmptyLines
  | [] => .ok ⟨[], max deepest column, ⟨[], line, column⟩⟩
  | c :: rest =>
      let isIndentation :=
        match indentation with
        | none => true
        | some limit => decide (column < limit)
      if isIndentation && c = ' ' then
        scanEmptyLines indentation deepest line (column + 1) rest
      else if isIndentation && c = '\t' then
        .error .tabIndentation
      else if isBreak c then
        match scanEmptyLines indentation (max deepest column) (line + 1) 0 rest with
        | .error problem => .error problem
        | .ok lines => .ok { lines with breaks := c :: lines.breaks }
      else
        .ok ⟨[], max deepest column, ⟨c :: rest, line, column⟩⟩

/-- Empty lines from a cursor on. -/
def emptyLinesAt (indentation : Option Nat) (cursor : Cursor) : Except Error EmptyLines :=
  scanEmptyLines indentation 0 cursor.line cursor.column cursor.rest

/-- What was read of a block scalar so far. -/
structure BlockState where
  text : List Char
  /-- The break that ends the last line. -/
  lastBreak : List Char
  /-- The breaks of the empty lines after it. -/
  emptyBreaks : List Char
  /-- Whether the last line starts with a blank. -/
  lastBlank : Bool

/-- What stands for the breaks between the lines read so far and the next one. -/
def joinedBreaks (isLiteral : Bool) (state : BlockState) (nextBlank : Bool) : List Char :=
  if !isLiteral && state.lastBreak = ['\n'] && !state.lastBlank && !nextBlank then
    if state.emptyBreaks.isEmpty then [' '] else state.emptyBreaks
  else
    state.lastBreak ++ state.emptyBreaks

/-- Read line by line while the lines are indented to a column. -/
def scanBlockLines (isLiteral : Bool) (indentation : Nat) (state : BlockState) (cursor : Cursor) :
    Nat → Except Error (BlockState × Cursor)
  | 0 => .ok (state, cursor)
  | fuel + 1 =>
      match cursor.rest with
      | [] => .ok (state, cursor)
      | c :: _ =>
          if cursor.column ≠ indentation then
            .ok (state, cursor)
          else
            let line := cursor.run (fun d => !isBreak d)
            let atEnd := cursor.skipLine
            match emptyLinesAt (some indentation) atEnd.skipBreak with
            | .error problem => .error problem
            | .ok lines =>
                let next : BlockState := {
                  text := state.text ++ joinedBreaks isLiteral state (isSpace c) ++ line
                  lastBreak := atEnd.rest.take 1
                  emptyBreaks := lines.breaks
                  lastBlank := isSpace c
                }
                scanBlockLines isLiteral indentation next lines.finish fuel

/-- The breaks that are kept at the end of a block scalar. -/
def keptBreaks (chomping : Chomping) (state : BlockState) : List Char :=
  match chomping with
  | .strip => []
  | .clip => state.lastBreak
  | .keep => state.lastBreak ++ state.emptyBreaks

/-- The block scalar that starts at a cursor, below a parent at an indentation. -/
def blockAt (parent : Int) (cursor : Cursor) : Except Error Scanned := do
  let isLiteral := decide (cursor.rest.head? = some '|')
  let (header, afterHeader) ← BlockHeader.scan (cursor.skip 1)
  match afterHeader.toLineEnd? with
  | none => .error .malformedBlockHeader
  | some start =>
      let told := header.increment.map (fun n => Int.toNat (max parent 0) + n)
      let lines ← emptyLinesAt told start
      let indentation := told.getD (max lines.deepest (max (Int.toNat (parent + 1)) 1))
      let (state, finish) ←
        scanBlockLines isLiteral indentation ⟨[], [], lines.breaks, false⟩ lines.finish
          (lines.finish.rest.length + 1)
      return ⟨state.text ++ keptBreaks header.chomping state, finish⟩

end SchemaMigration.Yaml
