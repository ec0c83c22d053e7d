import SchemaMigration.Proofs.Name
import SchemaMigration.Yaml.TokenList

namespace SchemaMigration.Yaml

/-!
# Reading tokens line by line

What one entry of a block mapping at the left margin is read as.  Runs of the
reader are composed: each fact takes the state before some tokens to the state
behind them, whatever follows there.
-/

open Text (isSolid)

/-! ## Characters -/

theorem ne_of_isSolid
    {c d : Char}
    (solid : isSolid c = true)
    (other : isSolid d = false) :
    c ≠ d := by
  rintro rfl
  rw [solid] at other
  cases other

theorem isBreak_of_isSpace
    {c : Char}
    (space : isSpace c = true) :
    isBreak c = false := by
  simp only [isSpace, Bool.or_eq_true, decide_eq_true_eq] at space
  rcases space with rfl | rfl <;> decide

theorem startsDocumentMark_of_ne
    {mark c : Char}
    (isOther : c ≠ mark)
    (rest : List Char) :
    startsDocumentMark mark (c :: rest) = false := by
  rcases rest with _ | ⟨_, _ | _⟩ <;> simp [startsDocumentMark, isOther]

theorem atDocumentMark_of_ne
    {c : Char}
    (dash : c ≠ '-')
    (dot : c ≠ '.')
    (column : Nat)
    (rest : List Char) :
    atDocumentMark column (c :: rest) = false := by
  simp [atDocumentMark, startsDocumentMark_of_ne dash, startsDocumentMark_of_ne dot]

section Solid

variable {c : Char} (solid : isSolid c = true)

include solid

theorem isSpace_of_isSolid : isSpace c = false := by
  simp [isSpace, ne_of_isSolid solid (d := ' ') (by decide),
    ne_of_isSolid solid (d := '\t') (by decide)]

theorem isBreak_of_isSolid : isBreak c = false := by
  simp [isBreak, ne_of_isSolid solid (d := '\n') (by decide),
    ne_of_isSolid solid (d := lineSeparator) (by decide),
    ne_of_isSolid solid (d := paragraphSeparator) (by decide)]

theorem atDocumentMark_of_isSolid
    (column : Nat)
    (rest : List Char) :
    atDocumentMark column (c :: rest) = false :=
  atDocumentMark_of_ne (ne_of_isSolid solid (by decide)) (ne_of_isSolid solid (by decide)) column
    rest

end Solid

theorem isBreak_of_isDigit
    {c : Char}
    (digit : Text.isDigit c = true) :
    isBreak c = false := by
  have isOther (d : Char) (other : Text.isDigit d = false) : c ≠ d := by
    rintro rfl
    rw [digit] at other
    cases other
  simp [isBreak, isOther '\n' (by decide), isOther lineSeparator (by decide),
    isOther paragraphSeparator (by decide)]

/-- Whether a character is taken into a document as it is. -/
def isKept (c : Char) : Bool :=
  isAllowed c && c != '\r' && c != nextLine

theorem isKept_of_isSolid
    {c : Char}
    (solid : isSolid c = true) :
    isKept c = true := by
  have noReturn : c ≠ '\r' := ne_of_isSolid solid (by decide)
  have noNextLine : c ≠ nextLine := ne_of_isSolid solid (by decide)
  have covered : ∀ outer ∈ Text.solidTable,
      (32 ≤ outer.first ∧ outer.last ≤ 126) ∨ (0xA0 ≤ outer.first ∧ outer.last ≤ 0xD7FF) ∨
        (0xE000 ≤ outer.first ∧ outer.last ≤ 0xFFFD) ∨ 0x10000 ≤ outer.first := by
    decide
  obtain ⟨outer, member, lower, upper⟩ := Text.isSolid_iff.mp solid
  have allowed : isAllowed c = true := by
    simp only [isAllowed, Bool.or_eq_true, Bool.and_eq_true, decide_eq_true_eq]
    have places := covered outer member
    omega
  simp [isKept, allowed, noReturn, noNextLine]

theorem isKept_of_isDigit
    {c : Char}
    (digit : Text.isDigit c = true) :
    isKept c = true := by
  have noReturn : c ≠ '\r' := by
    rintro rfl
    cases digit
  have noNextLine : c ≠ nextLine := by
    rintro rfl
    exact absurd digit (by decide)
  simp only [Text.isDigit, Bool.and_eq_true, decide_eq_true_eq] at digit
  have lower : 48 ≤ c.toNat := digit.1
  have upper : c.toNat ≤ 57 := digit.2
  have allowed : isAllowed c = true := by
    simp only [isAllowed, Bool.or_eq_true, Bool.and_eq_true, decide_eq_true_eq]
    omega
  simp [isKept, allowed, noReturn, noNextLine]

theorem withLineFeeds_eq_self
    {text : List Char}
    (kept : ∀ c ∈ text, isKept c = true) :
    withLineFeeds text = text := by
  induction text with
  | nil =>
      rfl
  | cons c rest inductionHypothesis =>
      have here := kept c List.mem_cons_self
      simp only [isKept, Bool.and_eq_true, bne_iff_ne] at here
      obtain ⟨⟨_, noReturn⟩, noNextLine⟩ := here
      have later := inductionHypothesis (fun d member => kept d (List.mem_cons_of_mem _ member))
      unfold withLineFeeds
      split
      · rename_i shape
        cases shape
      · rename_i shape
        cases shape
        exact absurd rfl noReturn
      · rename_i shape
        cases shape
        simp [noReturn, noNextLine, later]

/-- Whether a token may start with a character after blanks. -/
structure StartsToken (c : Char) : Prop where
  noSpace : isSpace c = false
  noComment : c ≠ '#'
  noBreak : isBreak c = false
  noMark : c ≠ byteOrderMark

theorem startsToken_of_isSolid
    {c : Char}
    (solid : isSolid c = true) :
    StartsToken c where
  noSpace := isSpace_of_isSolid solid
  noComment := ne_of_isSolid solid (by decide)
  noBreak := isBreak_of_isSolid solid
  noMark := ne_of_isSolid solid (by decide)

namespace Lexing

/-! ## Lines without tokens -/

/-- A line that holds nothing but spaces and perhaps a comment behind them. -/
inductive IsFiller : List Char → Prop
  | spaces {blanks : List Char} :
      (∀ c ∈ blanks, c = ' ') →
      IsFiller blanks
  | comment {blanks said : List Char} :
      (∀ c ∈ blanks, c = ' ') →
      (∀ c ∈ said, isBreak c = false) →
      IsFiller (blanks ++ '#' :: said)

/-- The check whether a line holds nothing but spaces and perhaps a comment. -/
def fillsLine (line : List Char) : Bool :=
  match line.dropWhile (· == ' ') with
  | [] => true
  | c :: said => c == '#' && said.all (fun d => !isBreak d)

theorem isFiller_of_fillsLine
    {line : List Char}
    (fills : fillsLine line = true) :
    IsFiller line := by
  have spaces : ∀ c ∈ line.takeWhile (· == ' '), c = ' ' := by
    intro c member
    simpa using List.all_eq_true.mp List.all_takeWhile c member
  have parts : line = line.takeWhile (· == ' ') ++ line.dropWhile (· == ' ') :=
    List.takeWhile_append_dropWhile.symm
  rw [parts]
  unfold fillsLine at fills
  split at fills
  · rename_i nothing
    rw [nothing, List.append_nil]
    exact .spaces spaces
  · rename_i c said shape
    simp only [Bool.and_eq_true, beq_iff_eq, List.all_eq_true, Bool.not_eq_true'] at fills
    rw [shape, fills.1]
    exact .comment spaces fills.2

theorem skipRun_append
    {property : Char → Bool}
    {part tail : List Char}
    (held : ∀ c ∈ part, property c = true)
    (stops : ∀ c ∈ tail.head?, property c = false)
    (line column : Nat) :
    Cursor.skipRun ⟨part ++ tail, line, column⟩ property = ⟨tail, line, column + part.length⟩ := by
  have noneTaken : tail.takeWhile property = [] := by
    cases tail with
    | nil =>
        rfl
    | cons c rest =>
        rw [List.takeWhile_cons, stops c rfl]
        rfl
  have taken : (part ++ tail).takeWhile property = part := by
    rw [List.takeWhile_append_of_pos held, noneTaken, List.append_nil]
  simp [Cursor.skipRun, Cursor.run, Cursor.skip, taken]

/-- What `skipBlanks` passes over on one line. -/
def pastLine (state : Lexing) : Cursor :=
  let cursor := state.cursor
  let cursor :=
    if cursor.column = 0 && cursor.rest.head? = some byteOrderMark then cursor.skip 1 else cursor
  let tabsToo := state.isFlow || !state.keyAllowed
  let cursor := cursor.skipRun (fun c => c = ' ' || (tabsToo && c = '\t'))
  if cursor.rest.head? = some '#' then cursor.skipLine else cursor

theorem skipBlanks_succ (state : Lexing) (fuel : Nat) :
    state.skipBlanks (fuel + 1) =
      match state.pastLine.rest with
      | [] => { state with cursor := state.pastLine }
      | c :: _ =>
          if isBreak c then
            skipBlanks { state with
              cursor := state.pastLine.skipBreak
              keyAllowed := state.keyAllowed || !state.isFlow } fuel
          else
            { state with cursor := state.pastLine } := by
  rfl

section PastLine

variable
  {state : Lexing}
  {tail : List Char}

/-- Spaces are passed over up to what is no blank and starts no comment. -/
theorem pastLine_spaces
    {blanks : List Char}
    (spaces : ∀ c ∈ blanks, c = ' ')
    (stops : ∀ c ∈ tail.head?, isSpace c = false ∧ c ≠ '#' ∧ c ≠ byteOrderMark)
    (shape : state.cursor.rest = blanks ++ tail) :
    state.pastLine =
      ⟨tail, state.cursor.line, state.cursor.column + blanks.length⟩ := by
  have noMark : (blanks ++ tail).head? ≠ some byteOrderMark := by
    intro isMark
    cases blanks with
    | nil =>
        exact (stops _ isMark).2.2 rfl
    | cons c rest =>
        have space := spaces c List.mem_cons_self
        rw [List.cons_append, List.head?_cons, space] at isMark
        exact absurd isMark (by decide)
  have noComment : tail.head? ≠ some '#' :=
    fun isComment => (stops _ isComment).2.1 rfl
  have cursorShape :
      state.cursor = ⟨blanks ++ tail, state.cursor.line, state.cursor.column⟩ := by
    rw [← shape]
  unfold pastLine
  rw [cursorShape]
  simp only [noMark, decide_false, Bool.and_false, Bool.false_eq_true, if_false]
  rw [skipRun_append]
  · simp only [noComment, if_false]
  · intro c member
    simp [spaces c member]
  · intro c starts
    have noSpace := (stops c starts).1
    simp only [isSpace, Bool.or_eq_false_iff, decide_eq_false_iff_not] at noSpace
    simp [noSpace]

theorem pastLine_filler
    {line : List Char}
    (filler : IsFiller line)
    (ends : ∀ c ∈ tail.head?, isBreak c = true)
    (shape : state.cursor.rest = line ++ tail) :
    state.pastLine =
      ⟨tail, state.cursor.line, state.cursor.column + line.length⟩ := by
  have breakIsOther
      {c : Char}
      (breaks : isBreak c = true) :
      isSpace c = false ∧ c ≠ '#' ∧ c ≠ byteOrderMark := by
    simp only [isBreak, Bool.or_eq_true, decide_eq_true_eq] at breaks
    rcases breaks with (rfl | rfl) | rfl <;> decide
  cases filler with
  | spaces spaces =>
      exact pastLine_spaces spaces (fun c starts => breakIsOther (ends c starts)) shape
  | @comment blanks said spaces oneLine =>
      have noMark : (blanks ++ ('#' :: (said ++ tail))).head? ≠ some byteOrderMark := by
        intro isMark
        cases blanks with
        | nil =>
            exact absurd (Option.some.inj isMark) (by decide)
        | cons c rest =>
            rw [spaces c List.mem_cons_self] at isMark
            exact absurd (Option.some.inj isMark) (by decide)
      have cursorShape :
          state.cursor =
            ⟨blanks ++ ('#' :: (said ++ tail)), state.cursor.line, state.cursor.column⟩ := by
        rw [← List.cons_append, ← List.append_assoc, ← shape]
      unfold pastLine
      rw [cursorShape]
      simp only [noMark, decide_false, Bool.and_false, Bool.false_eq_true, if_false]
      rw [skipRun_append (by intro c member; simp [spaces c member])
        (by intro c starts; cases starts; simp)]
      simp only [List.head?_cons, if_true, Cursor.skipLine]
      rw [← List.cons_append, skipRun_append]
      · simp [Nat.add_assoc]
      · intro c member
        rcases List.mem_cons.mp member with rfl | within
        · rfl
        · simp [oneLine c within]
      · intro c starts
        simp [ends c starts]

end PastLine

/-- A line without tokens is passed over, and a key may start behind it. -/
theorem skipBlanks_filler
    {state : Lexing}
    {line tail : List Char}
    (filler : IsFiller line)
    (shape : state.cursor.rest = line ++ '\n' :: tail)
    (fuel : Nat) :
    state.skipBlanks (fuel + 1) =
      skipBlanks
        { state with
          cursor := ⟨tail, state.cursor.line + 1, 0⟩
          keyAllowed := state.keyAllowed || !state.isFlow } fuel := by
  have past := pastLine_filler filler (by intro c starts; cases starts; rfl) shape
  rw [skipBlanks_succ, past]
  rfl

/-- The last line of a text is passed over when it has no tokens. -/
theorem skipBlanks_last
    {state : Lexing}
    (filler : IsFiller state.cursor.rest)
    (fuel : Nat) :
    state.skipBlanks (fuel + 1) =
      { state with
        cursor :=
          ⟨[], state.cursor.line, state.cursor.column + state.cursor.rest.length⟩ } := by
  have noneFollows : ∀ c ∈ ([] : List Char).head?, isBreak c = true :=
    nofun
  have past := pastLine_filler filler noneFollows (List.append_nil _).symm
  rw [skipBlanks_succ, past]

/-- Spaces before a token are passed over. -/
theorem skipBlanks_spaces
    {state : Lexing}
    {blanks : List Char}
    (spaces : ∀ c ∈ blanks, c = ' ')
    {c : Char}
    (starts : StartsToken c)
    {rest : List Char}
    (shape : state.cursor.rest = blanks ++ c :: rest)
    (fuel : Nat) :
    state.skipBlanks (fuel + 1) =
      { state with
        cursor := ⟨c :: rest, state.cursor.line, state.cursor.column + blanks.length⟩ } := by
  have past := pastLine_spaces spaces
    (by intro d isFirst; cases isFirst; exact ⟨starts.noSpace, starts.noComment, starts.noMark⟩)
    shape
  rw [skipBlanks_succ, past]
  simp [starts.noBreak]

/-! ## Composition -/

/-- Whether a run goes from one state to another one with so many tokens read in between. -/
def Reads (count : Nat) (before after : Lexing) : Prop :=
  ∀ fuel, before.run (fuel + count) = after.run fuel

namespace Reads

variable {before between after : Lexing} {first second : Nat}

theorem trans
    (earlier : Reads first before between)
    (later : Reads second between after) :
    Reads (second + first) before after := by
  intro fuel
  rw [← Nat.add_assoc, earlier, later]

/-- Passing over what holds no token reads nothing. -/
theorem of_skipBlanks
    (same :
      before.skipBlanks (before.cursor.rest.length + 1) =
        after.skipBlanks (after.cursor.rest.length + 1)) :
    Reads 0 before after := by
  intro fuel
  cases fuel with
  | zero =>
      rfl
  | succ left =>
      simp only [run, same]

end Reads

theorem closeBlocks_cursor
    (state : Lexing)
    (column : Int)
    (outer : List Int) :
    (state.closeBlocks column outer).cursor = state.cursor := by
  induction outer generalizing state with
  | nil =>
      rfl
  | cons parent rest inductionHypothesis =>
      unfold closeBlocks
      split
      · rw [inductionHypothesis]
        rfl
      · rfl

@[simp] theorem unindent_cursor (state : Lexing) (column : Int) :
    (state.unindent column).cursor = state.cursor := by
  unfold unindent
  split
  · rfl
  · exact closeBlocks_cursor state column state.outer

theorem unindent_of_le
    {state : Lexing}
    {column : Nat}
    (inside : state.indentation ≤ Int.ofNat column) :
    state.unindent (Int.ofNat column) = state := by
  unfold unindent
  split
  · rfl
  · cases outerBlocks : state.outer with
    | nil =>
        rfl
    | cons parent rest =>
        rw [closeBlocks, if_neg (by omega)]

section Token

variable
  {state : Lexing}
  {c : Char}
  {rest : List Char}
  (shape : state.cursor.rest = c :: rest)
  (starts : StartsToken c)

include shape starts

/-- Where a token starts there are no blanks to pass over. -/
theorem skipBlanks_token (fuel : Nat) : state.skipBlanks (fuel + 1) = state := by
  have noSpaces : ∀ d ∈ ([] : List Char), d = ' ' :=
    nofun
  rw [skipBlanks_spaces noSpaces starts shape, List.length_nil, Nat.add_zero, ← shape]

/-- A run goes on with the token that starts where it stands. -/
theorem run_token
    (inside : state.indentation ≤ Int.ofNat state.cursor.column)
    (fuel : Nat) :
    state.run (fuel + 1) =
      match state.next c rest with
      | .error problem => .error problem
      | .ok later => later.run fuel := by
  rw [run, skipBlanks_token shape starts, unindent_of_le inside]
  split
  · rename_i nothing
    rw [shape] at nothing
    cases nothing
  · rename_i d others same
    rw [shape] at same
    cases same
    rfl

/-- One token is read where it starts. -/
theorem reads_token
    {after : Lexing}
    (inside : state.indentation ≤ Int.ofNat state.cursor.column)
    (reads : state.next c rest = .ok after) :
    Reads 1 state after := by
  intro fuel
  rw [run_token shape starts inside, reads]

end Token

end Lexing

end SchemaMigration.Yaml
