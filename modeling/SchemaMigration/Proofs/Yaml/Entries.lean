import SchemaMigration.Proofs.Yaml.Scanning

namespace SchemaMigration.Yaml

/-!
# Entries of a block mapping

The tokens of `word: value` lines at the left margin: the key, then a plain
scalar, digits between double quotes, or an empty sequence, and lines without
tokens in between and at the end.
-/

open Text (isSolid)

/-! ## Words -/

/-- Solid characters, of which there are some. -/
structure IsWord (word : List Char) : Prop where
  nonempty : word ≠ []
  solid : ∀ c ∈ word, isSolid c = true

/-- A word that is not too long to be a key. -/
structure IsKey (word : List Char) : Prop extends IsWord word where
  short : Text.octetCount word ≤ Lexing.longestKey

theorem isKey_iff {word : List Char} :
    IsKey word ↔
      (word ≠ [] ∧ word.all isSolid = true) ∧ Text.octetCount word ≤ Lexing.longestKey := by
  rw [List.all_eq_true]
  constructor
  · intro isKey
    exact ⟨⟨isKey.nonempty, isKey.solid⟩, isKey.short⟩
  · rintro ⟨⟨nonempty, solid⟩, short⟩
    exact ⟨⟨nonempty, solid⟩, short⟩

instance (word : List Char) : Decidable (IsKey word) :=
  decidable_of_iff _ isKey_iff.symm

/-- Whether a text starts with a solid character. -/
def StartsSolid (text : List Char) : Prop :=
  ∃ c rest, text = c :: rest ∧ isSolid c = true

theorem IsWord.startsSolid_append
    {word : List Char}
    (isWord : IsWord word)
    (tail : List Char) :
    StartsSolid (word ++ tail) := by
  obtain ⟨c, others, rfl⟩ := List.exists_cons_of_ne_nil isWord.nonempty
  exact ⟨c, others ++ tail, rfl, isWord.solid c List.mem_cons_self⟩

/-! ## Scalars -/

section Plain

variable
  {context : PlainContext}
  (outside : context.isFlow = false)
  {word : List Char}
  (solid : ∀ c ∈ word, isSolid c = true)
  (line column : Nat)

include outside solid

/-- Solid characters are read as they are. -/
theorem scanPlain_solid (tail : List Char) :
    scanPlain context .none line column (word ++ tail) =
      (scanPlain context .none line (column + word.length) tail).map
        (fun scanned => { scanned with text := word ++ scanned.text }) := by
  induction word generalizing column with
  | nil =>
      rw [List.nil_append, List.length_nil, Nat.add_zero]
      cases scanPlain context .none line column tail <;> rfl
  | cons c rest inductionHypothesis =>
      have here : isSolid c = true :=
        solid c List.mem_cons_self
      have noColon : c ≠ ':' :=
        ne_of_isSolid here (by decide)
      have later := inductionHypothesis
        (fun d member => solid d (List.mem_cons_of_mem _ member)) (column + 1)
      rw [List.cons_append, scanPlain]
      simp only [isSpace_of_isSolid here, isBreak_of_isSolid here,
        atDocumentMark_of_isSolid here, endsAfterSpacing, Spacing.isSome, isAmbiguousColon,
        endsPlain, outside, noColon, decide_false, Bool.false_and, Bool.or_self,
        Bool.false_eq_true, if_false, later]
      rw [List.length_cons, Nat.add_assoc, Nat.add_comm 1]
      cases scanPlain context .none line (column + (rest.length + 1)) tail <;>
        simp [Except.map, Spacing.folded]

/-- A plain scalar ends before a colon with a gap behind it. -/
theorem plainAt_colon
    {after : List Char}
    (gap : startsGap after = true) :
    plainAt context ⟨word ++ ':' :: after, line, column⟩ =
      .ok ⟨word, ⟨':' :: after, line, column + word.length⟩, false⟩ := by
  have ends (column : Nat) :
      scanPlain context .none line column (':' :: after) =
        .ok ⟨[], ⟨':' :: after, line, column⟩, false⟩ := by
    have noMark : atDocumentMark column (':' :: after) = false :=
      atDocumentMark_of_ne (by decide) (by decide) column _
    have noSpace : isSpace ':' = false := rfl
    have noBreak : isBreak ':' = false := by decide
    simp [scanPlain, noMark, noSpace, noBreak, gap, endsAfterSpacing, Spacing.isSome,
      isAmbiguousColon, outside, endsPlain, Spacing.isOverLines]
  rw [plainAt, scanPlain_solid outside solid, ends]
  simp [Except.map]

section Lines

variable
  {margin : Nat}
  (indented : (margin : Int) < context.indentation)
  {c : Char}
  (starts : isSolid c = true)
  (rest : List Char)
  (first : Option Char)
  (later : List Char)

omit solid

include indented starts

/-- Over lines, spaces are passed over up to a word that is not indented enough. -/
theorem scanPlain_spaces
    {count column : Nat}
    (fits : column + count = margin) :
    scanPlain context (.lines first later) line column
        (List.replicate count ' ' ++ c :: rest) =
      .ok ⟨[], ⟨c :: rest, line, margin⟩, true⟩ := by
  induction count generalizing column with
  | zero =>
      have isMargin : column = margin := fits
      subst isMargin
      simp [scanPlain, isSpace_of_isSolid starts, isBreak_of_isSolid starts,
        endsAfterSpacing, Spacing.isSome, outside, indented, Spacing.isOverLines]
  | succ count inductionHypothesis =>
      have space : isSpace ' ' = true := rfl
      have onward : column + 1 + count = margin := by
        omega
      rw [List.replicate_succ, List.cons_append, scanPlain]
      simp [space, Spacing.addBlank, inductionHypothesis onward]

/-- Over lines, line feeds and spaces are passed over up to such a word. -/
theorem scanPlain_lines (blanks : Nat) :
    scanPlain context (.lines first later) line 0
        (List.replicate blanks '\n' ++ (List.replicate margin ' ' ++ c :: rest)) =
      .ok ⟨[], ⟨c :: rest, line + blanks, margin⟩, true⟩ := by
  induction blanks generalizing line later with
  | zero =>
      exact scanPlain_spaces outside line indented starts rest first later (Nat.zero_add margin)
  | succ blanks inductionHypothesis =>
      have breaks : isBreak '\n' = true := rfl
      have noSpace : isSpace '\n' = false := rfl
      rw [List.replicate_succ, List.cons_append, scanPlain]
      simp [breaks, noSpace, Spacing.addBreak, inductionHypothesis (line + 1), Nat.add_assoc,
        Nat.add_comm 1]

end Lines

/-- A plain scalar ends with its line when the next word is not indented enough. -/
theorem plainAt_line
    {margin : Nat}
    (indented : (margin : Int) < context.indentation)
    {c : Char}
    (starts : isSolid c = true)
    (rest : List Char)
    (blanks : Nat) :
    plainAt context
        ⟨word ++ '\n' :: (List.replicate blanks '\n' ++ (List.replicate margin ' ' ++ c :: rest)),
          line, column⟩ =
      .ok ⟨word, ⟨c :: rest, line + 1 + blanks, margin⟩, true⟩ := by
  have breaks : isBreak '\n' = true := rfl
  have noSpace : isSpace '\n' = false := rfl
  rw [plainAt, scanPlain_solid outside solid, scanPlain]
  simp [breaks, noSpace, Spacing.addBreak, scanPlain_lines outside (line + 1) indented starts,
    Except.map]

end Plain

/-- Digits between double quotes are read as they are. -/
theorem scanDouble_digits
    {digits : List Char}
    (areDigits : ∀ c ∈ digits, Text.isDigit c = true)
    (line column : Nat)
    (rest : List Char) :
    scanDouble (.between .none) line column (digits ++ doubleQuote :: rest) =
      .ok ⟨digits, ⟨rest, line, column + digits.length + 1⟩⟩ := by
  induction digits generalizing column with
  | nil =>
      have quoteMark : atDocumentMark column (doubleQuote :: rest) = false :=
        atDocumentMark_of_ne (by decide) (by decide) column rest
      rw [List.nil_append, scanDouble]
      simp only [quoteMark]
      rfl
  | cons c others inductionHypothesis =>
      have digit := areDigits c List.mem_cons_self
      have isOther (d : Char) (other : Text.isDigit d = false) : c ≠ d := by
        rintro rfl
        rw [digit] at other
        cases other
      have noSpace : isSpace c = false := by
        simp [isSpace, isOther ' ' (by decide), isOther '\t' (by decide)]
      have noBreak : isBreak c = false :=
        isBreak_of_isDigit digit
      have later := inductionHypothesis
        (fun d member => areDigits d (List.mem_cons_of_mem _ member)) (column + 1)
      rw [List.cons_append, scanDouble]
      simp only [noSpace, noBreak,
        atDocumentMark_of_ne (isOther '-' (by decide)) (isOther '.' (by decide)),
        isOther doubleQuote (by decide), isOther '\\' (by decide), later, Bool.false_eq_true,
        if_false]
      simp [Except.map, Scanned.prepend, Spacing.folded, Nat.add_assoc, Nat.add_comm 1]

namespace Lexing

/-! ## Lines without tokens -/

/-- Lines as they are written, each ended by a line feed. -/
def ended (lines : List (List Char)) : List Char :=
  lines.flatMap (fun line => line ++ ['\n'])

theorem length_le_ended (lines : List (List Char)) :
    lines.length ≤ (ended lines).length := by
  induction lines with
  | nil =>
      exact Nat.le_refl _
  | cons line rest inductionHypothesis =>
      rw [ended, List.flatMap_cons, List.length_append, List.length_append, ← ended]
      simp only [List.length_cons, List.length_nil]
      omega

/-- Lines without tokens are passed over, and a key may start behind them. -/
theorem skipBlanks_ended
    {first : List Char}
    {more : List (List Char)}
    (fillers : ∀ line ∈ first :: more, IsFiller line)
    {state : Lexing}
    (outside : state.isFlow = false)
    {tail : List Char}
    (shape : state.cursor.rest = ended (first :: more) ++ tail)
    (fuel : Nat) :
    state.skipBlanks (fuel + (first :: more).length) =
      skipBlanks
        { state with
          cursor := ⟨tail, state.cursor.line + (first :: more).length, 0⟩
          keyAllowed := true } fuel := by
  induction more generalizing first state with
  | nil =>
      have lineShape : state.cursor.rest = first ++ '\n' :: tail := by
        rw [shape]
        simp [ended]
      rw [List.length_singleton, skipBlanks_filler (fillers first List.mem_cons_self) lineShape,
        outside, Bool.not_false, Bool.or_true]
  | cons second others inductionHypothesis =>
      have lineShape :
          state.cursor.rest = first ++ '\n' :: (ended (second :: others) ++ tail) := by
        rw [shape]
        simp [ended]
      rw [List.length_cons, ← Nat.add_assoc,
        skipBlanks_filler (fillers first List.mem_cons_self) lineShape]
      rw [inductionHypothesis (fun line member => fillers line (List.mem_cons_of_mem _ member))]
      · simp only [List.length_cons, Nat.add_assoc, Nat.add_comm 1]
      · exact outside
      · rfl

section Skipping

variable {state : Lexing}

/-- Lines without tokens, and spaces, before a token. -/
theorem reads_indented
    {first blanks : List Char}
    {more : List (List Char)}
    (fillers : ∀ line ∈ first :: more, IsFiller line)
    (spaces : ∀ c ∈ blanks, c = ' ')
    (outside : state.isFlow = false)
    {c : Char}
    (starts : StartsToken c)
    {rest : List Char}
    (shape : state.cursor.rest = ended (first :: more) ++ (blanks ++ c :: rest)) :
    Reads 0 state
      { state with
        cursor := ⟨c :: rest, state.cursor.line + (first :: more).length, 0 + blanks.length⟩
        keyAllowed := true } := by
  apply Reads.of_skipBlanks
  obtain ⟨extra, size⟩ :
      ∃ extra, state.cursor.rest.length + 1 = extra + 1 + (first :: more).length := by
    have least := length_le_ended (first :: more)
    rw [shape, List.length_append]
    exact ⟨(ended (first :: more)).length + (blanks ++ c :: rest).length - (first :: more).length,
      by omega⟩
  have noSpaces : ∀ d ∈ ([] : List Char), d = ' ' :=
    nofun
  rw [size, skipBlanks_ended fillers outside shape, skipBlanks_spaces spaces starts rfl,
    skipBlanks_spaces noSpaces starts rfl]
  rfl

/-- Lines without tokens before a token at the left margin. -/
theorem reads_ended
    {first : List Char}
    {more : List (List Char)}
    (fillers : ∀ line ∈ first :: more, IsFiller line)
    (outside : state.isFlow = false)
    {tail : List Char}
    (starts : StartsSolid tail)
    (shape : state.cursor.rest = ended (first :: more) ++ tail) :
    Reads 0 state
      { state with
        cursor := ⟨tail, state.cursor.line + (first :: more).length, 0⟩
        keyAllowed := true } := by
  obtain ⟨c, rest, rfl, solid⟩ := starts
  have noSpaces : ∀ d ∈ ([] : List Char), d = ' ' :=
    nofun
  exact reads_indented fillers noSpaces outside (startsToken_of_isSolid solid) shape

/-- Spaces before a token. -/
theorem reads_spaces
    {blanks : List Char}
    (spaces : ∀ c ∈ blanks, c = ' ')
    {c : Char}
    (starts : StartsToken c)
    {rest : List Char}
    (shape : state.cursor.rest = blanks ++ c :: rest) :
    Reads 0 state
      { state with
        cursor := ⟨c :: rest, state.cursor.line, state.cursor.column + blanks.length⟩ } := by
  apply Reads.of_skipBlanks
  have noSpaces : ∀ d ∈ ([] : List Char), d = ' ' :=
    nofun
  rw [skipBlanks_spaces spaces starts shape, skipBlanks_spaces noSpaces starts rfl]
  rfl

end Skipping

/-! ## Entries -/

/-- The start of a node that a solid character starts. -/
theorem next_of_isSolid
    (state : Lexing)
    {c : Char}
    (solid : isSolid c = true)
    (rest : List Char) :
    state.next c rest = state.node plain := by
  have isOther (d : Char) (other : isSolid d = false) : c ≠ d :=
    ne_of_isSolid solid other
  have noIndicator : "-?:,[]#&*!|>%@".toList.contains c = false := by
    rw [Bool.eq_false_iff]
    intro isIndicator
    have checked : "-?:,[]#&*!|>%@".toList.all (fun d => !isSolid d) = true := by
      decide
    have notSolid := List.all_eq_true.mp checked c (List.contains_iff_mem.mp isIndicator)
    rw [solid] at notSolid
    cases notSolid
  have starts : startsPlain state.isFlow c rest = true := by
    simp only [startsPlain, isGap, isSpace_of_isSolid solid, isBreak_of_isSolid solid,
      noIndicator, isFlowMark, isOther ',' (by decide), isOther '[' (by decide),
      isOther ']' (by decide), isOther '\x7b' (by decide), isOther '\x7d' (by decide),
      isOther singleQuote (by decide), isOther doubleQuote (by decide),
      isOther '\x60' (by decide), decide_false, Bool.or_self, Bool.not_false, Bool.true_or]
  simp only [next, isOther '%' (by decide), startsDocumentMark_of_ne (isOther '-' (by decide)),
    startsDocumentMark_of_ne (isOther '.' (by decide)), isOther '[' (by decide),
    isOther '\x7b' (by decide), isOther ']' (by decide), isOther '\x7d' (by decide),
    isOther ',' (by decide),
    isOther '-' (by decide), isOther '?' (by decide), isOther ':' (by decide),
    isOther '*' (by decide), isOther '&' (by decide), isOther '!' (by decide),
    isOther '|' (by decide), isOther '>' (by decide), isOther singleQuote (by decide),
    isOther doubleQuote (by decide), starts, decide_false, Bool.and_false, Bool.false_and,
    Bool.or_self, Bool.false_eq_true, if_false, if_true]

/-- Reading outside brackets, with no possible key remembered. -/
def inBlock
    (indentation : Int)
    (outer : List Int)
    (cursor : Cursor)
    (tokens : List Token)
    (keyAllowed : Bool) :
    Lexing :=
  ⟨cursor, tokens, indentation, outer, keyAllowed, [none]⟩

/-- Reading inside a block mapping at the left margin. -/
def inMapping (cursor : Cursor) (tokens : List Token) (keyAllowed : Bool) : Lexing :=
  ⟨cursor, tokens, 0, [-1], keyAllowed, [none]⟩

/-- A state at the left margin in which a key may start. -/
def atMargin (cursor : Cursor) (tokens : List Token) (indentation : Int) (outer : List Int) :
    Lexing :=
  ⟨cursor, tokens, indentation, outer, true, [none]⟩

section Keys

variable
  {word : List Char}
  (isKey : IsKey word)
  {after : List Char}
  (gap : startsGap after = true)
  (line column : Nat)
  (tokens : List Token)
  {indentation : Int}
  (outer : List Int)

include isKey gap

/-- The word of a key, which is remembered as a possible key. -/
theorem reads_word (inside : indentation ≤ Int.ofNat column) :
    Reads 1
      (inBlock indentation outer ⟨word ++ ':' :: after, line, column⟩ tokens true)
      ⟨⟨':' :: after, line, column + word.length⟩, .scalar (String.ofList word) true :: tokens,
        indentation, outer, false,
        [some ⟨tokens.length, word ++ ':' :: after, line, column,
          indentation = Int.ofNat column⟩]⟩ := by
  obtain ⟨c, others, rfl⟩ := List.exists_cons_of_ne_nil isKey.nonempty
  have here : isSolid c = true :=
    isKey.solid c List.mem_cons_self
  refine reads_token rfl (startsToken_of_isSolid here) inside ?_
  have scanned :
      plainAt ⟨false, indentation + 1⟩ ⟨c :: others ++ ':' :: after, line, column⟩ =
        .ok ⟨c :: others, ⟨':' :: after, line, column + (c :: others).length⟩, false⟩ :=
    plainAt_colon rfl isKey.solid line column gap
  rw [next_of_isSolid _ here]
  simp only [node, saveKey, inBlock, if_true, dropKey, possibleKey?, List.head?_cons,
    Option.join_some, Except.map, setKey, isFlow, List.length_singleton, Nat.lt_irrefl,
    decide_false, Bool.not_false, Bool.true_and, List.drop_succ_cons, List.drop_zero,
    plain, scanned, addScalar, add]
  rfl

/-- The colon behind the word, which makes it a key and opens a mapping if none is open there. -/
theorem reads_colon (inside : indentation ≤ Int.ofNat column) :
    Reads 1
      ⟨⟨':' :: after, line, column + word.length⟩, .scalar (String.ofList word) true :: tokens,
        indentation, outer, false,
        [some ⟨tokens.length, word ++ ':' :: after, line, column,
          indentation = Int.ofNat column⟩]⟩
      (inBlock (Int.ofNat column)
        (if indentation < Int.ofNat column then indentation :: outer else outer)
        ⟨after, line, column + word.length + 1⟩
        (.value :: .scalar (String.ofList word) true :: .key ::
          (if indentation < Int.ofNat column then .blockMappingStart :: tokens else tokens))
        false) := by
  have starts : StartsToken ':' := ⟨rfl, by decide, by decide, by decide⟩
  have further : indentation ≤ Int.ofNat (column + word.length) := by
    simp only [Int.ofNat_eq_natCast, Int.natCast_add] at inside ⊢
    omega
  refine reads_token rfl starts further ?_
  have taken : (word ++ ':' :: after).take word.length = word :=
    List.take_left
  have noDash := startsDocumentMark_of_ne (show ':' ≠ '-' by decide)
  have noDot := startsDocumentMark_of_ne (show ':' ≠ '.' by decide)
  have isValue (state : Lexing) : state.next ':' after = state.value := by
    simp [next, gap, noDash, noDot]
  rw [isValue]
  simp only [value, reachedKey?, possibleKey?, List.head?_cons, Option.join_some, isInReach,
    taken, isKey.short, decide_true, Bool.and_self, if_true, insert, indent, isFlow,
    List.length_cons, Nat.add_sub_cancel_left, List.take_succ_cons, List.take_zero,
    List.drop_succ_cons, List.drop_zero, List.reverse_singleton, List.cons_append,
    List.nil_append, decide_eq_true_eq]
  by_cases opens : indentation < Int.ofNat column
  · have two : tokens.length + 1 + 1 - tokens.length = 2 := by
      omega
    simp only [opens, if_true, two]
    rfl
  · have isColumn : indentation = Int.ofNat column :=
      Int.le_antisymm inside (Int.not_lt.mp opens)
    subst isColumn
    simp only [opens, if_false]
    rfl

/-- A key of the mapping that is read already. -/
theorem reads_further_key :
    Reads 2
      (inBlock (Int.ofNat column) outer ⟨word ++ ':' :: after, line, column⟩ tokens true)
      (inBlock (Int.ofNat column) outer ⟨after, line, column + word.length + 1⟩
        (.value :: .scalar (String.ofList word) true :: .key :: tokens) false) := by
  have inside := Int.le_refl (Int.ofNat column)
  have both := (reads_word isKey gap line column tokens outer inside).trans
    (reads_colon isKey gap line column tokens outer inside)
  simpa only [Int.lt_irrefl, if_false] using both

/-- A key with which a mapping starts, deeper than the block around it. -/
theorem reads_opening_key (deeper : indentation < Int.ofNat column) :
    Reads 2
      (inBlock indentation outer ⟨word ++ ':' :: after, line, column⟩ tokens true)
      (inBlock (Int.ofNat column) (indentation :: outer) ⟨after, line, column + word.length + 1⟩
        (.value :: .scalar (String.ofList word) true :: .key :: .blockMappingStart :: tokens)
        false) := by
  have inside := Int.le_of_lt deeper
  have both := (reads_word isKey gap line column tokens outer inside).trans
    (reads_colon isKey gap line column tokens outer inside)
  simpa only [deeper, if_true] using both

end Keys

section MarginKeys

variable
  {word : List Char}
  (isKey : IsKey word)
  (line : Nat)
  (tokens : List Token)
  (rest : List Char)

include isKey

/-- A key of a block mapping at the left margin. -/
theorem reads_key :
    Reads 2
      (inMapping ⟨word ++ ':' :: ' ' :: rest, line, 0⟩ tokens true)
      (inMapping ⟨' ' :: rest, line, word.length + 1⟩
        (.value :: .scalar (String.ofList word) true :: .key :: tokens) false) := by
  have key := reads_further_key isKey (show startsGap (' ' :: rest) = true from rfl) line 0
    tokens [-1]
  rwa [Nat.zero_add] at key

/-- The first key of a text, with which the mapping starts. -/
theorem reads_first_key :
    Reads 2
      (atMargin ⟨word ++ ':' :: ' ' :: rest, line, 0⟩ tokens (-1) [])
      (inMapping ⟨' ' :: rest, line, word.length + 1⟩
        (.value :: .scalar (String.ofList word) true :: .key :: .blockMappingStart :: tokens)
        false) := by
  have key := reads_opening_key isKey (show startsGap (' ' :: rest) = true from rfl) line 0
    tokens [] (show (-1 : Int) < Int.ofNat 0 by decide)
  rwa [Nat.zero_add] at key

end MarginKeys

section Values

variable
  (line column : Nat)
  (tokens : List Token)

/-- A plain scalar behind which the next word is indented no deeper than its block. -/
theorem reads_plain
    (indentation : Int)
    (outer : List Int)
    (inside : indentation ≤ Int.ofNat (column + 1))
    {word : List Char}
    (isWord : IsWord word)
    (margin blanks : Nat)
    (indented : (margin : Int) ≤ indentation)
    {tail : List Char}
    (starts : StartsSolid tail) :
    Reads 1
      (inBlock indentation outer
        ⟨' ' :: (word ++
            '\n' :: (List.replicate blanks '\n' ++ (List.replicate margin ' ' ++ tail))),
          line, column⟩ tokens false)
      (inBlock indentation outer ⟨tail, line + 1 + blanks, margin⟩
        (.scalar (String.ofList word) true :: tokens) true) := by
  obtain ⟨c, rest, rfl, startsSolid⟩ := starts
  obtain ⟨first, others, rfl⟩ := List.exists_cons_of_ne_nil isWord.nonempty
  have here : isSolid first = true :=
    isWord.solid first List.mem_cons_self
  have oneSpace : ∀ d ∈ [' '], d = ' ' :=
    fun _ => List.mem_singleton.mp
  refine (reads_spaces oneSpace (startsToken_of_isSolid here) rfl).trans
    (reads_token rfl (startsToken_of_isSolid here) inside ?_)
  have scanned := plainAt_line
    (show (⟨false, indentation + 1⟩ : PlainContext).isFlow = false from rfl) isWord.solid line
    (column + 1) (show (margin : Int) < indentation + 1 by omega) startsSolid rest blanks
  rw [List.cons_append] at scanned
  rw [next_of_isSolid _ here]
  simp only [node, saveKey, inBlock, Bool.false_eq_true, if_false, plain, isFlow,
    List.length_singleton, Nat.lt_irrefl, decide_false, List.append_eq, scanned, addScalar, add,
    Except.map]

/-- A plain scalar that ends with its line, before a word at the left margin. -/
theorem reads_plain_line
    {word : List Char}
    (isWord : IsWord word)
    {tail : List Char}
    (starts : StartsSolid tail) :
    Reads 1
      (inMapping ⟨' ' :: (word ++ '\n' :: tail), line, column⟩ tokens false)
      (inMapping ⟨tail, line + 1, 0⟩ (.scalar (String.ofList word) true :: tokens) true) :=
  reads_plain line column tokens 0 [-1] (Int.natCast_nonneg _) isWord 0 0 (Int.le_refl 0) starts

/-- A text between double quotes is read as the scan behind the first of them says. -/
theorem run_quoted
    {indentation : Int}
    {outer : List Int}
    (inside : indentation ≤ Int.ofNat (column + 1))
    (text : List Char)
    (fuel : Nat) :
    (inBlock indentation outer ⟨' ' :: doubleQuote :: text, line, column⟩ tokens false).run
        (fuel + 1) =
      match scanDouble (.between .none) line (column + 2) text with
      | .error problem => .error problem
      | .ok scanned =>
          (inBlock indentation outer scanned.finish
            (.scalar (String.ofList scanned.text) false :: tokens) false).run fuel := by
  have oneSpace : ∀ d ∈ [' '], d = ' ' :=
    fun _ => List.mem_singleton.mp
  have starts : StartsToken doubleQuote := ⟨rfl, by decide, by decide, by decide⟩
  have spaces :
      Reads 0
        (inBlock indentation outer ⟨' ' :: doubleQuote :: text, line, column⟩ tokens false)
        (inBlock indentation outer ⟨doubleQuote :: text, line, column + 1⟩ tokens false) :=
    reads_spaces oneSpace starts rfl
  have noDash := startsDocumentMark_of_ne (show doubleQuote ≠ '-' by decide)
  have noDot := startsDocumentMark_of_ne (show doubleQuote ≠ '.' by decide)
  have isQuoted (state : Lexing) (later : List Char) :
      state.next doubleQuote later = state.node quoted := by
    simp only [next, noDash, noDot]
    simp [doubleQuote]
  have noSingle : some doubleQuote ≠ some singleQuote := by
    decide
  have scans :
      quotedAt ⟨doubleQuote :: text, line, column + 1⟩ =
        scanDouble (.between .none) line (column + 2) text := by
    rw [quotedAt, List.head?_cons, if_neg noSingle]
    rfl
  rw [← Nat.add_zero (fuel + 1), spaces, run_token rfl starts inside, isQuoted]
  simp only [node, saveKey, inBlock, Bool.false_eq_true, if_false, quoted, scans, addScalar, add]
  cases scanDouble (.between .none) line (column + 2) text <;> rfl

/-- A text between double quotes whose end was found. -/
theorem reads_quoted
    {indentation : Int}
    (inside : indentation ≤ Int.ofNat (column + 1))
    (outer : List Int)
    {text : List Char}
    {scanned : Scanned}
    (scan : scanDouble (.between .none) line (column + 2) text = .ok scanned) :
    Reads 1
      (inBlock indentation outer ⟨' ' :: doubleQuote :: text, line, column⟩ tokens false)
      (inBlock indentation outer scanned.finish
        (.scalar (String.ofList scanned.text) false :: tokens) false) := by
  intro fuel
  rw [run_quoted line column tokens inside, scan]

/-- Digits between double quotes. -/
theorem reads_digits
    {digits : List Char}
    (areDigits : ∀ c ∈ digits, Text.isDigit c = true)
    (rest : List Char) :
    Reads 1
      (inMapping ⟨' ' :: doubleQuote :: (digits ++ doubleQuote :: rest), line, column⟩ tokens
        false)
      (inMapping ⟨rest, line, column + 2 + digits.length + 1⟩
        (.scalar (String.ofList digits) false :: tokens) false) :=
  reads_quoted line column tokens (Int.natCast_nonneg _) [-1]
    (scanDouble_digits areDigits line (column + 2) rest)

/-- An empty sequence between brackets. -/
theorem reads_empty_sequence (rest : List Char) :
    Reads 2
      (inMapping ⟨' ' :: '[' :: ']' :: rest, line, column⟩ tokens false)
      (inMapping ⟨rest, line, column + 3⟩
        (.flowSequenceEnd :: .flowSequenceStart :: tokens) false) := by
  have oneSpace : ∀ d ∈ [' '], d = ' ' :=
    fun _ => List.mem_singleton.mp
  have opens : StartsToken '[' := ⟨rfl, by decide, by decide, by decide⟩
  have closes : StartsToken ']' := ⟨rfl, by decide, by decide, by decide⟩
  have noDash
      {c : Char}
      (isOther : c ≠ '-') :=
    startsDocumentMark_of_ne isOther
  have noDot
      {c : Char}
      (isOther : c ≠ '.') :=
    startsDocumentMark_of_ne isOther
  have spaces :
      Reads 0
        (inMapping ⟨' ' :: '[' :: ']' :: rest, line, column⟩ tokens false)
        (inMapping ⟨'[' :: ']' :: rest, line, column + 1⟩ tokens false) :=
    reads_spaces oneSpace opens rfl
  have opening :
      Reads 1
        (inMapping ⟨'[' :: ']' :: rest, line, column + 1⟩ tokens false)
        ⟨⟨']' :: rest, line, column + 2⟩, .flowSequenceStart :: tokens, 0, [-1], true,
          [none, none]⟩ := by
    refine reads_token rfl opens (Int.natCast_nonneg _) ?_
    have isOpening (state : Lexing) (later : List Char) :
        state.next '[' later = state.openFlow .flowSequenceStart := by
      simp [next, noDash (show '[' ≠ '-' by decide), noDot (show '[' ≠ '.' by decide)]
    rw [isOpening]
    rfl
  have closing :
      Reads 1
        ⟨⟨']' :: rest, line, column + 2⟩, .flowSequenceStart :: tokens, 0, [-1], true,
          [none, none]⟩
        (inMapping ⟨rest, line, column + 3⟩
          (.flowSequenceEnd :: .flowSequenceStart :: tokens) false) := by
    refine reads_token rfl closes (Int.natCast_nonneg _) ?_
    have isClosing (state : Lexing) (later : List Char) :
        state.next ']' later = state.closeFlow .flowSequenceEnd := by
      simp [next, noDash (show ']' ≠ '-' by decide), noDot (show ']' ≠ '.' by decide)]
    rw [isClosing]
    rfl
  exact (spaces.trans opening).trans closing

end Values

/-- An entry with a value, and what follows it. -/
def entry (word value : List Char) : List Char :=
  word ++ ':' :: ' ' :: value

/-- An entry with an empty sequence, and what follows it. -/
def emptyEntry (word tail : List Char) : List Char :=
  entry word ('[' :: ']' :: tail)

/-- An entry with an empty sequence behind lines without tokens. -/
theorem reads_emptyEntry
    {word : List Char}
    (isKey : IsKey word)
    {first : List Char}
    {more : List (List Char)}
    (fillers : ∀ line ∈ first :: more, IsFiller line)
    (line column : Nat)
    (known : List Token)
    (tail : List Char) :
    Reads 4
      (inMapping ⟨ended (first :: more) ++ emptyEntry word tail, line, column⟩ known false)
      (inMapping ⟨tail, line + (first :: more).length, word.length + 4⟩
        (.flowSequenceEnd :: .flowSequenceStart :: .value ::
          .scalar (String.ofList word) true :: .key :: known) false) := by
  have skips :
      Reads 0
        (inMapping ⟨ended (first :: more) ++ emptyEntry word tail, line, column⟩ known false)
        (inMapping ⟨emptyEntry word tail, line + (first :: more).length, 0⟩ known true) :=
    reads_ended fillers rfl (isKey.startsSolid_append _) rfl
  have key := reads_key isKey (line + (first :: more).length) known ('[' :: ']' :: tail)
  have items := reads_empty_sequence (line + (first :: more).length) (word.length + 1)
    (.value :: .scalar (String.ofList word) true :: .key :: known) tail
  exact (skips.trans key).trans items

/-! ## The end of blocks -/

section Ends

variable
  {indentation parent : Int}
  {outer : List Int}
  (line : Nat)
  (tokens : List Token)

/-- A word that is not indented enough ends the block that is read. -/
theorem reads_outdent
    {column : Nat}
    (outside : Int.ofNat column < indentation)
    {c : Char}
    (starts : StartsToken c)
    (rest : List Char)
    (keyAllowed : Bool) :
    Reads 0
      (inBlock indentation (parent :: outer) ⟨c :: rest, line, column⟩ tokens keyAllowed)
      (inBlock parent outer ⟨c :: rest, line, column⟩ (.blockEnd :: tokens) keyAllowed) := by
  intro fuel
  cases fuel with
  | zero =>
      rfl
  | succ left =>
      have closes :
          (inBlock indentation (parent :: outer) ⟨c :: rest, line, column⟩ tokens
              keyAllowed).unindent (Int.ofNat column) =
            (inBlock parent outer ⟨c :: rest, line, column⟩ (.blockEnd :: tokens)
              keyAllowed).unindent (Int.ofNat column) := by
        simp only [unindent, isFlow, inBlock, List.length_singleton, Nat.lt_irrefl, decide_false,
          Bool.false_eq_true, if_false, closeBlocks, if_pos outside]
        rfl
      rw [Nat.add_zero, run, run, skipBlanks_token rfl starts, skipBlanks_token rfl starts]
      dsimp only [inBlock] at closes ⊢
      rw [closes]

end Ends

/-- Lines without tokens at the end of a text end all blocks. -/
theorem run_ended
    {first last : List Char}
    {more : List (List Char)}
    (fillers : ∀ line ∈ first :: more, IsFiller line)
    (lastFiller : IsFiller last)
    (indentation : Int)
    (outer : List Int)
    (line column : Nat)
    (tokens : List Token)
    (keyAllowed : Bool)
    (fuel : Nat) :
    (inBlock indentation outer ⟨ended (first :: more) ++ last, line, column⟩ tokens
        keyAllowed).run (fuel + 1) =
      ((inBlock indentation outer ⟨[], line + (first :: more).length, last.length⟩ tokens
        true).unindent (Int.ofNat last.length)).finish := by
  obtain ⟨extra, size⟩ :
      ∃ extra,
        (ended (first :: more) ++ last).length + 1 = extra + 1 + (first :: more).length := by
    have least := length_le_ended (first :: more)
    rw [List.length_append]
    exact ⟨(ended (first :: more)).length + last.length - (first :: more).length, by omega⟩
  have skipped :
      (inBlock indentation outer ⟨ended (first :: more) ++ last, line, column⟩ tokens
          keyAllowed).skipBlanks ((ended (first :: more) ++ last).length + 1) =
        inBlock indentation outer ⟨[], line + (first :: more).length, last.length⟩ tokens true := by
    rw [size, skipBlanks_ended fillers rfl rfl (extra + 1), skipBlanks_last lastFiller extra]
    simp [inBlock]
  have cursorRest :
      (inBlock indentation outer ⟨ended (first :: more) ++ last, line, column⟩ tokens
          keyAllowed).cursor.rest =
        ended (first :: more) ++ last :=
    rfl
  rw [run, cursorRest, skipped]
  simp only [unindent_cursor, inBlock]

/-- Behind the last entry, lines without tokens end the mapping with the text. -/
theorem run_end
    {first last : List Char}
    {more : List (List Char)}
    (fillers : ∀ line ∈ first :: more, IsFiller line)
    (lastFiller : IsFiller last)
    (line column : Nat)
    (tokens : List Token)
    (keyAllowed : Bool)
    (fuel : Nat) :
    (inMapping ⟨ended (first :: more) ++ last, line, column⟩ tokens keyAllowed).run (fuel + 1) =
      .ok (Token.blockEnd :: tokens).reverse := by
  have ends := run_ended fillers lastFiller 0 [-1] line column tokens keyAllowed fuel
  rw [unindent_of_le (Int.natCast_nonneg _)] at ends
  exact ends

end Lexing

end SchemaMigration.Yaml
