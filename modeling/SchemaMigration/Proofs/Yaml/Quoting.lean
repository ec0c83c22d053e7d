import SchemaMigration.Proofs.Outcomes
import SchemaMigration.Proofs.Yaml.Folding

namespace SchemaMigration.Yaml

/-!
# Texts between double quotes

What is read when a text stands between double quotes with a backslash before
each of its own double quotes, and is otherwise left as it is.  Such a text is
read back as it was exactly when it is verbatim: it has no backslash, no
character that a document refuses or changes, no blanks or line feeds that
folding its lines would change, and no mark between documents.
-/

/-- A text with a backslash before each double quote. -/
def escaped (text : List Char) : List Char :=
  text.flatMap (fun c => if c = doubleQuote then ['\\', doubleQuote] else [c])

@[simp] theorem escaped_nil : escaped [] = [] :=
  rfl

@[simp] theorem escaped_quote (rest : List Char) :
    escaped (doubleQuote :: rest) = '\\' :: doubleQuote :: escaped rest :=
  rfl

theorem escaped_cons
    {c : Char}
    (isOther : c ≠ doubleQuote)
    (rest : List Char) :
    escaped (c :: rest) = c :: escaped rest := by
  simp [escaped, isOther]

theorem mem_escaped_of_mem
    {c : Char}
    {text : List Char}
    (member : c ∈ text) :
    c ∈ escaped text := by
  refine List.mem_flatMap.mpr ⟨c, member, ?_⟩
  split <;> simp_all

theorem mem_or_eq_of_mem_escaped
    {c : Char}
    {text : List Char}
    (member : c ∈ escaped text) :
    c ∈ text ∨ c = '\\' := by
  obtain ⟨d, inText, within⟩ := List.mem_flatMap.mp member
  split at within
  · rename_i isQuote
    subst isQuote
    rcases List.mem_cons.mp within with isBackslash | isQuote
    · exact .inr isBackslash
    · rw [List.mem_singleton.mp isQuote]
      exact .inl inText
  · rw [List.mem_singleton.mp within]
    exact .inl inText

/-! ## Marks between documents -/

/-- Whether a mark between documents stands where a quoted text goes on. -/
def startsMark (text : List Char) : Bool :=
  startsDocumentMark '-' (text ++ [doubleQuote]) || startsDocumentMark '.' (text ++ [doubleQuote])

/-- Whether a line of a quoted text starts with a mark between documents. -/
def marksLine (atMargin : Bool) : List Char → Bool
  | [] => false
  | c :: rest => (atMargin && startsMark (c :: rest)) || marksLine (isBreak c) rest

theorem marksLine_eq_false_iff
    {atMargin : Bool}
    {text : List Char} :
    marksLine atMargin text = false ↔
      (atMargin = true → startsMark text = false) ∧
        ∀ c rest, c :: rest <:+ text → isBreak c = true → startsMark rest = false := by
  induction text generalizing atMargin with
  | nil =>
      have noMark : startsMark [] = false := rfl
      simp [marksLine, noMark]
  | cons d others inductionHypothesis =>
      simp only [marksLine, Bool.or_eq_false_iff, Bool.and_eq_false_imp, inductionHypothesis]
      refine and_congr_right (fun _ => ⟨?_, ?_⟩)
      · rintro ⟨here, later⟩ c rest ends breaks
        rcases List.suffix_cons_iff.mp ends with same | within
        · cases same
          exact here breaks
        · exact later c rest within breaks
      · intro unmarked
        exact ⟨unmarked d others (List.suffix_refl _),
          fun c rest within => unmarked c rest (within.trans (List.suffix_cons d others))⟩

section Escaped

variable
  {mark : Char}
  (noQuote : mark ≠ doubleQuote)
  (noBackslash : mark ≠ '\\')
  (text more : List Char)

theorem startsGap_escaped :
    startsGap (escaped text ++ doubleQuote :: more) = startsGap (text ++ [doubleQuote]) := by
  cases text with
  | nil =>
      rfl
  | cons c rest =>
      by_cases isQuote : c = doubleQuote
      · subst isQuote
        have noGap : isGap '\\' = isGap doubleQuote := by
          decide
        exact noGap
      · rw [escaped_cons isQuote]
        rfl

include noQuote noBackslash

/-- A mark comes first both with and without the backslashes, or neither. -/
theorem escaped_starts :
    (∃ rest, text = mark :: rest ∧ escaped text = mark :: escaped rest) ∨
      ∃ c d others further,
        c ≠ mark ∧ d ≠ mark ∧
          escaped text ++ doubleQuote :: more = c :: others ∧
            text ++ [doubleQuote] = d :: further := by
  cases text with
  | nil =>
      exact .inr ⟨doubleQuote, doubleQuote, more, [], noQuote.symm, noQuote.symm, rfl, rfl⟩
  | cons c rest =>
      by_cases isQuote : c = doubleQuote
      · subst isQuote
        exact .inr ⟨'\\', doubleQuote, _, _, noBackslash.symm, noQuote.symm, rfl, rfl⟩
      · rw [escaped_cons isQuote]
        by_cases isMark : c = mark
        · subst isMark
          exact .inl ⟨rest, rfl, rfl⟩
        · exact .inr ⟨c, c, _, _, isMark, isMark, rfl, rfl⟩

/-- The backslashes do not matter for a mark between documents. -/
theorem startsDocumentMark_escaped :
    startsDocumentMark mark (escaped text ++ doubleQuote :: more) =
      startsDocumentMark mark (text ++ [doubleQuote]) := by
  have starts (text : List Char) := escaped_starts noQuote noBackslash text more
  rcases starts text with
    ⟨second, rfl, first⟩ | ⟨c, d, others, further, noMark, noMark', left, right⟩
  · rcases starts second with
      ⟨third, rfl, next⟩ | ⟨c, d, others, further, noMark, noMark', left, right⟩
    · rcases starts third with
        ⟨fourth, rfl, last⟩ | ⟨c, d, others, further, noMark, noMark', left, right⟩
      · rw [first, next, last]
        simp [startsDocumentMark, startsGap_escaped]
      · rw [first, next]
        simp [startsDocumentMark, left, right, noMark, noMark']
    · rw [first]
      cases others <;> cases further <;>
        simp [startsDocumentMark, left, right, noMark, noMark']
  · rw [left, right, startsDocumentMark_of_ne noMark, startsDocumentMark_of_ne noMark']

end Escaped

theorem atDocumentMark_escaped
    (column : Nat)
    (text more : List Char) :
    atDocumentMark column (escaped text ++ doubleQuote :: more) =
      (decide (column = 0) && startsMark text) := by
  rw [atDocumentMark, startsMark, startsDocumentMark_escaped (by decide) (by decide),
    startsDocumentMark_escaped (by decide) (by decide)]

/-! ## Steps of the reading -/

section Steps

variable
  (spacing : Spacing)
  (line column : Nat)
  (rest : List Char)

/-- The quote that ends the text. -/
theorem scanDouble_quote :
    scanDouble (.between spacing) line column (doubleQuote :: rest) =
      .ok ⟨spacing.folded, ⟨rest, line, column + 1⟩⟩ := by
  have noMark : atDocumentMark column (doubleQuote :: rest) = false :=
    atDocumentMark_of_ne (by decide) (by decide) column rest
  rw [scanDouble]
  simp only [noMark]
  rfl

/-- A backslash, which starts an escape sequence. -/
theorem scanDouble_backslash :
    scanDouble (.between spacing) line column ('\\' :: rest) =
      (scanDouble .escape line (column + 1) rest).map (Scanned.prepend spacing.folded) := by
  have noMark : atDocumentMark column ('\\' :: rest) = false :=
    atDocumentMark_of_ne (by decide) (by decide) column rest
  rw [scanDouble]
  simp only [noMark]
  rfl

/-- A double quote behind a backslash, which stands for itself. -/
theorem scanDouble_escape_quote :
    scanDouble .escape line column (doubleQuote :: rest) =
      (scanDouble (.between .none) line (column + 1) rest).map
        (Scanned.prepend [doubleQuote]) := by
  rfl

/-- A character of a word. -/
theorem scanDouble_word
    {c : Char}
    (noSpace : isSpace c = false)
    (noBreak : isBreak c = false)
    (noQuote : c ≠ doubleQuote)
    (noBackslash : c ≠ '\\') :
    scanDouble (.between spacing) line column (c :: rest) =
      if atDocumentMark column (c :: rest) then .error .unterminatedQuote
      else
        (scanDouble (.between .none) line (column + 1) rest).map
          (Scanned.prepend (spacing.folded ++ [c])) := by
  rw [scanDouble]
  simp only [noSpace, noBreak, noQuote, noBackslash, Bool.false_eq_true, if_false]

end Steps

/-! ## Texts without backslashes -/

/--
Whether an escaped text is read up to the quote behind it, with its lines
folded, unless a mark between documents stands in front of one of them.
-/
def ReadsFolded
    (spacing : Spacing)
    (line column : Nat)
    (text more : List Char) :
    Prop :=
  ∃ endLine endColumn,
    scanDouble (.between spacing) line column (escaped text ++ doubleQuote :: more) =
      if marksLine (decide (column = 0)) text then .error .unterminatedQuote
      else .ok ⟨foldLines spacing text, ⟨more, endLine, endColumn⟩⟩

theorem startsMark_of_ne
    {c : Char}
    (noDash : c ≠ '-')
    (noDot : c ≠ '.')
    (rest : List Char) :
    startsMark (c :: rest) = false := by
  simp [startsMark, startsDocumentMark_of_ne noDash, startsDocumentMark_of_ne noDot]

namespace ReadsFolded

variable
  {spacing : Spacing}
  {line column : Nat}
  {rest more : List Char}

/-- A double quote in the text comes with a backslash of its own. -/
theorem quote
    (later : ReadsFolded .none line (column + 2) rest more) :
    ReadsFolded spacing line column (doubleQuote :: rest) more := by
  obtain ⟨endLine, endColumn, read⟩ := later
  refine ⟨endLine, endColumn, ?_⟩
  have inside : decide (column + 2 = 0) = false :=
    decide_eq_false (Nat.succ_ne_zero _)
  have noMark : startsMark (doubleQuote :: rest) = false :=
    startsMark_of_ne (by decide) (by decide) rest
  have noBreak : isBreak doubleQuote = false := by
    decide
  have folds :
      foldLines spacing (doubleQuote :: rest) =
        spacing.folded ++ doubleQuote :: foldLines .none rest :=
    rfl
  rw [escaped_quote, List.cons_append, List.cons_append, scanDouble_backslash,
    scanDouble_escape_quote, read, inside, folds, marksLine, noMark, noBreak, Bool.and_false,
    Bool.false_or]
  split <;> simp [Except.map, Scanned.prepend]

/-- A blank in the text is kept until it is known what follows. -/
theorem blank
    {c : Char}
    (space : isSpace c = true)
    (later : ReadsFolded (spacing.addBlank c) line (column + 1) rest more) :
    ReadsFolded spacing line column (c :: rest) more := by
  obtain ⟨endLine, endColumn, read⟩ := later
  refine ⟨endLine, endColumn, ?_⟩
  have isOther {d : Char} (noSpace : isSpace d = false) : c ≠ d := by
    rintro rfl
    rw [space] at noSpace
    cases noSpace
  have noMark : startsMark (c :: rest) = false :=
    startsMark_of_ne (isOther (by decide)) (isOther (by decide)) rest
  rw [escaped_cons (isOther (by decide)), List.cons_append, scanDouble, foldLines, marksLine,
    noMark, isBreak_of_isSpace space]
  simpa [space] using read

/-- A line break in the text starts a line, which may start with a mark. -/
theorem lineBreak
    {c : Char}
    (noSpace : isSpace c = false)
    (breaks : isBreak c = true)
    (later : ReadsFolded (spacing.addBreak c) (line + 1) 0 rest more) :
    ReadsFolded spacing line column (c :: rest) more := by
  obtain ⟨endLine, endColumn, read⟩ := later
  refine ⟨endLine, endColumn, ?_⟩
  have isOther {d : Char} (noBreak : isBreak d = false) : c ≠ d := by
    rintro rfl
    rw [breaks] at noBreak
    cases noBreak
  have noMark : startsMark (c :: rest) = false :=
    startsMark_of_ne (isOther (by decide)) (isOther (by decide)) rest
  rw [escaped_cons (isOther (by decide)), List.cons_append, scanDouble, foldLines, marksLine,
    noMark]
  simpa [noSpace, breaks] using read

/-- Any other character of the text follows what was kept before it. -/
theorem word
    {c : Char}
    (noSpace : isSpace c = false)
    (noBreak : isBreak c = false)
    (noQuote : c ≠ doubleQuote)
    (noBackslash : c ≠ '\\')
    (later : ReadsFolded .none line (column + 1) rest more) :
    ReadsFolded spacing line column (c :: rest) more := by
  obtain ⟨endLine, endColumn, read⟩ := later
  refine ⟨endLine, endColumn, ?_⟩
  have mark := atDocumentMark_escaped column (c :: rest) more
  have inside : decide (column + 1 = 0) = false :=
    decide_eq_false (Nat.succ_ne_zero _)
  have folds :
      foldLines spacing (c :: rest) = spacing.folded ++ c :: foldLines .none rest := by
    simp [foldLines, noSpace, noBreak]
  rw [escaped_cons noQuote, List.cons_append] at mark ⊢
  rw [scanDouble_word spacing line column _ noSpace noBreak noQuote noBackslash, mark, read,
    inside, folds, marksLine, noBreak]
  cases decide (column = 0) && startsMark (c :: rest) <;>
    cases marksLine false rest <;> simp [Except.map, Scanned.prepend]

end ReadsFolded

/-- A text without backslashes is read with its lines folded. -/
theorem scanDouble_escaped
    {text : List Char}
    (noBackslash : '\\' ∉ text)
    (spacing : Spacing)
    (line column : Nat)
    (more : List Char) :
    ReadsFolded spacing line column text more := by
  induction text generalizing spacing line column with
  | nil =>
      exact ⟨line, column + 1, scanDouble_quote spacing line column more⟩
  | cons c rest inductionHypothesis =>
      rw [List.mem_cons, not_or] at noBackslash
      obtain ⟨isOther, noneLater⟩ := noBackslash
      by_cases isQuote : c = doubleQuote
      · subst isQuote
        exact .quote (inductionHypothesis noneLater _ _ _)
      by_cases space : isSpace c = true
      · exact .blank space (inductionHypothesis noneLater _ _ _)
      rw [Bool.not_eq_true] at space
      by_cases breaks : isBreak c = true
      · exact .lineBreak space breaks (inductionHypothesis noneLater _ _ _)
      rw [Bool.not_eq_true] at breaks
      exact .word space breaks isQuote (Ne.symm isOther) (inductionHypothesis noneLater _ _ _)

/-- Where there are no backslashes, none is read. -/
theorem scanDouble_noBackslash
    {text : List Char}
    (noBackslash : '\\' ∉ text)
    {spacing : Spacing}
    (noneSeen : '\\' ∉ spacing.folded)
    {line column : Nat}
    {scanned : Scanned}
    (read : scanDouble (.between spacing) line column text = .ok scanned) :
    '\\' ∉ scanned.text := by
  induction text generalizing spacing line column scanned with
  | nil =>
      cases read
  | cons c rest inductionHypothesis =>
      rw [List.mem_cons, not_or] at noBackslash
      obtain ⟨isOther, noneLater⟩ := noBackslash
      simp only [scanDouble] at read
      split at read
      · refine inductionHypothesis noneLater (fun member => ?_) read
        rcases Spacing.mem_folded_addBlank member with seen | isHere
        · exact noneSeen seen
        · exact isOther isHere
      split at read
      · refine inductionHypothesis noneLater (fun member => ?_) read
        rcases Spacing.mem_folded_addBreak member with seen | isHere | isSpace
        · exact noneSeen seen
        · exact isOther isHere
        · exact absurd isSpace (by decide)
      split at read
      · cases read
      split at read
      · cases read
        exact noneSeen
      split at read
      · rename_i isBackslash
        exact absurd isBackslash.symm isOther
      · rw [Outcome.map_eq_ok] at read
        obtain ⟨further, readOn, rfl⟩ := read
        have later := inductionHypothesis noneLater List.not_mem_nil readOn
        simp [Scanned.prepend, noneSeen, isOther, later]

/-! ## Texts with backslashes -/

namespace Reading

/-- What is still to be given for what a reading passed over: two for each character. -/
def owed : Reading → Nat
  | .between spacing => 2 * spacing.folded.length
  | _ => 1

/-- A text behind the backslash that the reading stands behind, if it does. -/
def behind (reading : Reading) (text : List Char) : List Char :=
  match reading with
  | .escape => '\\' :: text
  | _ => text

end Reading

/--
What becomes of an escaped text that is read: each backslash takes half a
character away, or the reading goes on behind the text.
-/
inductive Dwindles (reading : Reading) (text read : List Char) : Prop
  | within :
      2 * read.length + text.count '\\' ≤ reading.owed + 2 * text.length →
      Dwindles reading text read
  | beyond {c : Char} :
      (reading.behind text).getLast? = some '\\' →
      read.getLast? = some c →
      c ≠ '\\' →
      Dwindles reading text read

theorem getLast?_append_of_some
    (first : List Char)
    {rest : List Char}
    {c : Char}
    (last : rest.getLast? = some c) :
    (first ++ rest).getLast? = some c := by
  rw [List.getLast?_append, last]
  rfl

/-- A step over one character, for which something is given. -/
theorem Dwindles.step
    {reading next : Reading}
    {c : Char}
    {rest read : List Char}
    (later : Dwindles next rest read)
    (given : List Char)
    (enough :
      2 * given.length + next.owed + (if c = '\\' then 1 else 0) ≤ reading.owed + 2)
    (follows : next.behind rest <:+ c :: rest) :
    Dwindles reading (c :: rest) (given ++ read) := by
  cases later with
  | within short =>
      refine .within ?_
      rw [List.length_append, List.length_cons, List.count_cons]
      simp only [beq_iff_eq]
      omega
  | beyond ends last isOther =>
      have tail : (c :: rest).getLast? = some '\\' := by
        obtain ⟨before, same⟩ := follows
        rw [← same]
        exact getLast?_append_of_some before ends
      refine .beyond ?_ (getLast?_append_of_some _ last) isOther
      cases reading with
      | between _ => exact tail
      | escape => exact getLast?_append_of_some ['\\'] tail
      | code _ _ => exact tail

section Steps

variable
  {more rest : List Char}
  (later : ∀ reading line column scanned,
    scanDouble reading line column (escaped rest ++ doubleQuote :: more) = .ok scanned →
      Dwindles reading rest scanned.text)
  {c : Char}
  {line column : Nat}
  {scanned : Scanned}

include later

theorem dwindles_between
    {spacing : Spacing}
    (read :
      scanDouble (.between spacing) line column (escaped (c :: rest) ++ doubleQuote :: more) =
        .ok scanned) :
    Dwindles (.between spacing) (c :: rest) scanned.text := by
  have isTail : rest <:+ c :: rest :=
    List.suffix_cons c rest
  have enough (noBackslash : c ≠ '\\') :
      2 * (spacing.folded ++ [c]).length + (Reading.between .none).owed +
          (if c = '\\' then 1 else 0) ≤
        (Reading.between spacing).owed + 2 := by
    simp [Reading.owed, Spacing.folded, Nat.mul_add, noBackslash]
  by_cases isQuote : c = doubleQuote
  · rw [isQuote, escaped_quote, List.cons_append, List.cons_append, scanDouble_backslash,
      scanDouble_escape_quote, Outcome.map_eq_ok] at read
    obtain ⟨between, readOn, rfl⟩ := read
    rw [Outcome.map_eq_ok] at readOn
    obtain ⟨further, readOn, rfl⟩ := readOn
    have noBackslash : c ≠ '\\' := by
      rw [isQuote]
      decide
    have dwindles :
        Dwindles (.between spacing) (c :: rest) (spacing.folded ++ [c] ++ further.text) :=
      (later _ _ _ _ readOn).step _ (enough noBackslash) isTail
    simpa [Scanned.prepend, isQuote] using dwindles
  rw [escaped_cons isQuote, List.cons_append] at read
  by_cases space : isSpace c = true
  · have noBackslash : c ≠ '\\' := by
      rintro rfl
      cases space
    simp only [scanDouble, space, if_true] at read
    refine (later _ _ _ _ read).step [] ?_ isTail
    have raised := spacing.length_folded_addBlank c
    simp only [Reading.owed, if_neg noBackslash, List.length_nil]
    omega
  by_cases breaks : isBreak c = true
  · have noBackslash : c ≠ '\\' := by
      rintro rfl
      exact absurd breaks (by decide)
    simp only [scanDouble, space, breaks, Bool.false_eq_true, if_false, if_true] at read
    refine (later _ _ _ _ read).step [] ?_ isTail
    have raised := spacing.length_folded_addBreak c
    simp only [Reading.owed, if_neg noBackslash, List.length_nil]
    omega
  rw [Bool.not_eq_true] at space breaks
  by_cases noBackslash : c = '\\'
  · subst noBackslash
    rw [scanDouble_backslash, Outcome.map_eq_ok] at read
    obtain ⟨further, readOn, rfl⟩ := read
    refine (later _ _ _ _ readOn).step _ ?_ (List.suffix_refl _)
    simp [Reading.owed]
  · rw [scanDouble_word spacing line column _ space breaks isQuote noBackslash] at read
    split at read
    · cases read
    · rw [Outcome.map_eq_ok] at read
      obtain ⟨further, readOn, rfl⟩ := read
      exact (later _ _ _ _ readOn).step _ (enough noBackslash) isTail

theorem dwindles_escape
    (read :
      scanDouble .escape line column (escaped (c :: rest) ++ doubleQuote :: more) = .ok scanned) :
    Dwindles .escape (c :: rest) scanned.text := by
  have isTail : rest <:+ c :: rest :=
    List.suffix_cons c rest
  by_cases isQuote : c = doubleQuote
  · -- The backslash before the quote is escaped instead, and the quote ends the text.
    subst isQuote
    have readOn :
        (scanDouble (.between .none) line (column + 1)
          (doubleQuote :: (escaped rest ++ doubleQuote :: more))).map (Scanned.prepend ['\\']) =
          .ok scanned :=
      read
    rw [scanDouble_quote] at readOn
    cases readOn
    refine .within ?_
    have fewer := List.count_le_length (a := '\\') (l := rest)
    have isOther : (doubleQuote == '\\') = false := by
      decide
    simp only [Scanned.prepend, Spacing.folded, Reading.owed, List.append_nil, List.length_cons,
      List.length_nil, List.count_cons, isOther, Bool.false_eq_true, if_false]
    omega
  rw [escaped_cons isQuote, List.cons_append, scanDouble] at read
  split at read
  · refine (later _ _ _ _ read).step [] ?_ isTail
    have atMost : (if c = '\\' then 1 else 0) ≤ 1 := by
      split <;> decide
    simpa [Reading.owed, Spacing.folded] using Nat.le_trans atMost (by decide)
  split at read
  · rw [Outcome.map_eq_ok] at read
    obtain ⟨further, readOn, rfl⟩ := read
    refine (later _ _ _ _ readOn).step _ ?_ isTail
    simp only [Reading.owed, Spacing.folded, List.length_singleton]
    split <;> simp
  · refine (later _ _ _ _ read).step [] ?_ isTail
    simp only [Reading.owed]
    split <;> simp
  · cases read

theorem dwindles_code
    {left value : Nat}
    (read :
      scanDouble (.code left value) line column (escaped (c :: rest) ++ doubleQuote :: more) =
        .ok scanned) :
    Dwindles (.code left value) (c :: rest) scanned.text := by
  have isTail : rest <:+ c :: rest :=
    List.suffix_cons c rest
  by_cases isQuote : c = doubleQuote
  · subst isQuote
    have noDigit : Decimal.digit? 16 '\\' = none := by
      decide
    simp [scanDouble, noDigit] at read
  rw [escaped_cons isQuote, List.cons_append, scanDouble] at read
  split at read
  · cases read
  rename_i digit isDigit
  have noBackslash : c ≠ '\\' := by
    rintro rfl
    have noDigit : Decimal.digit? 16 '\\' = none := by
      decide
    rw [noDigit] at isDigit
    cases isDigit
  dsimp only at read
  split at read
  · split at read
    · rw [Outcome.map_eq_ok] at read
      obtain ⟨further, readOn, rfl⟩ := read
      refine (later _ _ _ _ readOn).step _ ?_ isTail
      simp [Reading.owed, Spacing.folded, noBackslash]
    · cases read
  · refine (later _ _ _ _ read).step [] ?_ isTail
    simp [Reading.owed, noBackslash]

end Steps

section Dwindling

variable
  {more : List Char}
  (stops : ∀ line column scanned,
    scanDouble (.between .none) line column more = .ok scanned →
      scanned.text.getLast? ≠ some '\\')

include stops

/-- A text of which nothing is left but the quote behind it. -/
theorem dwindles_nil
    {reading : Reading}
    {line column : Nat}
    {scanned : Scanned}
    (read : scanDouble reading line column (doubleQuote :: more) = .ok scanned) :
    Dwindles reading [] scanned.text := by
  cases reading with
  | between spacing =>
      rw [scanDouble_quote] at read
      cases read
      exact .within (Nat.le_refl _)
  | escape =>
      rw [scanDouble_escape_quote, Outcome.map_eq_ok] at read
      obtain ⟨further, overrun, rfl⟩ := read
      have noBackslash := stops _ _ further overrun
      cases last : further.text.getLast? with
      | none =>
          have nothing := List.getLast?_eq_none_iff.mp last
          exact .beyond (c := doubleQuote) rfl (by simp [Scanned.prepend, nothing]) (by decide)
      | some c =>
          rw [last] at noBackslash
          have isOther : c ≠ '\\' :=
            fun same => noBackslash (by rw [same])
          exact .beyond rfl (getLast?_append_of_some _ last) isOther
  | code left value =>
      have noDigit : Decimal.digit? 16 doubleQuote = none := by
        decide
      simp [scanDouble, noDigit] at read

/-- An escaped text dwindles when it is read. -/
theorem dwindles_of_scanDouble
    {reading : Reading}
    {line column : Nat}
    {text : List Char}
    {scanned : Scanned}
    (read :
      scanDouble reading line column (escaped text ++ doubleQuote :: more) = .ok scanned) :
    Dwindles reading text scanned.text := by
  induction text generalizing reading line column scanned with
  | nil =>
      exact dwindles_nil stops read
  | cons c rest inductionHypothesis =>
      have later :
          ∀ reading line column scanned,
            scanDouble reading line column (escaped rest ++ doubleQuote :: more) = .ok scanned →
              Dwindles reading rest scanned.text :=
        fun _ _ _ _ readOn => inductionHypothesis readOn
      cases reading with
      | between spacing => exact dwindles_between later read
      | escape => exact dwindles_escape later read
      | code left value => exact dwindles_code later read

end Dwindling

/-! ## Line breaks -/

theorem length_withLineFeeds (text : List Char) :
    (withLineFeeds text).length ≤ text.length := by
  fun_induction withLineFeeds text with
  | case1 =>
      exact Nat.le_refl _
  | case2 rest inductionHypothesis =>
      simp only [List.length_cons]
      omega
  | case3 c rest _ inductionHypothesis =>
      simp only [List.length_cons]
      omega

/-- What is no line feed was there before and is no line break of another kind. -/
theorem mem_withLineFeeds
    {c : Char}
    (noFeed : c ≠ '\n')
    {text : List Char} :
    c ∈ withLineFeeds text ↔ c ∈ text ∧ c ≠ '\r' ∧ c ≠ nextLine := by
  fun_induction withLineFeeds text with
  | case1 =>
      simp
  | case2 rest inductionHypothesis =>
      simp only [List.mem_cons, noFeed, false_or, inductionHypothesis]
      tauto
  | case3 d rest _ inductionHypothesis =>
      rw [List.mem_cons, List.mem_cons, inductionHypothesis]
      by_cases breaks : d = '\r' ∨ d = nextLine
      · have isFeed : (if (d = '\r' || d = nextLine) = true then '\n' else d) = '\n' :=
          if_pos (by simpa using breaks)
        have isOther : c = d → ¬(c ≠ '\r' ∧ c ≠ nextLine) := by
          rintro rfl
          tauto
        rw [isFeed]
        tauto
      · have same : (if (d = '\r' || d = nextLine) = true then '\n' else d) = d :=
          if_neg (by simpa using breaks)
        have isOther : c = d → c ≠ '\r' ∧ c ≠ nextLine := by
          rintro rfl
          tauto
        rw [same]
        tauto

theorem eq_nil_of_withLineFeeds
    {text : List Char}
    (nothing : withLineFeeds text = []) :
    text = [] := by
  unfold withLineFeeds at nothing
  split at nothing
  · rfl
  · cases nothing
  · cases nothing

/-- The last character was the last one before, unless it is a line feed. -/
theorem getLast?_withLineFeeds
    {c : Char}
    (noFeed : c ≠ '\n')
    {text : List Char}
    (last : (withLineFeeds text).getLast? = some c) :
    text.getLast? = some c := by
  fun_induction withLineFeeds text with
  | case1 =>
      cases last
  | case2 rest inductionHypothesis =>
      rw [List.getLast?_cons] at last
      cases before : (withLineFeeds rest).getLast? with
      | none =>
          rw [before] at last
          exact absurd (Option.some.inj last).symm noFeed
      | some d =>
          rw [before] at last
          cases last
          exact getLast?_append_of_some ['\r', '\n'] (inductionHypothesis before)
  | case3 d rest _ inductionHypothesis =>
      rw [List.getLast?_cons] at last
      cases before : (withLineFeeds rest).getLast? with
      | none =>
          rw [before, Option.getD_none] at last
          have changed := Option.some.inj last
          have isLast : d = c := by
            split at changed
            · exact absurd changed.symm noFeed
            · exact changed
          rw [eq_nil_of_withLineFeeds (List.getLast?_eq_none_iff.mp before), isLast]
          rfl
      | some e =>
          rw [before] at last
          cases last
          exact getLast?_append_of_some [d] (inductionHypothesis before)

/-- A character that is no carriage return, before any text. -/
theorem withLineFeeds_cons_of_ne
    {c : Char}
    (noReturn : c ≠ '\r')
    (rest : List Char) :
    withLineFeeds (c :: rest) =
      (if c = nextLine then '\n' else c) :: withLineFeeds rest := by
  rw [withLineFeeds]
  · simp [noReturn]
  · rintro further rfl
    exact absurd rfl noReturn

/-- What is kept stays in front of any text. -/
theorem withLineFeeds_append_of_kept
    {first : List Char}
    (kept : ∀ c ∈ first, isKept c = true)
    (second : List Char) :
    withLineFeeds (first ++ second) = first ++ withLineFeeds second := by
  induction first with
  | nil =>
      rfl
  | cons c rest inductionHypothesis =>
      have here := kept c List.mem_cons_self
      simp only [isKept, Bool.and_eq_true, bne_iff_ne] at here
      obtain ⟨⟨_, noReturn⟩, noNextLine⟩ := here
      rw [List.cons_append, withLineFeeds_cons_of_ne noReturn, if_neg noNextLine,
        inductionHypothesis (fun d member => kept d (List.mem_cons_of_mem _ member)),
        List.cons_append]

/-- Line breaks are changed on both sides of what is no line feed. -/
theorem withLineFeeds_append
    (first : List Char)
    {second : List Char}
    (noFeed : second.head? ≠ some '\n') :
    withLineFeeds (first ++ second) = withLineFeeds first ++ withLineFeeds second := by
  fun_induction withLineFeeds first with
  | case1 =>
      rfl
  | case2 rest inductionHypothesis =>
      rw [List.cons_append, List.cons_append, withLineFeeds, inductionHypothesis, List.cons_append]
  | case3 c rest noPair inductionHypothesis =>
      rw [List.cons_append, withLineFeeds, inductionHypothesis, List.cons_append]
      rintro further rfl starts
      cases rest with
      | nil =>
          rw [List.nil_append] at starts
          rw [starts] at noFeed
          exact noFeed rfl
      | cons d others =>
          rw [List.cons_append] at starts
          cases starts
          exact noPair others rfl rfl

/-- It does not matter whether double quotes are escaped before or after. -/
theorem withLineFeeds_escaped (text : List Char) :
    withLineFeeds (escaped text) = escaped (withLineFeeds text) := by
  fun_induction withLineFeeds text with
  | case1 =>
      rfl
  | case2 rest inductionHypothesis =>
      rw [escaped_cons (by decide), escaped_cons (by decide), withLineFeeds, inductionHypothesis,
        escaped_cons (by decide)]
  | case3 c rest noPair inductionHypothesis =>
      by_cases isQuote : c = doubleQuote
      · subst isQuote
        rw [escaped_quote, withLineFeeds_cons_of_ne (by decide), if_neg (by decide),
          withLineFeeds_cons_of_ne (by decide), if_neg (by decide), inductionHypothesis,
          if_neg (by decide), escaped_quote]
      · have stays :
            (if (c = '\r' || c = nextLine) = true then '\n' else c) ≠ doubleQuote := by
          split
          · decide
          · exact isQuote
        rw [escaped_cons isQuote, escaped_cons stays, withLineFeeds, inductionHypothesis]
        rintro further rfl starts
        cases rest with
        | nil =>
            cases starts
        | cons d others =>
            by_cases nextQuote : d = doubleQuote
            · subst nextQuote
              cases starts
            · rw [escaped_cons nextQuote] at starts
              cases starts
              exact noPair others rfl rfl

/-! ## Texts that are read back -/

/-- Whether a text is read back from between double quotes when only those inside are escaped. -/
structure Verbatim (text : List Char) : Prop where
  kept : ∀ c ∈ text, isKept c = true
  noBackslash : '\\' ∉ text
  /-- No blank stands beside a break, and a line feed only behind another break. -/
  spaced : (doubleQuote :: text).IsChain Follows
  unmarked : ∀ c rest, c :: rest <:+ text → isBreak c = true → startsMark rest = false

theorem exact_quote : Exact .none doubleQuote [] :=
  .word (by decide) (by decide)

theorem verbatim_iff {text : List Char} :
    Verbatim text ↔
      (text.all isKept = true ∧ '\\' ∉ text) ∧
        foldLines .none text = text ∧ marksLine false text = false := by
  have folds := foldLines_eq_iff exact_quote text
  rw [List.nil_append] at folds
  rw [folds, marksLine_eq_false_iff, List.all_eq_true]
  constructor
  · intro verbatim
    exact ⟨⟨verbatim.kept, verbatim.noBackslash⟩, verbatim.spaced, nofun, verbatim.unmarked⟩
  · rintro ⟨⟨kept, noBackslash⟩, spaced, _, unmarked⟩
    exact ⟨kept, noBackslash, spaced, unmarked⟩

instance (text : List Char) : Decidable (Verbatim text) :=
  decidable_of_iff _ verbatim_iff.symm

section Reading

variable
  {text : List Char}
  {line column : Nat}
  {more : List Char}

/-- A verbatim text is read as it is, up to the quote behind it. -/
theorem scanDouble_of_verbatim
    (verbatim : Verbatim text)
    (line : Nat)
    (inside : column ≠ 0)
    (more : List Char) :
    ∃ endLine endColumn,
      scanDouble (.between .none) line column (escaped text ++ doubleQuote :: more) =
        .ok ⟨text, ⟨more, endLine, endColumn⟩⟩ := by
  obtain ⟨⟨_, noBackslash⟩, folds, unmarked⟩ := verbatim_iff.mp verbatim
  obtain ⟨endLine, endColumn, read⟩ := scanDouble_escaped noBackslash .none line column more
  refine ⟨endLine, endColumn, ?_⟩
  rw [read, decide_eq_false inside, unmarked, folds]
  rfl

/-- A text without backslashes that is read as it is is verbatim. -/
theorem verbatim_of_scanDouble
    (allowed : ∀ c ∈ text, isAllowed c = true)
    (noBackslash : '\\' ∉ text)
    (inside : column ≠ 0)
    {finish : Cursor}
    (read :
      scanDouble (.between .none) line column
          (escaped (withLineFeeds text) ++ doubleQuote :: more) =
        .ok ⟨text, finish⟩) :
    Verbatim text := by
  have noneLeft : '\\' ∉ withLineFeeds text := by
    rw [mem_withLineFeeds (by decide)]
    exact fun member => noBackslash member.1
  obtain ⟨endLine, endColumn, folded⟩ := scanDouble_escaped noneLeft .none line column more
  rw [read, decide_eq_false inside] at folded
  split at folded
  · cases folded
  rename_i unmarked
  have folds : text = foldLines .none (withLineFeeds text) :=
    congrArg Scanned.text (Except.ok.inj folded)
  have kept : ∀ c ∈ text, isKept c = true := by
    intro c member
    rw [folds] at member
    rcases mem_foldLines member with spaced | changed | rfl
    · cases spaced
    · by_cases isFeed : c = '\n'
      · rw [isFeed]
        decide
      · obtain ⟨member, noReturn, noNextLine⟩ := (mem_withLineFeeds isFeed).mp changed
        simp [isKept, allowed c member, noReturn, noNextLine]
    · decide
  rw [withLineFeeds_eq_self kept] at folds unmarked
  exact verbatim_iff.mpr
    ⟨⟨List.all_eq_true.mpr kept, noBackslash⟩, folds.symm, by simpa using unmarked⟩

/-- A text with a backslash is never read as it is, when no backslash ends what follows it. -/
theorem noBackslash_of_scanDouble
    (stops : ∀ line column scanned,
      scanDouble (.between .none) line column more = .ok scanned →
        scanned.text.getLast? ≠ some '\\')
    {finish : Cursor}
    (read :
      scanDouble (.between .none) line column
          (escaped (withLineFeeds text) ++ doubleQuote :: more) =
        .ok ⟨text, finish⟩) :
    '\\' ∉ text := by
  cases dwindles_of_scanDouble stops read with
  | within short =>
      have least := length_withLineFeeds text
      have noneLeft : (withLineFeeds text).count '\\' = 0 := by
        simp only [Reading.owed, Spacing.folded, List.length_nil] at short
        omega
      intro member
      exact List.count_eq_zero.mp noneLeft
        ((mem_withLineFeeds (by decide)).mpr ⟨member, by decide, by decide⟩)
  | beyond ends last isOther =>
      have isLast := getLast?_withLineFeeds (by decide) ends
      rw [isLast] at last
      exact absurd (Option.some.inj last).symm isOther

end Reading

end SchemaMigration.Yaml
