import SchemaMigration.Proofs.Ledger.Codec
import SchemaMigration.Schema.Statement

namespace SchemaMigration.Sql

/-!
# Reading string literals

A dialect reads a literal up to the quote that ends it.  Every dialect takes two
quotes for one; MySQL also takes a backslash for the start of an escape.  A
text is written with its quotes doubled and its backslashes as they are, so
what MySQL reads is the text exactly when none of its backslashes is an escape
that stands for something else.
-/

/-! ## The grammar -/

/-- Whether a backslash starts an escape inside a literal. -/
def readsEscapes : Dialect → Bool
  | .mysql => true
  | .duckdb | .postgres | .mssql | .sqlite => false

/--
What a backslash and the character behind it stand for. The two escapes of
patterns keep their backslash; a character without an escape stands for itself.
-/
def escaped : Char → List Char
  | '0' => ['\x00']
  | 'b' => ['\x08']
  | 'n' => ['\n']
  | 'r' => ['\r']
  | 't' => ['\t']
  | 'Z' => ['\x1a']
  | '%' => ['\\', '%']
  | '_' => ['\\', '_']
  | c => [c]

/-- A reading with some characters before what is read. -/
def behind (read : List Char) (reading : List Char × List Char) : List Char × List Char :=
  (read ++ reading.1, reading.2)

/-- What a literal stands for from behind its opening quote, and what follows it. -/
def readBody (dialect : Dialect) : List Char → Option (List Char × List Char)
  | [] => none
  | [c] => if c = textQuote then some ([], []) else none
  | c :: d :: rest =>
      if c = textQuote then
        if d = textQuote then
          (readBody dialect rest).map (behind [textQuote])
        else
          some ([], d :: rest)
      else if readsEscapes dialect ∧ c = '\\' then
        (readBody dialect rest).map (behind (escaped d))
      else
        (readBody dialect (d :: rest)).map (behind [c])

/-- What a literal stands for, and what follows it. -/
def readQuoted (dialect : Dialect) : List Char → Option (List Char × List Char)
  | c :: rest => if c = textQuote then readBody dialect rest else none
  | [] => none

/-- A literal, which SQL Server also takes behind the letter for national texts. -/
def readLiteral (dialect : Dialect) (text : List Char) : Option (List Char × List Char) :=
  match dialect, text with
  | .mssql, 'N' :: rest => readQuoted .mssql rest
  | _, _ => readQuoted dialect text

/-! ## One step of the reading -/

section Steps

variable
  {dialect : Dialect}
  {c : Char}
  {rest : List Char}

theorem readBody_end
    (other : rest.head? ≠ some textQuote) :
    readBody dialect (textQuote :: rest) = some ([], rest) := by
  cases rest with
  | nil => rfl
  | cons d later =>
      have notQuote : d ≠ textQuote := by
        rintro rfl
        exact other rfl
      rw [readBody, if_pos rfl, if_neg notQuote]

theorem readBody_twoQuotes :
    readBody dialect (textQuote :: textQuote :: rest) =
      (readBody dialect rest).map (behind [textQuote]) := by
  rw [readBody, if_pos rfl, if_pos rfl]

theorem readBody_escape
    (escapes : readsEscapes dialect = true) :
    readBody dialect ('\\' :: c :: rest) =
      (readBody dialect rest).map (behind (escaped c)) := by
  rw [readBody, if_neg (by decide), if_pos ⟨escapes, rfl⟩]

theorem readBody_plain
    (notQuote : c ≠ textQuote)
    (noEscape : readsEscapes dialect = true → c ≠ '\\') :
    readBody dialect (c :: rest) = (readBody dialect rest).map (behind [c]) := by
  cases rest with
  | nil =>
      rw [readBody.eq_2, if_neg notQuote]
      rfl
  | cons d later =>
      have notEscape : ¬(readsEscapes dialect = true ∧ c = '\\') :=
        fun both => noEscape both.1 both.2
      rw [readBody, if_neg notQuote, if_neg notEscape]

end Steps

/-! ## Reading what is written -/

/-- A literal from behind its opening quote, with what follows it. -/
def written (text after : List Char) : List Char :=
  Text.double textQuote text ++ textQuote :: after

theorem written_quote
    (rest after : List Char) :
    written (textQuote :: rest) after = textQuote :: textQuote :: written rest after :=
  rfl

theorem written_cons
    {c : Char}
    (notQuote : c ≠ textQuote)
    (rest after : List Char) :
    written (c :: rest) after = c :: written rest after := by
  rw [written, Text.double, List.flatMap_cons, if_neg notQuote]
  rfl

/-- A character that starts no escape is read as it was written. -/
theorem readBody_written_cons
    {dialect : Dialect}
    {c : Char}
    (noEscape : readsEscapes dialect = true → c ≠ '\\')
    (rest after : List Char) :
    readBody dialect (written (c :: rest) after) =
      (readBody dialect (written rest after)).map (behind [c]) := by
  by_cases isQuote : c = textQuote
  · subst isQuote
    rw [written_quote, readBody_twoQuotes]
  · rw [written_cons isQuote, readBody_plain isQuote noEscape]

/-- Behind a backslash a character is read as an escape. -/
theorem readBody_written_escape
    {dialect : Dialect}
    {c : Char}
    (escapes : readsEscapes dialect = true)
    (notQuote : c ≠ textQuote)
    (rest after : List Char) :
    readBody dialect (written ('\\' :: c :: rest) after) =
      (readBody dialect (written rest after)).map (behind (escaped c)) := by
  rw [written_cons (by decide), written_cons notQuote, readBody_escape escapes]

/-- Whether an escape keeps its backslash. -/
def IsPatternEscape (c : Char) : Prop :=
  c = '%' ∨ c = '_'

instance (c : Char) : Decidable (IsPatternEscape c) :=
  inferInstanceAs (Decidable (_ ∨ _))

/-- Whether each backslash of a text is the start of an escape that keeps it. -/
def KeepsBackslashes : List Char → Prop
  | [] => True
  | c :: rest => (c = '\\' → ∃ d ∈ rest.head?, IsPatternEscape d) ∧ KeepsBackslashes rest

instance decidableStartsPatternEscape :
    DecidablePred fun rest : List Char => ∃ d ∈ rest.head?, IsPatternEscape d
  | [] => isFalse (by simp)
  | d :: _ => decidable_of_iff (IsPatternEscape d) (by simp)

instance decidableKeepsBackslashes : DecidablePred KeepsBackslashes
  | [] => isTrue trivial
  | c :: rest =>
      have := decidableStartsPatternEscape rest
      have := decidableKeepsBackslashes rest
      inferInstanceAs (Decidable ((c = '\\' → ∃ d ∈ rest.head?, IsPatternEscape d) ∧ _))

theorem IsPatternEscape.escaped_eq
    {c : Char}
    (pattern : IsPatternEscape c) :
    escaped c = ['\\', c] ∧ c ≠ textQuote ∧ c ≠ '\\' := by
  rcases pattern with rfl | rfl
  · exact ⟨rfl, by decide, by decide⟩
  · exact ⟨rfl, by decide, by decide⟩

/-- Any other escape stands for one character, for a backslash only behind another one. -/
theorem escaped_of_not_isPatternEscape
    {c : Char}
    (other : ¬IsPatternEscape c) :
    ∃ d, escaped c = [d] ∧ (d = '\\' → c = '\\') := by
  unfold escaped
  split
  case h_7 => exact absurd (Or.inl rfl) other
  case h_8 => exact absurd (Or.inr rfl) other
  case h_9 => exact ⟨c, rfl, id⟩
  all_goals exact ⟨_, rfl, fun isBackslash => absurd isBackslash (by decide)⟩

/--
A backslash that is read as a backslash starts an escape of patterns, or it
stands before another one, and then one of the two is lost.
-/
theorem escape_of_readBody_backslash
    {dialect : Dialect}
    {rest after read follow : List Char}
    (escapes : readsEscapes dialect = true)
    (reading :
      readBody dialect (written ('\\' :: rest) after) = some ('\\' :: read, follow)) :
    ∃ c tail later,
      rest = c :: tail ∧
        readBody dialect (written tail after) = some (later, follow) ∧
          (IsPatternEscape c ∧ read = c :: later ∨ c = '\\' ∧ read = later) := by
  -- A quote behind the backslash is taken into the text, also the one meant as the last.
  have noQuote
      {shown : List Char} :
      written ('\\' :: rest) after ≠ '\\' :: textQuote :: shown := by
    intro start
    rw [start, readBody_escape escapes, Option.map_eq_some_iff] at reading
    obtain ⟨later, _, shape⟩ := reading
    have head : textQuote = '\\' := (List.cons.inj (congrArg Prod.fst shape)).1
    exact absurd head (by decide)
  cases rest with
  | nil => exact absurd rfl noQuote
  | cons c tail =>
      have notQuote : c ≠ textQuote := by
        rintro rfl
        exact noQuote rfl
      rw [readBody_written_escape escapes notQuote, Option.map_eq_some_iff] at reading
      obtain ⟨⟨later, left⟩, tailRead, shape⟩ := reading
      have split : escaped c ++ later = '\\' :: read ∧ left = follow :=
        Prod.mk.inj shape
      rw [split.2] at tailRead
      refine ⟨c, tail, later, rfl, tailRead, ?_⟩
      by_cases pattern : IsPatternEscape c
      · rw [pattern.escaped_eq.1] at split
        exact Or.inl ⟨pattern, (List.cons.inj split.1).2.symm⟩
      · obtain ⟨d, stands, isBackslash⟩ := escaped_of_not_isPatternEscape pattern
        rw [stands] at split
        have same : d = '\\' ∧ later = read := List.cons.inj split.1
        exact Or.inr ⟨isBackslash same.1, same.2.symm⟩

theorem backslashes_append_cons
    (count : Nat)
    (rest : List Char) :
    List.replicate count '\\' ++ '\\' :: rest = '\\' :: (List.replicate count '\\' ++ rest) := by
  rw [List.append_cons, ← List.replicate_succ', List.replicate_succ, List.cons_append]

/-- No backslashes stand before a text that starts with another character. -/
theorem no_backslashes_of_cons_eq
    {c : Char}
    {count : Nat}
    {read rest : List Char}
    (notBackslash : c ≠ '\\')
    (shape : List.replicate count '\\' ++ c :: rest = c :: read) :
    count = 0 ∧ rest = read := by
  cases count with
  | zero => exact ⟨rfl, (List.cons.inj shape).2⟩
  | succ fewer => exact absurd (List.cons.inj shape).1.symm notBackslash

section Written

variable
  {dialect : Dialect}
  {after : List Char}
  (other : after.head? ≠ some textQuote)

include other

/-- A text that keeps its backslashes is read back, up to its own last quote. -/
theorem readBody_written_of_keepsBackslashes
    {text : List Char}
    (kept : readsEscapes dialect = true → KeepsBackslashes text) :
    readBody dialect (written text after) = some (text, after) := by
  induction text with
  | nil => exact readBody_end other
  | cons c rest inductionHypothesis =>
      have later : readBody dialect (written rest after) = some (rest, after) :=
        inductionHypothesis (fun escapes => (kept escapes).2)
      by_cases noEscape : readsEscapes dialect = true → c ≠ '\\'
      · rw [readBody_written_cons noEscape, later]
        rfl
      · push Not at noEscape
        obtain ⟨escapes, rfl⟩ := noEscape
        obtain ⟨d, isNext, pattern⟩ := (kept escapes).1 rfl
        obtain ⟨tail, rfl⟩ := List.head?_eq_some_iff.mp isNext
        obtain ⟨keeps, notQuote, notBackslash⟩ := pattern.escaped_eq
        -- The reading of the shorter text starts with the character of the pattern.
        rw [readBody_written_cons (fun _ => notBackslash), Option.map_eq_some_iff] at later
        obtain ⟨⟨read, follow⟩, reading, shape⟩ := later
        cases shape
        rw [readBody_written_escape escapes notQuote, reading, keeps]
        rfl

/--
Only such a text is read back.  Two backslashes are read as one, and what is
lost never comes back: the reading is followed with the backslashes that it
owes by then.
-/
theorem keepsBackslashes_of_readBody
    {text follow : List Char}
    {count : Nat}
    (escapes : readsEscapes dialect = true)
    (reading :
      readBody dialect (written text after) =
        some (List.replicate count '\\' ++ text, follow)) :
    count = 0 ∧ KeepsBackslashes text := by
  induction sized : text.length using Nat.strongRecOn generalizing text count follow with
  | _ size inductionHypothesis =>
      cases text with
      | nil =>
          have ends : readBody dialect (written [] after) = some ([], after) :=
            readBody_end other
          rw [ends] at reading
          cases count with
          | zero => exact ⟨rfl, trivial⟩
          | succ fewer => cases reading
      | cons c rest =>
          have shorter : rest.length < size := by
            rw [← sized]
            exact Nat.lt_succ_self _
          by_cases isBackslash : c = '\\'
          · subst isBackslash
            rw [backslashes_append_cons] at reading
            obtain ⟨d, tail, later, rfl, tailRead, ⟨pattern, shape⟩ | ⟨rfl, shape⟩⟩ :=
              escape_of_readBody_backslash escapes reading
            · have notBackslash : d ≠ '\\' := pattern.escaped_eq.2.2
              have consumed : count = 0 ∧ tail = later :=
                no_backslashes_of_cons_eq notBackslash shape
              have noneOwed :
                  readBody dialect (written tail after) =
                    some (List.replicate 0 '\\' ++ tail, follow) := by
                rw [tailRead, ← consumed.2]
                rfl
              have tailKept : KeepsBackslashes tail :=
                (inductionHypothesis _ (Nat.lt_of_succ_lt shorter) noneOwed rfl).2
              exact ⟨consumed.1, fun _ => ⟨d, rfl, pattern⟩,
                fun absent => absurd absent notBackslash, tailKept⟩
            · rw [← shape, backslashes_append_cons, ← List.cons_append, ← List.replicate_succ]
                at tailRead
              have impossible : count + 1 = 0 :=
                (inductionHypothesis _ (Nat.lt_of_succ_lt shorter) tailRead rfl).1
              exact absurd impossible (Nat.succ_ne_zero count)
          · rw [readBody_written_cons (fun _ => isBackslash), Option.map_eq_some_iff] at reading
            obtain ⟨⟨read, left⟩, restRead, shape⟩ := reading
            have consumed : count = 0 ∧ rest = read :=
              no_backslashes_of_cons_eq isBackslash (congrArg Prod.fst shape).symm
            have noneOwed :
                readBody dialect (written rest after) =
                  some (List.replicate 0 '\\' ++ rest, left) := by
              rw [restRead, ← consumed.2]
              rfl
            have restKept : KeepsBackslashes rest :=
              (inductionHypothesis _ shorter noneOwed rfl).2
            exact ⟨consumed.1, fun absent => absurd absent isBackslash, restKept⟩

end Written

/-! ## Literals -/

/-- Whether a dialect reads a text back from its literal. -/
def Survives (dialect : Dialect) (value : String) : Prop :=
  readsEscapes dialect = true → KeepsBackslashes value.toList

instance (dialect : Dialect) (value : String) : Decidable (Survives dialect value) :=
  inferInstanceAs (Decidable (_ → _))

theorem readLiteral_textLiteral
    (dialect : Dialect)
    (value : String)
    (after : List Char) :
    readLiteral dialect ((textLiteral value).toList ++ after) =
      readBody dialect (written value.toList after) := by
  have shape :
      (textLiteral value).toList ++ after = textQuote :: written value.toList after := by
    rw [textLiteral, String.toList_ofList, written]
    simp
  rw [shape]
  cases dialect <;> rfl

section Literals

variable
  {dialect : Dialect}
  {value : String}
  {after : List Char}
  (other : after.head? ≠ some textQuote)

include other

theorem readLiteral_of_survives
    (survives : Survives dialect value) :
    readLiteral dialect ((textLiteral value).toList ++ after) = some (value.toList, after) := by
  rw [readLiteral_textLiteral]
  exact readBody_written_of_keepsBackslashes other survives

/-- A text that comes out of its literal survives, wherever the reading stopped. -/
theorem survives_of_readLiteral
    {follow : List Char}
    (reading :
      readLiteral dialect ((textLiteral value).toList ++ after) =
        some (value.toList, follow)) :
    Survives dialect value := by
  intro escapes
  rw [readLiteral_textLiteral] at reading
  have noneOwed :
      readBody dialect (written value.toList after) =
        some (List.replicate 0 '\\' ++ value.toList, follow) :=
    reading
  exact (keepsBackslashes_of_readBody other escapes noneOwed).2

end Literals

/-! ## Lists of literals -/

/-- What is read is not left. -/
theorem length_of_readBody
    {dialect : Dialect}
    {text read after : List Char}
    (reading : readBody dialect text = some (read, after)) :
    after.length < text.length := by
  fun_induction readBody dialect text generalizing read with
  | case1 => cases reading
  | case2 | case5 =>
      cases reading
      exact Nat.lt_succ_self _
  | case3 => cases reading
  | case4 rest inductionHypothesis | case6 c d rest notQuote escape inductionHypothesis =>
      obtain ⟨⟨earlier, left⟩, later, shape⟩ := Option.map_eq_some_iff.mp reading
      cases shape
      exact Nat.lt_succ_of_lt (Nat.lt_succ_of_lt (inductionHypothesis later))
  | case7 c d rest notQuote noEscape inductionHypothesis =>
      obtain ⟨⟨earlier, left⟩, later, shape⟩ := Option.map_eq_some_iff.mp reading
      cases shape
      exact Nat.lt_succ_of_lt (inductionHypothesis later)

theorem length_of_readLiteral
    {dialect : Dialect}
    {text read after : List Char}
    (reading : readLiteral dialect text = some (read, after)) :
    after.length < text.length := by
  have quoted
      {dialect : Dialect}
      {text : List Char}
      (reading : readQuoted dialect text = some (read, after)) :
      after.length < text.length := by
    unfold readQuoted at reading
    split at reading
    · rename_i c rest
      split at reading
      · exact Nat.lt_succ_of_lt (length_of_readBody reading)
      · cases reading
    · cases reading
  unfold readLiteral at reading
  split at reading
  · exact Nat.lt_succ_of_lt (quoted reading)
  · exact quoted reading

/-- What literals with commas between them stand for, and what follows the last one. -/
def readLiterals (dialect : Dialect) (text : List Char) :
    Option (List (List Char) × List Char) :=
  match _reading : readLiteral dialect text with
  | none => none
  | some (value, ',' :: ' ' :: rest) =>
      (readLiterals dialect rest).map (fun later => (value :: later.1, later.2))
  | some (value, after) => some ([value], after)
termination_by text.length
decreasing_by
  have shorter := length_of_readLiteral _reading
  rw [List.length_cons, List.length_cons] at shorter
  omega

section Listed

variable
  {dialect : Dialect}
  {text value : List Char}

theorem readLiterals_cons
    {rest : List Char}
    (reading : readLiteral dialect text = some (value, ',' :: ' ' :: rest)) :
    readLiterals dialect text =
      (readLiterals dialect rest).map (fun later => (value :: later.1, later.2)) := by
  rw [readLiterals]
  split <;> simp_all

theorem readLiterals_last
    {after : List Char}
    (reading : readLiteral dialect text = some (value, after))
    (ends : after.head? ≠ some ',') :
    readLiterals dialect text = some ([value], after) := by
  rw [readLiterals]
  split
  · simp_all
  · rename_i rest here
    rw [reading] at here
    cases here
    exact absurd rfl ends
  · simp_all

/-- The first text of a list is what the first literal stands for. -/
theorem readLiteral_of_readLiterals
    {values : List (List Char)}
    {after : List Char}
    (reading : readLiterals dialect text = some (value :: values, after)) :
    ∃ follow, readLiteral dialect text = some (value, follow) := by
  rw [readLiterals] at reading
  split at reading
  · cases reading
  · rename_i rest here
    obtain ⟨later, _, shape⟩ := Option.map_eq_some_iff.mp reading
    cases shape
    exact ⟨_, here⟩
  · rename_i here
    cases reading
    exact ⟨_, here⟩

end Listed

/-- Literals with commas between them. -/
def textLiterals (values : List String) : String :=
  Text.join ", " (values.map textLiteral)

theorem textLiterals_singleton (value : String) : textLiterals [value] = textLiteral value :=
  Text.join_singleton _ _

theorem textLiterals_cons
    (value : String)
    {values : List String}
    (more : values ≠ []) :
    (textLiterals (value :: values)).toList =
      (textLiteral value).toList ++ ',' :: ' ' :: (textLiterals values).toList := by
  have moreLiterals : values.map textLiteral ≠ [] := by
    simpa using more
  rw [textLiterals, List.map_cons, Text.toList_join_cons _ _ moreLiterals, List.append_assoc]
  rfl

/-- A list of texts is read back, up to its last literal, if every text of it is. -/
theorem readLiterals_textLiterals_iff
    {dialect : Dialect}
    {values : List String}
    {after : List Char}
    (nonempty : values ≠ [])
    (noQuote : after.head? ≠ some textQuote)
    (noComma : after.head? ≠ some ',') :
    readLiterals dialect ((textLiterals values).toList ++ after) =
        some (values.map String.toList, after) ↔
      ∀ value ∈ values, Survives dialect value := by
  induction values with
  | nil => exact absurd rfl nonempty
  | cons value values inductionHypothesis =>
      rw [List.forall_mem_cons]
      by_cases last : values = []
      · subst last
        rw [textLiterals_singleton]
        constructor
        · intro reading
          obtain ⟨follow, first⟩ := readLiteral_of_readLiterals reading
          exact ⟨survives_of_readLiteral noQuote first, List.forall_mem_nil _⟩
        · intro survive
          exact readLiterals_last (readLiteral_of_survives noQuote survive.1) noComma
      · rw [textLiterals_cons value last, List.append_assoc, List.cons_append, List.cons_append]
        have comma :
            (',' :: ' ' :: ((textLiterals values).toList ++ after)).head? ≠ some textQuote := by
          simp [textQuote]
        constructor
        · intro reading
          obtain ⟨follow, first⟩ := readLiteral_of_readLiterals reading
          have survives : Survives dialect value :=
            survives_of_readLiteral comma first
          rw [readLiterals_cons (readLiteral_of_survives comma survives),
            Option.map_eq_some_iff] at reading
          obtain ⟨⟨later, left⟩, laterRead, shape⟩ := reading
          cases shape
          exact ⟨survives, (inductionHypothesis last).mp laterRead⟩
        · intro survive
          have later := (inductionHypothesis last).mpr survive.2
          rw [readLiterals_cons (readLiteral_of_survives comma survive.1)]
          exact congrArg _ later

end SchemaMigration.Sql

namespace SchemaMigration.Statement

open Sql

/-! ## Literals of columns -/

/-- The text of a column of an enumeration up to its first value. -/
def beforeValues (dialect : Dialect) (table : String) (column : ColumnDefinition) : String :=
  let name := Sql.quote dialect column.name
  match dialect with
  | .duckdb | .mysql => s!"{name} ENUM("
  | .postgres | .mssql | .sqlite =>
      let unchecked := { column with type := ⟨column.type.name, []⟩ }
      columnText dialect table unchecked ++ s!" CHECK ({name} IN ("

/-- The values of an enumeration stand between parentheses in the text of its column. -/
theorem columnText_of_enumeration
    {dialect : Dialect}
    {column : ColumnDefinition}
    {values : List String}
    (nonempty : values ≠ [])
    (typed : column.type = NativeType.enumeration dialect values)
    (table : String) :
    ∃ after,
      columnText dialect table column =
        beforeValues dialect table column ++ textLiterals values ++ ")" ++ after := by
  have listed : values.isEmpty = false := by
    simpa using nonempty
  have shown (text : String) : toString text = text := rfl
  cases dialect with
  | duckdb | mysql =>
      simp only [NativeType.enumeration, listed, Bool.false_eq_true, if_false] at typed
      have opening (rest : String) : " " ++ ("ENUM(" ++ rest) = " ENUM(" ++ rest := by
        rw [← String.append_assoc]
        rfl
      simp only [columnText, beforeValues, typed, shown, textLiterals, String.append_assoc,
        opening]
      exact ⟨_, rfl⟩
  | postgres | mssql | sqlite =>
      simp only [NativeType.enumeration] at typed
      have closing : ")" ++ ")" = "))" := rfl
      refine ⟨")", ?_⟩
      simp only [columnText, beforeValues, typed, shown, textLiterals, String.append_assoc,
        List.isEmpty_nil, if_true, listed, Bool.false_eq_true, if_false, String.empty_append,
        closing]

/-- The letter before the literal of a default does not change what is read. -/
theorem readLiteral_defaultText
    (dialect : Dialect)
    (value : String)
    (after : List Char) :
    readLiteral dialect ((defaultText dialect (.text value)).toList ++ after) =
      readLiteral dialect ((textLiteral value).toList ++ after) := by
  cases dialect with
  | mssql =>
      have lettered :
          (defaultText .mssql (.text value)).toList = 'N' :: (textLiteral value).toList := by
        rw [defaultText, String.toList_append]
        rfl
      rw [lettered, readLiteral_textLiteral, textLiteral, String.toList_ofList, written]
      simp [readLiteral, readQuoted]
  | duckdb | postgres | mysql | sqlite => rfl

/--
The literal of a default is read as the text that was declared, and the
literals of an enumeration as its values in order, exactly when these texts
survive in the dialect: always where a backslash is a character like any other.
-/
theorem literals_read_back_iff
    (dialect : Dialect)
    (value table : String)
    {parameters : TypeParameters}
    {isUnsigned : Bool}
    {column : ColumnDefinition}
    (nonempty : parameters.values ≠ [])
    (typed : column.type = NativeType.resolve dialect .enumeration parameters isUnsigned) :
    (∀ after,
        after.head? ≠ some textQuote →
          (readLiteral dialect ((defaultText dialect (.text value)).toList ++ after) =
              some (value.toList, after) ↔
            Survives dialect value)) ∧
      ∃ after,
        columnText dialect table column =
            beforeValues dialect table column ++ textLiterals parameters.values ++ ")" ++ after ∧
          (readLiterals dialect (textLiterals parameters.values ++ ")" ++ after).toList =
              some (parameters.values.map String.toList, (")" ++ after).toList) ↔
            ∀ value ∈ parameters.values, Survives dialect value) := by
  constructor
  · intro after other
    rw [readLiteral_defaultText]
    exact ⟨survives_of_readLiteral other, readLiteral_of_survives other⟩
  · obtain ⟨after, shape⟩ := columnText_of_enumeration nonempty typed table
    refine ⟨after, shape, ?_⟩
    have closing : (")" ++ after).toList = ')' :: after.toList := by
      rw [String.toList_append]
      rfl
    rw [String.append_assoc, String.toList_append, closing]
    apply readLiterals_textLiterals_iff nonempty
    · simp [textQuote]
    · simp

/-- The parameters of an enumeration with a quote and a pattern among its values. -/
def stateParameters : TypeParameters :=
  { TypeParameters.none with values := ["it's", "50\\%"] }

/-- A column of that enumeration. -/
def stateColumn : ColumnDefinition :=
  ⟨"state", NativeType.resolve .mysql .enumeration stateParameters false, false,
    some (.text "it's"), false, false, []⟩

theorem state_literals_read_back :
    stateParameters.values ≠ [] ∧
      readLiteral .mysql (defaultText .mysql (.text "it's")).toList =
          some ("it's".toList, []) ∧
        ∃ after,
          columnText .mysql "runs" stateColumn =
              "\x60state\x60 ENUM('it''s', '50\\%')" ++ after ∧
            readLiterals .mysql ("'it''s', '50\\%')" ++ after).toList =
              some (["it's".toList, "50\\%".toList], (")" ++ after).toList) := by
  have nonempty : stateParameters.values ≠ [] :=
    List.cons_ne_nil _ _
  have typed :
      stateColumn.type = NativeType.resolve .mysql .enumeration stateParameters false :=
    rfl
  obtain ⟨ofDefault, after, shape, ofValues⟩ :=
    literals_read_back_iff .mysql "it's" "runs" nonempty typed
  have survive : ∀ value ∈ stateParameters.values, Survives .mysql value := by
    intro value member
    rcases List.mem_pair.mp member with rfl | rfl
    · decide
    · decide
  refine ⟨nonempty, (ofDefault [] ?_).mpr fun _ => ?_, after, shape, ofValues.mpr survive⟩
  · decide
  · decide

/--
In MySQL the backslash takes the quote behind it into the text, the second of
the doubled quotes ends the literal, and what follows is read as statement.
-/
theorem literal_ends_behind_backslash :
    readLiteral .mysql (defaultText .mysql (.text "\\'; --")).toList =
        some ("'".toList, "; --'".toList) ∧
      some ("'".toList, "; --'".toList) ≠ some ("\\'; --".toList, []) := by
  decide

end SchemaMigration.Statement
