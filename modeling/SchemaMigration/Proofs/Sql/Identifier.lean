import SchemaMigration.Proofs.Sql.Literal

namespace SchemaMigration

/-!
# Reading quoted names

A quoted name ends at the first closing delimiter that does not stand twice, so
the text behind a name cannot be taken for a part of it, whatever the name
holds.  The same is then true of names with commas between them, and a
statement that copies rows tells its columns and its tables.
-/

namespace Sql

/-! ## One name -/

/-- What a name reads from behind its opening delimiter, and what follows it. -/
def readName (closing : Char) : List Char → Option (List Char × List Char)
  | [] => none
  | [c] => if c = closing then some ([], []) else none
  | c :: d :: rest =>
      if c = closing then
        if d = closing then
          (readName closing rest).map (behind [closing])
        else
          some ([], d :: rest)
      else
        (readName closing (d :: rest)).map (behind [c])

/-- What a name between delimiters reads, and what follows it. -/
def readDelimited (marks : Delimiters) : List Char → Option (String × List Char)
  | [] => none
  | c :: rest =>
      if c = marks.opening then
        (readName marks.closing rest).map (Prod.map String.ofList id)
      else
        none

section Names

variable
  {closing : Char}
  {rest : List Char}

theorem readName_end
    (other : rest.head? ≠ some closing) :
    readName closing (closing :: rest) = some ([], rest) := by
  cases rest with
  | nil =>
      rw [readName.eq_2, if_pos rfl]
  | cons d later =>
      have notClosing : d ≠ closing := by
        rintro rfl
        exact other rfl
      rw [readName, if_pos rfl, if_neg notClosing]

theorem readName_twice :
    readName closing (closing :: closing :: rest) =
      (readName closing rest).map (behind [closing]) := by
  rw [readName, if_pos rfl, if_pos rfl]

theorem readName_plain
    {c : Char}
    (notClosing : c ≠ closing) :
    readName closing (c :: rest) = (readName closing rest).map (behind [c]) := by
  cases rest with
  | nil =>
      rw [readName.eq_2, if_neg notClosing]
      rfl
  | cons d later =>
      rw [readName, if_neg notClosing]

/-- A name with its closing delimiters doubled is read up to its own closing delimiter. -/
theorem readName_double
    (other : rest.head? ≠ some closing)
    (name : List Char) :
    readName closing (Text.double closing name ++ closing :: rest) = some (name, rest) := by
  induction name with
  | nil =>
      exact readName_end other
  | cons c later inductionHypothesis =>
      rw [Text.double, List.flatMap_cons, ← Text.double]
      by_cases isClosing : c = closing
      · subst isClosing
        rw [if_pos rfl, List.append_assoc, List.cons_append, List.singleton_append,
          readName_twice, inductionHypothesis]
        rfl
      · rw [if_neg isClosing, List.append_assoc, List.singleton_append,
          readName_plain isClosing, inductionHypothesis]
        rfl

end Names

/-- A quoted name is read back, and all of the text behind it is left. -/
theorem readDelimited_quoteWith
    {marks : Delimiters}
    {after : List Char}
    (other : after.head? ≠ some marks.closing)
    (name : String) :
    readDelimited marks ((quoteWith marks name).toList ++ after) = some (name, after) := by
  have shape :
      (quoteWith marks name).toList ++ after =
        marks.opening :: (Text.double marks.closing name.toList ++ marks.closing :: after) := by
    rw [quoteWith, String.toList_ofList]
    simp
  rw [shape, readDelimited, if_pos rfl, readName_double other, Option.map_some, Prod.map_apply,
    String.ofList_toList, id]

theorem length_of_readName
    {closing : Char}
    {text read after : List Char}
    (reading : readName closing text = some (read, after)) :
    after.length < text.length := by
  fun_induction readName closing text generalizing read with
  | case1 | case3 =>
      cases reading
  | case2 | case5 =>
      cases reading
      exact Nat.lt_succ_self _
  | case4 rest inductionHypothesis =>
      obtain ⟨⟨earlier, left⟩, later, shape⟩ := Option.map_eq_some_iff.mp reading
      cases shape
      exact Nat.lt_succ_of_lt (Nat.lt_succ_of_lt (inductionHypothesis later))
  | case6 c d rest notClosing inductionHypothesis =>
      obtain ⟨⟨earlier, left⟩, later, shape⟩ := Option.map_eq_some_iff.mp reading
      cases shape
      exact Nat.lt_succ_of_lt (inductionHypothesis later)

theorem length_of_readDelimited
    {marks : Delimiters}
    {text after : List Char}
    {name : String}
    (reading : readDelimited marks text = some (name, after)) :
    after.length < text.length := by
  unfold readDelimited at reading
  split at reading
  · cases reading
  · split at reading
    · obtain ⟨⟨read, left⟩, bodyRead, shape⟩ := Option.map_eq_some_iff.mp reading
      cases shape
      exact Nat.lt_succ_of_lt (length_of_readName bodyRead)
    · cases reading

/-! ## Lists of names -/

/-- What names with commas between them read, and what follows the last one. -/
def readNames (marks : Delimiters) (text : List Char) : Option (List String × List Char) :=
  match _reading : readDelimited marks text with
  | none => none
  | some (name, ',' :: ' ' :: rest) =>
      (readNames marks rest).map (Prod.map (name :: ·) id)
  | some (name, after) => some ([name], after)
termination_by text.length
decreasing_by
  have shorter := length_of_readDelimited _reading
  rw [List.length_cons, List.length_cons] at shorter
  omega

section Listed

variable
  {marks : Delimiters}
  {text : List Char}
  {name : String}

theorem readNames_cons
    {rest : List Char}
    (reading : readDelimited marks text = some (name, ',' :: ' ' :: rest)) :
    readNames marks text = (readNames marks rest).map (Prod.map (name :: ·) id) := by
  rw [readNames]
  split <;> simp_all

theorem readNames_last
    {after : List Char}
    (reading : readDelimited marks text = some (name, after))
    (ends : after.head? ≠ some ',') :
    readNames marks text = some ([name], after) := by
  rw [readNames]
  split
  · simp_all
  · rename_i rest here
    rw [reading] at here
    cases here
    exact absurd rfl ends
  · simp_all

end Listed

/-- No dialect closes its names with a comma. -/
theorem closing_ne_comma (dialect : Dialect) : (delimiters dialect).closing ≠ ',' := by
  cases dialect <;> decide

theorem quoteList_singleton
    (dialect : Dialect)
    (name : String) :
    quoteList dialect [name] = quote dialect name :=
  Text.join_singleton _ _

theorem quoteList_cons
    (dialect : Dialect)
    (name : String)
    {names : List String}
    (more : names ≠ []) :
    (quoteList dialect (name :: names)).toList =
      (quote dialect name).toList ++ ',' :: ' ' :: (quoteList dialect names).toList := by
  have moreQuoted : names.map (quote dialect) ≠ [] := by
    simpa using more
  rw [quoteList, List.map_cons, Text.toList_join_cons _ _ moreQuoted, List.append_assoc]
  rfl

section Dialects

variable
  {dialect : Dialect}
  {after : List Char}
  (other : after.head? ≠ some (delimiters dialect).closing)

include other

theorem readDelimited_quote
    (name : String) :
    readDelimited (delimiters dialect) ((quote dialect name).toList ++ after) =
      some (name, after) :=
  readDelimited_quoteWith other name

/-- A list of names is read back, and all of the text behind it is left. -/
theorem readNames_quoteList
    (noComma : after.head? ≠ some ',')
    {names : List String}
    (nonempty : names ≠ []) :
    readNames (delimiters dialect) ((quoteList dialect names).toList ++ after) =
      some (names, after) := by
  induction names with
  | nil =>
      exact absurd rfl nonempty
  | cons name names inductionHypothesis =>
      by_cases last : names = []
      · subst last
        rw [quoteList_singleton]
        exact readNames_last (readDelimited_quote other name) noComma
      · have comma :
            (',' :: ' ' :: ((quoteList dialect names).toList ++ after)).head? ≠
              some (delimiters dialect).closing :=
          fun same => closing_ne_comma dialect (Option.some.inj same).symm
        rw [quoteList_cons dialect name last, List.append_assoc, List.cons_append,
          List.cons_append, readNames_cons (readDelimited_quote comma name),
          inductionHypothesis last]
        rfl

/-- Texts that start with quoted names are equal when the names and the rests are. -/
theorem quote_append_inj
    {first second : String}
    {later : List Char}
    (alsoOther : later.head? ≠ some (delimiters dialect).closing)
    (same :
      (quote dialect first).toList ++ after = (quote dialect second).toList ++ later) :
    first = second ∧ after = later := by
  have reading := readDelimited_quote other first
  rw [same, readDelimited_quote alsoOther, Option.some.injEq, Prod.mk.injEq] at reading
  exact ⟨reading.1.symm, reading.2.symm⟩

theorem quoteList_append_inj
    (noComma : after.head? ≠ some ',')
    {first second : List String}
    (firstNonempty : first ≠ [])
    (secondNonempty : second ≠ [])
    {later : List Char}
    (alsoOther : later.head? ≠ some (delimiters dialect).closing)
    (alsoNoComma : later.head? ≠ some ',')
    (same :
      (quoteList dialect first).toList ++ after =
        (quoteList dialect second).toList ++ later) :
    first = second ∧ after = later := by
  have reading := readNames_quoteList other noComma firstNonempty
  rw [same, readNames_quoteList alsoOther alsoNoComma secondNonempty, Option.some.injEq,
    Prod.mk.injEq] at reading
  exact ⟨reading.1.symm, reading.2.symm⟩

end Dialects

/-- Quoted names are equal when the names are. -/
theorem quote_inj
    {dialect : Dialect}
    {first second : String} :
    quote dialect first = quote dialect second ↔ first = second := by
  constructor
  · intro same
    have ends : [].head? ≠ some (delimiters dialect).closing :=
      nofun
    have texts : (quote dialect first).toList ++ [] = (quote dialect second).toList ++ [] := by
      rw [same]
    exact (quote_append_inj ends ends texts).1
  · exact congrArg (quote dialect)

/-- A character that no name is closed with does not go on with a quotation. -/
theorem head?_ne_closing
    {c : Char}
    (plain : c = ' ' ∨ c = ')')
    (dialect : Dialect)
    (rest : List Char) :
    (c :: rest).head? ≠ some (delimiters dialect).closing := by
  have notClosing : c ≠ (delimiters dialect).closing := by
    rcases plain with rfl | rfl <;> cases dialect <;> decide
  exact fun same => notClosing (Option.some.inj same)

end Sql

namespace Statement

open Sql

/-! ## Statements that copy rows -/

/-- The text of a statement that copies rows, from its columns on. -/
def copiedPart (dialect : Dialect) (columns : List String) (source : String) : List Char :=
  (quoteList dialect columns).toList ++
    ')' :: (" SELECT ".toList ++
      ((quoteList dialect columns).toList ++ (" FROM ".toList ++ (quote dialect source).toList)))

theorem toList_render_copyRows
    (dialect : Dialect)
    (columns : List String)
    (source target : String) :
    (render dialect (.copyRows columns source target)).toList =
      "INSERT INTO ".toList ++
        ((quote dialect target).toList ++ ' ' :: '(' :: copiedPart dialect columns source) := by
  have text :
      render dialect (.copyRows columns source target) =
        "INSERT INTO " ++ quote dialect target ++
          (" (" ++ quoteList dialect columns ++ ") SELECT " ++ quoteList dialect columns ++
            " FROM ") ++ quote dialect source :=
    rfl
  have opening : " (".toList = [' ', '('] := by
    decide
  have between : ") SELECT ".toList = ')' :: " SELECT ".toList := by
    decide
  rw [text]
  simp only [copiedPart, String.toList_append, opening, between, List.append_assoc,
    List.cons_append, List.nil_append]

/-- The copied columns and the tables can be told from the statement that copies rows. -/
theorem copyRows_of_render_eq
    {dialect : Dialect}
    {first second : List String}
    {firstSource secondSource firstTarget secondTarget : String}
    (firstNonempty : first ≠ [])
    (secondNonempty : second ≠ [])
    (same :
      render dialect (.copyRows first firstSource firstTarget) =
        render dialect (.copyRows second secondSource secondTarget)) :
    first = second ∧ firstSource = secondSource ∧ firstTarget = secondTarget := by
  have sameText := congrArg String.toList same
  rw [toList_render_copyRows, toList_render_copyRows, List.append_cancel_left_eq] at sameText
  obtain ⟨targets, sameRest⟩ :=
    quote_append_inj (head?_ne_closing (.inl rfl) dialect _)
      (head?_ne_closing (.inl rfl) dialect _) sameText
  have sameParts : copiedPart dialect first firstSource = copiedPart dialect second secondSource :=
    (List.cons.inj (List.cons.inj sameRest).2).2
  obtain ⟨columns, sameEnd⟩ :=
    quoteList_append_inj (head?_ne_closing (.inr rfl) dialect _) (by simp) firstNonempty
      secondNonempty (head?_ne_closing (.inr rfl) dialect _) (by simp) sameParts
  subst columns
  rw [List.cons.injEq, List.append_cancel_left_eq, List.append_cancel_left_eq,
    List.append_cancel_left_eq, and_iff_right rfl,
    ← List.append_nil (quote dialect firstSource).toList,
    ← List.append_nil (quote dialect secondSource).toList] at sameEnd
  have sources := (quote_append_inj (by simp) (by simp) sameEnd).1
  exact ⟨rfl, sources, targets⟩

/--
Quoted names cannot be confused.

A quoted name is read back from in front of any text that does not go on with
its closing delimiter, and so is a list of them where no comma follows either.
A statement that copies rows is that of one list of columns and of one pair of
tables.
-/
theorem quoted_names_read_back (dialect : Dialect) :
    (∀ name after,
      after.head? ≠ some (delimiters dialect).closing →
        readDelimited (delimiters dialect) ((quote dialect name).toList ++ after) =
          some (name, after)) ∧
      (∀ names after,
        names ≠ [] →
          after.head? ≠ some (delimiters dialect).closing →
            after.head? ≠ some ',' →
              readNames (delimiters dialect) ((quoteList dialect names).toList ++ after) =
                some (names, after)) ∧
        ∀ first firstSource firstTarget second secondSource secondTarget,
          first ≠ [] →
            second ≠ [] →
              render dialect (.copyRows first firstSource firstTarget) =
                  render dialect (.copyRows second secondSource secondTarget) →
                first = second ∧ firstSource = secondSource ∧ firstTarget = secondTarget := by
  refine ⟨fun name _ other => readDelimited_quote other name, ?_, ?_⟩
  · intro names after nonempty other noComma
    exact readNames_quoteList other noComma nonempty
  · intro first firstSource firstTarget second secondSource secondTarget firstNonempty
      secondNonempty same
    exact copyRows_of_render_eq firstNonempty secondNonempty same

/-- Names that hold what names end with and what stands between them, one of them empty. -/
theorem bracketed_names_read_back :
    readDelimited (delimiters .mssql) "[a]]b] ([c])".toList = some ("a]b", " ([c])".toList) ∧
      readNames (delimiters .mssql) "[a]], [b], []".toList = some (["a], [b", ""], []) ∧
        render .mssql (.copyRows ["a], [b"] "runs" "saved") ≠
          render .mssql (.copyRows ["a", "b"] "runs" "saved") := by
  obtain ⟨oneName, manyNames, copies⟩ := quoted_names_read_back .mssql
  have name : "[a]]b] ([c])".toList = (quote .mssql "a]b").toList ++ " ([c])".toList := by
    decide
  have names : "[a]], [b], []".toList = (quoteList .mssql ["a], [b", ""]).toList ++ [] := by
    decide
  rw [name, names]
  refine ⟨oneName _ _ (by decide), manyNames _ _ (by decide) (by decide) (by decide), ?_⟩
  intro same
  have columns := (copies _ _ _ _ _ _ (by decide) (by decide) same).1
  exact absurd columns (by decide)

end Statement

end SchemaMigration
