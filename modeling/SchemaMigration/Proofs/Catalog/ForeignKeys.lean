import SchemaMigration.Database.Duckdb
import SchemaMigration.Proofs.Ledger.Segments
import SchemaMigration.Proofs.Name
import SchemaMigration.Proofs.Outcomes
import SchemaMigration.Schema.Blueprint
import SchemaMigration.Sql.Quoting

namespace SchemaMigration

/-!
# Foreign keys read back from the catalog

The catalog writes a foreign key with every name between quotes.  Reading cuts
the text at commas, parentheses, points and blanks without regard to the quotes,
and takes all quotes off the ends of a name.  So a foreign key is read back
exactly when none of its names has one of these where it would be cut.
-/

namespace Text

variable {drop : Char → Bool}

/-- Where nothing is dropped at either end, nothing is dropped. -/
theorem trimWhere_eq_self
    {list : List Char}
    (first : ∀ c ∈ list.head?, drop c = false)
    (last : ∀ c ∈ list.getLast?, drop c = false) :
    trimWhere drop list = list := by
  have keepsEnd
      {list : List Char}
      (first : ∀ c ∈ list.head?, drop c = false) :
      list.dropWhile drop = list := by
    cases list with
    | nil => rfl
    | cons c rest => rw [List.dropWhile_cons, first c rfl]; rfl
  rw [trimWhere, keepsEnd first, trimEndWhere, keepsEnd, List.reverse_reverse]
  rwa [List.head?_reverse]

theorem of_head?_dropWhile
    {list : List Char}
    {c : Char}
    (first : (list.dropWhile drop).head? = some c) :
    drop c = false := by
  have found := List.head?_dropWhile_not drop list
  rw [first] at found
  simpa using found

/-- Nothing that is dropped is left at the end. -/
theorem of_getLast?_trimWhere
    {list : List Char}
    {c : Char}
    (last : (trimWhere drop list).getLast? = some c) :
    drop c = false := by
  rw [trimWhere, trimEndWhere, List.getLast?_reverse] at last
  exact of_head?_dropWhile last

/-- Nothing that is dropped is left at the start. -/
theorem of_head?_trimWhere
    {list : List Char}
    {c : Char}
    (first : (trimWhere drop list).head? = some c) :
    drop c = false := by
  have isStart : trimWhere drop list <+: list.dropWhile drop := by
    rw [trimWhere, trimEndWhere, ← List.reverse_suffix, List.reverse_reverse]
    exact List.dropWhile_suffix drop
  obtain ⟨rest, shape⟩ := isStart
  apply of_head?_dropWhile
  rw [← shape, List.head?_append, first]
  rfl

theorem mem_of_mem_trimWhere
    {list : List Char}
    {c : Char}
    (member : c ∈ trimWhere drop list) :
    c ∈ list := by
  obtain ⟨before, after, shape, _, _⟩ := trimWhere_parts drop list
  rw [shape]
  exact List.mem_append_left _ (List.mem_append_right _ member)

/-- A list without separators is one piece. -/
theorem pieces_singleton
    {isSeparator : Char → Bool}
    {list : List Char}
    (whole : ∀ c ∈ list, isSeparator c = false) :
    pieces isSeparator list = [list] := by
  rw [pieces_eq_splitOnP, List.splitOnP_eq_singleton whole]

end Text

namespace KeyText

open Text (trimWhere pieces isBlank)

/-! ## Names -/

/-- Whether a text neither starts nor ends with a name quote. -/
structure BareEnds (text : List Char) : Prop where
  first : text.head? ≠ some nameQuote
  last : text.getLast? ≠ some nameQuote

theorem undouble_cons
    {c : Char}
    (notQuote : c ≠ nameQuote)
    (rest : List Char) :
    undouble (c :: rest) = c :: undouble rest := by
  rw [undouble]
  rintro later rfl
  exact absurd rfl notQuote

theorem undouble_double
    (name : List Char) :
    undouble (Text.double nameQuote name) = name := by
  induction name with
  | nil => rfl
  | cons c rest inductionHypothesis =>
      rw [Text.double, List.flatMap_cons]
      by_cases isQuote : c = nameQuote
      · subst isQuote
        rw [if_pos rfl]
        exact congrArg (nameQuote :: ·) inductionHypothesis
      · rw [if_neg isQuote, List.singleton_append, undouble_cons isQuote]
        exact congrArg (c :: ·) inductionHypothesis

theorem mem_of_mem_undouble
    {text : List Char}
    {c : Char}
    (member : c ∈ undouble text) :
    c ∈ text := by
  fun_induction undouble text with
  | case1 rest inductionHypothesis =>
      rcases List.mem_cons.mp member with rfl | later
      · exact List.mem_cons_self
      · exact List.mem_cons_of_mem _ (List.mem_cons_of_mem _ (inductionHypothesis later))
  | case2 d rest _ inductionHypothesis =>
      rcases List.mem_cons.mp member with rfl | later
      · exact List.mem_cons_self
      · exact List.mem_cons_of_mem _ (inductionHypothesis later)
  | case3 => exact member

theorem head?_undouble
    (text : List Char) :
    (undouble text).head? = text.head? := by
  fun_cases undouble text <;> rfl

theorem getLast?_undouble
    (text : List Char) :
    (undouble text).getLast? = text.getLast? := by
  fun_induction undouble text with
  | case1 rest inductionHypothesis =>
      rw [List.getLast?_cons, List.getLast?_cons, List.getLast?_cons, inductionHypothesis]
      rfl
  | case2 d rest _ inductionHypothesis =>
      rw [List.getLast?_cons, List.getLast?_cons, inductionHypothesis]
  | case3 => rfl

/-- A name without its quotes has no quote at an end, whatever it was cut from. -/
theorem bareEnds_unquote
    (piece : List Char) :
    BareEnds (unquote piece).toList := by
  rw [unquote, String.toList_ofList]
  constructor
  · rw [head?_undouble]
    intro quoted
    exact absurd (Text.of_head?_trimWhere quoted) (by decide)
  · rw [getLast?_undouble]
    intro quoted
    exact absurd (Text.of_getLast?_trimWhere quoted) (by decide)

theorem mem_of_mem_unquote
    {piece : List Char}
    {c : Char}
    (member : c ∈ (unquote piece).toList) :
    c ∈ piece := by
  rw [unquote, String.toList_ofList] at member
  exact Text.mem_of_mem_trimWhere (Text.mem_of_mem_trimWhere (mem_of_mem_undouble member))

theorem unquote_blank_cons
    {c : Char}
    (blank : isBlank c = true)
    (piece : List Char) :
    unquote (c :: piece) = unquote piece := by
  have dropped : ∀ d ∈ [c], isBlank d = true :=
    fun d member => List.mem_singleton.mp member ▸ blank
  rw [unquote, unquote, ← List.singleton_append, Text.trimWhere_append_left dropped]

/-- A quoted name. -/
def quoted (name : String) : List Char :=
  (Sql.quote .duckdb name).toList

theorem quoted_eq (name : String) :
    quoted name = nameQuote :: (Text.double nameQuote name.toList ++ [nameQuote]) :=
  String.toList_ofList

/-- Any character but a quote is in a quotation when it is in the name. -/
theorem mem_quoted_iff
    {c : Char}
    (notQuote : c ≠ nameQuote)
    (name : String) :
    c ∈ quoted name ↔ c ∈ name.toList := by
  have doubled : c ∈ Text.double nameQuote name.toList ↔ c ∈ name.toList := by
    rw [Text.double, List.mem_flatMap]
    constructor
    · rintro ⟨d, member, written⟩
      split at written
      · simp_all
      · rwa [List.mem_singleton.mp written]
    · intro member
      refine ⟨c, member, ?_⟩
      rw [if_neg notQuote]
      exact List.mem_singleton_self c
  rw [quoted_eq, List.mem_cons, List.mem_append, List.mem_singleton, doubled]
  simp [notQuote]

theorem head?_quoted (name : String) : (quoted name).head? = some nameQuote := by
  rw [quoted_eq]
  rfl

theorem getLast?_quoted (name : String) : (quoted name).getLast? = some nameQuote := by
  rw [quoted_eq, ← List.cons_append, List.getLast?_append]
  rfl

/-- Without a quote at its ends a name is what its quotation is read as. -/
theorem unquote_quoted
    {name : String}
    (bare : BareEnds name.toList) :
    unquote (quoted name) = name := by
  have notBlank : isBlank nameQuote = false := by
    decide
  have outer : trimWhere isBlank (quoted name) = quoted name := by
    apply Text.trimWhere_eq_self
    · rw [head?_quoted]
      rintro c ⟨⟩
      exact notBlank
    · rw [getLast?_quoted]
      rintro c ⟨⟩
      exact notBlank
  have isQuote : ∀ c ∈ [nameQuote], (c == nameQuote) = true :=
    fun c member => beq_iff_eq.mpr (List.mem_singleton.mp member)
  -- The doubled name starts and ends with the characters of the name.
  have inner :
      trimWhere (· == nameQuote) (Text.double nameQuote name.toList) =
        Text.double nameQuote name.toList := by
    apply Text.trimWhere_eq_self
    · intro c first
      rw [← head?_undouble, undouble_double] at first
      rw [beq_eq_false_iff_ne]
      rintro rfl
      exact bare.first first
    · intro c last
      rw [← getLast?_undouble, undouble_double] at last
      rw [beq_eq_false_iff_ne]
      rintro rfl
      exact bare.last last
  rw [unquote, outer, quoted_eq, ← List.singleton_append, Text.trimWhere_append_left isQuote,
    Text.trimWhere_append_right isQuote, inner, undouble_double, String.ofList_toList]

/-! ## Lists of names -/

/-- Whether a name in a list is read back from its quotation. -/
structure ReadsInList (name : String) : Prop where
  bare : BareEnds name.toList
  noComma : ',' ∉ name.toList
  noClosing : ')' ∉ name.toList

/-- Quoted names with commas between them. -/
def quotedList (names : List String) : List Char :=
  (Sql.quoteList .duckdb names).toList

theorem quotedList_singleton (name : String) : quotedList [name] = quoted name := by
  rw [quotedList, Sql.quoteList, List.map_singleton, Text.join_singleton, quoted]

theorem quotedList_cons
    (name : String)
    {names : List String}
    (more : names ≠ []) :
    quotedList (name :: names) = quoted name ++ ',' :: ' ' :: quotedList names := by
  have moreQuoted : names.map (Sql.quote .duckdb) ≠ [] := by
    simpa using more
  rw [quotedList, Sql.quoteList, List.map_cons, Text.toList_join_cons _ _ moreQuoted,
    List.append_assoc]
  rfl

theorem map_unquote_blank_cons
    (list : List Char) :
    (pieces (· == ',') (' ' :: list)).map unquote = (pieces (· == ',') list).map unquote := by
  have blank : isBlank ' ' = true := by
    decide
  rw [pieces, if_neg (by decide)]
  cases shape : pieces (· == ',') list with
  | nil =>
      rw [Text.pieces_eq_splitOnP] at shape
      exact absurd shape (List.splitOnP_ne_nil _ _)
  | cons piece later => rw [List.map_cons, List.map_cons, unquote_blank_cons blank]

/-- Names that are read back one by one are read back from their list. -/
theorem splitNames_quotedList
    {names : List String}
    (nonempty : names ≠ [])
    (named : "" ∉ names)
    (readable : ∀ name ∈ names, ReadsInList name) :
    splitNames (quotedList names) = names := by
  have unquoted : (pieces (· == ',') (quotedList names)).map unquote = names := by
    induction names with
    | nil => exact absurd rfl nonempty
    | cons name rest inductionHypothesis =>
        have here : ReadsInList name :=
          readable name List.mem_cons_self
        have whole : ∀ c ∈ quoted name, (c == ',') = false := by
          intro c member
          rw [beq_eq_false_iff_ne]
          rintro rfl
          exact here.noComma ((mem_quoted_iff (by decide) name).mp member)
        by_cases last : rest = []
        · subst last
          rw [quotedList_singleton, Text.pieces_singleton whole, List.map_singleton,
            unquote_quoted here.bare]
        · have later :=
            inductionHypothesis last (fun member => named (List.mem_cons_of_mem _ member))
              (fun other member => readable other (List.mem_cons_of_mem _ member))
          have parted :
              pieces (· == ',') (quoted name ++ ',' :: ' ' :: quotedList rest) =
                pieces (· == ',') (quoted name) ++ pieces (· == ',') (' ' :: quotedList rest) := by
            apply Text.pieces_append_separator
            exact beq_self_eq_true ','
          rw [quotedList_cons name last, parted, Text.pieces_singleton whole, List.map_append,
            map_unquote_blank_cons, later, List.map_singleton, unquote_quoted here.bare]
          rfl
  rw [splitNames, unquoted, List.filter_eq_self]
  intro name member
  rw [bne_iff_ne]
  rintro rfl
  exact named member

/-- What is read from a list has no comma, and its quotes are not at its ends. -/
theorem of_mem_splitNames
    {list : List Char}
    {name : String}
    (member : name ∈ splitNames list) :
    BareEnds name.toList ∧ ',' ∉ name.toList ∧ ∀ c ∈ name.toList, c ∈ list := by
  rw [splitNames, List.mem_filter, List.mem_map] at member
  obtain ⟨⟨piece, isPiece, rfl⟩, _⟩ := member
  refine ⟨bareEnds_unquote piece, ?_, ?_⟩
  · intro comma
    have noComma := (Text.of_mem_pieces isPiece ',' (mem_of_mem_unquote comma)).2
    exact absurd noComma (by decide)
  · intro c within
    exact (Text.of_mem_pieces isPiece c (mem_of_mem_unquote within)).1

/-! ## The clause -/

/-- What the parts of a clause are free of, wherever the clause was found. -/
structure Clause.Cut (clause : Clause) : Prop where
  columns : ')' ∉ clause.columns
  table : ∀ c ∈ clause.table, inTableName c = true
  refColumns : ')' ∉ clause.refColumns

theorem not_mem_of_parenthesised?
    {text inside later : List Char}
    (found : parenthesised? text = some (inside, later)) :
    ')' ∉ inside := by
  unfold parenthesised? at found
  split at found
  · split at found
    · cases found
      intro member
      have notClosing := List.mem_takeWhile_imp member
      exact absurd notClosing (by decide)
    · cases found
  · cases found

theorem cut_of_clauseAt?
    {text : List Char}
    {clause : Clause}
    (found : clauseAt? text = some clause) :
    clause.Cut := by
  simp only [clauseAt?, Option.bind_eq_bind, Option.bind_eq_some_iff] at found
  obtain ⟨_, _, _, _, _, _, ⟨columns, _⟩, inColumns, _, _, rest, _, ⟨refColumns, _⟩, inRefColumns,
    shape⟩ := found
  split at shape
  · cases shape
  · cases shape
    exact ⟨not_mem_of_parenthesised? inColumns,
      fun c member => List.mem_takeWhile_imp member,
      not_mem_of_parenthesised? inRefColumns⟩

theorem cut_of_clause?
    {text : List Char}
    {clause : Clause}
    (found : clause? text = some clause) :
    clause.Cut := by
  induction text with
  | nil => cases found
  | cons c rest inductionHypothesis =>
      rw [clause?] at found
      split at found
      · rename_i here
        cases found
        exact cut_of_clauseAt? here
      · exact inductionHypothesis found

/-- Parentheses end at the first closing one. -/
theorem parenthesised?_of_closed
    {text inside later : List Char}
    (opening : text.dropWhile isBlank = '(' :: (inside ++ ')' :: later))
    (closed : ')' ∉ inside) :
    parenthesised? text = some (inside, later) := by
  have passes : ∀ c ∈ inside, (c != ')') = true := by
    intro c member
    rw [bne_iff_ne]
    rintro rfl
    exact closed member
  have behind : (inside ++ ')' :: later).dropWhile (· != ')') = ')' :: later := by
    rw [List.dropWhile_append_of_pos passes]
    rfl
  have within : (inside ++ ')' :: later).takeWhile (· != ')') = inside := by
    rw [List.takeWhile_append_of_pos passes]
    simp
  unfold parenthesised?
  rw [opening]
  simp only [behind, within]

/-- Whether the name of a table is read back from its quotation. -/
structure ReadsAsTable (name : String) : Prop where
  bare : BareEnds name.toList
  noPoint : '.' ∉ name.toList
  noOpening : '(' ∉ name.toList
  noBlank : ∀ c ∈ name.toList, isBlank c = false

theorem afterKeyword?_append
    {written keyword : List Char}
    (same : written.map keywordForm = keyword)
    (rest : List Char) :
    afterKeyword? keyword (written ++ rest) = some rest := by
  subst same
  induction written with
  | nil => rfl
  | cons c later inductionHypothesis =>
      rw [List.map_cons, List.cons_append, afterKeyword?, if_pos rfl, inductionHypothesis]

/-! ## References -/

/-- What a foreign key refers from and to. -/
structure Reference where
  columns : List String
  table : String
  refColumns : List String
  deriving DecidableEq

namespace Reference

/-- A reference as the catalog writes it. -/
def text (reference : Reference) : String :=
  "FOREIGN KEY (" ++ Sql.quoteList .duckdb reference.columns ++ ") REFERENCES " ++
    Sql.quote .duckdb reference.table ++ "(" ++ Sql.quoteList .duckdb reference.refColumns ++ ")"

/-- The foreign key that is known when a reference is read back. -/
def live (reference : Reference) : LiveForeignKey :=
  ⟨none, reference.columns, reference.table, reference.refColumns, none, none⟩

/-- Whether there are columns on both sides, and each has a name. -/
structure Named (reference : Reference) : Prop where
  columns : reference.columns ≠ []
  columnNames : "" ∉ reference.columns
  refColumns : reference.refColumns ≠ []
  refColumnNames : "" ∉ reference.refColumns

/-- Whether all names of a reference are read back. -/
structure Readable (reference : Reference) : Prop where
  columns : ∀ name ∈ reference.columns, ReadsInList name
  table : ReadsAsTable reference.table
  refColumns : ∀ name ∈ reference.refColumns, ReadsInList name

/-- The clause that a reference is written as. -/
def clause (reference : Reference) : Clause :=
  ⟨quotedList reference.columns, quoted reference.table, quotedList reference.refColumns⟩

end Reference

/-- What separates and quotes the names of a list apart, a list has nothing that no name has. -/
theorem not_mem_quotedList
    {c : Char}
    {names : List String}
    (notQuote : c ≠ nameQuote)
    (notComma : c ≠ ',')
    (notSpace : c ≠ ' ')
    (absent : ∀ name ∈ names, c ∉ name.toList) :
    c ∉ quotedList names := by
  induction names with
  | nil => simp [quotedList, Sql.quoteList, Text.join]
  | cons name rest inductionHypothesis =>
      have here : c ∉ quoted name := by
        rw [mem_quoted_iff notQuote]
        exact absent name List.mem_cons_self
      by_cases last : rest = []
      · subst last
        rw [quotedList_singleton]
        exact here
      · have later : c ∉ quotedList rest :=
          inductionHypothesis (fun other member => absent other (List.mem_cons_of_mem _ member))
        rw [quotedList_cons name last]
        simp [here, later, notComma, notSpace]

theorem closing_not_mem_quotedList
    {names : List String}
    (readable : ∀ name ∈ names, ReadsInList name) :
    ')' ∉ quotedList names :=
  not_mem_quotedList (by decide) (by decide) (by decide)
    (fun name member => (readable name member).noClosing)

theorem isBlank_space : isBlank ' ' = true := by
  decide

theorem dropWhile_space_cons
    {c : Char}
    (solid : isBlank c = false)
    (rest : List Char) :
    (' ' :: c :: rest).dropWhile isBlank = c :: rest := by
  rw [List.dropWhile_cons, if_pos isBlank_space, List.dropWhile_cons, if_neg (by simp [solid])]

theorem afterBlanks?_space_cons
    {c : Char}
    (solid : isBlank c = false)
    (rest : List Char) :
    afterBlanks? (' ' :: c :: rest) = some (c :: rest) := by
  rw [afterBlanks?, if_pos isBlank_space, List.dropWhile_cons, if_neg (by simp [solid])]

/-- The name of a table goes up to the parenthesis behind it. -/
theorem span_table
    {name : String}
    (readable : ReadsAsTable name)
    (rest : List Char) :
    (quoted name ++ '(' :: rest).takeWhile inTableName = quoted name ∧
      (quoted name ++ '(' :: rest).dropWhile inTableName = '(' :: rest := by
  have within : ∀ c ∈ quoted name, inTableName c = true := by
    intro c member
    by_cases isQuote : c = nameQuote
    · subst isQuote
      decide
    · have inName : c ∈ name.toList := (mem_quoted_iff isQuote name).mp member
      have notOpening : c ≠ '(' := by
        rintro rfl
        exact readable.noOpening inName
      rw [inTableName, readable.noBlank c inName]
      simpa using notOpening
  rw [List.takeWhile_append_of_pos within, List.dropWhile_append_of_pos within]
  simp [inTableName]

/-- The first keyword of a clause. -/
def foreignWord : List Char :=
  "FOREIGN".toList

/-- The keyword before the columns of a clause. -/
def keyWord : List Char :=
  "KEY".toList

/-- The keyword before the referenced table of a clause. -/
def referencesWord : List Char :=
  "REFERENCES".toList

/-- The text of a reference from the referenced columns on. -/
def refPart (reference : Reference) : List Char :=
  '(' :: (quotedList reference.refColumns ++ [')'])

/-- The text of a reference from the referenced table on. -/
def tablePart (reference : Reference) : List Char :=
  quoted reference.table ++ refPart reference

/-- The text of a reference from the second keyword on. -/
def referencesPart (reference : Reference) : List Char :=
  referencesWord ++ ' ' :: tablePart reference

/-- The text of a reference from its columns on. -/
def columnPart (reference : Reference) : List Char :=
  '(' :: (quotedList reference.columns ++ ')' :: ' ' :: referencesPart reference)

theorem toList_text (reference : Reference) :
    reference.text.toList = foreignWord ++ ' ' :: (keyWord ++ ' ' :: columnPart reference) := by
  have opening : "FOREIGN KEY (".toList = foreignWord ++ ' ' :: (keyWord ++ [' ', '(']) := by
    decide
  have between : ") REFERENCES ".toList = ')' :: ' ' :: (referencesWord ++ [' ']) := by
    decide
  have parenthesis : "(".toList = ['('] := by
    decide
  have closing : ")".toList = [')'] := by
    decide
  unfold Reference.text
  simp only [String.toList_append]
  rw [opening, between, parenthesis, closing]
  simp only [columnPart, referencesPart, tablePart, refPart, quotedList, quoted,
    List.append_assoc, List.cons_append, List.nil_append]

/-- A reference whose names are readable is the clause that its text starts with. -/
theorem clauseAt?_text
    {reference : Reference}
    (readable : reference.Readable) :
    clauseAt? reference.text.toList = some reference.clause := by
  have foreignFirst (rest : List Char) :
      afterKeyword? "foreign".toList (foreignWord ++ rest) = some rest :=
    afterKeyword?_append (by decide) rest
  have keyFirst (rest : List Char) :
      afterKeyword? "key".toList (keyWord ++ rest) = some rest :=
    afterKeyword?_append (by decide) rest
  have referencesFirst (rest : List Char) :
      afterKeyword? "references".toList (referencesWord ++ rest) = some rest :=
    afterKeyword?_append (by decide) rest
  have beforeKey :
      afterBlanks? (' ' :: (keyWord ++ ' ' :: columnPart reference)) =
        some (keyWord ++ ' ' :: columnPart reference) :=
    afterBlanks?_space_cons (by decide) _
  have inColumns :
      parenthesised? (' ' :: columnPart reference) =
        some (quotedList reference.columns, ' ' :: referencesPart reference) :=
    parenthesised?_of_closed (dropWhile_space_cons (by decide) _)
      (closing_not_mem_quotedList readable.columns)
  have beforeReferences :
      (' ' :: referencesPart reference).dropWhile isBlank = referencesPart reference :=
    dropWhile_space_cons (by decide) _
  have beforeTable :
      afterBlanks? (' ' :: tablePart reference) = some (tablePart reference) := by
    rw [tablePart, quoted_eq, List.cons_append]
    exact afterBlanks?_space_cons (by decide) _
  have tableSpan :
      (tablePart reference).takeWhile inTableName = quoted reference.table ∧
        (tablePart reference).dropWhile inTableName = refPart reference :=
    span_table readable.table _
  have inRefColumns :
      parenthesised? (refPart reference) = some (quotedList reference.refColumns, []) := by
    apply parenthesised?_of_closed
    · rw [refPart, List.dropWhile_cons, if_neg (by decide)]
    · exact closing_not_mem_quotedList readable.refColumns
  have tableNonempty : (quoted reference.table).isEmpty = false := by
    rw [quoted_eq]
    rfl
  rw [toList_text, clauseAt?]
  simp only [foreignFirst, keyFirst, Option.bind_eq_bind, Option.bind_some, beforeKey, inColumns,
    beforeReferences]
  rw [referencesPart, referencesFirst, Option.bind_some, beforeTable, Option.bind_some,
    tableSpan.1, tableSpan.2, inRefColumns, Option.bind_some, tableNonempty]
  rfl

theorem clause?_of_clauseAt?
    {text : List Char}
    {clause : Clause}
    (here : clauseAt? text = some clause) :
    clause? text = some clause := by
  cases text with
  | nil => cases here
  | cons c rest => rw [clause?, here]

/-- What is read as the referenced table has nothing in it that tables are cut at. -/
theorem readsAsTable_unquote
    {written : List Char}
    (cut : ∀ c ∈ written, inTableName c = true) :
    ReadsAsTable (unquote ((pieces (· == '.') written).getLast?.getD [])) := by
  have within :
      ∀ c ∈ (pieces (· == '.') written).getLast?.getD [],
        inTableName c = true ∧ c ≠ '.' := by
    intro c member
    cases last : (pieces (· == '.') written).getLast? with
    | none =>
        rw [last] at member
        cases member
    | some piece =>
        rw [last] at member
        obtain ⟨inWritten, noPoint⟩ :=
          Text.of_mem_pieces (List.mem_of_getLast? last) c member
        exact ⟨cut c inWritten, by simpa using noPoint⟩
  constructor
  · exact bareEnds_unquote _
  · intro point
    exact (within '.' (mem_of_mem_unquote point)).2 rfl
  · intro parenthesis
    have opens := (within '(' (mem_of_mem_unquote parenthesis)).1
    exact absurd opens (by decide)
  · intro c member
    have inName := (within c (mem_of_mem_unquote member)).1
    simp only [inTableName, Bool.and_eq_true, Bool.not_eq_true'] at inName
    exact inName.1

/-- What is read as names in parentheses has nothing in it that lists are cut at. -/
theorem readsInList_of_mem_splitNames
    {list : List Char}
    {name : String}
    (closed : ')' ∉ list)
    (member : name ∈ splitNames list) :
    ReadsInList name := by
  obtain ⟨bare, noComma, within⟩ := of_mem_splitNames member
  exact ⟨bare, noComma, fun closing => closed (within ')' closing)⟩

/-- The columns of a foreign key that was read are not empty, and come from a clause. -/
theorem clause_of_foreignKey?
    {text : String}
    {key : LiveForeignKey}
    (found : foreignKey? text = some key) :
    ∃ clause : Clause,
      clause.Cut ∧
        key.columns = splitNames clause.columns ∧
          key.refTable = unquote ((pieces (· == '.') clause.table).getLast?.getD []) ∧
            key.refColumns = splitNames clause.refColumns := by
  unfold foreignKey? at found
  split at found
  · cases found
  · rename_i clause isClause
    dsimp only at found
    split at found
    · cases found
    · cases found
      exact ⟨clause, cut_of_clause? isClause, rfl, rfl, rfl⟩

/-- A table without a point is all of its written name. -/
theorem unquote_table
    {name : String}
    (readable : ReadsAsTable name) :
    unquote ((pieces (· == '.') (quoted name)).getLast?.getD []) = name := by
  have whole : ∀ c ∈ quoted name, (c == '.') = false := by
    intro c member
    rw [beq_eq_false_iff_ne]
    rintro rfl
    exact readable.noPoint ((mem_quoted_iff (by decide) name).mp member)
  rw [Text.pieces_singleton whole]
  exact unquote_quoted readable.bare

/-- A reference is read back from its text exactly when all of its names are readable. -/
theorem foreignKey?_text_iff
    {reference : Reference}
    (named : reference.Named) :
    foreignKey? reference.text = some reference.live ↔ reference.Readable := by
  constructor
  · intro found
    obtain ⟨clause, cut, columns, table, refColumns⟩ := clause_of_foreignKey? found
    constructor
    · intro name member
      apply readsInList_of_mem_splitNames cut.columns
      rw [← columns]
      exact member
    · have isTable := readsAsTable_unquote cut.table
      rw [← table] at isTable
      exact isTable
    · intro name member
      apply readsInList_of_mem_splitNames cut.refColumns
      rw [← refColumns]
      exact member
  · intro readable
    have columns : splitNames (quotedList reference.columns) = reference.columns :=
      splitNames_quotedList named.columns named.columnNames readable.columns
    have refColumns : splitNames (quotedList reference.refColumns) = reference.refColumns :=
      splitNames_quotedList named.refColumns named.refColumnNames readable.refColumns
    have bothNamed :
        (reference.columns.isEmpty || reference.refColumns.isEmpty) = false := by
      simpa using ⟨named.columns, named.refColumns⟩
    rw [foreignKey?, clause?_of_clauseAt? (clauseAt?_text readable)]
    simp only [Reference.clause, columns, refColumns, bothNamed, unquote_table readable.table]
    rfl

end KeyText

namespace Duckdb

open KeyText

/-! ## The catalog -/

/-- Nothing is left out or changed on the way through a list when no item is. -/
theorem filterMap_eq_map_iff
    {read : α → Option β}
    {value : α → β}
    {items : List α} :
    items.filterMap read = items.map value ↔ ∀ item ∈ items, read item = some (value item) := by
  induction items with
  | nil => simp
  | cons item rest inductionHypothesis =>
      rw [List.forall_mem_cons, ← inductionHypothesis]
      cases found : read item with
      | none =>
          have shorter : (rest.filterMap read).length ≤ rest.length :=
            List.length_filterMap_le _ _
          have different : (item :: rest).filterMap read ≠ (item :: rest).map value := by
            intro same
            rw [List.filterMap_cons_none found] at same
            rw [same, List.length_map, List.length_cons] at shorter
            exact absurd shorter (Nat.not_succ_le_self _)
          exact iff_of_false different (fun both => nomatch both.1)
      | some here =>
          rw [List.filterMap_cons_some found, List.map_cons, List.cons.injEq, Option.some.injEq]

variable {σ : Type}

theorem outcome_foreignKeys
    {engine : Engine σ}
    {state : σ}
    {table : String}
    {written : List String}
    (answered : engine.ask state .foreignKeys table = .ok (written.map fun text => [.text text])) :
    ((introspect engine state).foreignKeys table).outcome =
      .ok (written.filterMap foreignKey?) := by
  have textRead (text : String) :
      (Traced.ofExcept (textAt [.text text] 0)).outcome = .ok text :=
    rfl
  have eachRead :
      (Traced.each (fun row => Traced.ofExcept (textAt row 0))
        (written.map fun text => [.text text])).outcome = .ok written := by
    rw [Traced.outcome_each_eq_ok, List.forall₂_map_left_iff, List.forall₂_same]
    exact fun text _ => textRead text
  have allRead : (texts engine state .foreignKeys table).outcome = .ok written := by
    rw [texts, rows, Traced.outcome_mapError, Outcome.mapError_eq_ok, Traced.outcome_bind_eq_ok]
    exact ⟨_, answered, eachRead⟩
  exact Traced.outcome_bind_eq_ok.mpr ⟨written, allRead, rfl⟩

/--
A reference is read back from what the catalog writes exactly when its names are
readable, and a table has all of its foreign keys, none changed, exactly when
the names of all of them are.
-/
theorem foreign_keys_read_back_iff
    {engine : Engine σ}
    {state : σ}
    {table : String}
    {references : List Reference}
    (named : ∀ reference ∈ references, reference.Named)
    (answered :
      engine.ask state .foreignKeys table =
        .ok (references.map fun reference => [.text reference.text])) :
    (∀ reference ∈ references,
        (foreignKey? reference.text = some reference.live ↔ reference.Readable)) ∧
      (((introspect engine state).foreignKeys table).outcome =
          .ok (references.map Reference.live) ↔
        ∀ reference ∈ references, reference.Readable) := by
  have written :
      engine.ask state .foreignKeys table =
        .ok ((references.map Reference.text).map fun text => [.text text]) := by
    rw [answered, List.map_map]
    rfl
  have each :
      ∀ reference ∈ references,
        (foreignKey? reference.text = some reference.live ↔ reference.Readable) :=
    fun reference member => foreignKey?_text_iff (named reference member)
  refine ⟨each, ?_⟩
  rw [outcome_foreignKeys written, Except.ok.injEq, List.filterMap_map, filterMap_eq_map_iff]
  exact forall₂_congr each

/-- A database that answers every question with the same constraints. -/
def constrained (references : List Reference) : Engine Unit where
  openAt := fun _ _ => .ok ()
  reopen := fun _ => .ok ()
  ask := fun _ _ _ => .ok (references.map fun reference => [.text reference.text])
  number := fun _ _ => .ok 0
  execute := fun _ _ => .ok (0, ())

/-- A foreign key with a blank, a parenthesis and a quote in the names of its columns. -/
def spacedReference : Reference :=
  ⟨["run (id", "no\x22te"], "people", ["id", "the note"]⟩

theorem spacedReference_readable : spacedReference.Readable := by
  have unblanked : ∀ c ∈ "people".toList, Text.isBlank c = false := by
    have whole : ("people".toList.all fun c => !Text.isBlank c) = true := by
      decide
    simpa using whole
  constructor
  · intro name member
    rcases List.mem_pair.mp member with rfl | rfl
    · exact ⟨⟨by decide, by decide⟩, by decide, by decide⟩
    · exact ⟨⟨by decide, by decide⟩, by decide, by decide⟩
  · exact ⟨⟨by decide, by decide⟩, by decide, by decide, unblanked⟩
  · intro name member
    rcases List.mem_pair.mp member with rfl | rfl
    · exact ⟨⟨by decide, by decide⟩, by decide, by decide⟩
    · exact ⟨⟨by decide, by decide⟩, by decide, by decide⟩

theorem spaced_columns_read_back :
    spacedReference.Named ∧
      ((introspect (constrained [spacedReference]) ()).foreignKeys "runs").outcome =
        .ok [spacedReference.live] := by
  have named : spacedReference.Named :=
    ⟨by decide, by decide, by decide, by decide⟩
  have answered :
      (constrained [spacedReference]).ask () .foreignKeys "runs" =
        .ok ([spacedReference].map fun reference => [.text reference.text]) :=
    rfl
  have onlyThis
      {holds : Reference → Prop}
      (here : holds spacedReference) :
      ∀ reference ∈ [spacedReference], holds reference :=
    List.forall_mem_singleton.mpr here
  refine ⟨named, ?_⟩
  apply (foreign_keys_read_back_iff (onlyThis named) answered).2.mpr
  exact onlyThis spacedReference_readable

/-- A foreign key to a table with a blank in its name. -/
def blankedReference : Reference :=
  ⟨["owner"], "my runs", ["id"]⟩

/-- The blank in the name of the referenced table hides the foreign key. -/
theorem reference_to_blanked_table_lost :
    blankedReference.Named ∧
      tableNameFlaw? blankedReference.table = none ∧
        ((introspect (constrained [blankedReference]) ()).foreignKeys "runs").outcome = .ok [] := by
  refine ⟨⟨by decide, by decide, by decide, by decide⟩, by decide, ?_⟩
  have unread : foreignKey? blankedReference.text = none := by
    decide
  have answered :
      (constrained [blankedReference]).ask () .foreignKeys "runs" =
        .ok ([blankedReference.text].map fun text => [.text text]) :=
    rfl
  rw [outcome_foreignKeys answered, List.filterMap_cons_none unread]
  rfl

end Duckdb

end SchemaMigration
