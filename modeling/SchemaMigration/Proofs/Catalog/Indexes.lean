import SchemaMigration.Proofs.Catalog.ForeignKeys
import SchemaMigration.Schema.Statement

namespace SchemaMigration.KeyText

/-!
# Indexes read back from their statements

The catalog keeps the statement that made an index, and the columns are what
stands between the parentheses that end it.  The statement is searched from its
end, so the names of the index and of the table, which come first, may hold
anything.  A name of a column may not hold what a list is cut at.
-/

open Text (isBlank)

/-! ## The end of a statement -/

/-- What may follow a statement: blanks, and one semicolon before or among them. -/
inductive Ending : List Char → Prop
  | blanks {ending : List Char}
      (blank : ∀ c ∈ ending, isBlank c = true) :
      Ending ending
  | semicolon {before after : List Char}
      (blankBefore : ∀ c ∈ before, isBlank c = true)
      (blankAfter : ∀ c ∈ after, isBlank c = true) :
      Ending (before ++ ';' :: after)

theorem dropWhile_reverse_append
    {blanks : List Char}
    (blank : ∀ c ∈ blanks, isBlank c = true)
    {c : Char}
    (solid : isBlank c = false)
    (rest : List Char) :
    (blanks.reverse ++ c :: rest).dropWhile isBlank = c :: rest := by
  have allBlank : ∀ d ∈ blanks.reverse, isBlank d = true :=
    fun d member => blank d (List.mem_reverse.mp member)
  rw [List.dropWhile_append_of_pos allBlank, List.dropWhile_cons, solid]
  rfl

/-- From its end, a statement is read up to the parenthesis before the ending. -/
theorem beforeEnd_reverse
    {ending : List Char}
    (ends : Ending ending)
    (front : List Char) :
    beforeEnd (front ++ ')' :: ending).reverse = ')' :: front.reverse := by
  have backwards (tail : List Char) :
      (front ++ ')' :: tail).reverse = tail.reverse ++ ')' :: front.reverse := by
    simp
  cases ends with
  | blanks blank =>
      rw [backwards, beforeEnd, dropWhile_reverse_append blank (by decide)]
      rfl
  | @semicolon before after blankBefore blankAfter =>
      have split :
          (before ++ ';' :: after).reverse ++ ')' :: front.reverse =
            after.reverse ++ ';' :: (before.reverse ++ ')' :: front.reverse) := by
        simp
      rw [backwards, split, beforeEnd, dropWhile_reverse_append blankAfter (by decide)]
      exact dropWhile_reverse_append blankBefore (by decide) _

/-! ## Columns -/

/-- Whether the name of a column is read back from the statement of an index. -/
structure ReadsInIndex (name : String) : Prop extends ReadsInList name where
  named : name ≠ ""
  noOpening : '(' ∉ name.toList

/-- A list of readable names has no parenthesis. -/
theorem flat_quotedList
    {names : List String}
    (readable : ∀ name ∈ names, ReadsInIndex name) :
    ∀ c ∈ quotedList names, isParenthesis c = false := by
  have noOpening : '(' ∉ quotedList names :=
    not_mem_quotedList (by decide) (by decide) (by decide)
      (fun name member => (readable name member).noOpening)
  have noClosing : ')' ∉ quotedList names :=
    closing_not_mem_quotedList (fun name member => (readable name member).toReadsInList)
  intro c member
  rw [isParenthesis, Bool.or_eq_false_iff, beq_eq_false_iff_ne, beq_eq_false_iff_ne]
  exact ⟨ne_of_mem_of_not_mem member noOpening, ne_of_mem_of_not_mem member noClosing⟩

theorem splitNames_of_readable
    {names : List String}
    (readable : ∀ name ∈ names, ReadsInIndex name) :
    splitNames (quotedList names) = names := by
  by_cases empty : names = []
  · subst empty
    decide
  · exact splitNames_quotedList empty (fun member => (readable "" member).named rfl)
      (fun name member => (readable name member).toReadsInList)

/-- The columns are what the last parentheses hold, whatever stands before them. -/
theorem indexColumns_of_last
    {statement : String}
    {front listed ending : List Char}
    (shape : statement.toList = front ++ '(' :: (listed ++ ')' :: ending))
    (flat : ∀ c ∈ listed, isParenthesis c = false)
    (ends : Ending ending) :
    indexColumns statement = splitNames listed := by
  have passes : ∀ c ∈ listed.reverse, (!isParenthesis c) = true := by
    intro c member
    rw [flat c (List.mem_reverse.mp member)]
    rfl
  have backwards :
      beforeEnd statement.toList.reverse = ')' :: (listed.reverse ++ '(' :: front.reverse) := by
    have grouped :
        statement.toList = (front ++ '(' :: listed) ++ ')' :: ending := by
      rw [shape]
      simp
    rw [grouped, beforeEnd_reverse ends]
    simp
  have stops : (!isParenthesis '(') = false := by
    decide
  have behind :
      (listed.reverse ++ '(' :: front.reverse).dropWhile (fun c => !isParenthesis c) =
        '(' :: front.reverse := by
    rw [List.dropWhile_append_of_pos passes, List.dropWhile_cons, stops]
    rfl
  have within :
      (listed.reverse ++ '(' :: front.reverse).takeWhile (fun c => !isParenthesis c) =
        listed.reverse := by
    rw [List.takeWhile_append_of_pos passes, List.takeWhile_cons, stops]
    simp
  unfold indexColumns
  rw [backwards]
  simp only [behind, within, List.reverse_reverse]

/-- Whatever the statement, what is read from it is a name that can be read. -/
theorem readsInIndex_of_mem_indexColumns
    {statement name : String}
    (member : name ∈ indexColumns statement) :
    ReadsInIndex name := by
  unfold indexColumns at member
  split at member
  · rename_i rest _
    split at member
    · have flat :
          ∀ c ∈ (rest.takeWhile (fun c => !isParenthesis c)).reverse, isParenthesis c = false := by
        intro c within
        simpa using List.mem_takeWhile_imp (List.mem_reverse.mp within)
      have notEmpty : name ≠ "" := by
        rw [splitNames, List.mem_filter] at member
        simpa using member.2
      obtain ⟨bare, noComma, within⟩ := of_mem_splitNames member
      have absent (c : Char) (isOne : isParenthesis c = true) : c ∉ name.toList := by
        intro here
        rw [flat c (within c here)] at isOne
        cases isOne
      exact ⟨⟨bare, noComma, absent ')' (by decide)⟩, notEmpty, absent '(' (by decide)⟩
    · cases member
  · cases member

/-- The statement that makes an index, up to its columns. -/
def indexHead (table name : String) (unique : Bool) : String :=
  "CREATE " ++ (if unique then "UNIQUE " else "") ++ "INDEX " ++ Sql.quote .duckdb name ++
    " ON " ++ Sql.quote .duckdb table

theorem render_createIndex
    (table name : String)
    (columns : List String)
    (unique : Bool) :
    (Statement.createIndex table name columns unique).render .duckdb =
      indexHead table name unique ++ (" (" ++ Sql.quoteList .duckdb columns ++ ")") :=
  rfl

/-- The statement that makes an index ends with its columns in parentheses. -/
theorem toList_render_createIndex
    (table name : String)
    (columns : List String)
    (unique : Bool) :
    ((Statement.createIndex table name columns unique).render .duckdb).toList =
      ((indexHead table name unique).toList ++ [' ']) ++ '(' :: (quotedList columns ++ [')']) := by
  have opening : " (".toList = [' ', '('] := by
    decide
  have closing : ")".toList = [')'] := by
    decide
  rw [render_createIndex]
  simp only [String.toList_append]
  rw [opening, closing, quotedList]
  simp only [List.append_assoc, List.cons_append, List.nil_append]

/--
For every table and every unique or plain index, whatever their names are, the
columns are read back from the statement that makes the index, in order and
with any ending, exactly when the name of each can be read.
-/
theorem index_columns_read_back_iff
    (table : String)
    {key : Key}
    (indexing : key.kind = .unique ∨ key.kind = .index)
    {ending : String}
    (ends : Ending ending.toList) :
    ∃ statement : Statement,
      Statement.createIndex? table key = some statement ∧
        (indexColumns (statement.render .duckdb ++ ending) = key.columns ↔
          ∀ name ∈ key.columns, ReadsInIndex name) := by
  obtain ⟨unique, made⟩ :
      ∃ unique : Bool,
        Statement.createIndex? table key =
          some (.createIndex table key.name key.columns unique) := by
    rcases indexing with kind | kind
    · exact ⟨true, by rw [Statement.createIndex?, kind]⟩
    · exact ⟨false, by rw [Statement.createIndex?, kind]⟩
  refine ⟨_, made, ?_⟩
  constructor
  · intro back name member
    rw [← back] at member
    exact readsInIndex_of_mem_indexColumns member
  · intro readable
    have shape :
        ((Statement.createIndex table key.name key.columns unique).render .duckdb ++
            ending).toList =
          ((indexHead table key.name unique).toList ++ [' ']) ++
            '(' :: (quotedList key.columns ++ ')' :: ending.toList) := by
      rw [String.toList_append, toList_render_createIndex]
      simp
    rw [indexColumns_of_last shape (flat_quotedList readable) ends]
    exact splitNames_of_readable readable

/-- A unique index with marks of every kind in its names. -/
def markedIndex : Key :=
  ⟨"by (run);", ["no\x22te", " the host "], .unique⟩

theorem marked_index_read_back :
    (markedIndex.kind = .unique ∨ markedIndex.kind = .index) ∧
      Ending " ;\n".toList ∧
        ∃ statement : Statement,
          Statement.createIndex? "my, (runs)\x22" markedIndex = some statement ∧
            indexColumns (statement.render .duckdb ++ " ;\n") = ["no\x22te", " the host "] := by
  have indexing : markedIndex.kind = .unique ∨ markedIndex.kind = .index :=
    .inl rfl
  have ends : Ending " ;\n".toList := by
    have spaces : " ;\n".toList = [' '] ++ ';' :: ['\n'] := by
      decide
    rw [spaces]
    exact .semicolon (List.forall_mem_singleton.mpr rfl) (List.forall_mem_singleton.mpr rfl)
  have readable : ∀ name ∈ markedIndex.columns, ReadsInIndex name := by
    intro name member
    rcases List.mem_pair.mp member with rfl | rfl
    · exact ⟨⟨⟨by decide, by decide⟩, by decide, by decide⟩, by decide, by decide⟩
    · exact ⟨⟨⟨by decide, by decide⟩, by decide, by decide⟩, by decide, by decide⟩
  obtain ⟨statement, made, back⟩ :=
    index_columns_read_back_iff "my, (runs)\x22" indexing ends
  exact ⟨indexing, ends, statement, made, back.mpr readable⟩

end SchemaMigration.KeyText
