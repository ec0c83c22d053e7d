import SchemaMigration.Proofs.FileName

namespace SchemaMigration

/-!
# Names as segments of file names

What is left of a free-form name is safe behind a revision in the name of a
file.  Its underscores stand alone between other characters, no character has a
meaning in paths or is invisible, and a stem that is made of a revision and such
a name is split where the revision ends.
-/

/-! ## Characters -/

namespace Text

/-- Whether a character may be anywhere in a segment: it is visible and has no meaning in paths. -/
structure IsPlain (c : Char) : Prop where
  noDigit : isDigit c = false
  noDot : c ≠ '.'
  noSlash : c ≠ '/'
  noBackslash : c ≠ '\\'
  noBlank : isBlank c = false
  noControl : isControl c = false

/-- No character is solid between two points that no stretch of solid ones comes near. -/
theorem isSolid_eq_false_between
    (first last : Nat)
    (gap : ∀ outer ∈ solidTable, outer.last < first ∨ last < outer.first)
    {c : Char}
    (lower : first ≤ c.toNat)
    (upper : c.toNat ≤ last) :
    isSolid c = false := by
  rw [Bool.eq_false_iff]
  intro solid
  obtain ⟨outer, member, starts, ends⟩ := isSolid_iff.mp solid
  rcases gap outer member with below | above <;> omega

theorem isSolid_eq_false_of_isBlank
    {c : Char}
    (blank : isBlank c = true) :
    isSolid c = false := by
  have gaps :
      ∀ inner ∈ blankTable, ∀ outer ∈ solidTable,
        outer.last < inner.first ∨ inner.last < outer.first := by
    decide
  simp only [isBlank, inTable, List.any_eq_true, Stretch.holds, Bool.and_eq_true,
    decide_eq_true_eq] at blank
  obtain ⟨inner, member, ⟨lower, upper⟩, _⟩ := blank
  exact isSolid_eq_false_between _ _ (gaps inner member) lower upper

theorem isSolid_eq_false_of_isControl
    {c : Char}
    (control : isControl c = true) :
    isSolid c = false := by
  simp only [isControl, Bool.or_eq_true, Bool.and_eq_true, decide_eq_true_eq] at control
  rcases control with low | ⟨lower, upper⟩
  · exact isSolid_eq_false_between 0 31 (by decide) (by omega) (by omega)
  · exact isSolid_eq_false_between 127 159 (by decide) (by omega) (by omega)

theorem isSolid_eq_false_of_isDigit
    {c : Char}
    (digit : isDigit c = true) :
    isSolid c = false := by
  simp only [isDigit, Bool.and_eq_true, decide_eq_true_eq] at digit
  exact isSolid_eq_false_between 48 57 (by decide) digit.1 digit.2

theorem isPlain_of_isSolid
    {c : Char}
    (solid : isSolid c = true) :
    IsPlain c := by
  have differs
      {other : Char}
      (hollow : isSolid other = false) :
      c ≠ other := by
    rintro rfl
    rw [solid] at hollow
    cases hollow
  have lacks
      {property : Char → Bool}
      (hollow : property c = true → isSolid c = false) :
      property c = false := by
    rw [Bool.eq_false_iff]
    intro has
    rw [hollow has] at solid
    cases solid
  exact {
    noDigit := lacks isSolid_eq_false_of_isDigit
    noDot := differs (by decide)
    noSlash := differs (by decide)
    noBackslash := differs (by decide)
    noBlank := lacks isSolid_eq_false_of_isBlank
    noControl := lacks isSolid_eq_false_of_isControl }

theorem isPlain_underscore : IsPlain '_' := by
  constructor <;> decide

end Text

/-! ## Names in snake case -/

namespace Name

open Text

namespace IsSnake

variable {characters : List Char}

theorem ends_solid
    (snake : IsSnake characters) :
    ∃ before c, characters = before ++ [c] ∧ isSolid c = true := by
  induction snake with
  | @last c here =>
      exact ⟨[], c, rfl, here⟩
  | @solid c _ _ _ inductionHypothesis =>
      obtain ⟨before, final, rfl, solid⟩ := inductionHypothesis
      exact ⟨c :: before, final, rfl, solid⟩
  | @underscore c _ _ _ inductionHypothesis =>
      obtain ⟨before, final, rfl, solid⟩ := inductionHypothesis
      exact ⟨c :: '_' :: before, final, rfl, solid⟩

theorem not_underscore_prefix
    (snake : IsSnake characters)
    (more : List Char) :
    ¬ '_' :: more <+: characters := by
  obtain ⟨c, rest, rfl, solid⟩ := snake.starts_solid
  intro starts
  obtain ⟨same, _⟩ := List.cons_prefix_cons.mp starts
  rw [← same, not_isSolid_underscore] at solid
  cases solid

/-- Two underscores are never side by side. -/
theorem no_double_underscore
    (snake : IsSnake characters) :
    ¬ ['_', '_'] <:+: characters := by
  have notAtStart {c : Char} {rest : List Char} (solid : isSolid c = true) :
      ¬ ['_', '_'] <+: c :: rest := by
    intro starts
    obtain ⟨same, _⟩ := List.cons_prefix_cons.mp starts
    rw [← same, not_isSolid_underscore] at solid
    cases solid
  induction snake with
  | last here =>
      intro inside
      exact absurd inside.length_le (by simp)
  | solid here _ inductionHypothesis =>
      rw [List.infix_cons_iff]
      rintro (starts | later)
      · exact notAtStart here starts
      · exact inductionHypothesis later
  | underscore here snake inductionHypothesis =>
      rw [List.infix_cons_iff, List.infix_cons_iff]
      rintro (starts | second | later)
      · exact notAtStart here starts
      · exact snake.not_underscore_prefix [] (List.cons_prefix_cons.mp second).2
      · exact inductionHypothesis later

end IsSnake

/-! ## Segments -/

/-- Whether a text is a safe segment of a file name. -/
structure IsSegment (text : String) : Prop where
  starts : text.toList.head? ≠ some '_'
  ends : text.toList.getLast? ≠ some '_'
  apart : ¬ ['_', '_'] <:+: text.toList
  plain : ∀ c ∈ text.toList, IsPlain c

theorem isSegment_empty : IsSegment "" where
  starts := by decide
  ends := by decide
  apart := by decide
  plain := by simp

theorem isSegment_of_isSnake
    {text : String}
    (snake : IsSnake text.toList) :
    IsSegment text where
  starts := by
    obtain ⟨c, rest, shape, solid⟩ := snake.starts_solid
    rw [shape, List.head?_cons]
    rintro ⟨⟩
    cases solid
  ends := by
    obtain ⟨before, c, shape, solid⟩ := snake.ends_solid
    rw [shape, List.getLast?_concat]
    rintro ⟨⟩
    cases solid
  apart := snake.no_double_underscore
  plain := by
    intro c member
    rcases snake.of_mem c member with rfl | solid
    · exact isPlain_underscore
    · exact isPlain_of_isSolid solid

end Name

/-! ## Stems -/

namespace Migration

/-- A stem that is split has a revision of digits and a name on one line. -/
theorem genuine_of_splitStem
    {stem digits name : String}
    (split : splitStem stem = some (digits, name)) :
    Revision.Genuine ⟨digits⟩ ∧ name ≠ "" := by
  unfold splitStem at split
  dsimp only at split
  split at split
  · split at split
    · cases split
    · rename_i _ rest _ someParts
      cases split
      simp only [Bool.or_eq_true, List.isEmpty_iff, not_or] at someParts
      obtain ⟨⟨someDigit, someName⟩, _⟩ := someParts
      refine ⟨Revision.genuine_iff.mpr ⟨?_, ?_⟩, ?_⟩
      · simpa using someDigit
      · intro c member
        rw [String.toList_ofList] at member
        exact List.mem_takeWhile_imp member
      · simpa using someName
  · cases split

end Migration

namespace Name

/--
What is left of any name is a safe segment of a file name.

It is empty exactly when the name has no letter.  Otherwise a stem that is made
of a genuine revision and of what is left is split into the two again, and no
other stem is.
-/
theorem sanitized_names_are_segments (name : String) :
    IsSegment (sanitize name) ∧
      (sanitize name = "" ↔ ∀ c ∈ name.toList, Text.isAlphabetic c = false) ∧
        ∀ revision : Revision,
          Migration.splitStem (Migration.stemOf revision (sanitize name)) =
              some (revision.text, sanitize name) ↔
            revision.Genuine ∧ sanitize name ≠ "" := by
  have emptiness :
      sanitize name = "" ↔ ∀ c ∈ name.toList, Text.isAlphabetic c = false := by
    rw [sanitize_eq_empty_iff, List.any_eq_false]
    simp only [Bool.not_eq_true]
  refine ⟨?_, emptiness, ?_⟩
  · by_cases nothing : sanitize name = ""
    · rw [nothing]
      exact isSegment_empty
    · exact isSegment_of_isSnake (isSnake_sanitize nothing)
  · intro revision
    constructor
    · intro split
      exact Migration.genuine_of_splitStem split
    · rintro ⟨genuine, lettered⟩
      exact Migration.splitStem_stemOf genuine lettered (isSnake_sanitize lettered).oneLine

/-- A stem whose revision starts with a sign is not split. -/
theorem far_stem_not_split :
    sanitize "create runs" = "create_runs" ∧
      Migration.splitStem (Migration.stemOf Revision.far (sanitize "create runs")) = none := by
  have sanitized : sanitize "create runs" = "create_runs" := by
    decide +kernel
  rw [sanitized, Revision.far_eq]
  decide

/-- Humps are split, what is no letter is dropped, and blanks and bars become one underscore. -/
example : sanitize "__addHTTPLog --  v2.İx" = "add_httplog_v_i̇x" := by
  decide +kernel

end Name

end SchemaMigration
