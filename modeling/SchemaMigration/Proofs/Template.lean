import SchemaMigration.Migration.Document
import SchemaMigration.Migration.Template
import SchemaMigration.Proofs.FileName
import SchemaMigration.Proofs.Yaml.Entries

namespace SchemaMigration.Migration.Template

/-!
# New migration files are read back

The text of a new migration file is a document with the entity of its name, its
revision, and nothing to do in either direction, for every revision of digits
and every name in snake case.
-/

open Yaml Yaml.Lexing
open Text (isSolid)

/-! ## The written text -/

/-- The comment that a new migration file starts with. -/
def heading (revision : Revision) (name : String) : List Char :=
  '#' :: ' ' :: (revision.text.toList ++ '_' :: name.toList)

/-- The comment that names the table, in both directions. -/
def tableHint (name : String) : List Char :=
  [' ', ' '] ++ '#' :: ("   table: ".toList ++ name.toList)

/-- What stands between the entries of both directions. -/
def upHints (name : String) : List (List Char) :=
  [[], "  # - op: create".toList, tableHint name, "  #   columns:".toList,
    "  #     - \x7b name: id, type: increments \x7d".toList, "  #   primary: id".toList, []]

/-- What stands behind the entry of the second direction, up to the last line. -/
def downHints : List (List Char) :=
  [[], "  # - op: drop_if_exists".toList]

/-- The entry of the second direction, up to the end of the text. -/
def downEntry (name : String) : List Char :=
  emptyEntry "down".toList (ended downHints ++ tableHint name)

/-- The entry of the first direction, and what follows it. -/
def upEntry (name : String) : List Char :=
  emptyEntry "up".toList (ended (upHints name) ++ downEntry name)

/-- The entry of the revision, and what follows it. -/
def revisionEntry (revision : Revision) (name : String) : List Char :=
  entry "revision".toList
    (doubleQuote :: (revision.text.toList ++ doubleQuote :: (ended [[], []] ++ upEntry name)))

/-- The entry of the entity, and what follows it. -/
def entityEntry (revision : Revision) (name : String) : List Char :=
  entry "migration".toList
    ((Name.pascalCase name).toList ++ '\n' :: revisionEntry revision name)

theorem toList_render (revision : Revision) (name : String) :
    (render revision name).toList =
      ended [heading revision name] ++ entityEntry revision name := by
  have shown (text : String) : toString text = text := rfl
  simp [render, lines, Text.join, shown, ended, heading, upHints, tableHint, downHints,
    entry, emptyEntry, entityEntry, revisionEntry, upEntry, downEntry, doubleQuote]

section Reading

variable
  {revision : Revision}
  (genuine : revision.Genuine)
  {name : String}
  (snake : Name.IsSnake name.toList)

/-! ## Characters -/

include genuine snake

theorem render_isKept :
    ∀ c ∈ (render revision name).toList, isKept c = true := by
  have nameKept : ∀ c ∈ name.toList, isKept c = true := by
    intro c member
    rcases snake.of_mem c member with rfl | solid
    · decide
    · exact isKept_of_isSolid solid
  have entityKept : ∀ c ∈ (Name.pascalCase name).toList, isKept c = true :=
    fun c member => isKept_of_isSolid ((Name.pascalCase_isSolid snake).2 c member)
  have digitsKept : ∀ c ∈ revision.text.toList, isKept c = true :=
    fun c member => isKept_of_isDigit ((Revision.genuine_iff.mp genuine).2 c member)
  rw [← List.all_eq_true] at nameKept entityKept digitsKept ⊢
  rw [toList_render]
  simp only [entityEntry, revisionEntry, upEntry, downEntry, ended, heading, upHints, tableHint,
    downHints, entry, emptyEntry, List.flatMap_cons, List.flatMap_nil, List.all_append,
    List.all_cons, List.all_nil, nameKept, entityKept, digitsKept, Bool.and_true, Bool.true_and]
  decide

/-! ## Tokens -/

omit genuine in
theorem name_oneLine : ∀ c ∈ name.toList, isBreak c = false := by
  intro c member
  rcases snake.of_mem c member with rfl | solid
  · decide
  · exact isBreak_of_isSolid solid

omit genuine in
theorem tableHint_isFiller : IsFiller (tableHint name) := by
  have twoSpaces : ∀ c ∈ [' ', ' '], c = ' ' := by
    simp
  refine .comment twoSpaces ?_
  intro c member
  rcases List.mem_append.mp member with fixed | within
  · have checked : "   table: ".toList.all (fun d => !isBreak d) = true := by
      decide
    simpa using List.all_eq_true.mp checked c fixed
  · exact name_oneLine snake c within

theorem heading_isFiller : IsFiller (heading revision name) := by
  have noSpaces : ∀ c ∈ ([] : List Char), c = ' ' :=
    nofun
  refine .comment noSpaces ?_
  intro c member
  rcases List.mem_cons.mp member with rfl | within
  · decide
  rcases List.mem_append.mp within with digit | later
  · exact isBreak_of_isDigit ((Revision.genuine_iff.mp genuine).2 c digit)
  rcases List.mem_cons.mp later with rfl | inName
  · decide
  · exact name_oneLine snake c inName

omit genuine in
theorem upHints_areFillers : ∀ line ∈ upHints name, IsFiller line := by
  simp only [upHints, List.forall_mem_cons]
  refine ⟨isFiller_of_fillsLine ?_, isFiller_of_fillsLine ?_, tableHint_isFiller snake,
    isFiller_of_fillsLine ?_, isFiller_of_fillsLine ?_, isFiller_of_fillsLine ?_,
    isFiller_of_fillsLine ?_, nofun⟩ <;> decide

omit genuine snake in
theorem downHints_areFillers : ∀ line ∈ downHints, IsFiller line := by
  simp only [downHints, List.forall_mem_cons]
  refine ⟨isFiller_of_fillsLine ?_, isFiller_of_fillsLine ?_, nofun⟩ <;> decide

/-- The tokens of a new migration file. -/
def tokens (entity digits : String) : List Token :=
  [.blockMappingStart,
    .key, .scalar "migration" true, .value, .scalar entity true,
    .key, .scalar "revision" true, .value, .scalar digits false,
    .key, .scalar "up" true, .value, .flowSequenceStart, .flowSequenceEnd,
    .key, .scalar "down" true, .value, .flowSequenceStart, .flowSequenceEnd,
    .blockEnd]

/-- Everything but the lines at the end is read into the tokens of the entries. -/
theorem reads_entries :
    Reads 14
      (Lexing.start (render revision name).toList)
      (inMapping ⟨ended downHints ++ tableHint name, 11, 8⟩
        (tokens (Name.pascalCase name) revision.text).dropLast.reverse false) := by
  have entityIsWord : IsWord (Name.pascalCase name).toList := by
    obtain ⟨nonempty, solid⟩ := Name.pascalCase_isSolid snake
    exact ⟨nonempty, solid⟩
  have firstKey : IsKey "migration".toList := by
    decide
  have secondKey : IsKey "revision".toList := by
    decide
  have digits := (Revision.genuine_iff.mp genuine).2
  have headingFills : ∀ line ∈ [heading revision name], IsFiller line := by
    intro line member
    rw [List.mem_singleton.mp member]
    exact heading_isFiller genuine snake
  have blanksFill : ∀ line ∈ [([] : List Char), []], IsFiller line := by
    intro line member
    have isEmpty : line = [] := by
      simpa using member
    rw [isEmpty]
    exact .spaces nofun
  have skipsHeading :
      Reads 0
        (Lexing.start (ended [heading revision name] ++ entityEntry revision name))
        (atMargin ⟨entityEntry revision name, 1, 0⟩ [] (-1) []) :=
    reads_ended headingFills rfl (firstKey.startsSolid_append _) rfl
  have startsRevision : StartsSolid (revisionEntry revision name) :=
    secondKey.startsSolid_append _
  have entity :
      Reads 3
        (atMargin ⟨entityEntry revision name, 1, 0⟩ [] (-1) [])
        (inMapping ⟨revisionEntry revision name, 2, 0⟩
          [.scalar (String.ofList (Name.pascalCase name).toList) true, .value,
            .scalar "migration" true, .key, .blockMappingStart] true) :=
    (reads_first_key firstKey 1 [] _).trans
      (reads_plain_line 1 10 _ entityIsWord startsRevision)
  have declared (known : List Token) :
      Reads 3
        (inMapping ⟨revisionEntry revision name, 2, 0⟩ known true)
        (inMapping ⟨ended [[], []] ++ upEntry name, 2, 9 + 2 + revision.text.toList.length + 1⟩
          (.scalar (String.ofList revision.text.toList) false :: .value ::
            .scalar "revision" true :: .key :: known) false) :=
    (reads_key secondKey 2 known _).trans
      (reads_digits 2 9 _ digits _)
  have up (column : Nat) (known : List Token) :
      Reads 4
        (inMapping ⟨ended [[], []] ++ upEntry name, 2, column⟩ known false)
        (inMapping ⟨ended (upHints name) ++ downEntry name, 4, 6⟩
          (.flowSequenceEnd :: .flowSequenceStart :: .value :: .scalar "up" true :: .key :: known)
          false) :=
    reads_emptyEntry (by decide) blanksFill 2 column known _
  have down (known : List Token) :
      Reads 4
        (inMapping ⟨ended (upHints name) ++ downEntry name, 4, 6⟩ known false)
        (inMapping ⟨ended downHints ++ tableHint name, 11, 8⟩
          (.flowSequenceEnd :: .flowSequenceStart :: .value :: .scalar "down" true :: .key ::
            known) false) :=
    reads_emptyEntry (by decide) (upHints_areFillers snake) 4 6 known _
  have whole := ((((skipsHeading.trans entity).trans (declared _)).trans (up _ _)).trans (down _))
  rw [← toList_render, String.ofList_toList, String.ofList_toList] at whole
  exact whole

/-- The text of a new migration file is read into these tokens. -/
theorem tokensOf_render :
    tokensOf (render revision name) =
      .ok (tokens (Name.pascalCase name) revision.text) := by
  have kept := render_isKept genuine snake
  have allowed : (render revision name).toList.all isAllowed = true := by
    rw [List.all_eq_true]
    intro c member
    have here := kept c member
    simp only [isKept, Bool.and_eq_true] at here
    exact here.1.1
  obtain ⟨left, size⟩ :
      ∃ left, (render revision name).toList.length + 1 = left + 1 + 14 := by
    have migrationLength : "migration".toList.length = 9 := rfl
    have revisionLength : "revision".toList.length = 8 := rfl
    refine ⟨(render revision name).toList.length - 14, ?_⟩
    rw [toList_render, entityEntry, revisionEntry, entry, entry]
    simp only [List.length_append, List.length_cons, migrationLength, revisionLength]
    omega
  have ends := run_end downHints_areFillers (tableHint_isFiller snake) 11 8
    (tokens (Name.pascalCase name) revision.text).dropLast.reverse false left
  rw [tokensOf]
  simp only [allowed, if_true]
  rw [withLineFeeds_eq_self kept, size, reads_entries genuine snake, downHints, ends]
  rfl

/-! ## Documents -/

/-- The node of a new migration file. -/
def node (entity digits : String) : Node :=
  .mapping none
    [(.scalar none "migration" true, .scalar none entity true),
      (.scalar none "revision" true, .scalar none digits false),
      (.scalar none "up" true, .sequence none []),
      (.scalar none "down" true, .sequence none [])]

/-- The tree of a new migration file. -/
def tree (entity digits : String) : Tree :=
  .mapping none
    [(.scalar none "migration" true, .scalar none entity true),
      (.scalar none "revision" true, .scalar none digits false),
      (.scalar none "up" true, .sequence none []),
      (.scalar none "down" true, .sequence none [])]

omit genuine snake in
theorem ofTokens_tokens (entity digits : String) :
    Yaml.Document.ofTokens (tokens entity digits) = .ok ⟨node entity digits, []⟩ := by
  rfl

omit genuine snake in
theorem tree_node (entity digits : String) :
    Yaml.Document.tree ⟨node entity digits, []⟩ = .ok (tree entity digits) := by
  rfl

omit genuine snake in
theorem ofTree_tree (entity digits : String) :
    Document.ofTree (tree entity digits) = .ok ⟨entity, some (.text digits), [], []⟩ := by
  rfl

/-- The document in a new migration file. -/
theorem ofText_render :
    Document.ofText (render revision name) =
      .ok ⟨Name.pascalCase name, some (.text revision.text), [], []⟩ := by
  have read := tokensOf_render genuine snake
  have parsed := ofTokens_tokens (Name.pascalCase name) revision.text
  have expanded := tree_node (Name.pascalCase name) revision.text
  have typed := ofTree_tree (Name.pascalCase name) revision.text
  simp only [Document.ofText, Tree.ofText, read, parsed, expanded, bind, Except.bind, typed]

end Reading

end SchemaMigration.Migration.Template
