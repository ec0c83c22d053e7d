import Mathlib.Data.List.Basic
import SchemaMigration.Name

namespace SchemaMigration

/-!
# The characters of names

Letters and their images under the case mappings are solid: they have no
meaning of their own in paths or documents.  A snake-case name is made of solid
characters with single underscores between them, and its Pascal-case form is
made of solid characters alone.
-/

namespace Text

/-! ## Solid characters -/

/--
The letters of ASCII, and what is beyond ASCII without being a control
character, a blank, a line break or the mark that may start a text.
-/
def solidTable : List Stretch := [
  ⟨65, 90, 1⟩, ⟨97, 122, 1⟩, ⟨0xA1, 0x167F, 1⟩, ⟨0x1681, 0x1FFF, 1⟩, ⟨0x200B, 0x2027, 1⟩,
  ⟨0x202A, 0x202E, 1⟩, ⟨0x2030, 0x205E, 1⟩, ⟨0x2060, 0x2FFF, 1⟩, ⟨0x3001, 0xD7FF, 1⟩,
  ⟨0xE000, 0xFEFE, 1⟩, ⟨0xFF00, 0xFFFD, 1⟩, ⟨0x10000, 0x10FFFF, 1⟩]

/-- Whether a character has no meaning of its own in names, paths and documents. -/
def isSolid (c : Char) : Bool :=
  inTable solidTable c

theorem isSolid_iff {c : Char} :
    isSolid c = true ↔
      ∃ outer ∈ solidTable, outer.first ≤ c.toNat ∧ c.toNat ≤ outer.last := by
  have everyPoint : ∀ outer ∈ solidTable, outer.step = 1 := by
    decide
  rw [isSolid, inTable, List.any_eq_true]
  refine exists_congr (fun outer => and_congr_right (fun member => ?_))
  simp [Stretch.holds, everyPoint outer member, Nat.mod_one]

/-- Whether some stretch of solid characters goes over all points from one to another one. -/
def coversPoints (first last : Nat) : Bool :=
  solidTable.any (fun outer => decide (outer.first ≤ first) && decide (last ≤ outer.last))

theorem isSolid_of_covers
    {first last : Nat}
    (covers : coversPoints first last = true)
    {c : Char}
    (lower : first ≤ c.toNat)
    (upper : c.toNat ≤ last) :
    isSolid c = true := by
  simp only [coversPoints, List.any_eq_true, Bool.and_eq_true, decide_eq_true_eq] at covers
  obtain ⟨outer, member, starts, ends⟩ := covers
  exact isSolid_iff.mpr ⟨outer, member, Nat.le_trans starts lower, Nat.le_trans upper ends⟩

/-- The character at a point that a stretch of solid characters goes over. -/
theorem isSolid_ofNat
    {first last point : Nat}
    (covers : coversPoints first last = true)
    (lower : first ≤ point)
    (upper : point ≤ last) :
    isSolid (Char.ofNat point) = true := by
  have noSurrogates : ∀ outer ∈ solidTable,
      outer.last < 0xD800 ∨ 0xDFFF < outer.first ∧ outer.last < 0x110000 := by
    decide
  have isCharacter : point.isValidChar := by
    have someStretch := covers
    simp only [coversPoints, List.any_eq_true, Bool.and_eq_true, decide_eq_true_eq] at someStretch
    obtain ⟨outer, member, starts, ends⟩ := someStretch
    rcases noSurrogates outer member with below | ⟨above, least⟩
    · exact .inl (by omega)
    · exact .inr ⟨by omega, by omega⟩
  have samePoint : (Char.ofNat point).toNat = point := by
    rw [Char.ofNat, dif_pos isCharacter]
    rfl
  apply isSolid_of_covers covers
  · rwa [samePoint]
  · rwa [samePoint]

theorem isSolid_of_isAlphabetic
    {c : Char}
    (alphabetic : isAlphabetic c = true) :
    isSolid c = true := by
  have covered :
      alphabeticTable.all (fun inner => coversPoints inner.first inner.last) = true := by
    decide +kernel
  simp only [isAlphabetic, inTable, List.any_eq_true] at alphabetic
  obtain ⟨inner, member, held⟩ := alphabetic
  simp only [Stretch.holds, Bool.and_eq_true, decide_eq_true_eq] at held
  exact isSolid_of_covers (List.all_eq_true.mp covered inner member) held.1.1 held.1.2

/-! ## Case mappings -/

section CaseImages

variable
  {shifts : List Shift}
  {expansions : List (Nat × List Nat)}

/-- Where the images of a shift are. -/
def Shift.imagesCovered (shift : Shift) : Bool :=
  coversPoints
    (Int.toNat (Int.ofNat shift.source.first + shift.distance))
    (Int.toNat (Int.ofNat shift.source.last + shift.distance))

theorem isSolid_of_shifted
    (covered : shifts.all Shift.imagesCovered = true)
    {c image : Char}
    (shifted : shifted? shifts c = some image) :
    isSolid image = true := by
  obtain ⟨shift, member, isImage⟩ := List.exists_of_findSome?_eq_some shifted
  simp only [Shift.image?, Stretch.holds, Bool.and_eq_true, decide_eq_true_eq,
    Option.ite_none_right_eq_some] at isImage
  obtain ⟨⟨⟨lower, upper⟩, _⟩, moved⟩ := isImage
  cases moved
  apply isSolid_ofNat (List.all_eq_true.mp covered shift member)
  · have bound : Int.ofNat shift.source.first ≤ Int.ofNat c.toNat :=
      Int.ofNat_le.mpr lower
    omega
  · have bound : Int.ofNat c.toNat ≤ Int.ofNat shift.source.last :=
      Int.ofNat_le.mpr upper
    omega

/-- The image of a solid character is made of solid characters, and of some at least. -/
theorem caseImage_isSolid
    (shiftsCovered : shifts.all Shift.imagesCovered = true)
    (expansionsCovered :
      expansions.all (fun expansion =>
        !expansion.2.isEmpty && expansion.2.all (fun point => coversPoints point point)) = true)
    {c : Char}
    (solid : isSolid c = true) :
    caseImage shifts expansions c ≠ [] ∧
      ∀ d ∈ caseImage shifts expansions c, isSolid d = true := by
  unfold caseImage
  split
  · rename_i points expands
    obtain ⟨before, after, shape, _⟩ := List.lookup_eq_some_iff.mp expands
    have member : (c.toNat, points) ∈ expansions := by
      rw [shape]
      exact List.mem_append_right _ List.mem_cons_self
    have checked := List.all_eq_true.mp expansionsCovered _ member
    simp only [Bool.and_eq_true, Bool.not_eq_true', List.isEmpty_eq_false_iff] at checked
    refine ⟨by simpa using checked.1, ?_⟩
    intro d isImage
    obtain ⟨point, isPoint, rfl⟩ := List.mem_map.mp isImage
    have covers := List.all_eq_true.mp checked.2 point isPoint
    exact isSolid_ofNat covers (Nat.le_refl _) (Nat.le_refl _)
  · refine ⟨List.cons_ne_nil _ _, ?_⟩
    intro d isImage
    rw [List.mem_singleton.mp isImage]
    cases shifted : shifted? shifts c with
    | none =>
        exact solid
    | some image =>
        exact isSolid_of_shifted shiftsCovered shifted

end CaseImages

theorem lower_isSolid
    {c : Char}
    (solid : isSolid c = true) :
    lower c ≠ [] ∧ ∀ d ∈ lower c, isSolid d = true :=
  caseImage_isSolid (by decide +kernel) (by decide +kernel) solid

theorem upper_isSolid
    {c : Char}
    (solid : isSolid c = true) :
    upper c ≠ [] ∧ ∀ d ∈ upper c, isSolid d = true :=
  caseImage_isSolid (by decide +kernel) (by decide +kernel) solid

theorem not_isSolid_underscore : isSolid '_' = false := by
  decide

/-- What is in a piece is no separator. -/
theorem of_mem_pieces
    {isSeparator : α → Bool}
    {list piece : List α}
    (isPiece : piece ∈ pieces isSeparator list) :
    ∀ c ∈ piece, c ∈ list ∧ isSeparator c = false := by
  induction list generalizing piece with
  | nil =>
      rw [List.mem_singleton.mp isPiece]
      exact nofun
  | cons first rest inductionHypothesis =>
      unfold pieces at isPiece
      intro c member
      split at isPiece
      · rcases List.mem_cons.mp isPiece with rfl | later
        · cases member
        · exact (inductionHypothesis later c member).imp_left (List.mem_cons_of_mem _)
      · rename_i noSeparator
        have here : first ∈ first :: rest ∧ isSeparator first = false :=
          ⟨List.mem_cons_self, by simpa using noSeparator⟩
        split at isPiece
        · rw [List.mem_singleton.mp isPiece] at member
          rwa [List.mem_singleton.mp member]
        · rename_i shape
          rcases List.mem_cons.mp isPiece with rfl | later
          · rcases List.mem_cons.mp member with rfl | inPiece
            · exact here
            · have known := inductionHypothesis (by rw [shape]; exact List.mem_cons_self) c inPiece
              exact known.imp_left (List.mem_cons_of_mem _)
          · have known := inductionHypothesis
              (by rw [shape]; exact List.mem_cons_of_mem _ later) c member
            exact known.imp_left (List.mem_cons_of_mem _)

end Text

namespace Name

open Text

/-! ## Snake case -/

/-- Solid characters, with single underscores between them. -/
inductive IsSnake : List Char → Prop
  | last {c : Char} :
      isSolid c = true →
      IsSnake [c]
  | solid {c : Char} {rest : List Char} :
      isSolid c = true →
      IsSnake rest →
      IsSnake (c :: rest)
  | underscore {c : Char} {rest : List Char} :
      isSolid c = true →
      IsSnake rest →
      IsSnake (c :: '_' :: rest)

/-- How a name in snake case may go on behind a solid character. -/
inductive IsSnakeTail : List Char → Prop
  | nothing : IsSnakeTail []
  | solid {rest : List Char} : IsSnake rest → IsSnakeTail rest
  | underscore {rest : List Char} : IsSnake rest → IsSnakeTail ('_' :: rest)

theorem IsSnake.of_append
    {letters rest : List Char}
    (nonempty : letters ≠ [])
    (solid : ∀ c ∈ letters, isSolid c = true)
    (tail : IsSnakeTail rest) :
    IsSnake (letters ++ rest) := by
  induction letters with
  | nil =>
      exact absurd rfl nonempty
  | cons c more inductionHypothesis =>
      have here : isSolid c = true :=
        solid c List.mem_cons_self
      by_cases isLast : more = []
      · subst isLast
        cases tail with
        | nothing =>
            exact .last here
        | solid snake =>
            exact .solid here snake
        | underscore snake =>
            exact .underscore here snake
      · exact .solid here
          (inductionHypothesis isLast (fun d member => solid d (List.mem_cons_of_mem _ member)))

theorem not_isAlphabetic_of_isWordBreak
    {c : Char}
    (breaks : isWordBreak c = true) :
    isAlphabetic c = false := by
  simp only [isWordBreak, Bool.or_eq_true, beq_iff_eq] at breaks
  rcases breaks with (rfl | rfl) | rfl <;> decide +kernel

/-- Once a letter was written, the rest of a name goes on in snake case. -/
theorem isSnakeTail_snakeFrom
    (broken afterLower : Bool)
    (characters : List Char) :
    IsSnakeTail (snakeFrom true broken afterLower characters) := by
  induction characters generalizing broken afterLower with
  | nil =>
      exact .nothing
  | cons c rest inductionHypothesis =>
      unfold snakeFrom
      split
      · exact inductionHypothesis true false
      · split
        · rename_i alphabetic
          obtain ⟨nonempty, solid⟩ := lower_isSolid (isSolid_of_isAlphabetic alphabetic)
          have word :=
            IsSnake.of_append nonempty solid (inductionHypothesis false (isLowercase c))
          dsimp only
          split
          · rw [List.append_assoc]
            exact .underscore word
          · exact .solid word
        · exact inductionHypothesis broken afterLower

/-- Without a letter nothing is written, and otherwise a name in snake case. -/
theorem snakeFrom_start
    (broken afterLower : Bool)
    (characters : List Char) :
    characters.any isAlphabetic = true ∧
        IsSnake (snakeFrom false broken afterLower characters) ∨
      characters.any isAlphabetic = false ∧
        snakeFrom false broken afterLower characters = [] := by
  induction characters generalizing broken afterLower with
  | nil =>
      exact .inr ⟨rfl, rfl⟩
  | cons c rest inductionHypothesis =>
      rw [List.any_cons]
      unfold snakeFrom
      by_cases breaks : isWordBreak c = true
      · rw [if_pos breaks, not_isAlphabetic_of_isWordBreak breaks, Bool.false_or]
        exact inductionHypothesis true false
      · rw [if_neg breaks]
        by_cases alphabetic : isAlphabetic c = true
        · left
          rw [if_pos alphabetic, alphabetic, Bool.true_or]
          obtain ⟨nonempty, solid⟩ := lower_isSolid (isSolid_of_isAlphabetic alphabetic)
          exact ⟨rfl,
            .of_append nonempty solid (isSnakeTail_snakeFrom false (isLowercase c) rest)⟩
        · rw [if_neg alphabetic, Bool.eq_false_iff.mpr alphabetic, Bool.false_or]
          exact inductionHypothesis broken afterLower

theorem IsSnake.ne_nil
    {characters : List Char}
    (snake : IsSnake characters) :
    characters ≠ [] := by
  cases snake <;> exact List.cons_ne_nil _ _

/-- A name is left empty exactly when it has no letter. -/
theorem sanitize_eq_empty_iff {name : String} :
    sanitize name = "" ↔ name.toList.any isAlphabetic = false := by
  rw [sanitize, ← String.toList_eq_nil_iff, String.toList_ofList]
  rcases snakeFrom_start false false name.toList with ⟨hasLetter, snake⟩ | ⟨noLetter, nothing⟩
  · simp [hasLetter, snake.ne_nil]
  · simp [noLetter, nothing]

/-- What is left of a name is in snake case, if anything is left. -/
theorem isSnake_sanitize
    {name : String}
    (lettered : sanitize name ≠ "") :
    IsSnake (sanitize name).toList := by
  rcases snakeFrom_start false false name.toList with ⟨_, snake⟩ | ⟨noLetter, _⟩
  · rwa [sanitize, String.toList_ofList]
  · exact absurd (sanitize_eq_empty_iff.mpr noLetter) lettered

namespace IsSnake

variable {characters : List Char}

theorem of_mem
    (snake : IsSnake characters) :
    ∀ c ∈ characters, c = '_' ∨ isSolid c = true := by
  induction snake with
  | last here =>
      intro c member
      exact .inr (List.mem_singleton.mp member ▸ here)
  | solid here _ inductionHypothesis =>
      exact List.forall_mem_cons.mpr ⟨.inr here, inductionHypothesis⟩
  | underscore here _ inductionHypothesis =>
      exact List.forall_mem_cons.mpr
        ⟨.inr here, List.forall_mem_cons.mpr ⟨.inl rfl, inductionHypothesis⟩⟩

theorem oneLine
    (snake : IsSnake characters) :
    '\n' ∉ characters := by
  intro member
  rcases snake.of_mem '\n' member with isBar | solid
  · cases isBar
  · exact absurd solid (by decide)

theorem starts_solid
    (snake : IsSnake characters) :
    ∃ c rest, characters = c :: rest ∧ isSolid c = true := by
  cases snake with
  | last here =>
      exact ⟨_, _, rfl, here⟩
  | solid here _ =>
      exact ⟨_, _, rfl, here⟩
  | underscore here _ =>
      exact ⟨_, _, rfl, here⟩

end IsSnake

/-! ## Pascal case -/

theorem capitalize_isSolid
    {word : List Char}
    (solid : ∀ c ∈ word, isSolid c = true) :
    ∀ d ∈ capitalize word, isSolid d = true := by
  cases word with
  | nil =>
      exact nofun
  | cons c rest =>
      intro d member
      rcases List.mem_append.mp member with isUpper | later
      · exact (upper_isSolid (solid c List.mem_cons_self)).2 d isUpper
      · exact solid d (List.mem_cons_of_mem _ later)

/-- The entity of a name in snake case is made of solid characters, and of some at least. -/
theorem pascalCase_isSolid
    {name : String}
    (snake : IsSnake name.toList) :
    (pascalCase name).toList ≠ [] ∧ ∀ c ∈ (pascalCase name).toList, isSolid c = true := by
  rw [pascalCase, String.toList_ofList]
  constructor
  · obtain ⟨c, rest, shape, solid⟩ := snake.starts_solid
    have noSeparator : (c == '_') = false := by
      rw [beq_eq_false_iff_ne]
      rintro rfl
      rw [not_isSolid_underscore] at solid
      cases solid
    obtain ⟨word, later, parts⟩ :
        ∃ word later, pieces (· == '_') name.toList = (c :: word) :: later := by
      rw [shape, pieces, if_neg (by simp [noSeparator])]
      split
      · exact ⟨_, _, rfl⟩
      · exact ⟨_, _, rfl⟩
    rw [parts, List.flatMap_cons, capitalize]
    intro isEmpty
    rw [List.append_assoc] at isEmpty
    exact (upper_isSolid solid).1 (List.append_eq_nil_iff.mp isEmpty).1
  · intro c member
    obtain ⟨word, isWord, capital⟩ := List.mem_flatMap.mp member
    apply capitalize_isSolid ?_ c capital
    intro d within
    obtain ⟨inName, noSeparator⟩ := of_mem_pieces isWord d within
    rcases snake.of_mem d inName with rfl | solid
    · cases noSeparator
    · exact solid

end Name

end SchemaMigration
