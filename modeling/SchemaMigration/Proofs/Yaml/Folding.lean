import Mathlib.Tactic.Tauto
import SchemaMigration.Proofs.Yaml.Scanning
import SchemaMigration.Yaml.Folding

namespace SchemaMigration.Yaml

/-!
# Folding the lines of a text

What the lines of a text count as inside a scalar, and when that is the text
itself: no blank stands beside a break, and a line feed stands only behind
another break.  Folding never makes a text longer, so what it takes away is not
made up for.
-/

/-- What a text counts as inside a scalar, behind some spacing. -/
def foldLines (spacing : Spacing) : List Char → List Char
  | [] => spacing.folded
  | c :: rest =>
      if isSpace c then foldLines (spacing.addBlank c) rest
      else if isBreak c then foldLines (spacing.addBreak c) rest
      else spacing.folded ++ c :: foldLines .none rest

namespace Spacing

theorem length_folded_addBlank (c : Char) (spacing : Spacing) :
    (spacing.addBlank c).folded.length ≤ spacing.folded.length + 1 := by
  cases spacing <;> simp [addBlank, folded]

theorem length_folded_addBreak (c : Char) (spacing : Spacing) :
    (spacing.addBreak c).folded.length ≤ spacing.folded.length + 1 := by
  cases spacing with
  | none =>
      by_cases isFeed : c = '\n' <;> simp [addBreak, folded, isFeed]
  | blanks seen =>
      by_cases isFeed : c = '\n' <;> simp [addBreak, folded, isFeed]
  | lines first later =>
      by_cases isFeed : first = some '\n' <;> cases later <;>
        simp [addBreak, folded, isFeed, Nat.add_assoc]

theorem mem_folded_addBlank
    {c d : Char}
    {spacing : Spacing}
    (member : d ∈ (spacing.addBlank c).folded) :
    d ∈ spacing.folded ∨ d = c := by
  cases spacing with
  | none =>
      exact .inr (List.mem_singleton.mp member)
  | blanks seen =>
      simpa [addBlank, folded] using member
  | lines first later =>
      exact .inl member

theorem mem_folded_addBreak
    {c d : Char}
    {spacing : Spacing}
    (member : d ∈ (spacing.addBreak c).folded) :
    d ∈ spacing.folded ∨ d = c ∨ d = ' ' := by
  cases spacing with
  | none =>
      by_cases isFeed : c = '\n' <;> simp_all [addBreak, folded]
  | blanks seen =>
      by_cases isFeed : c = '\n' <;> simp_all [addBreak, folded]
  | lines first later =>
      by_cases isFeed : first = some '\n'
      · cases later <;> simp_all [addBreak, folded]
        tauto
      · simp only [addBreak, folded, isFeed, if_false, List.mem_append, List.mem_singleton]
          at member ⊢
        tauto

end Spacing

theorem length_foldLines
    (spacing : Spacing)
    (text : List Char) :
    (foldLines spacing text).length ≤ spacing.folded.length + text.length := by
  induction text generalizing spacing with
  | nil =>
      exact Nat.le_refl _
  | cons c rest inductionHypothesis =>
      unfold foldLines
      split
      · have later := inductionHypothesis (spacing.addBlank c)
        have here := spacing.length_folded_addBlank c
        simp only [List.length_cons]
        omega
      · split
        · have later := inductionHypothesis (spacing.addBreak c)
          have here := spacing.length_folded_addBreak c
          simp only [List.length_cons]
          omega
        · have later := inductionHypothesis .none
          simp only [Spacing.folded, List.length_nil, Nat.zero_add] at later
          simp only [List.length_append, List.length_cons]
          omega

theorem mem_foldLines
    {c : Char}
    {spacing : Spacing}
    {text : List Char}
    (member : c ∈ foldLines spacing text) :
    c ∈ spacing.folded ∨ c ∈ text ∨ c = ' ' := by
  induction text generalizing spacing with
  | nil =>
      exact .inl member
  | cons d rest inductionHypothesis =>
      unfold foldLines at member
      rw [List.mem_cons]
      split at member
      · have later := inductionHypothesis member
        have here : c ∈ (spacing.addBlank d).folded → c ∈ spacing.folded ∨ c = d :=
          Spacing.mem_folded_addBlank
        tauto
      · split at member
        · have later := inductionHypothesis member
          have here : c ∈ (spacing.addBreak d).folded → c ∈ spacing.folded ∨ c = d ∨ c = ' ' :=
            Spacing.mem_folded_addBreak
          tauto
        · rcases List.mem_append.mp member with spaced | within
          · exact .inl spaced
          rcases List.mem_cons.mp within with isHere | later
          · exact .inr (.inl (.inl isHere))
          · have further := inductionHypothesis later
            simp only [Spacing.folded, List.not_mem_nil, false_or] at further
            tauto

/-- Whether a character may follow another one in a text whose lines fold into itself. -/
structure Follows (before after : Char) : Prop where
  noBlank : isBreak before = true → isSpace after = false
  afterNoBlank : isBreak after = true → isSpace before = false
  afterBreak : after = '\n' → isBreak before = true

instance (before after : Char) : Decidable (Follows before after) :=
  decidable_of_iff
    ((isBreak before = true → isSpace after = false) ∧
      (isBreak after = true → isSpace before = false) ∧
        (after = '\n' → isBreak before = true))
    ⟨fun parts => ⟨parts.1, parts.2.1, parts.2.2⟩,
      fun follows => ⟨follows.noBlank, follows.afterNoBlank, follows.afterBreak⟩⟩

/-- Whether a spacing counts as just what was seen since the last word, up to a character. -/
inductive Exact : Spacing → Char → List Char → Prop
  | word {c : Char} :
      isSpace c = false →
      isBreak c = false →
      Exact .none c []
  | blanks {seen : List Char} {c : Char} :
      isSpace c = true →
      isBreak c = false →
      Exact (.blanks (seen ++ [c])) c (seen ++ [c])
  | breaks {first c : Char} {later : List Char} :
      first ≠ '\n' →
      isSpace c = false →
      isBreak c = true →
      Exact (.lines (some first) later) c (first :: later)

section Exact

variable
  {spacing : Spacing}
  {last c : Char}
  {seen : List Char}
  (exact : Exact spacing last seen)

include exact

theorem Exact.folded_eq : spacing.folded = seen := by
  cases exact with
  | word _ _ =>
      rfl
  | blanks _ _ =>
      rfl
  | breaks noFeed _ _ =>
      simp [Spacing.folded, noFeed]

theorem Exact.addBlank
    (space : isSpace c = true)
    (follows : Follows last c) :
    Exact (spacing.addBlank c) c (seen ++ [c]) := by
  have noBreak : isBreak c = false :=
    isBreak_of_isSpace space
  cases exact with
  | word _ _ =>
      have starts : Exact (.blanks ([] ++ [c])) c ([] ++ [c]) :=
        .blanks space noBreak
      exact starts
  | blanks _ _ =>
      exact .blanks space noBreak
  | breaks _ _ lastBreak =>
      have noSpace := follows.noBlank lastBreak
      rw [space] at noSpace
      cases noSpace

theorem Exact.addBreak
    (breaks : isBreak c = true)
    (follows : Follows last c) :
    Exact (spacing.addBreak c) c (seen ++ [c]) := by
  have noSpace : isSpace c = false := by
    rw [← Bool.not_eq_true]
    intro space
    rw [isBreak_of_isSpace space] at breaks
    cases breaks
  cases exact with
  | word _ lastNoBreak =>
      have noFeed : c ≠ '\n' := by
        intro isFeed
        rw [follows.afterBreak isFeed] at lastNoBreak
        cases lastNoBreak
      exact .breaks noFeed noSpace breaks
  | blanks lastSpace _ =>
      have lastNoSpace := follows.afterNoBlank breaks
      rw [lastSpace] at lastNoSpace
      cases lastNoSpace
  | breaks noFirstFeed _ _ =>
      exact .breaks noFirstFeed noSpace breaks

/-- A blank that may not follow is lost. -/
theorem Exact.lost_blank
    (space : isSpace c = true)
    (noFollow : ¬ Follows last c) :
    (spacing.addBlank c).folded.length ≤ seen.length := by
  have noBreak : isBreak c = false :=
    isBreak_of_isSpace space
  have noFeed : c ≠ '\n' := by
    rintro rfl
    cases space
  cases exact with
  | word _ lastNoBreak =>
      exact absurd ⟨by simp [lastNoBreak], by simp [noBreak], by simp [noFeed]⟩ noFollow
  | blanks _ lastNoBreak =>
      exact absurd ⟨by simp [lastNoBreak], by simp [noBreak], by simp [noFeed]⟩ noFollow
  | breaks noFirstFeed _ _ =>
      simp [Spacing.addBlank, Spacing.folded, noFirstFeed]

/-- Where a break may not follow, it is lost or a line feed behind a word. -/
theorem Exact.lost_break
    (breaks : isBreak c = true)
    (noFollow : ¬ Follows last c) :
    (spacing.addBreak c).folded.length ≤ seen.length ∨
      (seen = [] ∧ c = '\n' ∧ spacing.addBreak c = .lines (some '\n') []) := by
  have noSpace : isSpace c = false := by
    rw [← Bool.not_eq_true]
    intro space
    rw [isBreak_of_isSpace space] at breaks
    cases breaks
  cases exact with
  | word lastNoSpace lastNoBreak =>
      have isFeed : c = '\n' := by
        by_contra noFeed
        exact noFollow ⟨by simp [lastNoBreak], by simp [lastNoSpace], by simp [noFeed]⟩
      subst isFeed
      exact .inr ⟨rfl, rfl, rfl⟩
  | blanks _ _ =>
      left
      by_cases isFeed : c = '\n' <;> simp [Spacing.addBreak, Spacing.folded, isFeed]
  | breaks _ lastNoSpace lastBreak =>
      exact absurd ⟨by simp [noSpace], by simp [lastNoSpace], by simp [lastBreak]⟩ noFollow

end Exact

/-- A line feed behind a word never counts as a line feed. -/
theorem foldLines_feed (text : List Char) :
    foldLines (.lines (some '\n') []) text ≠ '\n' :: text := by
  intro same
  cases text with
  | nil =>
      cases same
  | cons c rest =>
      have tooLong
          {next : Spacing}
          (short : next.folded.length ≤ 1) :
          foldLines next rest ≠ '\n' :: c :: rest := by
        intro same
        have least := length_foldLines next rest
        rw [same, List.length_cons, List.length_cons] at least
        omega
      unfold foldLines at same
      split at same
      · refine tooLong ?_ same
        simp [Spacing.addBlank, Spacing.folded]
      split at same
      · refine tooLong ?_ same
        simp [Spacing.addBreak, Spacing.folded]
      · cases same

/-- The lines of a text fold into the text itself when each character may follow the one before. -/
theorem foldLines_eq_iff
    {spacing : Spacing}
    {last : Char}
    {seen : List Char}
    (exact : Exact spacing last seen)
    (text : List Char) :
    foldLines spacing text = seen ++ text ↔ (last :: text).IsChain Follows := by
  induction text generalizing spacing last seen with
  | nil =>
      simp [foldLines, exact.folded_eq]
  | cons c rest inductionHypothesis =>
      rw [List.isChain_cons_cons]
      have split : seen ++ c :: rest = seen ++ [c] ++ rest := by
        simp
      -- What is lost by folding shows in the length, and nothing makes up for it.
      have shorter
          {next : Spacing}
          (lost : next.folded.length ≤ seen.length) :
          foldLines next rest ≠ seen ++ c :: rest := by
        intro same
        have least := length_foldLines next rest
        rw [same, List.length_append, List.length_cons] at least
        omega
      by_cases space : isSpace c = true
      · rw [foldLines, if_pos space]
        by_cases follows : Follows last c
        · rw [split, inductionHypothesis (exact.addBlank space follows)]
          exact (and_iff_right follows).symm
        · exact iff_of_false (shorter (exact.lost_blank space follows)) (fun chain =>
            follows chain.1)
      by_cases breaks : isBreak c = true
      · rw [foldLines, if_neg space, if_pos breaks]
        by_cases follows : Follows last c
        · rw [split, inductionHypothesis (exact.addBreak breaks follows)]
          exact (and_iff_right follows).symm
        · refine iff_of_false ?_ (fun chain => follows chain.1)
          rcases exact.lost_break breaks follows with lost | ⟨rfl, rfl, next⟩
          · exact shorter lost
          · rw [next]
            exact foldLines_feed rest
      · rw [Bool.not_eq_true] at space breaks
        have noFeed : c ≠ '\n' := by
          rintro rfl
          cases breaks
        have follows : Follows last c :=
          ⟨fun _ => space, by simp [breaks], by simp [noFeed]⟩
        have next : Exact .none c [] := .word space breaks
        have later := inductionHypothesis next
        rw [List.nil_append] at later
        simp [foldLines, space, breaks, exact.folded_eq, follows, later]

end SchemaMigration.Yaml
