import Mathlib.Data.List.Nodup
import SchemaMigration.Migration.Ledger

namespace SchemaMigration

/-!
# The written form of ledgers

What a ledger lists is read back from what was written, as long as revisions
are digits and none is listed twice.  Reading gives only such lists, so every
list that a ledger goes through is read back.
-/

namespace Text

/-- Splitting is splitting with the library's function. -/
theorem pieces_eq_splitOnP
    (isSeparator : α → Bool)
    (list : List α) :
    pieces isSeparator list = list.splitOnP isSeparator := by
  induction list with
  | nil =>
      simp [pieces]
  | cons c rest inductionHypothesis =>
      rw [pieces, inductionHypothesis, List.splitOnP_cons_eq_if_modifyHead]
      split
      · rfl
      · cases shape : rest.splitOnP isSeparator with
        | nil =>
            exact absurd shape (List.splitOnP_ne_nil _ _)
        | cons piece later =>
            rfl

theorem join_singleton
    (separator text : String) :
    join separator [text] = text := by
  rw [join, String.intercalate_singleton]

theorem toList_join_cons
    (separator text : String)
    {texts : List String}
    (more : texts ≠ []) :
    (join separator (text :: texts)).toList =
      text.toList ++ separator.toList ++ (join separator texts).toList := by
  rw [join, join, String.toList_intercalate, String.toList_intercalate, List.map_cons,
    List.intercalate_cons_of_ne_nil (by simpa using more)]

/-- Texts that lack the separator are the parts of what they are joined to. -/
theorem splitAt_join
    {separator : Char}
    {texts : List String}
    (nonempty : texts ≠ [])
    (free : ∀ text ∈ texts, separator ∉ text.toList) :
    splitAt separator (join (String.singleton separator) texts) = texts := by
  have parts :
      pieces (· == separator) (join (String.singleton separator) texts).toList =
        texts.map String.toList := by
    rw [pieces_eq_splitOnP, join, String.toList_intercalate, String.toList_singleton,
      ← List.splitOn_eq_splitOnP]
    refine List.splitOn_intercalate separator ?_ (by simpa using nonempty)
    intro characters member
    obtain ⟨text, textMember, rfl⟩ := List.mem_map.mp member
    exact free text textMember
  rw [splitAt, parts, List.map_map]
  simp [Function.comp_def]

/-- What texts are joined to is made of the separator and of their characters. -/
theorem of_mem_join
    {separator : Char}
    {texts : List String}
    {c : Char}
    (member : c ∈ (join (String.singleton separator) texts).toList) :
    c = separator ∨ ∃ text ∈ texts, c ∈ text.toList := by
  rw [join, String.toList_intercalate, String.toList_singleton] at member
  induction texts with
  | nil =>
      simp at member
  | cons text rest inductionHypothesis =>
      by_cases last : rest = []
      · right
        simpa [last] using member
      · rw [List.map_cons, List.intercalate_cons_of_ne_nil (by simpa using last)] at member
        simp only [List.append_assoc, List.mem_append, List.mem_singleton] at member
        rcases member with here | isSeparator | later
        · exact .inr ⟨text, List.mem_cons_self, here⟩
        · exact .inl isSeparator
        · refine (inductionHypothesis later).imp_right ?_
          rintro ⟨other, otherMember, there⟩
          exact ⟨other, List.mem_cons_of_mem _ otherMember, there⟩

theorem dropWhile_eq_self
    {drop : α → Bool}
    {list : List α}
    (kept : ∀ c ∈ list, drop c = false) :
    list.dropWhile drop = list := by
  cases list with
  | nil =>
      rfl
  | cons first rest =>
      rw [List.dropWhile_cons, kept first List.mem_cons_self]
      rfl

/-- Where nothing is blank there is nothing to trim. -/
theorem trim_eq_self
    {text : String}
    (solid : ∀ c ∈ text.toList, isBlank c = false) :
    trim text = text := by
  have start := dropWhile_eq_self solid
  have finish :
      text.toList.reverse.dropWhile isBlank = text.toList.reverse :=
    dropWhile_eq_self (fun c member => solid c (List.mem_reverse.mp member))
  rw [trim, trimWhere, start, trimEndWhere, finish, List.reverse_reverse, String.ofList_toList]

theorem isBlank_of_isDigit
    {c : Char}
    (digit : isDigit c = true) :
    isBlank c = false := by
  simp only [isDigit, Bool.and_eq_true, decide_eq_true_eq] at digit
  have least : 48 ≤ c.toNat := digit.1
  have greatest : c.toNat ≤ 57 := digit.2
  simp only [isBlank, inTable, blankTable, Stretch.holds, List.any_cons, List.any_nil,
    Bool.or_eq_false_iff, Bool.and_eq_false_iff, decide_eq_false_iff_not, and_true]
  omega

end Text

/-! ## Revisions -/

namespace Revision

/-- Whether a revision is one that parsing accepts. -/
def Genuine (revision : Revision) : Prop :=
  parse revision.text = .ok revision

/-- A genuine revision is a nonempty run of digits. -/
theorem genuine_iff {revision : Revision} :
    revision.Genuine ↔
      revision.text ≠ "" ∧
        ∀ c ∈ revision.text.toList, Text.isDigit c = true := by
  unfold Genuine parse
  by_cases isEmpty : revision.text = ""
  · simp [isEmpty]
  · simp only [List.isEmpty_iff, String.toList_eq_nil_iff, isEmpty, if_false, ← List.all_eq_true]
    by_cases digits : revision.text.toList.all Text.isDigit = true <;>
      simp [digits, isEmpty]

/-- What parsing gives is genuine and has the text that was parsed. -/
theorem genuine_of_parse
    {value : String}
    {revision : Revision}
    (parsed : parse value = .ok revision) :
    revision.text = value ∧ revision.Genuine := by
  have same : revision.text = value := by
    unfold parse at parsed
    split at parsed
    · cases parsed
    · split at parsed <;> cases parsed
      rfl
  exact ⟨same, by rw [Genuine, same, parsed]⟩

/-- The revision of a point in time whose year has five digits: it starts with a sign. -/
def far : Revision :=
  .ofTimestamp ⟨10000, 1, 1, 0, 0, 0⟩

theorem far_eq : far = ⟨"+100000101000000"⟩ := by
  decide +kernel

end Revision

namespace Ledger

open Revision

/-! ## Entries -/

/-- Whether a list may be the applied revisions: they are genuine and distinct. -/
structure Wellformed (revisions : List Revision) : Prop where
  genuine : ∀ revision ∈ revisions, revision.Genuine
  distinct : revisions.Nodup

namespace Wellformed

theorem nil : Wellformed [] :=
  ⟨by simp, List.nodup_nil⟩

/-- Another genuine revision may be added at the end. -/
theorem append
    {revisions : List Revision}
    (wellformed : Wellformed revisions)
    {revision : Revision}
    (genuine : revision.Genuine)
    (unlisted : revision ∉ revisions) :
    Wellformed (revisions ++ [revision]) where
  genuine := by
    intro listed member
    rcases List.mem_append.mp member with known | added
    · exact wellformed.genuine listed known
    · rwa [List.mem_singleton.mp added]
  distinct := by
    rw [List.nodup_append]
    refine ⟨wellformed.distinct, List.nodup_singleton _, ?_⟩
    intro listed member added isAdded same
    rw [List.mem_singleton.mp isAdded] at same
    exact unlisted (same ▸ member)

theorem filter
    {revisions : List Revision}
    (wellformed : Wellformed revisions)
    (keeps : Revision → Bool) :
    Wellformed (revisions.filter keeps) where
  genuine := fun revision member =>
    wellformed.genuine revision (List.mem_of_mem_filter member)
  distinct := wellformed.distinct.filter keeps

end Wellformed

/-- What is collected after a list that may be the applied revisions may be them too. -/
theorem wellformed_collect
    {known collected : List Revision}
    {entries : List String}
    (wellformed : Wellformed known)
    (read : collect known entries = .ok collected) :
    Wellformed collected := by
  induction entries generalizing known with
  | nil =>
      cases read
      exact wellformed
  | cons entry rest inductionHypothesis =>
      unfold collect at read
      split at read
      · exact inductionHypothesis wellformed read
      · split at read
        · cases read
        · rename_i revision parsed
          refine inductionHypothesis ?_ read
          split
          · exact wellformed
          · rename_i unlisted
            exact wellformed.append (genuine_of_parse parsed).2 (by simpa using unlisted)

/-- Parsing gives genuine and distinct revisions. -/
theorem wellformed_parse
    {content : String}
    {revisions : List Revision}
    (parsed : parse content = .ok revisions) :
    Wellformed revisions :=
  wellformed_collect .nil parsed

/-- The texts of more revisions are collected after those known. -/
theorem collect_texts
    {known revisions : List Revision}
    (wellformed : Wellformed (known ++ revisions)) :
    collect known (revisions.map Revision.text) = .ok (known ++ revisions) := by
  induction revisions generalizing known with
  | nil =>
      simp [collect]
  | cons revision rest inductionHypothesis =>
      have genuine : revision.Genuine :=
        wellformed.genuine revision (by simp)
      have nonempty : revision.text.isEmpty = false := by
        simpa using (genuine_iff.mp genuine).1
      have parsed : Revision.parse revision.text = .ok revision :=
        genuine
      have unlisted : known.contains revision = false := by
        have apart := (List.nodup_append.mp wellformed.distinct).2.2
        rw [Bool.eq_false_iff]
        intro listed
        exact apart revision (List.contains_iff_mem.mp listed) revision (by simp) rfl
      have extended : Wellformed ((known ++ [revision]) ++ rest) := by
        simpa using wellformed
      have later := inductionHypothesis extended
      simpa only [List.map_cons, collect, nonempty, Bool.false_eq_true, if_false, parsed, unlisted,
        List.append_assoc, List.singleton_append] using later

/-! ## The written form -/

/-- The entries of what was written are the texts of the revisions. -/
theorem entriesOf_render
    {revisions : List Revision}
    (nonempty : revisions ≠ [])
    (genuine : ∀ revision ∈ revisions, revision.Genuine) :
    entriesOf (render revisions) = revisions.map Revision.text := by
  have digits :
      ∀ text ∈ revisions.map Revision.text,
        ∀ c ∈ text.toList, Text.isDigit c = true := by
    intro text member
    obtain ⟨revision, listed, rfl⟩ := List.mem_map.mp member
    exact (genuine_iff.mp (genuine revision listed)).2
  have solid :
      ∀ c ∈ (render revisions).toList, Text.isBlank c = false := by
    intro c member
    rcases Text.of_mem_join member with rfl | ⟨text, listed, within⟩
    · decide
    · exact Text.isBlank_of_isDigit (digits text listed c within)
  have free :
      ∀ text ∈ revisions.map Revision.text, bar ∉ text.toList := by
    intro text listed within
    have digit := digits text listed bar within
    exact absurd digit (by decide)
  rw [entriesOf, Text.trim_eq_self solid, render,
    Text.splitAt_join (by simpa using nonempty) free]
  conv_rhs => rw [← List.map_id (revisions.map Revision.text)]
  refine List.map_congr_left ?_
  intro text listed
  exact Text.trim_eq_self
    (fun c within => Text.isBlank_of_isDigit (digits text listed c within))

/-- Reading what was written gives the revisions. -/
theorem parse_render
    {revisions : List Revision}
    (wellformed : Wellformed revisions) :
    parse (render revisions) = .ok revisions := by
  by_cases isEmpty : revisions = []
  · subst isEmpty
    rfl
  · rw [parse, entriesOf_render isEmpty wellformed.genuine]
    exact collect_texts wellformed

end Ledger

end SchemaMigration
