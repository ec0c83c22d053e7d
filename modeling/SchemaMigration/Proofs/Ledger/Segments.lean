import Mathlib.Data.List.TakeWhile
import SchemaMigration.Proofs.Ledger.Codec

namespace SchemaMigration

/-!
# Reading any written ledger

A ledger may have been written by hand: with blanks, with bars at its ends, with
repetitions, or with entries that are no revisions.  What reading makes of it is
said by the segments between the bars, and written again it has no bar that
does not stand between two entries.
-/

namespace Text

/-! ## Trimming -/

section Trimming

variable
  {drop : Char → Bool}
  {part : List Char}
  (dropped : ∀ c ∈ part, drop c = true)

include dropped

theorem trimWhere_append_left
    (list : List Char) :
    trimWhere drop (part ++ list) = trimWhere drop list := by
  rw [trimWhere, trimWhere, List.dropWhile_append_of_pos dropped]

theorem trimEndWhere_append_right
    (list : List Char) :
    trimEndWhere drop (list ++ part) = trimEndWhere drop list := by
  have droppedBackwards : ∀ c ∈ part.reverse, drop c = true :=
    fun c member => dropped c (List.mem_reverse.mp member)
  rw [trimEndWhere, trimEndWhere, List.reverse_append,
    List.dropWhile_append_of_pos droppedBackwards]

theorem trimWhere_append_right
    (list : List Char) :
    trimWhere drop (list ++ part) = trimWhere drop list := by
  rw [trimWhere, trimWhere, List.dropWhile_append]
  split
  · rename_i nothingLeft
    have gone : part.dropWhile drop = [] :=
      List.dropWhile_eq_nil_iff.mpr dropped
    rw [gone, List.isEmpty_iff.mp nothingLeft]
  · exact trimEndWhere_append_right dropped _

end Trimming

/-- What trimming takes away stands before and behind what it leaves. -/
theorem trimWhere_parts
    (drop : Char → Bool)
    (list : List Char) :
    ∃ before after,
      list = before ++ trimWhere drop list ++ after ∧
        (∀ c ∈ before, drop c = true) ∧
          ∀ c ∈ after, drop c = true := by
  let kept := list.dropWhile drop
  have behind :
      kept =
        trimEndWhere drop kept ++ (kept.reverse.takeWhile drop).reverse := by
    rw [trimEndWhere, ← List.reverse_append, List.takeWhile_append_dropWhile,
      List.reverse_reverse]
  refine ⟨list.takeWhile drop, (kept.reverse.takeWhile drop).reverse, ?_, ?_, ?_⟩
  · rw [trimWhere, List.append_assoc, ← behind, List.takeWhile_append_dropWhile]
  · exact List.all_eq_true.mp List.all_takeWhile
  · intro c member
    exact List.all_eq_true.mp List.all_takeWhile c (List.mem_reverse.mp member)

/-! ## Splitting -/

section Splitting

variable
  {isSeparator : α → Bool}
  {part : List α}
  (whole : ∀ c ∈ part, isSeparator c = false)

include whole

/-- What stands before a list without separators belongs to its first piece. -/
theorem pieces_append_left
    (list : List α) :
    pieces isSeparator (part ++ list) =
      (pieces isSeparator list).modifyHead (part ++ ·) := by
  induction part with
  | nil =>
      rw [List.nil_append]
      cases pieces isSeparator list <;> rfl
  | cons c rest inductionHypothesis =>
      have here : isSeparator c = false :=
        whole c List.mem_cons_self
      have later :=
        inductionHypothesis (fun d member => whole d (List.mem_cons_of_mem _ member))
      rw [pieces_eq_splitOnP] at later ⊢
      rw [List.cons_append, List.splitOnP_cons_eq_if_modifyHead, here, later]
      cases pieces isSeparator list <;> rfl

/-- What stands behind a list without separators belongs to its last piece. -/
theorem pieces_append_right
    (list : List α) :
    ∃ earlier last,
      pieces isSeparator list = earlier ++ [last] ∧
        pieces isSeparator (list ++ part) = earlier ++ [last ++ part] := by
  induction list with
  | nil =>
      refine ⟨[], [], rfl, ?_⟩
      rw [List.nil_append, pieces_eq_splitOnP, List.splitOnP_eq_singleton whole]
      rfl
  | cons c rest inductionHypothesis =>
      obtain ⟨earlier, last, shape, extended⟩ := inductionHypothesis
      rw [List.cons_append, pieces, pieces, shape, extended]
      split
      · exact ⟨[] :: earlier, last, rfl, rfl⟩
      · cases earlier with
        | nil =>
            exact ⟨[], c :: last, rfl, rfl⟩
        | cons piece between =>
            exact ⟨(c :: piece) :: between, last, rfl, rfl⟩

end Splitting

/-- Blanks at the ends of a text are blanks at the ends of its first and its last part. -/
theorem map_trim_splitAt_trim
    {separator : Char}
    (solid : isBlank separator = false)
    (text : String) :
    (splitAt separator (trim text)).map trim = (splitAt separator text).map trim := by
  have whole
      {part : List Char}
      (blank : ∀ c ∈ part, isBlank c = true) :
      ∀ c ∈ part, (c == separator) = false := by
    intro c member
    rw [beq_eq_false_iff_ne]
    rintro rfl
    rw [blank c member] at solid
    cases solid
  have trimmed : trim ∘ String.ofList = fun piece => String.ofList (trimWhere isBlank piece) := by
    funext piece
    rw [Function.comp_apply, trim, String.toList_ofList]
  obtain ⟨before, after, shape, blankBefore, blankAfter⟩ :=
    trimWhere_parts isBlank text.toList
  rw [splitAt, splitAt, List.map_map, List.map_map, trimmed, trim, String.toList_ofList]
  generalize trimWhere isBlank text.toList = core at shape
  obtain ⟨earlier, last, coreShape, extended⟩ :=
    pieces_append_right (whole blankAfter) core
  rw [shape, List.append_assoc, pieces_append_left (whole blankBefore), extended, coreShape]
  cases earlier with
  | nil =>
      simp [trimWhere_append_left blankBefore, trimWhere_append_right blankAfter]
  | cons first between =>
      simp [trimWhere_append_left blankBefore, trimWhere_append_right blankAfter]

/-- A separator parts the pieces before it from those behind it. -/
theorem pieces_append_separator
    {isSeparator : α → Bool}
    {separator : α}
    (separates : isSeparator separator = true)
    (before after : List α) :
    pieces isSeparator (before ++ separator :: after) =
      pieces isSeparator before ++ pieces isSeparator after := by
  simp only [pieces_eq_splitOnP]
  exact List.splitOnP_append_cons before after separates

/-- Whether every occurrence of a character stands between two other ones. -/
structure StandsBetween (separator : Char) (text : String) : Prop where
  first : text.toList.head? ≠ some separator
  last : text.toList.getLast? ≠ some separator
  alone : ¬ [separator, separator] <:+: text.toList

/-- Where no part is empty, separators stand between two other characters. -/
theorem standsBetween_of_splitAt
    {separator : Char}
    {text : String}
    (nonempty : "" ∉ splitAt separator text) :
    StandsBetween separator text := by
  have noneEmpty : [] ∉ pieces (· == separator) text.toList := by
    intro member
    exact nonempty (List.mem_map.mpr ⟨[], member, rfl⟩)
  have parted
      (before after : List Char) :
      pieces (· == separator) (before ++ separator :: after) =
        pieces (· == separator) before ++ pieces (· == separator) after := by
    apply pieces_append_separator
    exact beq_self_eq_true separator
  constructor
  · intro starts
    obtain ⟨rest, shape⟩ := List.head?_eq_some_iff.mp starts
    apply noneEmpty
    rw [shape, ← List.nil_append (separator :: rest), parted]
    exact List.mem_append_left _ List.mem_cons_self
  · intro ends
    obtain ⟨rest, shape⟩ := List.getLast?_eq_some_iff.mp ends
    apply noneEmpty
    rw [shape, parted]
    exact List.mem_append_right _ List.mem_cons_self
  · rintro ⟨before, after, shape⟩
    apply noneEmpty
    have sameText : text.toList = before ++ separator :: ([] ++ separator :: after) := by
      rw [← shape]
      simp
    rw [sameText, parted, parted]
    exact List.mem_append_right _ (List.mem_append_left _ List.mem_cons_self)

end Text

namespace Ledger

open Revision

/-! ## Segments -/

/-- The parts of a written ledger between bars, each without the blanks around it. -/
def segments (content : String) : List String :=
  (Text.splitAt bar content).map Text.trim

/-- Whether a segment is neither empty nor a revision. -/
def isStray (segment : String) : Bool :=
  segment != "" && !segment.toList.all Text.isDigit

/-- The blanks around the whole content are blanks around its first and its last segment. -/
theorem entriesOf_eq_segments (content : String) :
    entriesOf content = segments content :=
  Text.map_trim_splitAt_trim (by decide) content

/-- What parsing makes of an entry that is not empty. -/
theorem parse_entry
    {entry : String}
    (nonempty : entry ≠ "") :
    Revision.parse entry = .ok ⟨entry⟩ ∧ isStray entry = false ∨
      (∃ problem, Revision.parse entry = .error problem) ∧ isStray entry = true := by
  have hasCharacters : entry.toList.isEmpty = false := by
    simpa using nonempty
  by_cases digits : entry.toList.all Text.isDigit = true
  · left
    simp [Revision.parse, isStray, hasCharacters, digits]
  · right
    simp [Revision.parse, isStray, nonempty, digits]

theorem collect_error_iff
    {known : List Revision}
    {entries : List String}
    {bad : String} :
    collect known entries = .error bad ↔ entries.find? isStray = some bad := by
  induction entries generalizing known with
  | nil =>
      simp [collect]
  | cons entry rest inductionHypothesis =>
      by_cases isEmpty : entry = ""
      · subst isEmpty
        exact inductionHypothesis
      · have hasCharacters : entry.isEmpty = false := by
          simpa using isEmpty
        rw [collect, hasCharacters, List.find?_cons]
        rcases parse_entry isEmpty with ⟨parsed, regular⟩ | ⟨⟨problem, refused⟩, stray⟩
        · simp only [parsed, regular, Bool.false_eq_true, if_false]
          exact inductionHypothesis
        · simp [refused, stray]

/-- One that is listed already changes nothing when repetitions are taken away. -/
theorem eraseDups_append_of_mem
    {texts later : List String}
    {text : String}
    (listed : text ∈ texts) :
    (texts ++ text :: later).eraseDups = (texts ++ later).eraseDups := by
  rw [List.eraseDups_append, List.eraseDups_append]
  simp [List.removeAll, listed]

theorem eraseDups_of_nodup
    {texts : List String}
    (distinct : texts.Nodup) :
    texts.eraseDups = texts := by
  induction texts with
  | nil =>
      rfl
  | cons text rest inductionHypothesis =>
      obtain ⟨unlisted, distinctRest⟩ := List.nodup_cons.mp distinct
      have others : rest.filter (fun other => !other == text) = rest := by
        rw [List.filter_eq_self]
        intro other member
        simp only [Bool.not_eq_true', beq_eq_false_iff_ne]
        rintro rfl
        exact unlisted member
      rw [List.eraseDups_cons, others, inductionHypothesis distinctRest]

/-- Revisions are told apart by their texts. -/
theorem mem_texts_iff
    {revisions : List Revision}
    {entry : String} :
    entry ∈ revisions.map Revision.text ↔ (⟨entry⟩ : Revision) ∈ revisions := by
  constructor
  · intro member
    obtain ⟨revision, listed, rfl⟩ := List.mem_map.mp member
    exact listed
  · exact fun listed => List.mem_map.mpr ⟨_, listed, rfl⟩

/-- Collecting adds the entries that are not empty, without repetitions. -/
theorem texts_of_collect
    {known collected : List Revision}
    {entries : List String}
    (distinct : (known.map Revision.text).Nodup)
    (read : collect known entries = .ok collected) :
    collected.map Revision.text =
      (known.map Revision.text ++ entries.filter (· != "")).eraseDups := by
  induction entries generalizing known with
  | nil =>
      cases read
      rw [List.filter_nil, List.append_nil, eraseDups_of_nodup distinct]
  | cons entry rest inductionHypothesis =>
      by_cases isEmpty : entry = ""
      · subst isEmpty
        exact inductionHypothesis distinct read
      · have hasCharacters : entry.isEmpty = false := by
          simpa using isEmpty
        have kept : (entry != "") = true := by
          simpa using isEmpty
        rw [collect, hasCharacters] at read
        rw [List.filter_cons, if_pos kept]
        rcases parse_entry isEmpty with ⟨parsed, _⟩ | ⟨⟨problem, refused⟩, _⟩
        · simp only [parsed, Bool.false_eq_true, if_false] at read
          by_cases listed : (⟨entry⟩ : Revision) ∈ known
          · rw [if_pos (List.contains_iff_mem.mpr listed)] at read
            rw [inductionHypothesis distinct read,
              eraseDups_append_of_mem (mem_texts_iff.mpr listed)]
          · rw [if_neg (fun isKnown => listed (List.contains_iff_mem.mp isKnown))] at read
            have distinctMore :
                ((known ++ [(⟨entry⟩ : Revision)]).map Revision.text).Nodup := by
              rw [List.map_append, List.map_singleton, List.nodup_append]
              refine ⟨distinct, List.nodup_singleton _, ?_⟩
              rintro text member added isAdded rfl
              rw [List.mem_singleton.mp isAdded] at member
              exact listed (mem_texts_iff.mp member)
            rw [inductionHypothesis distinctMore read]
            simp
        · simp [refused] at read

/-! ## Written again -/

/-- Revisions that may be the applied ones are written with bars between them only. -/
theorem standsBetween_render
    {revisions : List Revision}
    (genuine : ∀ revision ∈ revisions, revision.Genuine) :
    Text.StandsBetween bar (render revisions) := by
  by_cases isEmpty : revisions = []
  · subst isEmpty
    constructor <;> decide
  · apply Text.standsBetween_of_splitAt
    have free :
        ∀ text ∈ revisions.map Revision.text, bar ∉ text.toList := by
      intro text listed within
      obtain ⟨revision, member, rfl⟩ := List.mem_map.mp listed
      have digit := (genuine_iff.mp (genuine revision member)).2 bar within
      exact absurd digit (by decide)
    rw [render, Text.splitAt_join (by simpa using isEmpty) free]
    intro member
    obtain ⟨revision, listed, isBlank⟩ := List.mem_map.mp member
    exact (genuine_iff.mp (genuine revision listed)).1 isBlank

/-- What reading makes of a content, in terms of its segments. -/
structure ReadsBySegments (content : String) : Prop where
  /-- Reading fails at the first segment that is neither empty nor a revision. -/
  fails :
    ∀ bad, parse content = .error bad ↔ (segments content).find? isStray = some bad
  /-- What is read are the other segments, each at its first occurrence. -/
  lists :
    ∀ revisions,
      parse content = .ok revisions →
        revisions.map Revision.text = ((segments content).filter (· != "")).eraseDups
  /-- What is read is read again from how it is written. -/
  again :
    ∀ revisions, parse content = .ok revisions → parse (render revisions) = .ok revisions
  written :
    ∀ revisions, parse content = .ok revisions → Text.StandsBetween bar (render revisions)

theorem readsBySegments (content : String) : ReadsBySegments content where
  fails := by
    intro bad
    rw [parse, entriesOf_eq_segments]
    exact collect_error_iff
  lists := by
    intro revisions parsed
    rw [parse, entriesOf_eq_segments] at parsed
    have distinct : (([] : List Revision).map Revision.text).Nodup :=
      List.nodup_nil
    simpa using texts_of_collect distinct parsed
  again := fun _ parsed => parse_render (wellformed_parse parsed)
  written := fun _ parsed => standsBetween_render (wellformed_parse parsed).genuine

example : parse "|1 |\n 20|1||3 " = .ok [⟨"1"⟩, ⟨"20"⟩, ⟨"3"⟩] := by
  decide

end Ledger

end SchemaMigration
