import SchemaMigration.Migration.FileName
import SchemaMigration.Proofs.FileTree
import SchemaMigration.Proofs.Ledger.Segments
import SchemaMigration.Proofs.Name

namespace SchemaMigration

/-!
# File names at the ends of paths

A name joined to a path is the file name of the result, and its stem is what
stands before the extension.  The stem of a migration gives its revision and its
name back.  A directory is searched under a written form that leaves out some of
what was written, so the files in it can be reached under that form as well.
-/

/-! ## Stems -/

namespace Text

theorem beforeLast_append
    [DecidableEq α]
    {mark : α}
    {before after : List α}
    (nonempty : before ≠ [])
    (absent : mark ∉ after) :
    beforeLast mark (before ++ mark :: after) = before := by
  have passed : ∀ c ∈ after.reverse, (c != mark) = true := by
    intro c member
    rw [bne_iff_ne]
    rintro rfl
    exact absent (List.mem_reverse.mp member)
  have kept :
      ((before ++ mark :: after).reverse.dropWhile (· != mark)).drop 1 = before.reverse := by
    rw [List.reverse_append, List.reverse_cons, List.append_assoc,
      List.dropWhile_append_of_pos passed]
    simp
  simp only [beforeLast, kept, List.reverse_reverse]
  rw [if_neg]
  simpa using nonempty

end Text

namespace Migration

/-- The extension of files that are made. -/
def madeExtension : String :=
  ".yml"

theorem stemOf_append_extension
    {stem : String}
    (nonempty : stem ≠ "") :
    Place.stemOf (stem ++ madeExtension) = stem := by
  have shape : (stem ++ madeExtension).toList = stem.toList ++ '.' :: ['y', 'm', 'l'] := by
    rw [String.toList_append]
    rfl
  rw [Place.stemOf, shape, Text.beforeLast_append (by simpa using nonempty) (by decide),
    String.ofList_toList]

/-- The digits before the underscore are the revision, and what is behind it is the name. -/
theorem splitStem_stemOf
    {revision : Revision}
    (genuine : revision.Genuine)
    {name : String}
    (nonempty : name ≠ "")
    (oneLine : '\n' ∉ name.toList) :
    splitStem (stemOf revision name) = some (revision.text, name) := by
  obtain ⟨someDigit, digits⟩ := Revision.genuine_iff.mp genuine
  have shape :
      (stemOf revision name).toList = revision.text.toList ++ '_' :: name.toList := by
    simp [stemOf]
  have barIsNoDigit : Text.isDigit '_' = false := by
    decide
  have taken : (stemOf revision name).toList.takeWhile Text.isDigit = revision.text.toList := by
    rw [shape, List.takeWhile_append_of_pos digits, List.takeWhile_cons, barIsNoDigit]
    simp
  have left : (stemOf revision name).toList.dropWhile Text.isDigit = '_' :: name.toList := by
    rw [shape, List.dropWhile_append_of_pos digits, List.dropWhile_cons, barIsNoDigit]
    rfl
  have noneEmpty :
      (revision.text.toList.isEmpty || name.toList.isEmpty || name.toList.contains '\n') =
        false := by
    simp [someDigit, nonempty, oneLine]
  simp only [splitStem, left, taken, noneEmpty, Bool.false_eq_true, if_false,
    String.ofList_toList]

theorem stemOf_ne_empty (revision : Revision) (name : String) :
    stemOf revision name ≠ "" := by
  intro isEmpty
  have noCharacters := congrArg String.toList isEmpty
  simp [stemOf] at noCharacters

/-- What is split gives the stem back. -/
theorem stemOf_of_splitStem
    {stem digits name : String}
    (split : splitStem stem = some (digits, name)) :
    digits ++ "_" ++ name = stem := by
  unfold splitStem at split
  dsimp only at split
  split at split
  · rename_i rest left
    split at split
    · cases split
    · cases split
      rw [← String.toList_inj, String.toList_append, String.toList_append]
      simp only [String.toList_ofList]
      calc stem.toList.takeWhile Text.isDigit ++ "_".toList ++ rest
          = stem.toList.takeWhile Text.isDigit ++ stem.toList.dropWhile Text.isDigit := by
            rw [left, List.append_assoc]
            rfl
        _ = stem.toList := List.takeWhile_append_dropWhile
  · cases split

end Migration

/-! ## Names -/

namespace Place

/-- Whether a text names an entry of a directory. -/
structure IsName (name : String) : Prop where
  nonempty : name ≠ ""
  moves : name ≠ "."
  descends : name ≠ ".."
  single : '/' ∉ name.toList

namespace IsName

variable {name : String} (isName : IsName name)

include isName

theorem named : name.isEmpty = false ∧ name ≠ "." ∧ name ≠ ".." :=
  ⟨by simpa using isName.nonempty, isName.moves, isName.descends⟩

theorem isAbsolute_eq_false : isAbsolute name = false := by
  unfold isAbsolute
  split
  · rename_i rest shape
    exact absurd (shape ▸ List.mem_cons_self) isName.single
  · rfl

theorem pieces_eq : Text.pieces (· == '/') name.toList = [name.toList] := by
  rw [Text.pieces_eq_splitOnP]
  apply List.splitOnP_eq_singleton
  intro c member
  rw [beq_eq_false_iff_ne]
  rintro rfl
  exact isName.single member

theorem stepsAlong_eq : stepsAlong name = [name] := by
  have nonempty := isName.nonempty
  simp [stepsAlong, Text.splitAt, isName.pieces_eq, nonempty, isName.isAbsolute_eq_false]

end IsName

theorem join_name
    (directory : Place)
    {name : String}
    (isName : IsName name) :
    directory.join name =
      ⟨joined directory.label name,
        (if directory.label.isEmpty then [] else directory.steps) ++ [name]⟩ := by
  have relative := isName.isAbsolute_eq_false
  have nonempty := isName.named.1
  by_cases isEmpty : directory.label = ""
  · simp [join, ofPath, joined, isEmpty, relative, isName.stepsAlong_eq]
  · simp [join, isEmpty, relative, nonempty, isName.stepsAlong_eq]

/-- Whether a written path ends with a name of its own. -/
inductive EndsWith (path name : String) : Prop
  | alone : path = name → EndsWith path name
  | behind (before : List Char) :
      path.toList = before ++ '/' :: name.toList →
      EndsWith path name

theorem endsWith_joined (first name : String) :
    EndsWith (joined first name) name := by
  unfold joined
  split
  · exact .alone rfl
  · split
    · rename_i slashed
      obtain ⟨before, shape⟩ := List.getLast?_eq_some_iff.mp slashed
      apply EndsWith.behind before
      rw [String.toList_append, shape, List.append_assoc, List.singleton_append]
    · apply EndsWith.behind first.toList
      simp

theorem sublist_joined
    (first : String)
    {name : String}
    (isName : IsName name) :
    first.toList.Sublist (joined first name).toList := by
  simp only [joined, isName.isAbsolute_eq_false, Bool.false_or, List.isEmpty_iff]
  split
  · rename_i nothing
    rw [nothing]
    exact List.nil_sublist _
  · split
    · rw [String.toList_append]
      exact List.sublist_append_left _ _
    · rw [String.toList_append, String.toList_append, List.append_assoc]
      exact List.sublist_append_left _ _

theorem EndsWith.sublist
    {path name : String}
    (ends : EndsWith path name) :
    name.toList.Sublist path.toList := by
  cases ends with
  | alone same =>
      rw [same]
  | behind before shape =>
      rw [shape]
      exact (List.sublist_cons_self _ _).trans (List.sublist_append_right _ _)

theorem fileName?_of_endsWith
    {path name : String}
    (isName : IsName name)
    (ends : EndsWith path name) :
    fileName? path = some name := by
  obtain ⟨earlier, parts⟩ :
      ∃ earlier, Text.pieces (· == '/') path.toList = earlier ++ [name.toList] := by
    cases ends with
    | alone same =>
        exact ⟨[], by rw [same, isName.pieces_eq]; rfl⟩
    | behind before shape =>
        refine ⟨Text.pieces (· == '/') before, ?_⟩
        rw [shape, ← isName.pieces_eq]
        apply Text.pieces_append_separator
        rfl
  have kept : (name.toList != [] && name.toList != ['.']) = true := by
    have noDot : name.toList ≠ ['.'] := by
      intro dot
      exact isName.moves (String.toList_inj.mp dot)
    simp [isName.nonempty, noDot]
  have noRise : name.toList ≠ ['.', '.'] := by
    intro dots
    exact isName.descends (String.toList_inj.mp dots)
  simp only [fileName?, lastName?, parts, List.filter_append, List.filter_cons, kept, if_true,
    List.filter_nil, List.getLast?_append, List.getLast?_singleton, Option.some_or, noRise,
    if_false, Option.map_some, String.ofList_toList]

/-! ## Searched directories -/

theorem joined_sublist
    (first second : String) :
    (joined first second).toList.Sublist (first.toList ++ '/' :: second.toList) := by
  unfold joined
  split
  · exact (List.sublist_cons_self _ _).trans (List.sublist_append_right _ _)
  · split
    · rw [String.toList_append]
      exact (List.Sublist.refl _).append (List.sublist_cons_self _ _)
    · simp

/-- Steps as they are written behind a path. -/
def writtenSteps (steps : List String) : List Char :=
  steps.flatMap (fun step => '/' :: step.toList)

theorem searchedFrom?_sublist
    {steps : List String}
    {written searched : String}
    (found : searchedFrom? written steps = some searched) :
    searched.toList.Sublist (written.toList ++ writtenSteps steps) := by
  induction steps generalizing written with
  | nil =>
      cases found
      simp [writtenSteps]
  | cons step rest inductionHypothesis =>
      rw [writtenSteps, List.flatMap_cons, ← List.append_assoc]
      unfold searchedFrom? at found
      split at found
      · split at found
        · cases found
        · refine (inductionHypothesis found).trans ?_
          refine List.Sublist.append ?_ (List.Sublist.refl _)
          exact (List.sublist_cons_self _ _).trans (List.sublist_append_right _ _)
      · refine (inductionHypothesis found).trans ?_
        exact (joined_sublist written step).append (List.Sublist.refl _)

theorem writtenSteps_splitAt (path : String) :
    writtenSteps (Text.splitAt '/' path) = '/' :: path.toList := by
  have parts (list : List Char) :
      (Text.pieces (· == '/') list).flatMap (fun piece => '/' :: piece) = '/' :: list := by
    induction list with
    | nil =>
        rfl
    | cons c rest inductionHypothesis =>
        unfold Text.pieces
        split
        · rename_i isSlash
          rw [beq_iff_eq] at isSlash
          rw [List.flatMap_cons, inductionHypothesis, isSlash]
          rfl
        · split
          · rename_i shape
            rw [shape] at inductionHypothesis
            cases inductionHypothesis
          · rename_i piece later shape
            rw [shape, List.flatMap_cons] at inductionHypothesis
            have same := List.cons.inj inductionHypothesis
            rw [List.flatMap_cons, List.cons_append, List.cons_append]
            exact congrArg (fun list => '/' :: c :: list) same.2
  rw [writtenSteps, Text.splitAt, List.flatMap_map]
  simpa using parts path.toList

theorem splitAt_slash_of_isAbsolute
    {path : String}
    (absolute : isAbsolute path = true) :
    ∃ step later,
      Text.splitAt '/' path = "" :: step :: later ∧
        path.toList = writtenSteps (step :: later) ∧ isAbsolute step = false := by
  unfold isAbsolute at absolute
  split at absolute
  · rename_i rest shape
    obtain ⟨first, others, parts⟩ :
        ∃ first others, Text.pieces (· == '/') rest = first :: others := by
      cases parts : Text.pieces (· == '/') rest with
      | nil =>
          rw [Text.pieces_eq_splitOnP] at parts
          exact absurd parts (List.splitOnP_ne_nil _ _)
      | cons first others =>
          exact ⟨first, others, rfl⟩
    have split :
        Text.splitAt '/' path =
          "" :: String.ofList first :: others.map String.ofList := by
      rw [Text.splitAt, shape, Text.pieces, if_pos (beq_self_eq_true '/'), parts]
      rfl
    refine ⟨_, _, split, ?_, ?_⟩
    · have written := writtenSteps_splitAt path
      rw [split, writtenSteps, List.flatMap_cons] at written
      exact (List.cons.inj written).2.symm
    · unfold isAbsolute
      rw [String.toList_ofList]
      split
      · rename_i later
        have isPiece : '/' :: later ∈ Text.pieces (· == '/') rest := by
          rw [parts]
          exact List.mem_cons_self
        have noSlash := (Text.of_mem_pieces isPiece '/' List.mem_cons_self).2
        cases noSlash
      · rfl
  · cases absolute

/-- What is searched is the written directory with some characters left out. -/
theorem searched?_sublist
    {directory searched : String}
    (found : searched? directory = some searched) :
    searched.toList.Sublist directory.toList := by
  unfold searched? at found
  dsimp only at found
  split at found
  · rename_i absolute
    obtain ⟨step, later, split, written, relative⟩ := splitAt_slash_of_isAbsolute absolute
    rw [split, List.drop_one, List.tail_cons, searchedFrom?, if_neg (by decide)] at found
    have start : joined "/" step = "/" ++ step := by
      simp [joined, relative]
    have searches := searchedFrom?_sublist found
    rw [start, String.toList_append] at searches
    rw [written, writtenSteps, List.flatMap_cons]
    exact searches
  · have written := writtenSteps_splitAt directory
    cases split : Text.splitAt '/' directory with
    | nil =>
        rw [split] at written
        cases written
    | cons step later =>
        rw [split, searchedFrom?, if_pos rfl] at found
        split at found
        · cases found
        · rw [split, writtenSteps, List.flatMap_cons, List.cons_append] at written
          rw [← (List.cons.inj written).2]
          exact searchedFrom?_sublist found

theorem endsWith_searchedEntry (searched name : String) :
    EndsWith (searchedEntry searched name) name := by
  unfold searchedEntry
  split
  · exact .alone rfl
  · exact endsWith_joined searched name

/-- An entry of a searched directory is written with no more than it takes to join its name. -/
theorem searchedEntry_sublist
    {directory searched : String}
    (found : searched? directory = some searched)
    {name : String}
    (isName : IsName name) :
    (searchedEntry searched name).toList.Sublist (joined directory name).toList := by
  have relative := isName.isAbsolute_eq_false
  have left := searched?_sublist found
  unfold searchedEntry
  split
  · exact (endsWith_joined directory name).sublist
  · simp only [joined, relative, Bool.false_or, List.isEmpty_iff]
    by_cases nothingLeft : searched.toList = []
    · rw [if_pos nothingLeft]
      have ends := (endsWith_joined directory name).sublist
      simpa only [joined, relative, Bool.false_or, List.isEmpty_iff] using ends
    · have someWritten : directory.toList ≠ [] := by
        intro nothing
        rw [nothing] at left
        exact nothingLeft (List.sublist_nil.mp left)
      rw [if_neg nothingLeft, if_neg someWritten]
      by_cases slashed : directory.toList.getLast? = some '/'
      · obtain ⟨before, shape⟩ := List.getLast?_eq_some_iff.mp slashed
        rw [if_pos slashed]
        split
        · rw [String.toList_append, String.toList_append]
          exact left.append (List.Sublist.refl _)
        · rename_i unslashed
          -- The slash that ends the directory is left out and then put back.
          rw [shape] at left
          obtain ⟨kept, last, parts, keptLeft, lastLeft⟩ := List.sublist_append_iff.mp left
          have noneLast : last = [] := by
            rcases List.sublist_singleton.mp lastLeft with nothing | slash
            · exact nothing
            · rw [slash] at parts
              exact absurd (by rw [parts]; simp) unslashed
          rw [noneLast, List.append_nil] at parts
          rw [String.toList_append, String.toList_append, String.toList_append, shape, parts]
          exact (keptLeft.append (List.Sublist.refl _)).append (List.Sublist.refl _)
      · rw [if_neg slashed]
        split
        · rw [String.toList_append, String.toList_append, String.toList_append]
          exact (left.trans (List.sublist_append_left _ _)).append (List.Sublist.refl _)
        · rw [String.toList_append, String.toList_append, String.toList_append,
            String.toList_append]
          exact (left.append (List.Sublist.refl _)).append (List.Sublist.refl _)

end Place

/-! ## Paths that can be followed -/

namespace FileTree

theorem utf8ByteSize_ofList_cons (c : Char) (list : List Char) :
    (String.ofList (c :: list)).utf8ByteSize =
      c.utf8Size + (String.ofList list).utf8ByteSize := by
  rw [String.ofList_cons, String.utf8ByteSize_append, String.utf8ByteSize_singleton]

theorem utf8ByteSize_le_of_sublist
    {shorter longer : List Char}
    (sublist : shorter.Sublist longer) :
    (String.ofList shorter).utf8ByteSize ≤ (String.ofList longer).utf8ByteSize := by
  induction sublist with
  | slnil =>
      exact Nat.le_refl _
  | cons c _ inductionHypothesis =>
      rw [utf8ByteSize_ofList_cons]
      omega
  | cons_cons c _ inductionHypothesis =>
      rw [utf8ByteSize_ofList_cons, utf8ByteSize_ofList_cons]
      omega

theorem pathProblem?_eq_none_iff {path : String} :
    pathProblem? path = none ↔ hasZero path = false ∧ path.utf8ByteSize ≤ longestPath := by
  unfold pathProblem?
  split
  · rename_i zero
    simp [zero]
  · rename_i noZero
    split
    · rename_i tooLong
      simp [tooLong]
    · rename_i fits
      simpa [noZero] using fits

/-- A path with some characters left out has no problem that the whole one lacks. -/
theorem pathProblem?_of_sublist
    {shorter longer : String}
    (sublist : shorter.toList.Sublist longer.toList)
    (fine : pathProblem? longer = none) :
    pathProblem? shorter = none := by
  have size : shorter.utf8ByteSize ≤ longer.utf8ByteSize := by
    simpa only [String.ofList_toList] using utf8ByteSize_le_of_sublist sublist
  rw [pathProblem?_eq_none_iff] at fine ⊢
  obtain ⟨noZero, fits⟩ := fine
  have noZeroLeft : hasZero shorter = false := by
    simp only [hasZero, List.any_eq_false] at noZero ⊢
    exact fun c member => noZero c (sublist.subset member)
  exact ⟨noZeroLeft, size.trans fits⟩

theorem follow_name
    {tree : FileTree}
    {start : Location}
    (isDirectory : tree.holding? start = some .directory)
    {name : String}
    (named : name.isEmpty = false ∧ name ≠ "." ∧ name ≠ "..")
    (fits : name.utf8ByteSize ≤ longestName) :
    tree.follow start [name] = .ok (start ++ [name]) := by
  obtain ⟨nonempty, moves, descends⟩ := named
  simp only [follow, isDirectory, nonempty, moves, descends, Bool.false_eq_true, if_false]
  rw [if_neg (by omega)]

/-- Where a name in a directory leads somewhere, so does the directory. -/
theorem locate_of_locate_join
    {tree : FileTree}
    {directory : Place}
    (labelled : directory.label.isEmpty = false)
    {name : String}
    (isName : Place.IsName name)
    {location : Location}
    (leads : tree.locate (directory.join name) = .ok location) :
    ∃ start, tree.locate directory = .ok start ∧ location = start ++ [name] := by
  rw [Place.join_name directory isName, labelled] at leads
  obtain ⟨start, followed, rfl⟩ := location_of_locate rfl isName.named leads
  have fine :=
    pathProblem?_of_sublist (Place.sublist_joined directory.label isName)
      (locate_eq_ok_iff.mp leads).1
  exact ⟨start, locate_eq_ok_iff.mpr ⟨fine, followed⟩, rfl⟩

end FileTree

end SchemaMigration
