import SchemaMigration.Project.Scaffold
import SchemaMigration.Proofs.Yaml.Entries
import SchemaMigration.Proofs.Yaml.KnownTokens
import SchemaMigration.Proofs.Yaml.Quoting

namespace SchemaMigration.ConfigText

/-!
# The tokens of a new configuration file

The configuration file of a new project holds the name of the project and the
path of its database between double quotes.  Everything else in it is fixed, so
its tokens are known but for what those two texts are read as.
-/

open Scaffold (configLines configText)
open Yaml Yaml.Lexing

/-! ## The written text -/

/-- An entry whose value is a mapping on the lines below it. -/
def nested (word entries : List Char) : List Char :=
  word ++ ':' :: '\n' :: ' ' :: ' ' :: entries

/-- A text between double quotes, and what follows it. -/
def quotedThen (text after : List Char) : List Char :=
  doubleQuote :: (escaped text ++ doubleQuote :: after)

/-- The lines about targets, none of which holds a token. -/
def targetHints : List (List Char) :=
  [[], [], "# targets:".toList, "#   test:".toList, "#     database:".toList,
    "#       type: duckdb".toList, "#       path: \x22:memory:\x22".toList]

/-- The path of the database, and what follows it. -/
def pathEntry (path : List Char) : List Char :=
  entry "path".toList (quotedThen path (ended targetHints))

/-- The entry of the database, and what follows it. -/
def databaseEntry (path : List Char) : List Char :=
  nested "database".toList
    (entry "type".toList ("duckdb".toList ++ '\n' :: ' ' :: ' ' :: pathEntry path))

/-- The entry of the migrations, and what follows it. -/
def migrationsEntry (path : List Char) : List Char :=
  nested "migrations".toList
    (entry "path".toList ("migrations".toList ++ '\n' :: '\n' :: databaseEntry path))

/-- What follows the name of the project. -/
def behindName (path : List Char) : List Char :=
  ended [[], []] ++ migrationsEntry path

/-- The entry of the name, and what follows it: the whole text. -/
def nameEntry (name path : List Char) : List Char :=
  entry "name".toList (quotedThen name (behindName path))

theorem toList_quoted (text : String) :
    (Scaffold.quoted text).toList = quotedThen text.toList [] := by
  rw [Scaffold.quoted, String.toList_ofList]
  rfl

theorem toList_configText (name path : String) :
    (configText name path).toList = nameEntry name.toList path.toList := by
  simp [configText, configLines, Scaffold.ended, toList_quoted, nameEntry, entry, quotedThen,
    behindName, migrationsEntry, nested, databaseEntry, pathEntry, targetHints, ended]

/-! ## Line breaks -/

/-- What stands before the name. -/
def head : List Char :=
  entry "name".toList [doubleQuote]

/-- What stands between the name and the path. -/
def middle : List Char :=
  doubleQuote :: (ended [[], []] ++ nested "migrations".toList
    (entry "path".toList ("migrations".toList ++ '\n' :: '\n' :: nested "database".toList
      (entry "type".toList ("duckdb".toList ++ '\n' :: ' ' :: ' ' ::
        entry "path".toList [doubleQuote])))))

theorem nameEntry_eq (name path : List Char) :
    nameEntry name path =
      head ++ (escaped name ++ (middle ++ (escaped path ++ doubleQuote :: ended targetHints))) := by
  simp only [nameEntry, head, middle, entry, quotedThen, behindName, migrationsEntry, nested,
    databaseEntry, pathEntry, List.append_assoc, List.cons_append, List.nil_append]

theorem mem_nameEntry
    {c : Char}
    {name path : List Char} :
    c ∈ nameEntry name path ↔
      c ∈ head ∨ c ∈ escaped name ∨ c ∈ middle ∨ c ∈ escaped path ∨
        c ∈ doubleQuote :: ended targetHints := by
  rw [nameEntry_eq]
  simp only [List.mem_append]

theorem head_isKept : ∀ c ∈ head, isKept c = true :=
  List.all_eq_true.mp (by decide)

theorem middle_isKept : ∀ c ∈ middle, isKept c = true :=
  List.all_eq_true.mp (by decide)

theorem targetHints_areKept : ∀ c ∈ doubleQuote :: ended targetHints, isKept c = true :=
  List.all_eq_true.mp (by decide)

/-- Line breaks are changed in the name and in the path only. -/
theorem withLineFeeds_nameEntry (name path : List Char) :
    withLineFeeds (nameEntry name path) =
      nameEntry (withLineFeeds name) (withLineFeeds path) := by
  have noFeed (tail : List Char) : (doubleQuote :: tail).head? ≠ some '\n' := by
    simp [doubleQuote]
  have noFeedMiddle (tail : List Char) : (middle ++ tail).head? ≠ some '\n' :=
    noFeed _
  rw [nameEntry_eq, nameEntry_eq, withLineFeeds_append_of_kept head_isKept,
    withLineFeeds_append _ (noFeedMiddle _), withLineFeeds_append_of_kept middle_isKept,
    withLineFeeds_append _ (noFeed _), withLineFeeds_eq_self targetHints_areKept,
    withLineFeeds_escaped, withLineFeeds_escaped]

/-! ## Tokens -/

/-- Behind the name of a key and its colon, in a block that starts at a column. -/
def behindKey (column : Nat) (word : String) : Nat :=
  column + word.toList.length + 1

/-- A section at the left margin, up to the value of its first entry. -/
theorem reads_nested
    {word inner : String}
    (isKey : IsKey word.toList)
    (innerIsKey : IsKey inner.toList)
    (value : List Char)
    (line : Nat)
    (known : List Token) :
    Reads 4
      (inBlock 0 [-1] ⟨nested word.toList (entry inner.toList value), line, 0⟩ known true)
      (inBlock 2 [0, -1] ⟨' ' :: value, line + 1, behindKey 2 inner⟩
        ([.value, .scalar inner true, .key, .blockMappingStart, .value, .scalar word true, .key] ++
          known) false) := by
  obtain ⟨c, others, shape⟩ := List.exists_cons_of_ne_nil innerIsKey.nonempty
  have solid : Text.isSolid c = true := by
    apply innerIsKey.solid
    rw [shape]
    exact List.mem_cons_self
  have blankFills : ∀ line ∈ [([] : List Char)], IsFiller line := by
    intro line member
    rw [List.mem_singleton.mp member]
    exact .spaces nofun
  have twoSpaces : ∀ d ∈ [' ', ' '], d = ' ' := by
    simp
  have heading := reads_further_key isKey
    (show startsGap ('\n' :: ' ' :: ' ' :: entry inner.toList value) = true from rfl) line 0 known
    [-1]
  have below (column : Nat) (known : List Token) :
      Reads 0
        (inBlock 0 [-1] ⟨'\n' :: ' ' :: ' ' :: entry inner.toList value, line, column⟩ known false)
        (inBlock 0 [-1] ⟨entry inner.toList value, line + 1, 2⟩ known true) := by
    unfold entry
    rw [shape, List.cons_append]
    exact reads_indented blankFills twoSpaces rfl (startsToken_of_isSolid solid) rfl
  have first (known : List Token) := reads_opening_key innerIsKey
    (show startsGap (' ' :: value) = true from rfl) (line + 1) 2 known [-1]
    (show (0 : Int) < Int.ofNat 2 by decide)
  have whole := (heading.trans (below _ _)).trans (first _)
  rw [String.ofList_toList, String.ofList_toList] at whole
  exact whole

section Middle

variable
  (path : List Char)
  (line column : Nat)
  (known : List Token)

/-- The tokens of the migrations, the latest first. -/
def migrationsTokens : List Token :=
  [.blockEnd, .scalar "migrations" true, .value, .scalar "path" true, .key, .blockMappingStart,
    .value, .scalar "migrations" true, .key]

/-- The tokens of the database up to its path, the latest first. -/
def databaseTokens : List Token :=
  [.value, .scalar "path" true, .key, .scalar "duckdb" true, .value, .scalar "type" true, .key,
    .blockMappingStart, .value, .scalar "database" true, .key]

/-- The entry of the migrations, inside the mapping at the left margin. -/
theorem reads_migrations :
    Reads 5
      (inBlock 0 [-1] ⟨behindName path, line, column⟩ known false)
      (inBlock 0 [-1] ⟨databaseEntry path, line + 5, 0⟩ (migrationsTokens ++ known) true) := by
  have blanksFill : ∀ line ∈ [([] : List Char), []], IsFiller line := by
    intro line member
    have isEmpty : line = [] := by
      simpa using member
    rw [isEmpty]
    exact .spaces nofun
  have outerKey : IsKey "migrations".toList := by
    decide
  have innerKey : IsKey "path".toList := by
    decide
  have nextKey : IsKey "database".toList := by
    decide
  have startsNext : StartsSolid (databaseEntry path) :=
    nextKey.startsSolid_append _
  have toMargin :
      Reads 0
        (inBlock 0 [-1] ⟨behindName path, line, column⟩ known false)
        (inBlock 0 [-1] ⟨migrationsEntry path, line + 2, 0⟩ known true) :=
    reads_ended blanksFill rfl (outerKey.startsSolid_append _) rfl
  have heading := reads_nested outerKey innerKey
    ("migrations".toList ++ '\n' :: '\n' :: databaseEntry path) (line + 2) known
  have directory (known : List Token) := reads_plain (line + 3) (behindKey 2 "path") known 2
    [0, -1] (by decide) outerKey.toIsWord 0 1 (by decide) startsNext
  have outdents (known : List Token) :
      Reads 0
        (inBlock 2 [0, -1] ⟨databaseEntry path, line + 5, 0⟩ known true)
        (inBlock 0 [-1] ⟨databaseEntry path, line + 5, 0⟩ (.blockEnd :: known) true) := by
    obtain ⟨c, rest, shape, solid⟩ := startsNext
    rw [shape]
    exact reads_outdent (line + 5) known (by decide) (startsToken_of_isSolid solid) rest true
  have whole := ((toMargin.trans heading).trans (directory _)).trans (outdents _)
  rw [String.ofList_toList] at whole
  exact whole

/-- The entry of the database up to the path. -/
theorem reads_database :
    Reads 7
      (inBlock 0 [-1] ⟨databaseEntry path, line, 0⟩ known true)
      (inBlock 2 [0, -1]
        ⟨' ' :: quotedThen path (ended targetHints), line + 2, behindKey 2 "path"⟩
        (databaseTokens ++ known) false) := by
  have outerKey : IsKey "database".toList := by
    decide
  have innerKey : IsKey "type".toList := by
    decide
  have nextKey : IsKey "path".toList := by
    decide
  have typeIsKey : IsKey "duckdb".toList := by
    decide
  have startsNext : StartsSolid (pathEntry path) :=
    nextKey.startsSolid_append _
  have heading := reads_nested outerKey innerKey
    ("duckdb".toList ++ '\n' :: ' ' :: ' ' :: pathEntry path) line known
  have system (known : List Token) := reads_plain (line + 1) (behindKey 2 "type") known 2
    [0, -1] (by decide) typeIsKey.toIsWord 2 0 (by decide) startsNext
  have key (known : List Token) :
      Reads 2
        (inBlock 2 [0, -1] ⟨pathEntry path, line + 2, 2⟩ known true)
        (inBlock 2 [0, -1]
          ⟨' ' :: quotedThen path (ended targetHints), line + 2, behindKey 2 "path"⟩
          (.value :: .scalar (String.ofList "path".toList) true :: .key :: known) false) :=
    reads_further_key nextKey rfl (line + 2) 2 known [0, -1]
  have whole := (heading.trans (system _)).trans (key _)
  rw [String.ofList_toList, String.ofList_toList] at whole
  exact whole

end Middle

/-- The tokens up to the name of the project, the latest first. -/
def nameTokens (name : List Char) : List Token :=
  [.scalar (String.ofList name) false, .value, .scalar "name" true, .key, .blockMappingStart]

/-- The tokens up to the path of the database. -/
def tokensBeforePath (name : List Char) : List Token :=
  (databaseTokens ++ (migrationsTokens ++ nameTokens name)).reverse

/-- The tokens up to the path and with it. -/
def knownTokens (name path : List Char) : List Token :=
  tokensBeforePath name ++ [.scalar (String.ofList path) false]

/-- All tokens. -/
def tokens (name path : List Char) : List Token :=
  knownTokens name path ++ [.blockEnd, .blockEnd]

/-- The first key of the text. -/
theorem reads_nameKey (name path : List Char) :
    Reads 2
      (Lexing.start (nameEntry name path))
      (inBlock 0 [-1]
        ⟨' ' :: quotedThen name (behindName path), 0, behindKey 0 "name"⟩
        [.value, .scalar "name" true, .key, .blockMappingStart] false) := by
  have isKey : IsKey "name".toList := by
    decide
  have key := reads_opening_key isKey
    (show startsGap (' ' :: quotedThen name (behindName path)) = true from rfl) 0 0 [] []
    (show (-1 : Int) < Int.ofNat 0 by decide)
  rw [String.ofList_toList] at key
  exact key

/-- Behind the name, the text is read up to the path. -/
theorem reads_beforePath
    (name path : List Char)
    (line column : Nat) :
    Reads 12
      (inBlock 0 [-1] ⟨behindName path, line, column⟩ (nameTokens name) false)
      (inBlock 2 [0, -1]
        ⟨' ' :: quotedThen path (ended targetHints), line + 7, behindKey 2 "path"⟩
        (tokensBeforePath name).reverse false) := by
  have whole := (reads_migrations path line column (nameTokens name)).trans
    (reads_database path (line + 5) (migrationsTokens ++ nameTokens name))
  rw [tokensBeforePath, List.reverse_reverse]
  exact whole

theorem targetHints_areFillers : ∀ line ∈ targetHints, IsFiller line := by
  simp only [targetHints, List.forall_mem_cons]
  refine ⟨isFiller_of_fillsLine ?_, isFiller_of_fillsLine ?_, isFiller_of_fillsLine ?_,
    isFiller_of_fillsLine ?_, isFiller_of_fillsLine ?_, isFiller_of_fillsLine ?_,
    isFiller_of_fillsLine ?_, nofun⟩ <;> decide

/-- Behind the path, the text ends all blocks. -/
theorem run_targetHints
    (line column : Nat)
    (known : List Token)
    (fuel : Nat) :
    (inBlock 2 [0, -1] ⟨ended targetHints, line, column⟩ known false).run (fuel + 1) =
      .ok (known.reverse ++ [.blockEnd, .blockEnd]) := by
  have nothing : IsFiller [] :=
    .spaces nofun
  have ends := run_ended targetHints_areFillers nothing 2 [0, -1] line column known false fuel
  have closes :
      ((inBlock 2 [0, -1] ⟨[], line + targetHints.length, 0⟩ known true).unindent
          (Int.ofNat 0)).finish =
        .ok (Token.blockEnd :: .blockEnd :: known).reverse :=
    rfl
  rw [List.append_nil] at ends
  refine (ends.trans closes).trans ?_
  simp

section Whole

variable {name path : List Char}

/-- A text is long enough for its tokens. -/
theorem length_nameEntry (name path : List Char) :
    ∃ left, (nameEntry name path).length + 1 = left + 1 + 16 := by
  have enough : 16 ≤ middle.length := by
    decide
  refine ⟨(nameEntry name path).length - 16, ?_⟩
  rw [nameEntry_eq]
  simp only [List.length_append]
  omega

theorem behindKey_ne_zero (column : Nat) (word : String) : behindKey column word + 2 ≠ 0 :=
  Nat.succ_ne_zero _

/-- A name whose end is where it should be is read, and all that follows up to the path. -/
theorem reads_name
    {text : List Char}
    {line column : Nat}
    (scan :
      scanDouble (.between .none) 0 (behindKey 0 "name" + 2)
          (escaped name ++ doubleQuote :: behindName path) =
        .ok ⟨text, ⟨behindName path, line, column⟩⟩) :
    Reads 15
      (Lexing.start (nameEntry name path))
      (inBlock 2 [0, -1]
        ⟨' ' :: quotedThen path (ended targetHints), line + 7, behindKey 2 "path"⟩
        (tokensBeforePath text).reverse false) := by
  have quoted := reads_quoted 0 (behindKey 0 "name")
    [.value, .scalar "name" true, .key, .blockMappingStart]
    (show (0 : Int) ≤ Int.ofNat (behindKey 0 "name" + 1) by decide) [-1] scan
  exact ((reads_nameKey name path).trans quoted).trans (reads_beforePath text path line column)

/-- The text for a verbatim name and a verbatim path has these tokens. -/
theorem run_of_verbatim
    (nameVerbatim : Verbatim name)
    (pathVerbatim : Verbatim path) :
    (Lexing.start (nameEntry name path)).run ((nameEntry name path).length + 1) =
      .ok (tokens name path) := by
  obtain ⟨left, size⟩ := length_nameEntry name path
  obtain ⟨line, column, nameScan⟩ :=
    scanDouble_of_verbatim nameVerbatim 0 (behindKey_ne_zero 0 "name") (behindName path)
  obtain ⟨lastLine, lastColumn, pathScan⟩ :=
    scanDouble_of_verbatim pathVerbatim (line + 7) (behindKey_ne_zero 2 "path")
      (ended targetHints)
  have read := (reads_name nameScan).trans (reads_quoted (line + 7) (behindKey 2 "path")
    (tokensBeforePath name).reverse
    (show (2 : Int) ≤ Int.ofNat (behindKey 2 "path" + 1) by decide) [0, -1] pathScan)
  rw [size, read, run_targetHints]
  simp [tokens, knownTokens]

/--
A text that is read has the tokens up to its path, with what its name and its
path were read as.
-/
theorem known_of_run
    (noBackslash : '\\' ∉ name)
    {fuel : Nat}
    {read : List Token}
    (ran : (Lexing.start (nameEntry name path)).run (fuel + 16) = .ok read) :
    ∃ nameScan line pathScan,
      scanDouble (.between .none) 0 (behindKey 0 "name" + 2)
          (escaped name ++ doubleQuote :: behindName path) = .ok nameScan ∧
        scanDouble (.between .none) line (behindKey 2 "path" + 2)
            (escaped path ++ doubleQuote :: ended targetHints) = .ok pathScan ∧
          knownTokens nameScan.text pathScan.text <+: read := by
  obtain ⟨line, column, nameScan⟩ := scanDouble_escaped noBackslash .none 0
    (behindKey 0 "name" + 2) (behindName path)
  have reachesName := reads_nameKey name path (fuel + 14)
  rw [ran, quotedThen, run_quoted 0 (behindKey 0 "name") _ (by decide)] at reachesName
  split at nameScan
  · rw [nameScan] at reachesName
    cases reachesName
  have reachesPath := reads_name nameScan (fuel + 1)
  rw [ran, quotedThen, run_quoted (line + 7) (behindKey 2 "path") _ (by decide)] at reachesPath
  split at reachesPath
  · cases reachesPath
  rename_i pathScan isScanned
  refine ⟨_, line + 7, pathScan, nameScan, isScanned, ?_⟩
  have known := (knows_inBlock 2 [0, -1] pathScan.finish
    (.scalar (String.ofList pathScan.text) false ::
      (tokensBeforePath (foldLines .none name)).reverse) false).run reachesPath.symm
  rw [List.reverse_cons, List.reverse_reverse] at known
  exact known

end Whole

end SchemaMigration.ConfigText
