import SchemaMigration.Proofs.Project.ConfigLoading
import SchemaMigration.Proofs.Project.ConfigTokens
import SchemaMigration.Proofs.Yaml.Pairs

namespace SchemaMigration.ConfigText

/-!
# New configuration files are read back

The configuration file of a new project is read as the configuration of its
name and its database exactly when both are verbatim.  Whatever is read from
it, the name and the path in it are what the two quoted texts are read as.
-/

open Scaffold (configText)
open Yaml Yaml.Lexing

/-! ## Verbatim texts -/

section Verbatim

variable
  {name path : String}
  (nameVerbatim : Verbatim name.toList)
  (pathVerbatim : Verbatim path.toList)

include nameVerbatim pathVerbatim

theorem nameEntry_isKept : ∀ c ∈ nameEntry name.toList path.toList, isKept c = true := by
  have keptOf
      {text : List Char}
      (verbatim : Verbatim text)
      {c : Char}
      (member : c ∈ escaped text) :
      isKept c = true := by
    rcases mem_or_eq_of_mem_escaped member with inText | rfl
    · exact verbatim.kept c inText
    · decide
  intro c member
  rcases mem_nameEntry.mp member with inHead | inName | inMiddle | inPath | inEnd
  · exact head_isKept c inHead
  · exact keptOf nameVerbatim inName
  · exact middle_isKept c inMiddle
  · exact keptOf pathVerbatim inPath
  · exact targetHints_areKept c inEnd

theorem tokensOf_configText :
    tokensOf (configText name path) = .ok (tokens name.toList path.toList) := by
  have kept := nameEntry_isKept nameVerbatim pathVerbatim
  have allowed : (nameEntry name.toList path.toList).all isAllowed = true := by
    rw [List.all_eq_true]
    intro c member
    have here := kept c member
    simp only [isKept, Bool.and_eq_true] at here
    exact here.1.1
  rw [tokensOf, toList_configText]
  simp only [allowed, if_true]
  rw [withLineFeeds_eq_self kept]
  exact run_of_verbatim nameVerbatim pathVerbatim

end Verbatim

/-- The node of a text, given further entries of the database and of the whole. -/
def node (name path : String) (inner others : List (Node × Node)) : Node :=
  .mapping none
    ((.scalar none "name" true, .scalar none name false) ::
      (.scalar none "migrations" true,
        .mapping none [(.scalar none "path" true, .scalar none "migrations" true)]) ::
      (.scalar none "database" true,
        .mapping none
          ((.scalar none "type" true, .scalar none "duckdb" true) ::
            (.scalar none "path" true, .scalar none path false) :: inner)) ::
      others)

/-- The tree of a text. -/
def tree (name path : String) : Tree :=
  .mapping none
    [(.scalar none "name" true, .scalar none name false),
      (.scalar none "migrations" true,
        .mapping none [(.scalar none "path" true, .scalar none "migrations" true)]),
      (.scalar none "database" true,
        .mapping none
          [(.scalar none "type" true, .scalar none "duckdb" true),
            (.scalar none "path" true, .scalar none path false)])]

theorem ofTokens_tokens (name path : List Char) :
    Yaml.Document.ofTokens (tokens name path) =
      .ok ⟨node (String.ofList name) (String.ofList path) [] [], []⟩ := by
  rfl

theorem tree_node (name path : String) :
    Yaml.Document.tree ⟨node name path [] [], []⟩ = .ok (tree name path) := by
  rfl

theorem ofTree_tree (name path : String) :
    Config.ofTree (tree name path) = .ok ⟨name, Config.usualMigrations, ⟨.duckdb, path⟩, []⟩ := by
  rfl

/-- The configuration in the file of a new project. -/
theorem ofText_of_verbatim
    {name path : String}
    (nameVerbatim : Verbatim name.toList)
    (pathVerbatim : Verbatim path.toList) :
    Config.ofText (configText name path) =
      .ok ⟨name, Config.usualMigrations, ⟨.duckdb, path⟩, []⟩ := by
  have read := tokensOf_configText nameVerbatim pathVerbatim
  have parsed := ofTokens_tokens name.toList path.toList
  rw [String.ofList_toList, String.ofList_toList] at parsed
  simp only [Config.ofText, Tree.ofText, read, parsed, tree_node, bind, Except.bind, ofTree_tree]

/-! ## Whatever is read -/

/-- The document of tokens that start as those of a text do. -/
theorem node_of_knownTokens
    {name path : List Char}
    {more : List Token}
    {document : Yaml.Document}
    (parsed : Yaml.Document.ofTokens (knownTokens name path ++ more) = .ok document) :
    ∃ inner others,
      document.node = node (String.ofList name) (String.ofList path) inner others := by
  have shape :
      knownTokens name path ++ more =
        .blockMappingStart ::
          .key :: .scalar "name" true :: .value :: .scalar (String.ofList name) false ::
          .key :: .scalar "migrations" true :: .value :: .blockMappingStart ::
          .key :: .scalar "path" true :: .value :: .scalar "migrations" true :: .blockEnd ::
          .key :: .scalar "database" true :: .value :: .blockMappingStart ::
          .key :: .scalar "type" true :: .value :: .scalar "duckdb" true ::
          .key :: .scalar "path" true :: .value :: .scalar (String.ofList path) false :: more :=
    rfl
  have fuel : 4 * (knownTokens name path ++ more).length + 16 = 4 * more.length + 98 + 20 + 2 := by
    rw [shape]
    simp only [List.length_cons]
    omega
  unfold Yaml.Document.ofTokens at parsed
  rw [fuel, shape] at parsed
  split at parsed
  · cases parsed
  rename_i root outline ran
  split at parsed
  · cases parsed
    obtain ⟨_, rfl, nameRan⟩ := Parse.of_document_mapping ran
    obtain ⟨_, rfl, migrationsRan⟩ := Parse.of_blockPairs_scalar nameRan
    obtain ⟨_, _, _, rfl, directoryRan, databaseRan⟩ := Parse.of_blockPairs_mapping migrationsRan
    obtain ⟨_, rfl, endRan⟩ := Parse.of_blockPairs_scalar directoryRan
    rw [Parse.blockPairs_end] at endRan
    cases endRan
    obtain ⟨_, _, others, rfl, typeRan, _⟩ := Parse.of_blockPairs_mapping databaseRan
    obtain ⟨_, rfl, pathRan⟩ := Parse.of_blockPairs_scalar typeRan
    obtain ⟨inner, rfl, _⟩ := Parse.of_blockPairs_scalar pathRan
    exact ⟨inner, others, rfl⟩
  · cases parsed

/-- A database has the path that is given for it. -/
theorem path_of_ofTree
    {path : String}
    {entries : List (Tree × Tree)}
    (given : (.scalar none "path" true, .scalar none path false) ∈ entries)
    {database : DatabaseConfig}
    (read : DatabaseConfig.ofTree (.mapping none entries) = .ok database) :
    database.path = path := by
  obtain ⟨record, made, _, pathRead⟩ := DatabaseConfig.ofTree_eq_ok.mp read
  rw [Record.optionally, Tree.lookup_of_record made given] at pathRead
  exact (Except.ok.inj pathRead).symm

/-- The configuration in such a document has the name and the path. -/
theorem ofTree_of_node
    {name path : String}
    {inner others : List (Node × Node)}
    {document : Yaml.Document}
    (isNode : document.node = node name path inner others)
    {tree : Tree}
    (expanded : document.tree = .ok tree)
    {config : Config}
    (read : Config.ofTree tree = .ok config) :
    config.name = name ∧ config.database.path = path := by
  have expands := Yaml.Document.expands_of_tree expanded
  rw [isNode, node] at expands
  obtain ⟨entries, rfl, each⟩ := expands.mapping
  obtain ⟨_, nameEntry, nameExpands⟩ := each none "name" true _ (.head _)
  obtain ⟨_, databaseEntry, databaseExpands⟩ :=
    each none "database" true _ (.tail _ (.tail _ (.head _)))
  obtain ⟨databaseEntries, rfl, eachInner⟩ := databaseExpands.mapping
  obtain ⟨_, pathEntry, pathExpands⟩ := eachInner none "path" true _ (.tail _ (.head _))
  rw [nameExpands.scalar] at nameEntry
  rw [pathExpands.scalar] at pathEntry
  obtain ⟨record, made, nameRead, _, databaseRead, _⟩ := Config.ofTree_eq_ok.mp read
  rw [Record.required, Tree.lookup_of_record made nameEntry] at nameRead
  rw [Record.optionally, Tree.lookup_of_record made databaseEntry] at databaseRead
  exact ⟨(Except.ok.inj nameRead).symm, path_of_ofTree pathEntry databaseRead⟩

section Converse

variable
  {name path : String}
  (noBackslash : '\\' ∉ name.toList)

include noBackslash

/-- The configuration that is read has the name and the path that the quoted texts are read as. -/
theorem scans_of_ofText
    {config : Config}
    (read : Config.ofText (configText name path) = .ok config) :
    (∀ c ∈ nameEntry name.toList path.toList, isAllowed c = true) ∧
      ∃ nameScan line pathScan,
        scanDouble (.between .none) 0 (behindKey 0 "name" + 2)
            (escaped (withLineFeeds name.toList) ++
              doubleQuote :: behindName (withLineFeeds path.toList)) =
          .ok nameScan ∧
        scanDouble (.between .none) line (behindKey 2 "path" + 2)
            (escaped (withLineFeeds path.toList) ++ doubleQuote :: ended targetHints) =
          .ok pathScan ∧
        config.name = String.ofList nameScan.text ∧
          config.database.path = String.ofList pathScan.text := by
  rw [Config.ofText, Outcome.bind_eq_ok] at read
  obtain ⟨tree, treeRead, read⟩ := read
  rw [Tree.ofText, Outcome.bind_eq_ok] at treeRead
  obtain ⟨tokens, tokensRead, treeRead⟩ := treeRead
  rw [Outcome.bind_eq_ok] at treeRead
  obtain ⟨document, parsed, expanded⟩ := treeRead
  rw [tokensOf, toList_configText] at tokensRead
  dsimp only at tokensRead
  split at tokensRead
  · rename_i allowed
    refine ⟨List.all_eq_true.mp allowed, ?_⟩
    rw [withLineFeeds_nameEntry] at tokensRead
    obtain ⟨left, size⟩ :=
      length_nameEntry (withLineFeeds name.toList) (withLineFeeds path.toList)
    rw [size] at tokensRead
    have noneLeft : '\\' ∉ withLineFeeds name.toList := by
      rw [mem_withLineFeeds (by decide)]
      exact fun member => noBackslash member.1
    obtain ⟨nameScan, line, pathScan, nameScanned, pathScanned, more, rfl⟩ :=
      known_of_run noneLeft tokensRead
    obtain ⟨inner, others, isNode⟩ := node_of_knownTokens parsed
    obtain ⟨hasName, hasPath⟩ := ofTree_of_node isNode expanded read
    exact ⟨nameScan, line, pathScan, nameScanned, pathScanned, hasName, hasPath⟩
  · cases tokensRead

/-- Only verbatim texts are read back. -/
theorem verbatim_of_ofText
    {config : Config}
    (read : Config.ofText (configText name path) = .ok config)
    (sameName : config.name = name)
    (samePath : config.database.path = path) :
    Verbatim name.toList ∧ Verbatim path.toList := by
  obtain ⟨allowed, nameScan, line, pathScan, nameScanned, pathScanned, hasName, hasPath⟩ :=
    scans_of_ofText noBackslash read
  obtain ⟨nameText, nameFinish⟩ := nameScan
  obtain ⟨pathText, pathFinish⟩ := pathScan
  have nameSame : nameText = name.toList := by
    rw [← sameName, hasName, String.toList_ofList]
  have pathSame : pathText = path.toList := by
    rw [← samePath, hasPath, String.toList_ofList]
  subst nameSame pathSame
  have nameAllowed : ∀ c ∈ name.toList, isAllowed c = true :=
    fun c member => allowed c (mem_nameEntry.mpr (.inr (.inl (mem_escaped_of_mem member))))
  have pathAllowed : ∀ c ∈ path.toList, isAllowed c = true :=
    fun c member =>
      allowed c (mem_nameEntry.mpr (.inr (.inr (.inr (.inl (mem_escaped_of_mem member))))))
  have stops (line column : Nat) (scanned : Scanned)
      (scan : scanDouble (.between .none) line column (ended targetHints) = .ok scanned) :
      scanned.text.getLast? ≠ some '\\' := by
    intro ends
    have noneThere : '\\' ∉ ended targetHints := by
      decide
    exact scanDouble_noBackslash noneThere List.not_mem_nil scan (List.mem_of_getLast? ends)
  have pathNoBackslash := noBackslash_of_scanDouble stops pathScanned
  exact ⟨verbatim_of_scanDouble nameAllowed noBackslash (behindKey_ne_zero 0 "name") nameScanned,
    verbatim_of_scanDouble pathAllowed pathNoBackslash (behindKey_ne_zero 2 "path") pathScanned⟩

end Converse

end SchemaMigration.ConfigText
