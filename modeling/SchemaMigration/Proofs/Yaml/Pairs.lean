import SchemaMigration.Proofs.Outcomes
import SchemaMigration.Yaml.Record

namespace SchemaMigration.Yaml

/-!
# Pairs of block mappings

Tokens are parsed pair by pair.  Here is what the pairs at the start of a block
mapping are parsed as, whatever follows them, and that the nodes, the tree and
the record made from them hold what the pairs say.
-/

namespace Parse

section Pairs

variable
  {fuel : Nat}
  {handles : List (String × List Nat)}
  {names : List (String × Nat)}
  {anchorCount : Nat}
  {anchored : List Anchored}
  {word : String}
  {more : List Token}

/-- The pairs behind one of a word and a scalar. -/
theorem of_blockPairs_scalar
    {value : String}
    {isPlain : Bool}
    {pairs : List (Node × Node)}
    {after : Outline}
    (parsed :
      (blockPairs (fuel + 5)).run
          ⟨.key :: .scalar word true :: .value :: .scalar value isPlain :: more, handles, names,
            anchorCount, anchored⟩ =
        .ok (pairs, after)) :
    ∃ later,
      pairs = (.scalar none word true, .scalar none value isPlain) :: later ∧
        (blockPairs (fuel + 4)).run ⟨more, handles, names, anchorCount, anchored⟩ =
          .ok (later, after) := by
  have behind :
      (do
        let (later, reached) ←
          (blockPairs (fuel + 4)).run ⟨more, handles, names, anchorCount, anchored⟩
        return ((Node.scalar none word true, Node.scalar none value isPlain) :: later, reached)) =
        Except.ok (pairs, after) :=
    parsed
  rw [Outcome.bind_eq_ok] at behind
  obtain ⟨⟨later, reached⟩, ran, returned⟩ := behind
  cases returned
  exact ⟨later, rfl, ran⟩

/-- A node that is a block mapping, as the value of a pair. -/
theorem node_mapping :
    (node .indentless (fuel + 2)).run
        ⟨.blockMappingStart :: more, handles, names, anchorCount, anchored⟩ =
      (do
        let (pairs, after) ← (blockPairs fuel).run ⟨more, handles, names, anchorCount, anchored⟩
        return (.mapping none pairs, after)) := by
  have afterProperties :
      (node .indentless (fuel + 2)).run
          ⟨.blockMappingStart :: more, handles, names, anchorCount, anchored⟩ =
        (do
          let (parsed, after) ← (content .indentless false none (fuel + 1)).run
            ⟨.blockMappingStart :: more, handles, names, anchorCount, anchored⟩
          return (parsed, after)) :=
    rfl
  have opened :
      (content .indentless false none (fuel + 1)).run
          ⟨.blockMappingStart :: more, handles, names, anchorCount, anchored⟩ =
        (do
          let (pairs, after) ←
            (blockPairs fuel).run ⟨more, handles, names, anchorCount, anchored⟩
          return (.mapping none pairs, after)) :=
    rfl
  rw [afterProperties, opened]
  simp

/-- The pairs inside and behind one of a word and a block mapping. -/
theorem of_blockPairs_mapping
    {pairs : List (Node × Node)}
    {after : Outline}
    (parsed :
      (blockPairs (fuel + 5)).run
          ⟨.key :: .scalar word true :: .value :: .blockMappingStart :: more, handles, names,
            anchorCount, anchored⟩ =
        .ok (pairs, after)) :
    ∃ inner between later,
      pairs = (.scalar none word true, .mapping none inner) :: later ∧
        (blockPairs fuel).run ⟨more, handles, names, anchorCount, anchored⟩ =
            .ok (inner, between) ∧
          (blockPairs (fuel + 4)).run between = .ok (later, after) := by
  have behind :
      (do
        let (value, between) ← (node .indentless (fuel + 2)).run
          ⟨.blockMappingStart :: more, handles, names, anchorCount, anchored⟩
        let (later, reached) ← (blockPairs (fuel + 4)).run between
        return ((Node.scalar none word true, value) :: later, reached)) =
        Except.ok (pairs, after) :=
    parsed
  rw [node_mapping, Outcome.bind_eq_ok] at behind
  obtain ⟨⟨value, between⟩, valueRan, behind⟩ := behind
  rw [Outcome.bind_eq_ok] at valueRan
  obtain ⟨⟨inner, _⟩, innerRan, returned⟩ := valueRan
  cases returned
  rw [Outcome.bind_eq_ok] at behind
  obtain ⟨⟨later, reached⟩, laterRan, returned⟩ := behind
  cases returned
  exact ⟨inner, between, later, rfl, innerRan, laterRan⟩

/-- The end of the mapping comes first. -/
theorem blockPairs_end :
    (blockPairs (fuel + 1)).run
        ⟨.blockEnd :: more, handles, names, anchorCount, anchored⟩ =
      .ok ([], ⟨more, handles, names, anchorCount, anchored⟩) := by
  rfl

/-- The pairs of a document that is a block mapping. -/
theorem of_document_mapping
    {root : Node}
    {after : Outline}
    (parsed :
      (document (fuel + 2)).run
          ⟨.blockMappingStart :: more, handles, names, anchorCount, anchored⟩ =
        .ok (root, after)) :
    ∃ pairs,
      root = .mapping none pairs ∧
        (blockPairs fuel).run ⟨more, standardHandles, names, anchorCount, anchored⟩ =
          .ok (pairs, after) := by
  have opened :
      (content .block false none (fuel + 1)).run
          ⟨.blockMappingStart :: more, standardHandles, names, anchorCount, anchored⟩ =
        (do
          let (pairs, after) ←
            (blockPairs fuel).run ⟨more, standardHandles, names, anchorCount, anchored⟩
          return (.mapping none pairs, after)) :=
    rfl
  have behind :
      (do
        let (parsed, after) ← (content .block false none (fuel + 1)).run
          ⟨.blockMappingStart :: more, standardHandles, names, anchorCount, anchored⟩
        return (parsed, after)) =
        Except.ok (root, after) :=
    parsed
  rw [opened, Outcome.bind_eq_ok] at behind
  obtain ⟨⟨_, _⟩, ran, returned⟩ := behind
  cases returned
  rw [Outcome.bind_eq_ok] at ran
  obtain ⟨⟨pairs, _⟩, pairsRan, returned⟩ := ran
  cases returned
  exact ⟨pairs, rfl, pairsRan⟩

end Pairs

end Parse

/-! ## Trees -/

/-- What each item of a list that was gone through gave, from some state, is among the results. -/
theorem mapM_gives
    {σ α β : Type}
    {step : α → StateT σ (Except Error) β}
    {items : List α}
    {results : List β}
    {before after : σ}
    (succeeded : (items.mapM step).run before = .ok (results, after))
    {item : α}
    (member : item ∈ items) :
    ∃ result ∈ results, ∃ between further, (step item).run between = .ok (result, further) := by
  induction items generalizing results before with
  | nil =>
      cases member
  | cons first rest inductionHypothesis =>
      rw [List.mapM_cons, StateT.run_bind, Outcome.bind_eq_ok] at succeeded
      obtain ⟨⟨result, between⟩, stepped, succeeded⟩ := succeeded
      rw [StateT.run_bind, Outcome.bind_eq_ok] at succeeded
      obtain ⟨⟨others, further⟩, later, returned⟩ := succeeded
      cases returned
      rcases List.mem_cons.mp member with rfl | inRest
      · exact ⟨result, List.mem_cons_self, before, between, stepped⟩
      · obtain ⟨other, isLater, gives⟩ := inductionHypothesis later inRest
        exact ⟨other, List.mem_cons_of_mem _ isLater, gives⟩

namespace Document

variable {document : Document}

/-- Whether a node became a tree, at some depth and with some aliases left to follow. -/
def Expands (document : Document) (node : Node) (tree : Tree) : Prop :=
  ∃ fuel depth before after, (document.expand fuel depth node).run before = .ok (tree, after)

theorem Expands.scalar
    {tag : Option Tag}
    {text : String}
    {isPlain : Bool}
    {tree : Tree}
    (expands : document.Expands (.scalar tag text isPlain) tree) :
    tree = .scalar tag text isPlain := by
  obtain ⟨fuel, depth, before, after, expanded⟩ := expands
  cases fuel <;> cases expanded
  rfl

/-- The entries of a mapping are expanded, under the same words. -/
theorem Expands.mapping
    {tag : Option Tag}
    {entries : List (Node × Node)}
    {tree : Tree}
    (expands : document.Expands (.mapping tag entries) tree) :
    ∃ others,
      tree = .mapping tag others ∧
        ∀ wordTag word isPlain value,
          (.scalar wordTag word isPlain, value) ∈ entries →
            ∃ expanded,
              (.scalar wordTag word isPlain, expanded) ∈ others ∧
                document.Expands value expanded := by
  obtain ⟨fuel, depth, before, after, expanded⟩ := expands
  cases fuel with
  | zero =>
      cases expanded
  | succ fuel =>
      simp only [expand] at expanded
      split at expanded
      · rw [StateT.run_bind, Outcome.bind_eq_ok] at expanded
        obtain ⟨⟨others, left⟩, gone, returned⟩ := expanded
        cases returned
        refine ⟨others, rfl, ?_⟩
        intro wordTag word isPlain value member
        obtain ⟨_, isOther, between, further, stepped⟩ := mapM_gives gone member
        rw [StateT.run_bind, Outcome.bind_eq_ok] at stepped
        obtain ⟨⟨_, middle⟩, wordExpanded, stepped⟩ := stepped
        rw [StateT.run_bind, Outcome.bind_eq_ok] at stepped
        obtain ⟨⟨_, last⟩, valueExpanded, returned⟩ := stepped
        cases returned
        have isWord := Expands.scalar ⟨fuel, depth + 1, _, _, wordExpanded⟩
        rw [isWord] at isOther
        exact ⟨_, isOther, fuel, depth + 1, _, _, valueExpanded⟩
      · cases expanded

/-- The tree of a document is what its node became. -/
theorem expands_of_tree
    {tree : Tree}
    (expanded : document.tree = .ok tree) :
    document.Expands document.node tree := by
  have mapped :
      ((document.expand (2 * deepest + 2) 0 document.node).run
        (aliasesPerMark * document.node.size)).map Prod.fst = .ok tree :=
    expanded
  rw [Outcome.map_eq_ok] at mapped
  obtain ⟨⟨same, left⟩, ran, rfl⟩ := mapped
  exact ⟨_, _, _, left, ran⟩

end Document

/-! ## Records -/

namespace Record

/-- A field of a record of known fields is found under its name. -/
theorem lookup_of_ofFields
    {α : Type}
    {known : List String}
    {fields : List (String × α)}
    {record : Record α}
    (made : ofFields known fields = .ok record)
    {name : String}
    {value : α}
    (member : (name, value) ∈ fields) :
    record.lookup name = some value := by
  induction fields generalizing record with
  | nil =>
      cases member
  | cons field rest inductionHypothesis =>
      obtain ⟨other, otherValue⟩ := field
      rw [ofFields, Outcome.bind_eq_ok] at made
      obtain ⟨before, restMade, made⟩ := made
      split at made
      · unfold add at made
        split at made
        · cases made
        · rename_i isNew
          cases made
          rcases List.mem_cons.mp member with same | later
          · cases same
            exact List.lookup_cons_self
          · have held := inductionHypothesis restMade later
            have different : (name == other) = false := by
              rw [beq_eq_false_iff_ne]
              rintro rfl
              rw [held] at isNew
              exact isNew rfl
            rw [List.lookup_cons, different]
            exact held
      · cases made

end Record

namespace Tree

/-- An entry of a mapping whose key is a scalar is a field of the record. -/
theorem lookup_of_record
    {known : List String}
    {tag keyTag : Option Tag}
    {entries : List (Tree × Tree)}
    {record : Record Tree}
    (made : (Tree.mapping tag entries).record known = .ok record)
    {name : String}
    {isPlain : Bool}
    {value : Tree}
    (member : (.scalar keyTag name isPlain, value) ∈ entries) :
    record.lookup name = some value := by
  rw [Tree.record, Outcome.bind_eq_ok] at made
  obtain ⟨fields, read, made⟩ := made
  obtain ⟨field, inFields, isField⟩ := Outcome.mapM_gives read member
  cases isField
  exact Record.lookup_of_ofFields made inFields

end Tree

end SchemaMigration.Yaml
