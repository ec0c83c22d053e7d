import SchemaMigration.Proofs.Outcomes
import SchemaMigration.Yaml.TokenList

namespace SchemaMigration.Yaml.Lexing

/-!
# Tokens that are read stay

Tokens are put in front of others only where a possible key was remembered.
Behind tokens that no remembered key stands before, whatever follows in a text
adds to them and never changes them.
-/

/-- Whether tokens were read, the latest first, and nothing more can be put in among them. -/
structure Knows (known : List Token) (state : Lexing) : Prop where
  read : known <:+ state.tokens
  behind : ∀ key, some key ∈ state.keys → known.length ≤ key.index

namespace Knows

variable
  {known : List Token}
  {state after : Lexing}

/-- Only the tokens and the remembered keys matter. -/
theorem of_same
    (knows : Knows known state)
    (sameTokens : after.tokens = state.tokens)
    (sameKeys : after.keys = state.keys) :
    Knows known after where
  read := by
    rw [sameTokens]
    exact knows.read
  behind := by
    rw [sameKeys]
    exact knows.behind

section Steps

variable (knows : Knows known state)

include knows

theorem length_le : known.length ≤ state.tokens.length :=
  knows.read.length_le

theorem add (token : Token) : Knows known (state.add token) where
  read := knows.read.trans (List.suffix_cons token state.tokens)
  behind := knows.behind

theorem insert
    {index : Nat}
    (later : known.length ≤ index)
    (tokens : List Token) :
    Knows known (state.insert index tokens) where
  read := by
    obtain ⟨front, same⟩ := knows.read
    have kept : state.tokens.drop (state.tokens.length - index) =
        front.drop (state.tokens.length - index) ++ known := by
      rw [← same, List.drop_append_of_le_length]
      rw [List.length_append]
      omega
    simp only [Lexing.insert, kept]
    exact ((List.suffix_append _ known).trans (List.suffix_append _ _))
  behind := knows.behind

/-! ## Blanks and indentation -/

theorem skipBlanks (fuel : Nat) : Knows known (state.skipBlanks fuel) := by
  induction fuel generalizing state with
  | zero =>
      exact knows
  | succ fuel inductionHypothesis =>
      unfold Lexing.skipBlanks
      dsimp only
      split
      · exact knows.of_same rfl rfl
      · split
        · exact inductionHypothesis (knows.of_same rfl rfl)
        · exact knows.of_same rfl rfl

theorem closeBlocks
    (column : Int)
    (outer : List Int) :
    Knows known (state.closeBlocks column outer) := by
  induction outer generalizing state with
  | nil =>
      exact knows
  | cons parent rest inductionHypothesis =>
      unfold Lexing.closeBlocks
      split
      · exact inductionHypothesis ((knows.add .blockEnd).of_same rfl rfl)
      · exact knows

theorem unindent (column : Int) : Knows known (state.unindent column) := by
  unfold Lexing.unindent
  split
  · exact knows
  · exact knows.closeBlocks column state.outer

theorem indent
    (column : Nat)
    {index : Nat}
    (later : known.length ≤ index)
    (token : Token) :
    Knows known (state.indent column index token) := by
  unfold Lexing.indent
  split
  · exact (knows.insert later [token]).of_same rfl rfl
  · exact knows

theorem indentHere (token : Token) : Knows known (state.indentHere token) :=
  knows.indent _ knows.length_le token

/-! ## Possible keys -/

theorem setKey
    {key : Option PossibleKey}
    (later : ∀ possible, key = some possible → known.length ≤ possible.index) :
    Knows known (state.setKey key) where
  read := knows.read
  behind := by
    intro possible member
    rcases List.mem_cons.mp member with isNew | other
    · exact later possible isNew.symm
    · exact knows.behind possible (List.mem_of_mem_drop other)

theorem dropKey (dropped : state.dropKey = .ok after) : Knows known after := by
  unfold Lexing.dropKey at dropped
  split at dropped
  · split at dropped
    · cases dropped
    · cases dropped
      exact knows.setKey nofun
  · cases dropped
    exact knows

theorem saveKey (saved : state.saveKey = .ok after) : Knows known after := by
  unfold Lexing.saveKey at saved
  split at saved
  · rw [Outcome.map_eq_ok] at saved
    obtain ⟨between, dropped, rfl⟩ := saved
    refine (knows.dropKey dropped).setKey ?_
    intro possible same
    cases same
    exact knows.length_le
  · cases saved
    exact knows

theorem reachedKey
    {key : PossibleKey}
    (reached : state.reachedKey? = .ok (some key)) :
    known.length ≤ key.index := by
  unfold Lexing.reachedKey? at reached
  split at reached
  · cases reached
  · rename_i possible remembered
    have member : some possible ∈ state.keys := by
      unfold Lexing.possibleKey? at remembered
      cases keys : state.keys with
      | nil =>
          simp [keys] at remembered
      | cons first others =>
          rw [keys, List.head?_cons, Option.join_some] at remembered
          rw [remembered]
          exact List.mem_cons_self
    split at reached
    · cases reached
      exact knows.behind key member
    · split at reached <;> cases reached

/-! ## Tokens -/

theorem take
    (count : Nat)
    (token : Token) :
    Knows known (state.take count token) :=
  (knows.add token).of_same rfl rfl

theorem leaveDocument (left : state.leaveDocument = .ok after) : Knows known after := by
  rw [Lexing.leaveDocument, Outcome.map_eq_ok] at left
  obtain ⟨between, dropped, rfl⟩ := left
  exact ((knows.unindent (-1)).dropKey dropped).of_same rfl rfl

theorem node
    {read : Lexing → Except Error Lexing}
    (reads : ∀ before after, Knows known before → read before = .ok after → Knows known after)
    (succeeded : state.node read = .ok after) :
    Knows known after := by
  unfold Lexing.node at succeeded
  split at succeeded
  · cases succeeded
  · rename_i saved isSaved
    have prepared : Knows known { saved with keyAllowed := false } :=
      (knows.saveKey isSaved).of_same rfl rfl
    exact reads _ _ prepared succeeded

theorem value (succeeded : state.value = .ok after) : Knows known after := by
  unfold Lexing.value at succeeded
  split at succeeded
  · cases succeeded
  · rename_i key reached
    cases succeeded
    have later := knows.reachedKey reached
    have marked := (knows.insert later [.key]).indent key.column later .blockMappingStart
    have noKey : ∀ possible : PossibleKey, none = some possible → known.length ≤ possible.index :=
      nofun
    exact ((marked.setKey noKey).take 1 .value).of_same rfl rfl
  · split at succeeded
    · cases succeeded
    · cases succeeded
      exact ((knows.indentHere .blockMappingStart).take 1 .value).of_same rfl rfl

theorem openFlow
    {token : Token}
    (opened : state.openFlow token = .ok after) :
    Knows known after := by
  rw [Lexing.openFlow, Outcome.map_eq_ok] at opened
  obtain ⟨between, saved, rfl⟩ := opened
  have taken := (knows.saveKey saved).take 1 token
  refine ⟨taken.read, ?_⟩
  intro key member
  rcases List.mem_cons.mp member with isNew | other
  · cases isNew
  · exact taken.behind key other

theorem closeFlow
    {token : Token}
    (closed : state.closeFlow token = .ok after) :
    Knows known after := by
  rw [Lexing.closeFlow, Outcome.map_eq_ok] at closed
  obtain ⟨between, dropped, rfl⟩ := closed
  have taken := (knows.dropKey dropped).take 1 token
  refine ⟨taken.read, ?_⟩
  intro key member
  dsimp only at member
  split at member
  · exact taken.behind key (List.mem_of_mem_drop member)
  · exact taken.behind key member

theorem flowEntry (succeeded : state.flowEntry = .ok after) : Knows known after := by
  rw [Lexing.flowEntry, Outcome.map_eq_ok] at succeeded
  obtain ⟨between, dropped, rfl⟩ := succeeded
  exact ((knows.dropKey dropped).take 1 .flowEntry).of_same rfl rfl

theorem blockEntry (succeeded : state.blockEntry = .ok after) : Knows known after := by
  unfold Lexing.blockEntry at succeeded
  split at succeeded
  · cases succeeded
  · rw [Outcome.map_eq_ok] at succeeded
    obtain ⟨between, dropped, rfl⟩ := succeeded
    exact (((knows.indentHere .blockSequenceStart).dropKey dropped).take 1 .blockEntry).of_same
      rfl rfl

theorem explicitKey (succeeded : state.explicitKey = .ok after) : Knows known after := by
  unfold Lexing.explicitKey at succeeded
  split at succeeded
  · cases succeeded
  · rw [Outcome.map_eq_ok] at succeeded
    obtain ⟨between, dropped, rfl⟩ := succeeded
    exact (((knows.indentHere .blockMappingStart).dropKey dropped).take 1 .key).of_same rfl rfl

theorem anchor
    {token : String → Token}
    (succeeded : state.anchor token = .ok after) :
    Knows known after := by
  rw [Lexing.anchor, Outcome.map_eq_ok] at succeeded
  obtain ⟨name, _, rfl⟩ := succeeded
  exact (knows.add _).of_same rfl rfl

theorem tag (succeeded : state.tag = .ok after) : Knows known after := by
  rw [Lexing.tag, Outcome.map_eq_ok] at succeeded
  obtain ⟨⟨token, finish⟩, _, rfl⟩ := succeeded
  exact (knows.add token).of_same rfl rfl

theorem addScalar
    (text : List Char)
    (isPlain : Bool)
    (finish : Cursor) :
    Knows known (state.addScalar text isPlain finish) :=
  (knows.add _).of_same rfl rfl

theorem quoted (succeeded : state.quoted = .ok after) : Knows known after := by
  rw [Lexing.quoted, Outcome.map_eq_ok] at succeeded
  obtain ⟨scanned, _, rfl⟩ := succeeded
  exact knows.addScalar scanned.text false scanned.finish

theorem plain (succeeded : state.plain = .ok after) : Knows known after := by
  rw [Lexing.plain, Outcome.map_eq_ok] at succeeded
  obtain ⟨scanned, _, rfl⟩ := succeeded
  exact (knows.addScalar scanned.text true scanned.finish).of_same rfl rfl

theorem block (succeeded : state.block = .ok after) : Knows known after := by
  rw [Lexing.block, Outcome.bind_eq_ok] at succeeded
  obtain ⟨between, dropped, succeeded⟩ := succeeded
  rw [Outcome.bind_eq_ok] at succeeded
  obtain ⟨scanned, _, returned⟩ := succeeded
  cases returned
  exact ((knows.dropKey dropped).addScalar scanned.text false scanned.finish).of_same rfl rfl

theorem directive (succeeded : state.directive = .ok after) : Knows known after := by
  rw [Lexing.directive, Outcome.bind_eq_ok] at succeeded
  obtain ⟨between, left, succeeded⟩ := succeeded
  rw [Outcome.bind_eq_ok] at succeeded
  obtain ⟨⟨token, finish⟩, _, returned⟩ := succeeded
  cases returned
  exact ((knows.leaveDocument left).add token).of_same rfl rfl

theorem documentMark
    {token : Token}
    (succeeded : state.documentMark token = .ok after) :
    Knows known after := by
  rw [Lexing.documentMark, Outcome.map_eq_ok] at succeeded
  obtain ⟨between, left, rfl⟩ := succeeded
  exact (knows.leaveDocument left).take 3 token

/-- Whatever token comes next, the tokens that are known stay. -/
theorem next
    {c : Char}
    {rest : List Char}
    (succeeded : state.next c rest = .ok after) :
    Knows known after := by
  have choose
      {condition : Prop}
      [Decidable condition]
      {first second : Except Error Lexing}
      (one : first = .ok after → Knows known after)
      (other : second = .ok after → Knows known after)
      (either : (if condition then first else second) = .ok after) :
      Knows known after := by
    split at either
    · exact one either
    · exact other either
  revert succeeded
  refine choose knows.directive ?_
  refine choose knows.documentMark (choose knows.documentMark ?_)
  refine choose knows.openFlow (choose knows.openFlow ?_)
  refine choose knows.closeFlow (choose knows.closeFlow ?_)
  refine choose knows.flowEntry (choose knows.blockEntry ?_)
  refine choose knows.explicitKey (choose knows.value ?_)
  refine choose (knows.node (fun _ _ before => before.anchor)) ?_
  refine choose (knows.node (fun _ _ before => before.anchor)) ?_
  refine choose (knows.node (fun _ _ before => before.tag)) ?_
  refine choose knows.block ?_
  refine choose (knows.node (fun _ _ before => before.quoted)) ?_
  exact choose (knows.node (fun _ _ before => before.plain)) nofun

theorem finish
    {tokens : List Token}
    (finished : state.finish = .ok tokens) :
    known.reverse <+: tokens := by
  rw [Lexing.finish, Outcome.map_eq_ok] at finished
  obtain ⟨last, dropped, rfl⟩ := finished
  rw [List.reverse_prefix]
  exact ((knows.unindent (-1)).dropKey dropped).read

/-- A run to the end of the text only adds to the tokens that are known. -/
theorem run
    {fuel : Nat}
    {tokens : List Token}
    (ran : state.run fuel = .ok tokens) :
    known.reverse <+: tokens := by
  induction fuel generalizing state with
  | zero =>
      cases ran
  | succ fuel inductionHypothesis =>
      unfold Lexing.run at ran
      dsimp only at ran
      have prepared :=
        (knows.skipBlanks (state.cursor.rest.length + 1)).unindent
          (Int.ofNat (state.skipBlanks (state.cursor.rest.length + 1)).cursor.column)
      split at ran
      · exact prepared.finish ran
      · split at ran
        · cases ran
        · rename_i reached
          exact inductionHypothesis (prepared.next reached) ran

end Steps

end Knows

/-- Where no key is remembered, the tokens that were read are known. -/
theorem knows_inBlock
    (indentation : Int)
    (outer : List Int)
    (cursor : Cursor)
    (tokens : List Token)
    (keyAllowed : Bool) :
    Knows tokens ⟨cursor, tokens, indentation, outer, keyAllowed, [none]⟩ where
  read := List.suffix_refl tokens
  behind := by
    simp

end SchemaMigration.Yaml.Lexing
