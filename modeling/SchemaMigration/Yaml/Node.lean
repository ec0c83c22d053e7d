import SchemaMigration.Yaml.TokenList

namespace SchemaMigration.Yaml

/-!
# Nodes of a document

The nodes that the tokens of a document form. An alias is a node of its own; it
refers by a number to the node that carries an anchor.
-/

/-- A node of a document. -/
inductive Node
  | scalar (tag : Option Tag) (text : String) (isPlain : Bool)
  | sequence (tag : Option Tag) (items : List Node)
  | mapping (tag : Option Tag) (entries : List (Node × Node))
  | alias (id : Nat)

namespace Node

/-- What stands where a node is left out. -/
def missing : Node :=
  .scalar none "" true

end Node

/-- A node that carries an anchor. -/
structure Anchored where
  id : Nat
  /-- How many anchors come before this one. -/
  order : Nat
  node : Node

/-- What is known in the middle of the tokens of a document. -/
structure Outline where
  tokens : List Token
  /-- What the tag handles stand for. -/
  handles : List (String × List Nat)
  /-- The number that the name of an anchor has at the moment. -/
  names : List (String × Nat)
  anchorCount : Nat
  anchored : List Anchored

/-- A step through the tokens of a document. -/
abbrev Parse : Type → Type :=
  StateT Outline (Except Error)

namespace Parse

/-- The next token, if there is one. -/
def peek : Parse (Option Token) := do
  return (← get).tokens.head?

/-- Pass over the next token. -/
def advance : Parse Unit :=
  modify (fun outline => { outline with tokens := outline.tokens.drop 1 })

/-- What a tag with a handle stands for. -/
def resolveTag (handle : String) (suffix : List Nat) : Parse Tag := do
  if handle.isEmpty then
    return ⟨suffix⟩
  else
    match (← get).handles.lookup handle with
    | some start => return ⟨start ++ suffix⟩
    | none => throw (.unknownTagHandle handle)

/-- A tag, if one comes next. -/
def tag? : Parse (Option Tag) := do
  match ← peek with
  | some (.tag handle suffix) =>
      advance
      return some (← resolveTag handle suffix)
  | _ => return none

/-- The name of an anchor, if one comes next. -/
def anchor? : Parse (Option String) := do
  match ← peek with
  | some (.anchor name) =>
      advance
      return some name
  | _ => return none

/-- What stands before a node: an anchor and a tag, in either order. -/
def properties : Parse (Option String × Option Tag) := do
  match ← anchor? with
  | some name => return (some name, ← tag?)
  | none =>
      match ← tag? with
      | some tag => return (← anchor?, some tag)
      | none => return (none, none)

/-- Give the name of an anchor a number: how many names there were before. -/
def nameAnchor (name : String) : Parse (Nat × Nat) := do
  let outline ← get
  let id := outline.names.length
  let others := outline.names.filter (fun known => known.1 != name)
  set { outline with names := (name, id) :: others, anchorCount := outline.anchorCount + 1 }
  return (id, outline.anchorCount)

/-- Keep a node with its anchor; of two with one number, the later one counts. -/
def keepAnchored (id order : Nat) (node : Node) : Parse Unit :=
  modify (fun outline =>
    if outline.anchored.any (fun known => known.id = id && order < known.order) then
      outline
    else
      { outline with anchored := ⟨id, order, node⟩ :: outline.anchored })

/-- The alias of a name. -/
def aliasOf (name : String) : Parse Node := do
  match (← get).names.lookup name with
  | some id => return .alias id
  | none => throw (.unknownAnchor name)

/-- Whether a block mapping goes on after a key or a value that is left out. -/
def endsMappingPart : Option Token → Bool
  | some .key | some .value | some .blockEnd => true
  | _ => false

/-- Whether an entry of a block sequence is left out. -/
def endsBlockEntry : Option Token → Bool
  | some .blockEntry | some .blockEnd => true
  | _ => false

/-- Whether an entry of a sequence that is not indented is left out. -/
def endsIndentlessEntry : Option Token → Bool
  | some .blockEntry => true
  | token => endsMappingPart token

/-- Whether a part of a pair in a flow sequence is left out. -/
def endsSequencePart : Option Token → Bool
  | some .flowEntry | some .flowSequenceEnd => true
  | _ => false

/-- Whether a part of a pair in a flow mapping is left out. -/
def endsFlowPart : Option Token → Bool
  | some .flowEntry | some .flowMappingEnd => true
  | _ => false

/-- Whether a node may be a block, and whether it may be a sequence without indentation. -/
inductive Position
  | flow
  | block
  | indentless
  deriving DecidableEq

mutual

/-- A node in a position. -/
def node (position : Position) : Nat → Parse Node
  | 0 => throw .unexpectedToken
  | fuel + 1 => do
      match ← peek with
      | some (.alias name) =>
          advance
          aliasOf name
      | _ =>
          let (anchor?, tag?) ← properties
          let mark? ← anchor?.mapM nameAnchor
          let parsed ← content position (anchor?.isSome || tag?.isSome) tag? fuel
          if let some (id, order) := mark? then
            keepAnchored id order parsed
          return parsed

/-- A node after its anchor and tag; it may be left out if it has one of them. -/
def content (position : Position) (hasProperties : Bool) (tag? : Option Tag) :
    Nat → Parse Node
  | 0 => throw .unexpectedToken
  | fuel + 1 => do
      match position, ← peek with
      | .indentless, some .blockEntry => return .sequence tag? (← indentlessItems fuel)
      | _, some (.scalar text isPlain) =>
          advance
          return .scalar tag? text isPlain
      | _, some .flowSequenceStart =>
          advance
          return .sequence tag? (← flowItems true fuel)
      | _, some .flowMappingStart =>
          advance
          return .mapping tag? (← flowPairs true fuel)
      | .block, some .blockSequenceStart | .indentless, some .blockSequenceStart =>
          advance
          return .sequence tag? (← blockItems fuel)
      | .block, some .blockMappingStart | .indentless, some .blockMappingStart =>
          advance
          return .mapping tag? (← blockPairs fuel)
      | _, _ =>
          if hasProperties then
            return .scalar tag? "" true
          else
            throw .unexpectedToken

/-- The entries of a block sequence, with its end. -/
def blockItems : Nat → Parse (List Node)
  | 0 => throw .unexpectedToken
  | fuel + 1 => do
      match ← peek with
      | some .blockEntry =>
          advance
          let item ←
            if endsBlockEntry (← peek) then pure Node.missing else node .block fuel
          return item :: (← blockItems fuel)
      | some .blockEnd =>
          advance
          return []
      | _ => throw .unexpectedToken

/-- The entries of a sequence that is not indented; whatever follows ends it. -/
def indentlessItems : Nat → Parse (List Node)
  | 0 => throw .unexpectedToken
  | fuel + 1 => do
      match ← peek with
      | some .blockEntry =>
          advance
          let item ←
            if endsIndentlessEntry (← peek) then pure Node.missing else node .block fuel
          return item :: (← indentlessItems fuel)
      | _ => return []

/-- A key or a value of a block mapping, which may be left out. -/
def blockPart : Nat → Parse Node
  | 0 => throw .unexpectedToken
  | fuel + 1 => do
      if endsMappingPart (← peek) then return Node.missing else node .indentless fuel

/-- The pairs of a block mapping, with its end. -/
def blockPairs : Nat → Parse (List (Node × Node))
  | 0 => throw .unexpectedToken
  | fuel + 1 => do
      match ← peek with
      | some .key =>
          advance
          let key ← blockPart fuel
          let value ← blockValue fuel
          return (key, value) :: (← blockPairs fuel)
      | some .blockEnd =>
          advance
          return []
      | _ => throw .unexpectedToken

/-- The value of a pair of a block mapping. -/
def blockValue : Nat → Parse Node
  | 0 => throw .unexpectedToken
  | fuel + 1 => do
      match ← peek with
      | some .value =>
          advance
          blockPart fuel
      | _ => return Node.missing

/-- The entries of a flow sequence, with its end. -/
def flowItems (isFirst : Bool) : Nat → Parse (List Node)
  | 0 => throw .unexpectedToken
  | fuel + 1 => do
      if (← peek) = some .flowSequenceEnd then
        advance
        return []
      if !isFirst then
        if (← peek) = some .flowEntry then advance else throw .unexpectedToken
      match ← peek with
      | some .flowSequenceEnd =>
          advance
          return []
      | some .key =>
          advance
          let pair ← pairItem fuel
          return pair :: (← flowItems false fuel)
      | _ =>
          let item ← node .flow fuel
          return item :: (← flowItems false fuel)

/--
A pair as an entry of a flow sequence, after the mark of its key. A key that is
left out takes the token after it along.
-/
def pairItem : Nat → Parse Node
  | 0 => throw .unexpectedToken
  | fuel + 1 => do
      let next ← peek
      let key ←
        if endsSequencePart next || next = some .value then do
          advance
          pure Node.missing
        else
          node .flow fuel
      let value ←
        if (← peek) = some .value then do
          advance
          if endsSequencePart (← peek) then pure Node.missing else node .flow fuel
        else
          pure Node.missing
      return .mapping none [(key, value)]

/-- The pairs of a flow mapping, with its end. -/
def flowPairs (isFirst : Bool) : Nat → Parse (List (Node × Node))
  | 0 => throw .unexpectedToken
  | fuel + 1 => do
      if (← peek) = some .flowMappingEnd then
        advance
        return []
      if !isFirst then
        if (← peek) = some .flowEntry then advance else throw .unexpectedToken
      match ← peek with
      | some .flowMappingEnd =>
          advance
          return []
      | some .key =>
          advance
          let next ← peek
          let key ←
            if endsFlowPart next || next = some .value then pure Node.missing
            else node .flow fuel
          let value ← flowValue fuel
          return (key, value) :: (← flowPairs false fuel)
      | _ =>
          let key ← node .flow fuel
          return (key, Node.missing) :: (← flowPairs false fuel)

/-- The value of a pair of a flow mapping. -/
def flowValue : Nat → Parse Node
  | 0 => throw .unexpectedToken
  | fuel + 1 => do
      if (← peek) = some .value then
        advance
        if endsFlowPart (← peek) then return Node.missing else node .flow fuel
      else
        return Node.missing

end

/-! ## Documents -/

/-- The handles that stand for something in every document. -/
def standardHandles : List (String × List Nat) :=
  [("!", Tag.mark), ("!!", (Tag.core "").octets)]

/-- The directives before a document; the flag tells whether there was a version. -/
def directives (hasVersion : Bool) : Nat → Parse Unit
  | 0 => throw .unexpectedToken
  | fuel + 1 => do
      match ← peek with
      | some (.version major minor) =>
          if hasVersion then
            throw .repeatedDirective
          else if major = 1 && (minor = 1 || minor = 2) then
            advance
            directives true fuel
          else
            throw .unsupportedVersion
      | some (.tagHandle handle start) =>
          let outline ← get
          if (outline.handles.lookup handle).isSome then
            throw .repeatedDirective
          else
            set { outline with handles := outline.handles ++ [(handle, start)] }
            advance
            directives hasVersion fuel
      | _ => return ()

/-- Whether a document starts with marks of its own. -/
def startsMarked : Option Token → Bool
  | some (.version ..) | some (.tagHandle ..) | some .documentStart => true
  | _ => false

/-- The node of a document after the mark that starts it. -/
def markedContent (fuel : Nat) : Parse Node := do
  let next ← peek
  if next.isNone || next = some .documentEnd || startsMarked next then
    return Node.missing
  else
    node .block fuel

/-- The node of the first document. -/
def document (fuel : Nat) : Parse Node := do
  if startsMarked (← peek) then
    directives false fuel
    modify (fun outline => { outline with handles := outline.handles ++ standardHandles })
    if (← peek) = some .documentStart then
      advance
      markedContent fuel
    else
      throw .unexpectedToken
  else
    modify (fun outline => { outline with handles := standardHandles })
    node .block fuel

end Parse

/-- A document: its node, and the nodes that aliases refer to. -/
structure Document where
  node : Node
  anchored : List Anchored

/-- The only document that tokens form. -/
def Document.ofTokens (tokens : List Token) : Except Error Document :=
  match (Parse.document (4 * tokens.length + 16)).run ⟨tokens, [], [], 0, []⟩ with
  | .error problem => .error problem
  | .ok (node, outline) =>
      if outline.tokens.all (fun token => token = .documentEnd) then
        .ok ⟨node, outline.anchored⟩
      else
        .error .severalDocuments

end SchemaMigration.Yaml
