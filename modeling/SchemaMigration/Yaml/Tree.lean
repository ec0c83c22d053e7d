import SchemaMigration.Yaml.Node

namespace SchemaMigration.Yaml

/-!
# Trees

A document with every alias replaced by the node it refers to. How often
aliases are followed and how deep collections are nested is limited, so that a
document that refers to itself has no tree.
-/

/-- A document without aliases. -/
inductive Tree
  | scalar (tag : Option Tag) (text : String) (isPlain : Bool)
  | sequence (tag : Option Tag) (items : List Tree)
  | mapping (tag : Option Tag) (entries : List (Tree × Tree))

namespace Node

mutual

/-- The number of marks that a node takes: one for a leaf, two for a collection. -/
def size : Node → Nat
  | .scalar .. | .alias _ => 1
  | .sequence _ items => 2 + sizeItems items
  | .mapping _ entries => 2 + sizeEntries entries

/-- The number of marks that items take. -/
def sizeItems : List Node → Nat
  | [] => 0
  | item :: rest => item.size + sizeItems rest

/-- The number of marks that entries take. -/
def sizeEntries : List (Node × Node) → Nat
  | [] => 0
  | (key, value) :: rest => key.size + value.size + sizeEntries rest

end

end Node

namespace Document

/-- How deep collections may be nested. -/
def deepest : Nat :=
  128

/-- How often aliases may be followed, for each mark of a document. -/
def aliasesPerMark : Nat :=
  100

/-- The node that an alias refers to. -/
def target? (document : Document) (id : Nat) : Option Node :=
  (document.anchored.find? (fun known => known.id = id)).map Anchored.node

/--
A node without aliases, below so many collections. The state is the number of
aliases that may still be followed.
-/
def expand (document : Document) : Nat → Nat → Node → StateT Nat (Except Error) Tree
  | 0, _, _ => throw .nestedTooDeep
  | fuel + 1, depth, node =>
      match node with
      | .scalar tag text isPlain => return .scalar tag text isPlain
      | .alias id => do
          match ← get, document.target? id with
          | left + 1, some target =>
              set left
              document.expand fuel depth target
          | _, _ => throw .tooManyAliases
      | .sequence tag items =>
          if depth < deepest then do
            return .sequence tag (← items.mapM (document.expand fuel (depth + 1)))
          else
            throw .nestedTooDeep
      | .mapping tag entries =>
          if depth < deepest then do
            let expanded ← entries.mapM (fun (key, value) => do
              let key ← document.expand fuel (depth + 1) key
              return (key, ← document.expand fuel (depth + 1) value))
            return .mapping tag expanded
          else
            throw .nestedTooDeep

/-- The tree of a document. -/
def tree (document : Document) : Except Error Tree :=
  (document.expand (2 * deepest + 2) 0 document.node).run' (aliasesPerMark * document.node.size)

end Document

namespace Tree

/-- The tree of the only document that a text holds. -/
def ofText (text : String) : Except Error Tree := do
  let tokens ← tokensOf text
  let document ← Document.ofTokens tokens
  document.tree

/-- Whether a tree is a scalar that was left out. -/
def isMissing : Tree → Bool
  | .scalar _ text isPlain => text.isEmpty && isPlain
  | _ => false

/-- The text of a scalar, whatever its style and its tag. -/
def text : Tree → Except Error String
  | .scalar _ text _ => .ok text
  | _ => .error (.shapeExpected "a scalar")

/-- The items of a sequence; a scalar that was left out has none. -/
def items : Tree → Except Error (List Tree)
  | .sequence _ items => .ok items
  | tree => if tree.isMissing then .ok [] else .error (.shapeExpected "a sequence")

/-- The entries of a mapping with their keys as texts; a scalar that was left out has none. -/
def entries : Tree → Except Error (List (String × Tree))
  | .mapping _ entries => entries.mapM (fun (key, value) => do return (← key.text, value))
  | tree => if tree.isMissing then .ok [] else .error (.shapeExpected "a mapping")

end Tree

end SchemaMigration.Yaml
