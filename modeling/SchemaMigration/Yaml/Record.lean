import SchemaMigration.Yaml.Value

namespace SchemaMigration.Yaml

/-!
# Records

Records read from a document field by field. A record may be read from a tree,
whose scalars are texts, or from a typed value. In a typed value the fields may
also be given by their positions, one by one or as a list.
-/

/-- The fields that are given for a record, each at most once. -/
abbrev Record (α : Type) : Type :=
  List (String × α)

namespace Record

/-- Add a field that is not there yet. -/
def add (record : Record α) (name : String) (value : α) : Except Error (Record α) :=
  if (record.lookup name).isSome then .error (.repeatedField name)
  else .ok ((name, value) :: record)

/-- The record that fields make up, when all of them are known. -/
def ofFields (known : List String) : List (String × α) → Except Error (Record α)
  | [] => .ok []
  | (name, value) :: rest => do
      let record ← ofFields known rest
      if known.contains name then record.add name value else .error (.unknownField name)

/-- A field that has to be given. -/
def required (record : Record α) (name : String) (read : α → Except Error β) : Except Error β :=
  match record.lookup name with
  | some value => read value
  | none => .error (.missingField name)

/-- A field that has a value when it is not given. -/
def optionally
    (record : Record α)
    (name : String)
    (absent : β)
    (read : α → Except Error β) :
    Except Error β :=
  match record.lookup name with
  | some value => read value
  | none => .ok absent

end Record

namespace Tree

/-- A record of known fields. -/
def record (known : List String) (tree : Tree) : Except Error (Record Tree) := do
  Record.ofFields known (← tree.entries)

/-- Whether a tree stands for nothing at all. -/
def isNothing : Tree → Except Error Bool
  | .scalar tag text isPlain =>
      if !isPlain then
        .ok false
      else
        match tag with
        | none => .ok (text.isEmpty || isNullWord text)
        | some tag =>
            if tag = Tag.core "null" then
              if isNullWord text then .ok true else .error (.shapeExpected "null")
            else
              .ok false
  | _ => .ok false

/-- Read a tree that may stand for nothing. -/
def optional (read : Tree → Except Error β) (tree : Tree) : Except Error (Option β) := do
  if ← tree.isNothing then return none else return some (← read tree)

/-- Read the items of a sequence. -/
def each (read : Tree → Except Error β) (tree : Tree) : Except Error (List β) := do
  (← tree.items).mapM read

end Tree

namespace Value

/-- The text of a value that is one. -/
def asText : Value → Except Error String
  | .text value => .ok value
  | _ => .error (.shapeExpected "a text")

/-- The truth value of a value that is one. -/
def asBoolean : Value → Except Error Bool
  | .boolean value => .ok value
  | _ => .error (.shapeExpected "a truth value")

/-- The number of a value that is one without being negative. -/
def asNatural : Value → Except Error Nat
  | .unsigned value => .ok value
  | .signed value =>
      if 0 ≤ value then .ok value.toNat else .error (.shapeExpected "a natural number")
  | _ => .error (.shapeExpected "a natural number")

/-- The number of a value that is a count of at most 32 bits. -/
def asCount (value : Value) : Except Error Nat := do
  let count ← value.asNatural
  if count < Decimal.valuesOf 32 then return count else throw (.shapeExpected "a count of 32 bits")

/-- Read the items of a list. -/
def each (read : Value → Except Error β) : Value → Except Error (List β)
  | .list items => items.mapM read
  | _ => .error (.shapeExpected "a list")

/-- Read a value unless it is null. -/
def optional (read : Value → Except Error β) : Value → Except Error (Option β)
  | .unit => .ok none
  | value => (read value).map some

/-- What to do with a field that a record does not have. -/
inductive Unknown
  | refuse
  | ignore
  deriving DecidableEq

/-- The name of the field that a key stands for, if the record has it. -/
def fieldName? (known : List String) : Value → Except Error (Option String)
  | .text name => .ok (if known.contains name then some name else none)
  | .unsigned position => .ok known[position]?
  | _ => .error (.shapeExpected "the name of a field")

/-- The record that entries make up. -/
def recordOfEntries (known : List String) (unknown : Unknown) :
    List (Value × Value) → Except Error (Record Value)
  | [] => .ok []
  | (key, value) :: rest => do
      let record ← recordOfEntries known unknown rest
      match ← fieldName? known key, unknown with
      | some name, _ => record.add name value
      | none, .ignore => return record
      | none, .refuse => throw (.shapeExpected "a known field")

/-- A record whose fields are given by name, or else all by position. -/
def record (known : List String) (unknown : Unknown) : Value → Except Error (Record Value)
  | .map entries => recordOfEntries known unknown entries
  | .list items =>
      if known.length < items.length then .error (.shapeExpected "fewer fields")
      else .ok (known.zip items)
  | _ => .error (.shapeExpected "a record")

/-- A record whose fields are given by name. -/
def namedRecord (known : List String) : Value → Except Error (Record Value)
  | .map entries => recordOfEntries known .ignore entries
  | _ => .error (.shapeExpected "a record")

end Value

end SchemaMigration.Yaml
