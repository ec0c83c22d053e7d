import SchemaMigration.Schema.Store

namespace SchemaMigration

/-!
# Operations

What one entry of a migration does to a store. The entry for a table is kept as
it was given: it becomes a blueprint when it is checked and again when it runs.
-/

namespace Migration

/-- A key over columns, with a name if one was given. -/
structure KeyEntry where
  columns : List String
  name : Option String
  deriving DecidableEq

/-- A foreign key; the actions are words that need not be known. -/
structure ForeignKeyEntry where
  column : String
  refColumn : String
  refTable : String
  onDelete : Option String
  onUpdate : Option String
  name : Option String
  deriving DecidableEq

/-- What is declared for one table and what is dropped from it. -/
structure TableEntry where
  table : String
  columns : List Column
  primary : Option KeyEntry
  unique : List KeyEntry
  index : List KeyEntry
  foreign : List ForeignKeyEntry
  dropColumns : List String
  dropPrimary : Option KeyEntry
  dropUnique : List KeyEntry
  dropIndex : List KeyEntry
  /-- The columns whose foreign keys are dropped. -/
  dropForeign : List String
  deriving DecidableEq

namespace ForeignKeyEntry

/-- The foreign key that an entry declares on a table. -/
def draft (entry : ForeignKeyEntry) (table : String) : Except SchemaError ForeignKeyDraft := do
  let onDelete ← entry.onDelete.mapM ReferentialAction.parse
  let onUpdate ← entry.onUpdate.mapM ReferentialAction.parse
  let start := ForeignKeyDraft.onColumn table entry.column
  return { start with
    name := entry.name.getD start.name
    refTable := some entry.refTable
    refColumn := some entry.refColumn
    onDelete := onDelete
    onUpdate := onUpdate }

end ForeignKeyEntry

namespace TableEntry

/-- Declare the keys of one kind. -/
def addKeys (kind : KeyKind) (entries : List KeyEntry) (blueprint : Blueprint) : Blueprint :=
  entries.foldl (fun filled entry => filled.addKey kind entry.columns entry.name) blueprint

/-- Drop the keys of one kind. -/
def dropKeys (kind : KeyKind) (entries : List KeyEntry) (blueprint : Blueprint) : Blueprint :=
  entries.foldl (fun filled entry => filled.dropKey kind entry.columns entry.name) blueprint

/-- The entries that drop the default foreign keys on columns. -/
def foreignEntries (columns : List String) : List KeyEntry :=
  columns.map (fun column => ⟨[column], none⟩)

/-- Declare all that a table entry declares, apart from foreign keys. -/
def declareColumnsAndKeys (entry : TableEntry) (blueprint : Blueprint) : Blueprint :=
  entry.columns.foldl Blueprint.addColumn blueprint
    |> addKeys .primary entry.primary.toList
    |> addKeys .unique entry.unique
    |> addKeys .index entry.index

/-- Drop all that a table entry drops. -/
def dropAll (entry : TableEntry) (blueprint : Blueprint) : Blueprint :=
  blueprint.dropColumns entry.dropColumns
    |> dropKeys .primary entry.dropPrimary.toList
    |> dropKeys .unique entry.dropUnique
    |> dropKeys .index entry.dropIndex
    |> dropKeys .foreign (foreignEntries entry.dropForeign)

/-- The blueprint that a table entry describes. -/
def blueprint (entry : TableEntry) (purpose : Blueprint.Purpose) :
    Except SchemaError Blueprint := do
  let empty ← Blueprint.start purpose entry.table
  let foreignKeys ← entry.foreign.mapM (fun key => key.draft entry.table)
  return entry.dropAll (foreignKeys.foldl Blueprint.addForeignKey
    (entry.declareColumnsAndKeys empty))

end TableEntry

/-- One entry of a migration. -/
inductive Operation
  | create (entry : TableEntry)
  | alter (entry : TableEntry)
  | rename (source target : String)
  | drop (table : String)
  | dropIfExists (table : String)
  deriving DecidableEq

namespace Operation

variable {σ : Type}

/-- Apply the blueprint that a table entry describes. -/
def applyEntry
    (store : Store σ)
    (entry : TableEntry)
    (purpose : Blueprint.Purpose) :
    Action σ SchemaError Unit := do
  let blueprint ← Action.ofExcept (entry.blueprint purpose)
  store.apply blueprint

/-- Carry an operation out. -/
def run (store : Store σ) : Operation → Action σ SchemaError Unit
  | .create entry => applyEntry store entry .create
  | .alter entry => applyEntry store entry .alter
  | .rename source target => store.rename source target
  | .drop table => store.drop table
  | .dropIfExists table => store.dropIfExists table

/-- Carry operations out in order, up to the first that fails. -/
def runAll (store : Store σ) : List Operation → Action σ SchemaError Unit
  | [] => pure ()
  | operation :: rest => do
      operation.run store
      runAll store rest

/-- Check that an operation describes a blueprint. -/
def check : Operation → Except SchemaError Unit
  | .create entry | .alter entry => (entry.blueprint .alter).map (fun _ => ())
  | .rename .. | .drop _ | .dropIfExists _ => .ok ()

end Operation

end Migration

end SchemaMigration
