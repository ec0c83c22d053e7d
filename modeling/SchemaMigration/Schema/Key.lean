import SchemaMigration.Text.Pieces

namespace SchemaMigration

/-!
# Keys

Keys and indexes over the columns of a table, and the names they have when
none is given. Declaring and dropping a key form the name by the same rule.
-/

/-- The kind of a key. -/
inductive KeyKind
  | primary
  | unique
  | index
  | foreign
  deriving DecidableEq

namespace KeyKind

/-- The last part of a default name. -/
def suffix : KeyKind → String
  | .primary => "primary"
  | .unique => "unique"
  | .index => "index"
  | .foreign => "foreign"

/-- What a kind is called in messages. -/
def title : KeyKind → String
  | .primary => "primary key"
  | .unique => "unique index"
  | .index => "index"
  | .foreign => "foreign key"

end KeyKind

/-- A key over columns of a table. -/
structure Key where
  name : String
  columns : List String
  kind : KeyKind
  deriving DecidableEq

namespace Key

/-- The name of a key that was not given one. -/
def defaultName (table : String) (columns : List String) (kind : KeyKind) : String :=
  table ++ "_" ++ Text.join "_" columns ++ "_" ++ kind.suffix

/-- A key, named by the rule unless it was given a name. -/
def declared
    (table : String)
    (columns : List String)
    (kind : KeyKind)
    (name? : Option String) :
    Key :=
  ⟨name?.getD (defaultName table columns kind), columns, kind⟩

/-- Whether a column is one of the key's. -/
def covers (key : Key) (column : String) : Bool :=
  key.columns.contains column

/-- Whether a key is the primary key. -/
def isPrimary (key : Key) : Bool :=
  key.kind = .primary

end Key

end SchemaMigration
