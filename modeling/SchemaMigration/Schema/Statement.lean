import SchemaMigration.Decimal.Shortest
import SchemaMigration.Schema.Definition

namespace SchemaMigration

/-!
# Statements

The statements that change tables, as values, and their text in each dialect.
Plans are made of these values; they become text only when they are executed.
-/

/-- The primary key of a table to create. -/
structure PrimaryKey where
  name : Option String
  columns : List String
  deriving DecidableEq

/-- A table to create. -/
structure TableDefinition where
  name : String
  columns : List ColumnDefinition
  primary : Option PrimaryKey
  deriving DecidableEq

namespace TableDefinition

/-- The foreign keys of a table, column by column. -/
def foreignKeys (table : TableDefinition) : List ForeignKey :=
  table.columns.flatMap ColumnDefinition.foreignKeys

/--
The primary key of columns that belong to one, with its name from the first
primary key among the keys.
-/
def primaryOf (columns : List ColumnDefinition) (keys : List Key) : Option PrimaryKey :=
  let names := (columns.filter ColumnDefinition.isPrimary).map ColumnDefinition.name
  if names.isEmpty then none else some ⟨(keys.find? Key.isPrimary).map Key.name, names⟩

end TableDefinition

/-- A statement that changes tables or their rows. -/
inductive Statement
  /-- Make a source of generated values, unless it is there. -/
  | createSequence (name : String)
  | createTable (table : TableDefinition)
  | createIndex (table name : String) (columns : List String) (unique : Bool)
  | addColumn (table : String) (column : ColumnDefinition)
  | addPrimaryKey (table : String) (key : PrimaryKey)
  | addForeignKey (table : String) (key : ForeignKey)
  /-- Take generated values off a column, which keeps its type. -/
  | stopGeneration (table column type : String)
  | dropPrimaryKey (table name : String)
  | dropForeignKey (table name : String)
  | dropIndex (table name : String)
  | dropColumn (table column : String)
  | renameTable (source target : String)
  | dropTable (table : String) (ifExists : Bool)
  /-- Append the rows of one table to another one, column by column. -/
  | copyRows (columns : List String) (source target : String)
  deriving DecidableEq

namespace Statement

/-! ## Parts of statements -/

/-- A default value as a literal or an expression. -/
def defaultText (dialect : Dialect) : DefaultValue → String
  | .boolean value =>
      match dialect with
      | .mssql | .sqlite => if value then "1" else "0"
      | .duckdb | .postgres | .mysql => if value then "TRUE" else "FALSE"
  | .integer value => toString value
  | .float value => value.text
  | .text value =>
      match dialect with
      | .mssql => "N" ++ Sql.textLiteral value
      | _ => Sql.textLiteral value
  | .expression sql =>
      match dialect with
      | .sqlite => "(" ++ sql ++ ")"
      | _ => sql

/-- The sequence that generates the values of a column. -/
def sequenceName (table column : String) : String :=
  s!"{table}_{column}_seq"

/-- How a column is told to generate values, where its type does not say so. -/
def generationClause? (dialect : Dialect) (table column : String) : Option String :=
  match dialect with
  | .duckdb =>
      some ("DEFAULT nextval(" ++ Sql.textLiteral (sequenceName table column) ++ ")")
  | .mysql => some "AUTO_INCREMENT"
  | .mssql => some "IDENTITY(1,1)"
  | .postgres | .sqlite => none

/-- A column without its keys: name, type, generation, nulls, default and check. -/
def columnText (dialect : Dialect) (table : String) (column : ColumnDefinition) : String :=
  let name := Sql.quote dialect column.name
  let generation? :=
    if column.autoincrement then generationClause? dialect table column.name else none
  let generation :=
    match generation? with
    | some clause => " " ++ clause
    | none => ""
  let nulls := if column.nullable then "" else " NOT NULL"
  let default :=
    match generation?, column.default with
    | none, some value => " DEFAULT " ++ defaultText dialect value
    | _, _ => ""
  let check :=
    if column.type.allowed.isEmpty then
      ""
    else
      let listed := Text.join ", " (column.type.allowed.map Sql.textLiteral)
      s!" CHECK ({name} IN ({listed}))"
  name ++ " " ++ column.type.name ++ generation ++ nulls ++ default ++ check

/-- The clause of a primary key; a name is given where the dialect keeps it. -/
def primaryKeyText (dialect : Dialect) (key : PrimaryKey) : String :=
  let columns := Sql.quoteList dialect key.columns
  let bare := s!"PRIMARY KEY ({columns})"
  match dialect, key.name with
  | .duckdb, _ | .mysql, _ | _, none => bare
  | _, some name => "CONSTRAINT " ++ Sql.quote dialect name ++ " " ++ bare

/-- What happens to referring rows, with the event that it answers. -/
def actionText (event : String) : Option ReferentialAction → String
  | none => ""
  | some action => " " ++ event ++ " " ++ action.keyword

/-- The clause of a foreign key, with what the dialect accepts of it. -/
def foreignKeyText (dialect : Dialect) (key : ForeignKey) : String :=
  let name :=
    if dialect.capabilities.namedConstraints then
      "CONSTRAINT " ++ Sql.quote dialect key.name ++ " "
    else
      ""
  let column := Sql.quote dialect key.column
  let refTable := Sql.quote dialect key.refTable
  let refColumn := Sql.quote dialect key.refColumn
  let actions :=
    if dialect.capabilities.foreignKeyActions then
      actionText "ON DELETE" key.onDelete ++ actionText "ON UPDATE" key.onUpdate
    else
      ""
  name ++ s!"FOREIGN KEY ({column}) REFERENCES {refTable} ({refColumn})" ++ actions

/-- The parts between the parentheses of a table to create. -/
def tableParts (dialect : Dialect) (table : TableDefinition) : List String :=
  table.columns.map (columnText dialect table.name) ++
    (table.primary.map (primaryKeyText dialect)).toList ++
    table.foreignKeys.map (foreignKeyText dialect)

/-! ## Whole statements -/

/-- How the change of a table starts. -/
def alterText (dialect : Dialect) (table : String) : String :=
  "ALTER TABLE " ++ Sql.quote dialect table

/-- A statement as text. -/
def render (dialect : Dialect) : Statement → String
  | .createSequence name => "CREATE SEQUENCE IF NOT EXISTS " ++ Sql.quote dialect name
  | .createTable table =>
      let parts := Text.join ", " (tableParts dialect table)
      "CREATE TABLE " ++ Sql.quote dialect table.name ++ s!" ({parts})"
  | .createIndex table name columns unique =>
      let listed := Sql.quoteList dialect columns
      "CREATE " ++ (if unique then "UNIQUE " else "") ++ "INDEX " ++ Sql.quote dialect name ++
        " ON " ++ Sql.quote dialect table ++ s!" ({listed})"
  | .addColumn table column =>
      let verb := if dialect = .mssql then " ADD " else " ADD COLUMN "
      alterText dialect table ++ verb ++ columnText dialect table column
  | .addPrimaryKey table key =>
      alterText dialect table ++ " ADD " ++ primaryKeyText dialect key
  | .addForeignKey table key =>
      alterText dialect table ++ " ADD " ++ foreignKeyText dialect key
  | .stopGeneration table column type =>
      let name := Sql.quote dialect column
      alterText dialect table ++ s!" CHANGE {name} {name} {type} NOT NULL"
  | .dropPrimaryKey table name =>
      match dialect with
      | .mysql => alterText dialect table ++ " DROP PRIMARY KEY"
      | _ => alterText dialect table ++ " DROP CONSTRAINT " ++ Sql.quote dialect name
  | .dropForeignKey table name =>
      match dialect with
      | .mysql => alterText dialect table ++ " DROP FOREIGN KEY " ++ Sql.quote dialect name
      | _ => alterText dialect table ++ " DROP CONSTRAINT " ++ Sql.quote dialect name
  | .dropIndex table name =>
      match dialect with
      | .mysql => alterText dialect table ++ " DROP INDEX " ++ Sql.quote dialect name
      | .mssql => "DROP INDEX " ++ Sql.quote dialect name ++ " ON " ++ Sql.quote dialect table
      | _ => "DROP INDEX " ++ Sql.quote dialect name
  | .dropColumn table column =>
      alterText dialect table ++ " DROP COLUMN " ++ Sql.quote dialect column
  | .renameTable source target =>
      match dialect with
      | .mysql =>
          "RENAME TABLE " ++ Sql.quote dialect source ++ " TO " ++ Sql.quote dialect target
      | .mssql => "EXEC sp_rename " ++ Sql.textLiteral source ++ ", " ++ Sql.textLiteral target
      | _ => alterText dialect source ++ " RENAME TO " ++ Sql.quote dialect target
  | .dropTable table ifExists =>
      (if ifExists then "DROP TABLE IF EXISTS " else "DROP TABLE ") ++ Sql.quote dialect table
  | .copyRows columns source target =>
      let listed := Sql.quoteList dialect columns
      "INSERT INTO " ++ Sql.quote dialect target ++ s!" ({listed}) SELECT {listed} FROM " ++
        Sql.quote dialect source

/-! ## Notices -/

/-- The notice about a foreign key whose actions the dialect does not take. -/
def foreignKeyNotices (dialect : Dialect) (key : ForeignKey) : List Notice :=
  if !dialect.capabilities.foreignKeyActions && key.hasActions then
    [.actionsIgnored dialect.name key.name]
  else
    []

/-- The notices about a statement. -/
def notices (dialect : Dialect) : Statement → List Notice
  | .createTable table => table.foreignKeys.flatMap (foreignKeyNotices dialect)
  | .addForeignKey _ key => foreignKeyNotices dialect key
  | _ => []

/-! ## Families of statements -/

/-- The statements that columns need before their table has them. -/
def preludeOf (dialect : Dialect) (table : String) (columns : List ColumnDefinition) :
    List Statement :=
  match dialect with
  | .duckdb =>
      (columns.filter ColumnDefinition.autoincrement).map
        (fun column => .createSequence (sequenceName table column.name))
  | _ => []

/-- The statement that makes an index; other keys have none. -/
def createIndex? (table : String) (key : Key) : Option Statement :=
  match key.kind with
  | .unique => some (.createIndex table key.name key.columns true)
  | .index => some (.createIndex table key.name key.columns false)
  | .primary | .foreign => none

/-- The statements that make a table with its keys and indexes. -/
def createAll
    (dialect : Dialect)
    (table : String)
    (columns : List ColumnDefinition)
    (keys : List Key) :
    List Statement :=
  preludeOf dialect table columns ++
    .createTable ⟨table, columns, TableDefinition.primaryOf columns keys⟩ ::
      keys.filterMap (createIndex? table)

/-- The statements that add a column. -/
def addColumnAll (dialect : Dialect) (table : String) (column : ColumnDefinition) :
    List Statement :=
  preludeOf dialect table [column] ++ [.addColumn table column]

/-- The statement that adds a primary key. -/
def addPrimary (table : String) (key : Key) : Statement :=
  .addPrimaryKey table ⟨some key.name, key.columns⟩

/--
The statements that drop a key.

MySQL keeps the primary key of a column that generates values, so there the
live first column of the key is redefined before.
-/
def dropKeyAll (dialect : Dialect) (table : String) (column? : Option LiveColumn) (key : Key) :
    Except SchemaError (List Statement) :=
  match key.kind, dialect, column? with
  | .primary, .mysql, none =>
      .error (.keyColumnNotFound table key.name .primary (key.columns.head?.getD ""))
  | .primary, .mysql, some column =>
      .ok [.stopGeneration table column.name column.type, .dropPrimaryKey table key.name]
  | .primary, _, _ => .ok [.dropPrimaryKey table key.name]
  | .foreign, _, _ => .ok [.dropForeignKey table key.name]
  | .unique, _, _ | .index, _, _ => .ok [.dropIndex table key.name]

end Statement

end SchemaMigration
