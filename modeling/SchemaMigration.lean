import SchemaMigration.Text.Letter
import SchemaMigration.Text.Blank
import SchemaMigration.Text.Pieces
import SchemaMigration.Text.Utf8
import SchemaMigration.Effects.Action
import SchemaMigration.Decimal.Reading
import SchemaMigration.Decimal.Shortest
import SchemaMigration.Revision
import SchemaMigration.Name
import SchemaMigration.Sql.Quoting
import SchemaMigration.Json.Pretty
import SchemaMigration.FileTree.Basic
import SchemaMigration.Database.Live
import SchemaMigration.Schema.ColumnType
import SchemaMigration.Schema.Column
import SchemaMigration.Schema.Key
import SchemaMigration.Schema.ForeignKey
import SchemaMigration.Schema.Error
import SchemaMigration.Schema.Blueprint
import SchemaMigration.Schema.NativeType
import SchemaMigration.Schema.Definition
import SchemaMigration.Schema.Statement
import SchemaMigration.Schema.Snapshot
import SchemaMigration.Schema.Rebuild
import SchemaMigration.Schema.Alteration
import SchemaMigration.Schema.Plan
import SchemaMigration.Schema.Store
import SchemaMigration.Database.Rehearsal
import SchemaMigration.Database.Catalog
import SchemaMigration.Schema.Declaration
import SchemaMigration.Yaml.Plain
import SchemaMigration.Yaml.Block
import SchemaMigration.Yaml.TokenList
import SchemaMigration.Yaml.Node
import SchemaMigration.Yaml.Value
import SchemaMigration.Yaml.Record
import SchemaMigration.Migration.Document
import SchemaMigration.Migration.Ledger
import SchemaMigration.Migration.File
import SchemaMigration.Migration.Workspace
import SchemaMigration.Project.Scaffold
import SchemaMigration.CommandLine.Run
import SchemaMigration.Main
import SchemaMigration.Proofs.Outcomes
import SchemaMigration.Proofs.Storage
import SchemaMigration.Proofs.Rebuild.Draft
import SchemaMigration.Proofs.Rebuild.RowSurvival
import SchemaMigration.Proofs.Rebuild.Completion
import SchemaMigration.Proofs.Rebuild.Addition
import SchemaMigration.Proofs.Rebuild.DroppedKeys
import SchemaMigration.Proofs.FileTree
import SchemaMigration.Proofs.Ledger.Codec
import SchemaMigration.Proofs.Ledger.OnFile
import SchemaMigration.Proofs.Ledger.Steps
import SchemaMigration.Proofs.Ledger.History
import SchemaMigration.Proofs.Ledger.Opening
import SchemaMigration.Proofs.Rebuild.Execution
import SchemaMigration.Proofs.Rebuild.NewTable
import SchemaMigration.Proofs.Resolution
import SchemaMigration.Proofs.Snapshot
import SchemaMigration.Proofs.Rebuild.PrimaryKey
import SchemaMigration.Proofs.Rebuild.Frame
import SchemaMigration.Proofs.Alteration.InPlace
import SchemaMigration.Proofs.Alteration.Agreement
import SchemaMigration.Proofs.Asking
import SchemaMigration.Proofs.Application
import SchemaMigration.Proofs.Ledger.Writing
import SchemaMigration.Proofs.Registry
import SchemaMigration.Proofs.Resolution.KeyOrder
import SchemaMigration.Proofs.Ledger.Loops
import SchemaMigration.Proofs.Ledger.Refresh
import SchemaMigration.Proofs.Rebuild.References
import SchemaMigration.Proofs.Ledger.Segments
import SchemaMigration.Proofs.Ledger.Handles
import SchemaMigration.Proofs.Name
import SchemaMigration.Proofs.FileName
import SchemaMigration.Proofs.Yaml.Scanning
import SchemaMigration.Proofs.Yaml.Entries
import SchemaMigration.Proofs.Template
import SchemaMigration.Proofs.Loading
import SchemaMigration.Proofs.Discovery
import SchemaMigration.Proofs.Making
import SchemaMigration.Proofs.Reopening
import SchemaMigration.Proofs.Sql.Literal
import SchemaMigration.Proofs.Catalog.ForeignKeys
import SchemaMigration.Proofs.Alteration.PrimaryKey
import SchemaMigration.Proofs.Validation
import SchemaMigration.Proofs.PrimaryKeys
import SchemaMigration.Proofs.Rebuild.DeclaredKey
import SchemaMigration.Proofs.Sql.Identifier
import SchemaMigration.Proofs.Alteration.ForeignKeyNames
import SchemaMigration.Proofs.Rebuild.DeclaredIndexes
import SchemaMigration.Proofs.Creation
import SchemaMigration.Proofs.PrimaryKeyOrder
import SchemaMigration.Proofs.KeyNames
import SchemaMigration.Proofs.Rebuild.Replanning
import SchemaMigration.Proofs.Yaml.Folding
import SchemaMigration.Proofs.Yaml.Quoting
import SchemaMigration.Proofs.Yaml.KnownTokens
import SchemaMigration.Proofs.Yaml.Pairs
import SchemaMigration.Proofs.Project.ConfigTokens
import SchemaMigration.Proofs.Project.ConfigLoading
import SchemaMigration.Proofs.Project.ConfigReading
import SchemaMigration.Proofs.RootedTree
import SchemaMigration.Proofs.Project.Scaffolding
import SchemaMigration.Proofs.Catalog.Indexes
import SchemaMigration.Proofs.KeysInPlace
import SchemaMigration.Proofs.TableNames
import SchemaMigration.Proofs.RegistryOrder
import SchemaMigration.Proofs.ReservedNames
import SchemaMigration.Proofs.NameSegments
import SchemaMigration.Proofs.Calendar.Digits
import SchemaMigration.Proofs.Calendar.Chronology
import SchemaMigration.Proofs.Ledger.FailedWrites
