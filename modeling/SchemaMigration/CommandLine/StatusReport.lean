import SchemaMigration.Json.Pretty
import SchemaMigration.Migration.Workspace

namespace SchemaMigration.CommandLine.StatusReport

/-!
# Reports on the state of migrations

The state of the migrations as a table and as JSON. The revisions that are
recorded without a migration follow in both.
-/

/-! ## Tables -/

/-- The widths of columns after another row; a cell is as wide as it has octets. -/
def widen (widths : List Nat) (row : List String) : List Nat :=
  widths.zipWith (fun width cell => max width cell.utf8ByteSize) row

/-- The widths of the columns of a table. -/
def widths (head : List String) (rows : List (List String)) : List Nat :=
  rows.foldl widen (head.map String.utf8ByteSize)

/-- A row with its cells below each other's starts; nothing stands after the last. -/
def rowLine (widths : List Nat) (row : List String) : String :=
  Text.trimEnd (Text.join "  "
    (row.zipWith (fun cell width => Text.padRight ' ' width cell) widths))

/-- The dashes between the head and the rows. -/
def ruleLine (widths : List Nat) : String :=
  Text.join "  " (widths.map (fun width => String.ofList (List.replicate width '-')))

/-- The lines of a table. -/
def tableLines (head : List String) (rows : List (List String)) : List String :=
  let widths := widths head rows
  rowLine widths head :: ruleLine widths :: rows.map (rowLine widths)

/-- The head of the table of migrations. -/
def head : List String :=
  ["MIGRATION", "CREATED", "STATUS"]

/-- The row of a migration. -/
def rowOf (status : MigrationStatus) : List String :=
  [status.id, (status.created.map (Timestamp.written ' ')).getD "-", status.state.title]

/-- The line about a revision that is recorded without a migration. -/
def orphanLine (revision : Revision) : String :=
  let digits := revision.text
  s!"Warning: revision {digits} is recorded as applied but has no migration file"

/-- The state of the migrations of a directory as lines. -/
def lines (directory : String) (statuses : List MigrationStatus) (orphaned : List Revision) :
    List String :=
  let shown :=
    if statuses.isEmpty then [s!"No migrations found in {directory}"]
    else tableLines head (statuses.map rowOf)
  shown ++ orphaned.map orphanLine

/-! ## JSON -/

/-- The record of a migration. -/
def recordOf (status : MigrationStatus) : Json :=
  let created :=
    match status.created with
    | some time => [("created", .text (time.written 'T'))]
    | none => []
  .record ([("id", .text status.id), ("revision", .text status.revision.text),
    ("name", .text status.name), ("state", .text status.state.name)] ++ created)

/-- The state of migrations as JSON. -/
def json (statuses : List MigrationStatus) (orphaned : List Revision) : Json :=
  .record [("migrations", .list (statuses.map recordOf)),
    ("orphaned", .list (orphaned.map (fun revision => .text revision.text)))]

/-! ## Checks -/

/-- The number of migrations that are pending. -/
def pendingCount (statuses : List MigrationStatus) : Nat :=
  (statuses.filter (fun status => status.state = .pending)).length

/-- The lines about migrations that are pending. -/
def pendingLines (count : Nat) : List String :=
  ["", s!"{count} pending migration(s)"]

end SchemaMigration.CommandLine.StatusReport
