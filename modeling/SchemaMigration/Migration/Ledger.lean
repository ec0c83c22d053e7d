import SchemaMigration.Effects.Action
import SchemaMigration.Migration.Error
import SchemaMigration.Revision

namespace SchemaMigration

/-!
# Ledgers

The ledger of a migrations directory lists the applied revisions in the order
they were applied, on one line with a bar between neighbours. It is read before
and rewritten after every change. Reading skips empty entries and repetitions.
-/

/-- The applied revisions, and the directory whose ledger lists them. -/
structure Ledger where
  directory : Place
  applied : List Revision

namespace Ledger

/-! ## The written form -/

/-- What stands between two entries. -/
def bar : Char :=
  '|'

/-- The distinct revisions in entries after those already read, or the first other entry. -/
def collect (known : List Revision) : List String → Except String (List Revision)
  | [] => .ok known
  | entry :: rest =>
      if entry.isEmpty then
        collect known rest
      else
        match Revision.parse entry with
        | .error _ => .error entry
        | .ok revision =>
            collect (if known.contains revision then known else known ++ [revision]) rest

/-- The entries of a written ledger, without the blanks around them. -/
def entriesOf (content : String) : List String :=
  (Text.splitAt bar (Text.trim content)).map Text.trim

/-- The revisions that a written ledger lists, or the first entry that is none. -/
def parse (content : String) : Except String (List Revision) :=
  collect [] (entriesOf content)

/-- Revisions as they are written. -/
def render (revisions : List Revision) : String :=
  Text.join (String.singleton bar) (revisions.map Revision.text)

/-! ## The file -/

/-- The name of the ledger in its directory. -/
def fileName : String :=
  ".version"

/-- The name under which a ledger is written before it takes the old one's place. -/
def draftName : String :=
  ".version.tmp"

/-- Where a ledger is. -/
def place (ledger : Ledger) : Place :=
  ledger.directory.join fileName

/-- Where a ledger is written before it takes the old one's place. -/
def draftPlace (ledger : Ledger) : Place :=
  ledger.directory.join draftName

/-- Whether a revision is applied. -/
def contains (ledger : Ledger) (revision : Revision) : Bool :=
  ledger.applied.contains revision

/-- The ledger as its file lists it. -/
def reread (ledger : Ledger) (files : FileTree) : Except MigrationError Ledger :=
  match files.read ledger.place with
  | .error problem => .error (.ledgerUnreadable ledger.place.label problem)
  | .ok content =>
      match parse content with
      | .error entry => .error (.ledgerCorrupt ledger.place.label entry)
      | .ok applied => .ok { ledger with applied := applied }

/-- Open the ledger of a directory; a missing one is made empty. -/
def openIn (directory : Place) : Action FileTree MigrationError Ledger := do
  let ledger : Ledger := ⟨directory, []⟩
  let files ← Action.current
  if !files.contains ledger.place then
    match files.write ledger.place "" with
    | .error problem => Action.fail (.ledgerUnwritable ledger.place.label problem)
    | .ok written => Action.replace written
  Action.inspect (fun files => Traced.ofExcept (ledger.reread files))

/-! ## Changes -/

/-- A ledger in memory beside the files. -/
structure Session where
  ledger : Ledger
  files : FileTree

/-- Read the ledger again. -/
def reload : Action Session MigrationError Unit :=
  fun session =>
    match session.ledger.reread session.files with
    | .error problem => ⟨session, [], .error problem⟩
    | .ok ledger => ⟨{ session with ledger := ledger }, [], .ok ()⟩

/-- Write the ledger under another name and move it over the old one. -/
def persist : Action Session MigrationError Unit :=
  fun session =>
    let ledger := session.ledger
    match session.files.replace ledger.draftPlace ledger.place (render ledger.applied) with
    | (files, none) => ⟨⟨ledger, files⟩, [], .ok ()⟩
    | (files, some problem) =>
        ⟨⟨ledger, files⟩, [], .error (.ledgerUnwritable ledger.place.label problem)⟩

/-- Put other revisions into the ledger in memory and write it. -/
def update (applied : List Revision) : Action Session MigrationError Unit := do
  let session ← Action.current
  Action.replace { session with ledger := { session.ledger with applied := applied } }
  persist

/-- Record that a revision is applied, unless it is recorded already. -/
def insert (revision : Revision) : Action Session MigrationError Unit := do
  reload
  let session ← Action.current
  if session.ledger.contains revision then
    return ()
  else
    update (session.ledger.applied ++ [revision])

/-- Forget that a revision is applied, if it is recorded. -/
def remove (revision : Revision) : Action Session MigrationError Unit := do
  reload
  let session ← Action.current
  if session.ledger.contains revision then
    update (session.ledger.applied.filter (fun known => known != revision))
  else
    return ()

end Ledger

end SchemaMigration
