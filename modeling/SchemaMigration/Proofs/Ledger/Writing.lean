import SchemaMigration.Proofs.Ledger.Steps

namespace SchemaMigration

/-!
# Ledgers that can be written

Writing a ledger asks that its place and the place of its draft lead to no
directories, and that no call breaks off.  Since files come and go but
directories stay, a ledger that can be written once can be written after every
change.
-/

namespace Ledger

/-- Whether the file at a location is how revisions are written. -/
def WrittenAt (files : FileTree) (location : Location) (revisions : List Revision) : Prop :=
  files.holding? location = some (.file (.text (render revisions)))

/-- Whether the file at a location is written as what it lists. -/
def Tidy (files : FileTree) (location : Location) : Prop :=
  ∃ revisions, listedAt files location = some revisions ∧ WrittenAt files location revisions

/-- Tidy files that list the same are the same. -/
theorem holding?_eq_of_tidy
    {first second : FileTree}
    {location : Location}
    (firstTidy : Tidy first location)
    (secondTidy : Tidy second location)
    (same : listedAt second location = listedAt first location) :
    second.holding? location = first.holding? location := by
  obtain ⟨firstRevisions, firstListed, firstWritten⟩ := firstTidy
  obtain ⟨secondRevisions, secondListed, secondWritten⟩ := secondTidy
  rw [firstListed, secondListed] at same
  cases same
  exact secondWritten.trans firstWritten.symm

/-- Whether the ledger of a session can be written, now and later: no call breaks off. -/
structure Session.CanWrite (session : Session) : Prop where
  faultless : session.files.Faultless
  writes : (persist session).outcome = .ok ()

variable {session : Session} {location : Location}

/-! ## Writing -/

/-- What writing does, where nothing breaks off. -/
theorem persist_completes_iff :
    (persist session).outcome = .ok () ↔
      ∃ replaced,
        session.files.replace session.ledger.draftPlace session.ledger.place
            (render session.ledger.applied) =
          (replaced, none) := by
  unfold persist
  dsimp only
  split
  · rename_i replaced done
    simp [done]
  · rename_i breaks
    simp [breaks]

/-- A ledger can be written exactly where files can be put at its place and at that of its draft. -/
theorem Session.canWrite_iff :
    session.CanWrite ↔
      session.files.Faultless ∧
        session.files.TakesFile session.ledger.draftPlace ∧
          session.files.TakesFile session.ledger.place := by
  constructor
  · rintro ⟨faultless, writes⟩
    obtain ⟨_, done⟩ := persist_completes_iff.mp writes
    exact ⟨faultless, FileTree.takesFile_of_replace done⟩
  · rintro ⟨faultless, takesDraft, takes⟩
    exact ⟨faultless, persist_completes_iff.mpr
      (FileTree.replace_of_faultless faultless takesDraft takes _)⟩

/-- What can be written once can be written later, whatever it lists then. -/
theorem Session.CanWrite.of_evolves
    {before after : Session}
    (canWrite : before.CanWrite)
    (directory : after.ledger.directory = before.ledger.directory)
    (evolves : before.files.Evolves after.files) :
    after.CanWrite := by
  have samePlace : after.ledger.place = before.ledger.place := by
    rw [place, place, directory]
  have sameDraftPlace : after.ledger.draftPlace = before.ledger.draftPlace := by
    rw [draftPlace, draftPlace, directory]
  obtain ⟨faultless, takesDraft, takes⟩ := canWrite_iff.mp canWrite
  rw [canWrite_iff, samePlace, sameDraftPlace]
  exact ⟨faultless.of_evolves evolves, takesDraft.of_sameDirectories evolves.directories,
    takes.of_sameDirectories evolves.directories⟩

/-- Where the file lists revisions, reading again takes these over. -/
theorem reload_eq
    (leads : session.LeadsTo location)
    {known : List Revision}
    (listed : listedAt session.files location = some known) :
    reload session =
      ⟨{ session with ledger := { session.ledger with applied := known } }, [], .ok ()⟩ := by
  rcases reread_eq leads with ⟨revisions, alsoListed, read⟩ | ⟨unlisted, _⟩
  · rw [listed] at alsoListed
    cases alsoListed
    simp [reload, read]
  · rw [listed] at unlisted
    cases unlisted

section Writes

variable
  (leads : session.LeadsTo location)
  (canWrite : session.CanWrite)

include leads canWrite

/-- A ledger that can be written is then on file as it is in memory. -/
theorem persist_writes :
    persist.Completes session (fun reached =>
      WrittenAt reached.files location session.ledger.applied) := by
  obtain ⟨replaced, done⟩ := persist_completes_iff.mp canWrite.writes
  refine ⟨canWrite.writes, ?_⟩
  simp only [persist, done]
  exact (FileTree.replace_done leads done).2

/-- Other revisions are on file once they are in memory. -/
theorem update_writes (revisions : List Revision) :
    (update revisions).Completes session (fun reached =>
      WrittenAt reached.files location revisions) := by
  let changed : Session :=
    { session with ledger := { session.ledger with applied := revisions } }
  have changedLeads : changed.LeadsTo location :=
    leads
  have changedCanWrite : changed.CanWrite :=
    canWrite.of_evolves rfl (.refl _)
  have written := persist_writes changedLeads changedCanWrite
  simp only [update, Action.Completes, Action.ends_bind, Action.ends_current,
    Action.ends_replace]
  exact written

variable
  {known : List Revision}
  (listed : listedAt session.files location = some known)
  {revision : Revision}

include listed

/-- A revision that is not listed is put at the end. -/
theorem insert_writes
    (unlisted : revision ∉ known) :
    (insert revision).Completes session (fun reached =>
      WrittenAt reached.files location (known ++ [revision])) := by
  have absent : ¬ Ledger.contains { session.ledger with applied := known } revision = true := by
    simpa [contains] using unlisted
  rw [insert, Action.completes_bind, Action.Completes, Action.Ends, reload_eq leads listed]
  refine ⟨rfl, ?_⟩
  simp only [Action.Completes, Action.ends_bind, Action.ends_current]
  rw [if_neg absent]
  exact update_writes leads (canWrite.of_evolves rfl (.refl _)) _

/-- A revision that is listed is taken out. -/
theorem remove_writes
    (isListed : revision ∈ known) :
    (remove revision).Completes session (fun reached =>
      WrittenAt reached.files location (removed revision known)) := by
  have present : Ledger.contains { session.ledger with applied := known } revision = true := by
    simpa [contains] using isListed
  rw [remove, Action.completes_bind, Action.Completes, Action.Ends, reload_eq leads listed]
  refine ⟨rfl, ?_⟩
  simp only [Action.Completes, Action.ends_bind, Action.ends_current]
  rw [if_pos present]
  exact update_writes leads (canWrite.of_evolves rfl (.refl _)) _

end Writes

end Ledger

/-! ## Recording what ran -/

/-- Whether a direction can record a revision: upwards a new one, downwards a known one. -/
def Completion.Fits (direction : Direction) (revision : Revision) (known : List Revision) : Prop :=
  match direction with
  | .up => revision ∉ known
  | .down => revision ∈ known

namespace Workspace

variable
  {location : Location}
  {workspace : Workspace σ}
  (works : workspace.WorksOn location)
  (canWrite : workspace.ledgerSession.CanWrite)
  {known : List Revision}
  (listed : Ledger.listedAt workspace.files location = some known)
  {direction : Direction}

include works canWrite listed

/-- A revision that fits is recorded, and the database stays. -/
theorem record_writes
    {revision : Revision}
    (fits : Completion.Fits direction revision known) :
    (onLedger (Workspace.record revision direction)).Completes workspace (fun reached =>
      reached.database = workspace.database ∧
        Ledger.WrittenAt reached.files location
          (Completion.recorded direction revision known)) := by
  rw [onLedger, Action.Completes, Action.ends_focus]
  cases direction with
  | up =>
      exact (Ledger.insert_writes works canWrite listed fits).imp
        (fun _ written => ⟨rfl, written⟩)
  | down =>
      exact (Ledger.remove_writes works canWrite listed fits).imp
        (fun _ written => ⟨rfl, written⟩)

/-- A migration whose half succeeds runs and is recorded. -/
theorem run_writes
    {store : Store σ}
    {migration : Migration σ}
    (fits : Completion.Fits direction migration.revision known)
    {reaches : σ → Prop}
    (half : (migration.half direction store).Completes workspace.database reaches) :
    (run store direction migration).Completes workspace (fun reached =>
      reaches reached.database ∧
        Ledger.WrittenAt reached.files location
          (Completion.recorded direction migration.revision known)) := by
  obtain ⟨succeeded, reached⟩ := half
  let moved : Workspace σ :=
    { workspace with database := (migration.half direction store workspace.database).state }
  have movedWorks : moved.WorksOn location :=
    works
  have recorded := record_writes movedWorks canWrite listed fits
  rw [run, Action.completes_bind]
  refine ⟨congrArg (Except.mapError _) succeeded,
    Action.completes_bind.mpr (recorded.imp ?_)⟩
  rintro final ⟨database, written⟩
  have stays : reaches final.database := by
    rw [database]
    exact reached
  exact ⟨rfl, stays, written⟩

end Workspace

end SchemaMigration
