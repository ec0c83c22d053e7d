import SchemaMigration.Proofs.FileTree
import SchemaMigration.Proofs.Ledger.Codec
import SchemaMigration.Proofs.Outcomes

namespace SchemaMigration

/-!
# Ledgers on file

A change of the ledger rereads the file, writes a draft beside it and moves the
draft over it.  Whatever of this fails, the file lists what it listed before.
-/

namespace Ledger

/-! ## What a file lists -/

/-- The revisions that the file at a location lists, when it is a ledger. -/
def listedAt (files : FileTree) (location : Location) : Option (List Revision) :=
  match files.holding? location with
  | some (.file (.text content)) => (parse content).toOption
  | _ => none

theorem wellformed_listedAt
    {files : FileTree}
    {location : Location}
    {revisions : List Revision}
    (listed : listedAt files location = some revisions) :
    Wellformed revisions := by
  unfold listedAt at listed
  split at listed
  · rename_i content _
    cases parsed : parse content with
    | error _ =>
        simp [parsed, Except.toOption] at listed
    | ok parsedRevisions =>
        simp only [parsed, Except.toOption, Option.some.injEq] at listed
        exact listed ▸ wellformed_parse parsed
  · cases listed

theorem listedAt_of_holding
    {files other : FileTree}
    {location : Location}
    (same : other.holding? location = files.holding? location) :
    listedAt other location = listedAt files location := by
  rw [listedAt, same, listedAt]

/-- What is read again is what the file lists. -/
theorem reread_eq
    {ledger : Ledger}
    {files : FileTree}
    {location : Location}
    (leads : files.locate ledger.place = .ok location) :
    (∃ revisions,
        listedAt files location = some revisions ∧
          ledger.reread files = .ok { ledger with applied := revisions }) ∨
      listedAt files location = none ∧
        ∃ problem, ledger.reread files = .error problem := by
  simp only [reread, FileTree.read, FileTree.find, leads, listedAt]
  cases files.holding? location with
  | none =>
      simp
  | some entry =>
      cases entry with
      | directory =>
          simp
      | file content =>
          cases content with
          | octets _ =>
              simp
          | text value =>
              cases parsed : parse value <;> simp [parsed, Except.toOption]

/-! ## The two places -/

/-- The steps to the directory of a ledger. -/
def stepsToDirectory (ledger : Ledger) : List String :=
  if ledger.directory.label.isEmpty then [] else ledger.directory.steps

/-- A name joined to a directory is one step more. -/
theorem steps_join
    {directory : Place}
    {name : String}
    (relative : Place.isAbsolute name = false)
    (nonempty : name.isEmpty = false)
    (single : Place.stepsAlong name = [name]) :
    (directory.join name).steps =
      (if directory.label.isEmpty then [] else directory.steps) ++ [name] := by
  simp only [Place.join, relative, Bool.false_or, nonempty]
  split <;> simp [Place.ofPath, single]

theorem steps_place (ledger : Ledger) :
    ledger.place.steps = ledger.stepsToDirectory ++ [fileName] :=
  steps_join (by decide) (by decide) (by decide)

theorem steps_draftPlace (ledger : Ledger) :
    ledger.draftPlace.steps = ledger.stepsToDirectory ++ [draftName] :=
  steps_join (by decide) (by decide) (by decide)

/-- The draft and the ledger are different files of one directory. -/
theorem locate_draftPlace_ne
    {files : FileTree}
    {ledger : Ledger}
    {location : Location}
    (leads : files.locate ledger.place = .ok location) :
    files.locate ledger.draftPlace ≠ .ok location := by
  intro draftLeads
  obtain ⟨directory, reached, rfl⟩ :=
    FileTree.location_of_locate ledger.steps_place (by decide) leads
  obtain ⟨sameDirectory, alsoReached, names⟩ :=
    FileTree.location_of_locate ledger.steps_draftPlace (by decide) draftLeads
  rw [reached] at alsoReached
  cases alsoReached
  have same := List.append_cancel_left names
  revert same
  decide

/-! ## Changes -/

namespace Session

/--
What a change of the ledger does, beside the list on file: the ledger stays
that of its directory and directories stay.
-/
structure Advances
    (location : Location)
    (change : List Revision → List Revision)
    (before after : Session) : Prop where
  directory : after.ledger.directory = before.ledger.directory
  evolves : before.files.Evolves after.files
  listed : listedAt after.files location = (listedAt before.files location).map change

namespace Advances

variable {location : Location}

/-- Where the files stay, nothing changes. -/
theorem of_sameFiles
    {before after : Session}
    (directory : after.ledger.directory = before.ledger.directory)
    (files : after.files = before.files) :
    Advances location id before after where
  directory := directory
  evolves := files ▸ .refl before.files
  listed := by simp [files]

/-- Where the files stay, a change that the list does not notice may be said to be made. -/
theorem of_fixed
    {before after : Session}
    {change : List Revision → List Revision}
    {known : List Revision}
    (directory : after.ledger.directory = before.ledger.directory)
    (files : after.files = before.files)
    (listed : listedAt before.files location = some known)
    (fixed : change known = known) :
    Advances location change before after where
  directory := directory
  evolves := files ▸ .refl before.files
  listed := by simp [files, listed, fixed]

theorem trans
    {before between after : Session}
    {first second : List Revision → List Revision}
    (earlier : Advances location first before between)
    (later : Advances location second between after) :
    Advances location (second ∘ first) before after where
  directory := later.directory.trans earlier.directory
  evolves := earlier.evolves.trans later.evolves
  listed := by rw [later.listed, earlier.listed, Option.map_map]

end Advances

/-- Whether the ledger of a session is the file at a location. -/
def LeadsTo (session : Session) (location : Location) : Prop :=
  session.files.locate session.ledger.place = .ok location

theorem Advances.leadsTo
    {location : Location}
    {change : List Revision → List Revision}
    {before after : Session}
    (advances : Advances location change before after)
    (leads : before.LeadsTo location) :
    after.LeadsTo location := by
  have samePlace : after.ledger.place = before.ledger.place := by
    rw [place, place, advances.directory]
  rw [LeadsTo, samePlace]
  exact advances.evolves.locate leads

end Session

variable {session : Session} {location : Location}

/-- Reading again takes over what the file lists, or fails and changes nothing. -/
theorem reload_ends
    (leads : session.LeadsTo location) :
    reload.Ends session (fun reached outcome =>
      reached.files = session.files ∧
        reached.ledger.directory = session.ledger.directory ∧
          match outcome with
          | .ok _ => listedAt session.files location = some reached.ledger.applied
          | .error _ => listedAt session.files location = none) := by
  unfold Action.Ends reload
  rcases reread_eq leads with ⟨revisions, listed, read⟩ | ⟨unlisted, problem, failed⟩
  · simp [read, listed]
  · simp [failed, unlisted]

/--
Writing makes the file list what the ledger in memory holds, or fails and
leaves the list as it was.
-/
theorem persist_ends
    (leads : session.LeadsTo location)
    (wellformed : Wellformed session.ledger.applied) :
    persist.Ends session (fun reached outcome =>
      reached.ledger = session.ledger ∧
        session.files.Evolves reached.files ∧
          match outcome with
          | .ok _ => listedAt reached.files location = some session.ledger.applied
          | .error _ => listedAt reached.files location = listedAt session.files location) := by
  unfold Action.Ends persist
  dsimp only
  split
  · rename_i replaced done
    obtain ⟨evolves, held⟩ := FileTree.replace_done leads done
    refine ⟨rfl, evolves, ?_⟩
    simp [listedAt, held, parse_render wellformed, Except.toOption]
  · rename_i broken problem breaks
    -- A draft that stays behind is not the file that is listed.
    obtain ⟨evolves, unchanged⟩ := FileTree.replace_breaks (locate_draftPlace_ne leads) breaks
    exact ⟨rfl, evolves, listedAt_of_holding unchanged⟩

/-- Putting other revisions into the ledger makes the file list them, or fails. -/
theorem update_ends
    (leads : session.LeadsTo location)
    {revisions : List Revision}
    (wellformed : Wellformed revisions) :
    (update revisions).Ends session (fun reached outcome =>
      reached.ledger.directory = session.ledger.directory ∧
        session.files.Evolves reached.files ∧
          match outcome with
          | .ok _ => listedAt reached.files location = some revisions
          | .error _ => listedAt reached.files location = listedAt session.files location) := by
  have changedLeads :
      Session.LeadsTo
        { session with ledger := { session.ledger with applied := revisions } } location :=
    leads
  simp only [update, Action.ends_bind, Action.ends_current, Action.ends_replace]
  refine (persist_ends changedLeads wellformed).imp ?_
  rintro reached outcome ⟨sameLedger, evolves, listed⟩
  exact ⟨by rw [sameLedger], evolves, listed⟩

/-- What becomes of the list on file: it changes when nothing fails. -/
def ifOk (change : List Revision → List Revision) :
    Except ε α → List Revision → List Revision
  | .ok _ => change
  | .error _ => id

/-- The list with a revision at its end, unless it is listed already. -/
def inserted (revision : Revision) (known : List Revision) : List Revision :=
  if known.contains revision then known else known ++ [revision]

/-- The list without a revision. -/
def removed (revision : Revision) (known : List Revision) : List Revision :=
  known.filter (fun other => other != revision)

/-- Once the list was read again, writing another list is a change of the list on file. -/
theorem advances_of_update
    {before : Session}
    {change : List Revision → List Revision}
    (leads : session.LeadsTo location)
    (reread : Session.Advances location id before session)
    (listed : listedAt before.files location = some session.ledger.applied)
    (wellformed : Wellformed (change session.ledger.applied)) :
    (update (change session.ledger.applied)).Ends session (fun reached outcome =>
      Session.Advances location (ifOk change outcome) before reached) := by
  refine (update_ends leads wellformed).imp ?_
  rintro reached outcome ⟨directory, evolves, written⟩
  refine ⟨directory.trans reread.directory, reread.evolves.trans evolves, ?_⟩
  rw [listed]
  cases outcome with
  | ok _ =>
      simpa [ifOk] using written
  | error _ =>
      rw [written, reread.listed, listed]
      rfl

theorem insert_ends
    (leads : session.LeadsTo location)
    {revision : Revision}
    (genuine : revision.Genuine) :
    (insert revision).Ends session (fun reached outcome =>
      Session.Advances location (ifOk (inserted revision) outcome) session reached) := by
  simp only [insert, Action.ends_bind, Action.ends_current]
  refine (reload_ends leads).imp ?_
  rintro reread outcome ⟨files, directory, read⟩
  have unchanged : Session.Advances location id session reread :=
    .of_sameFiles directory files
  cases outcome with
  | error _ =>
      exact unchanged
  | ok _ =>
      dsimp only at read ⊢
      split
      · rename_i isListed
        have same :
            inserted revision reread.ledger.applied = reread.ledger.applied :=
          if_pos isListed
        exact .of_fixed directory files read same
      · rename_i unlisted
        have wellformed := wellformed_listedAt read
        have change :
            reread.ledger.applied ++ [revision] =
              inserted revision reread.ledger.applied :=
          (if_neg unlisted).symm
        rw [change]
        refine advances_of_update (unchanged.leadsTo leads) unchanged read ?_
        rw [← change]
        exact wellformed.append genuine (by simpa [contains] using unlisted)

theorem remove_ends
    (leads : session.LeadsTo location)
    (revision : Revision) :
    (remove revision).Ends session (fun reached outcome =>
      Session.Advances location (ifOk (removed revision) outcome) session reached) := by
  simp only [remove, Action.ends_bind, Action.ends_current]
  refine (reload_ends leads).imp ?_
  rintro reread outcome ⟨files, directory, read⟩
  have unchanged : Session.Advances location id session reread :=
    .of_sameFiles directory files
  cases outcome with
  | error _ =>
      exact unchanged
  | ok _ =>
      dsimp only at read ⊢
      split
      · have wellformed : Wellformed (removed revision reread.ledger.applied) :=
          (wellformed_listedAt read).filter _
        exact advances_of_update (unchanged.leadsTo leads) unchanged read wellformed
      · rename_i unlisted
        have same : removed revision reread.ledger.applied = reread.ledger.applied := by
          rw [removed, List.filter_eq_self]
          intro other member
          rw [bne_iff_ne]
          rintro rfl
          exact unlisted (by simpa [contains] using member)
        exact .of_fixed directory files read same

end Ledger

end SchemaMigration
