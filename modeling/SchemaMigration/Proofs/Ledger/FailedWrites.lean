import SchemaMigration.Proofs.Ledger.OnFile

namespace SchemaMigration.Ledger

/-!
# Changes that could not be written

A ledger is read again before each change.  Where that fails nothing happens.
Where the changed list cannot be written the file lists what it did, but the
ledger in memory keeps the change.
-/

/-! ## Changes -/

/-- A change of what a ledger lists. -/
inductive Change
  | insertion (revision : Revision)
  | removal (revision : Revision)

namespace Change

/-- The list after a change. -/
def apply : Change → List Revision → List Revision
  | .insertion revision => inserted revision
  | .removal revision => removed revision

/-- Change a ledger. -/
def attempt : Change → Action Session MigrationError Unit
  | .insertion revision => insert revision
  | .removal revision => remove revision

theorem apply_insertion_of_unlisted
    {revision : Revision}
    {known : List Revision}
    (unlisted : revision ∉ known) :
    (insertion revision).apply known = known ++ [revision] := by
  simp [apply, inserted, unlisted]

theorem apply_removal
    (revision : Revision)
    (known : List Revision) :
    (removal revision).apply known = known.filter (fun other => other != revision) :=
  rfl

end Change

namespace Session

/-- Whether a ledger in memory is what its file lists. -/
def UpToDate (session : Session) : Prop :=
  session.ledger.reread session.files = .ok session.ledger

end Session

/-! ## How changes end -/

/-- How changing a ledger may end. -/
inductive Attempted (change : Change) (before after : Session) :
    Except MigrationError Unit → Prop
  | done : Attempted change before after (.ok ())
  /-- The file could not be read, and nothing happened. -/
  | unread {problem : MigrationError} :
      before.ledger.reread before.files = .error problem →
      after = before →
      Attempted change before after (.error problem)
  /-- The changed list could not be written, but it is in memory. -/
  | unwritten {problem : MigrationError} {read : Ledger} :
      before.ledger.reread before.files = .ok read →
      change.apply read.applied ≠ read.applied →
      after.ledger = { read with applied := change.apply read.applied } →
      after.ledger.reread after.files = .ok read →
      Attempted change before after (.error problem)

/-- What is in memory makes no difference to what is read. -/
theorem reread_with
    (ledger : Ledger)
    (applied : List Revision)
    (files : FileTree) :
    ({ ledger with applied := applied } : Ledger).reread files = ledger.reread files := by
  simp only [reread, place]

/-- Reading again what was read gives the same. -/
theorem reread_again
    {ledger read : Ledger}
    {files : FileTree}
    (isRead : ledger.reread files = .ok read) :
    read.reread files = .ok read := by
  have same : read = { ledger with applied := read.applied } := by
    unfold reread at isRead
    split at isRead
    · cases isRead
    · split at isRead <;> cases isRead
      rfl
  rw [← isRead, same, reread_with]

/-- A file that could not be replaced makes no difference to what is read. -/
theorem reread_of_broken
    {ledger read : Ledger}
    {files broken : FileTree}
    {content : String}
    {problem : FileProblem}
    (breaks : files.replace ledger.draftPlace ledger.place content = (broken, some problem))
    (isRead : ledger.reread files = .ok read) :
    ledger.reread broken = .ok read := by
  cases leads : files.locate ledger.place with
  | error _ =>
      simp [reread, FileTree.read, FileTree.find, leads] at isRead
  | ok location =>
      obtain ⟨evolves, sameEntry⟩ :=
        FileTree.replace_breaks (locate_draftPlace_ne leads) breaks
      have stillLeads := evolves.locate leads
      simpa only [reread, FileTree.read, FileTree.find, leads, stillLeads, sameEntry] using isRead

/-- A ledger that could not be written stays in memory, and its file stays as it was. -/
theorem persist_keeps
    (session : Session)
    {read : Ledger}
    (isRead : session.ledger.reread session.files = .ok read) :
    persist.Ends session (fun reached outcome =>
      outcome = .ok () ∨
        reached.ledger = session.ledger ∧ reached.ledger.reread reached.files = .ok read) := by
  unfold Action.Ends persist
  dsimp only
  split
  · exact .inl rfl
  · rename_i breaks
    exact .inr ⟨rfl, reread_of_broken breaks isRead⟩

/-- Writing another list than the one that was read. -/
theorem update_attempted
    {change : Change}
    {before : Session}
    {read : Ledger}
    {revisions : List Revision}
    (isRead : before.ledger.reread before.files = .ok read)
    (isChange : change.apply read.applied = revisions)
    (changes : revisions ≠ read.applied) :
    (update revisions).Ends ⟨read, before.files⟩ (Attempted change before) := by
  subst isChange
  let changed : Session :=
    ⟨{ read with applied := change.apply read.applied }, before.files⟩
  have stillRead : changed.ledger.reread changed.files = .ok read := by
    rw [reread_with]
    exact reread_again isRead
  simp only [update, Action.ends_bind, Action.ends_current, Action.ends_replace]
  refine (persist_keeps changed stillRead).imp ?_
  rintro after outcome kept
  cases outcome with
  | ok _ =>
      exact .done
  | error problem =>
      rcases kept with succeeded | ⟨inMemory, onFile⟩
      · cases succeeded
      · exact .unwritten isRead changes inMemory onFile

theorem attempt_ends
    (change : Change)
    (session : Session) :
    change.attempt.Ends session (Attempted change session) := by
  have reloads
      {next : Unit → Action Session MigrationError Unit}
      (goesOn :
        ∀ read,
          session.ledger.reread session.files = .ok read →
            (next ()).Ends ⟨read, session.files⟩ (Attempted change session)) :
      (reload >>= next).Ends session (Attempted change session) := by
    rw [Action.ends_bind, Action.Ends, reload]
    cases isRead : session.ledger.reread session.files with
    | error problem =>
        exact .unread isRead rfl
    | ok read =>
        exact goesOn read isRead
  cases change with
  | insertion revision =>
      refine reloads ?_
      intro read isRead
      simp only [Action.ends_bind, Action.ends_current]
      split
      · exact .done
      · rename_i absent
        have unlisted : revision ∉ read.applied := by
          simpa [contains] using absent
        exact update_attempted isRead (Change.apply_insertion_of_unlisted unlisted) (by simp)
  | removal revision =>
      refine reloads ?_
      intro read isRead
      simp only [Action.ends_bind, Action.ends_current]
      split
      · rename_i present
        have listed : revision ∈ read.applied := by
          simpa [contains] using present
        refine update_attempted isRead (Change.apply_removal revision read.applied) ?_
        simpa [List.filter_eq_self] using listed
      · exact .done

/-! ## What is remembered -/

/--
What is remembered of a change that failed.

The ledger in memory is as it was before, or as its file lists it, exactly when
the file could not be read, or lists what the change turns into the list that
was in memory before.  Otherwise it shows a change that is not on file.
-/
theorem failed_change_forgotten_iff
    {change : Change}
    {session : Session}
    {problem : MigrationError}
    (failed : (change.attempt session).outcome = .error problem) :
    let reached := (change.attempt session).state
    reached.ledger.applied = session.ledger.applied ∨ reached.UpToDate ↔
      ∀ read,
        session.ledger.reread session.files = .ok read →
          change.apply read.applied = session.ledger.applied := by
  intro reached
  have ended : Attempted change session reached (.error problem) :=
    failed ▸ attempt_ends change session
  cases ended with
  | unread unread same =>
      simp [same, unread]
  | @unwritten _ read isRead changes inMemory onFile =>
      have outdated : ¬ reached.UpToDate := by
        intro upToDate
        rw [Session.UpToDate, onFile, inMemory] at upToDate
        cases read
        simp only [Except.ok.injEq, mk.injEq, true_and] at upToDate
        exact changes upToDate.symm
      simp [outdated, isRead, inMemory]

/-- A ledger that lists one revision, with an entry that is none on file. -/
def corruptSession : Session where
  ledger := ⟨⟨"m", ["m"]⟩, [⟨"1"⟩]⟩
  files := ⟨[(["m"], .directory), (["m", ".version"], .file (.text "1|x"))], []⟩

/-- Nothing is removed in memory where the file cannot be read. -/
theorem corrupt_file_changes_nothing :
    let change := Change.removal ⟨"1"⟩
    (change.attempt corruptSession).outcome = .error (.ledgerCorrupt "m/.version" "x") ∧
      ((change.attempt corruptSession).state.ledger.applied = [⟨"1"⟩] ∨
        (change.attempt corruptSession).state.UpToDate) := by
  intro change
  have unread :
      corruptSession.ledger.reread corruptSession.files =
        .error (.ledgerCorrupt "m/.version" "x") := by
    rfl
  have failed :
      (change.attempt corruptSession).outcome = .error (.ledgerCorrupt "m/.version" "x") := by
    rfl
  refine ⟨failed, (failed_change_forgotten_iff failed).mpr ?_⟩
  intro read isRead
  rw [unread] at isRead
  cases isRead

/-- An empty ledger with a directory where its draft would be written. -/
def obstructedSession : Session where
  ledger := ⟨⟨"m", ["m"]⟩, []⟩
  files :=
    ⟨[(["m"], .directory), (["m", ".version"], .file (.text "")),
      (["m", ".version.tmp"], .directory)], []⟩

/-- The ledger shows a revision that could not be recorded, and its file does not list it. -/
theorem unwritten_revision_shown :
    let change := Change.insertion ⟨"1"⟩
    let reached := (change.attempt obstructedSession).state
    (change.attempt obstructedSession).outcome =
        .error (.ledgerUnwritable "m/.version" .isADirectory) ∧
      reached.ledger.applied = [⟨"1"⟩] ∧
        obstructedSession.ledger.applied = [] ∧
          Except.map Ledger.applied (reached.ledger.reread reached.files) = .ok [] := by
  exact ⟨rfl, rfl, rfl, rfl⟩

end SchemaMigration.Ledger
