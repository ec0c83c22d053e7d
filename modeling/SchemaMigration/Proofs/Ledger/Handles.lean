import Mathlib.Logic.Function.Basic
import SchemaMigration.Proofs.Ledger.OnFile
import SchemaMigration.Proofs.Ledger.Segments

namespace SchemaMigration

/-!
# Handles of one ledger

A ledger may be opened any number of times, under any spelling of its directory,
and each handle keeps the revisions that it read last.  Calls on the handles
interleave.  As long as revisions of digits are inserted, the file can be read
after all of them, and a handle whose call succeeded holds what the file lists.
-/

namespace Ledger

/-- Whether a ledger in memory is what its file lists. -/
def Session.Agrees (location : Location) (session : Session) : Prop :=
  listedAt session.files location = some session.ledger.applied

/-! ## Single calls -/

/-- Opening a ledger whose file can be read takes over what it lists and changes nothing. -/
theorem openIn_of_listed
    {directory : Place}
    {files : FileTree}
    {location : Location}
    (leads : files.locate (directory.join fileName) = .ok location)
    {known : List Revision}
    (listed : listedAt files location = some known) :
    openIn directory files = ⟨files, [], .ok ⟨directory, known⟩⟩ := by
  have sameLeads : files.locate (⟨directory, []⟩ : Ledger).place = .ok location :=
    leads
  have there : files.contains (⟨directory, []⟩ : Ledger).place = true := by
    unfold FileTree.contains FileTree.find
    rw [sameLeads]
    unfold listedAt at listed
    cases held : files.holding? location with
    | none =>
        simp [held] at listed
    | some _ =>
        simp [held]
  have read : (⟨directory, []⟩ : Ledger).reread files = .ok ⟨directory, known⟩ := by
    rcases reread_eq sameLeads with ⟨revisions, alsoListed, read⟩ | ⟨unlisted, _⟩
    · rw [listed] at alsoListed
      cases alsoListed
      exact read
    · rw [listed] at unlisted
      cases unlisted
  simp only [openIn, Action.inspect, Traced.ofExcept, bind, Action.bind, Action.current, there,
    Bool.not_true, Bool.false_eq_true, if_false, read, List.append_nil]

section Changes

variable {session : Session} {location : Location}

theorem update_agrees
    (leads : session.LeadsTo location)
    {revisions : List Revision}
    (wellformed : Wellformed revisions) :
    (update revisions).Ends session (fun reached outcome =>
      outcome = .ok () → reached.Agrees location) := by
  have changedLeads :
      Session.LeadsTo
        { session with ledger := { session.ledger with applied := revisions } } location :=
    leads
  simp only [update, Action.ends_bind, Action.ends_current, Action.ends_replace]
  refine (persist_ends changedLeads wellformed).imp ?_
  rintro reached outcome ⟨sameLedger, _, written⟩ rfl
  rw [Session.Agrees, sameLedger]
  exact written

/-- A ledger that was read again is what its file lists, at the same place. -/
theorem reload_agrees
    (leads : session.LeadsTo location) :
    reload.Ends session (fun reached outcome =>
      outcome = .ok () → reached.Agrees location ∧ reached.LeadsTo location) := by
  refine (reload_ends leads).imp ?_
  rintro reread outcome ⟨files, directory, read⟩ rfl
  have unchanged : Session.Advances location id session reread :=
    .of_sameFiles directory files
  refine ⟨?_, unchanged.leadsTo leads⟩
  rw [Session.Agrees, files]
  exact read

theorem insert_agrees
    (leads : session.LeadsTo location)
    {revision : Revision}
    (genuine : revision.Genuine) :
    (insert revision).Ends session (fun reached outcome =>
      outcome = .ok () → reached.Agrees location) := by
  simp only [insert, Action.ends_bind, Action.ends_current]
  refine (reload_agrees leads).imp ?_
  intro reread outcome read
  cases outcome with
  | error _ =>
      exact nofun
  | ok _ =>
      obtain ⟨agrees, stillLeads⟩ := read rfl
      dsimp only
      split
      · exact fun _ => agrees
      · rename_i unlisted
        apply update_agrees stillLeads
        exact (wellformed_listedAt agrees).append genuine (by simpa [contains] using unlisted)

theorem remove_agrees
    (leads : session.LeadsTo location)
    (revision : Revision) :
    (remove revision).Ends session (fun reached outcome =>
      outcome = .ok () → reached.Agrees location) := by
  simp only [remove, Action.ends_bind, Action.ends_current]
  refine (reload_agrees leads).imp ?_
  intro reread outcome read
  cases outcome with
  | error _ =>
      exact nofun
  | ok _ =>
      obtain ⟨agrees, stillLeads⟩ := read rfl
      dsimp only
      split
      · apply update_agrees stillLeads
        exact (wellformed_listedAt agrees).filter _
      · exact fun _ => agrees

end Changes

/-! ## Handles -/

/-- A call on a handle of a ledger. -/
inductive Call
  | opening
  | insert (revision : Revision)
  | remove (revision : Revision)

/-- Handles of one ledger, as far as they were opened, beside the files. -/
structure Handles (ι : Type) where
  directory : ι → Place
  applied : ι → Option (List Revision)
  files : FileTree

namespace Handles

variable {ι : Type} [DecidableEq ι]

/-- The handles after one of them was at work. -/
def withSession
    (handles : Handles ι)
    (index : ι)
    (session : Session) :
    Handles ι where
  directory := handles.directory
  applied := Function.update handles.applied index (some session.ledger.applied)
  files := session.files

/-- A change of the ledger through a handle, unless the handle was not opened. -/
def change
    (handles : Handles ι)
    (index : ι)
    (action : Action Session MigrationError Unit) :
    Handles ι × Option (Except MigrationError Unit) :=
  match handles.applied index with
  | none => (handles, none)
  | some applied =>
      let ending := action ⟨⟨handles.directory index, applied⟩, handles.files⟩
      (handles.withSession index ending.state, some ending.outcome)

/-- The handles after a call on one of them, with the outcome of the call. -/
def call
    (handles : Handles ι)
    (index : ι) :
    Call → Handles ι × Option (Except MigrationError Unit)
  | .opening =>
      let ending := openIn (handles.directory index) handles.files
      match ending.outcome with
      | .error problem => ({ handles with files := ending.state }, some (.error problem))
      | .ok ledger => (handles.withSession index ⟨ledger, ending.state⟩, some (.ok ()))
  | .insert revision => handles.change index (Ledger.insert revision)
  | .remove revision => handles.change index (Ledger.remove revision)

/-- The handles after calls. -/
def run (handles : Handles ι) : List (ι × Call) → Handles ι
  | [] => handles
  | (index, call) :: later => (handles.call index call).1.run later

omit [DecidableEq ι] in
/-- Whether all handles are of the file at a location, and that file can be read. -/
structure ReadableAt (location : Location) (handles : Handles ι) : Prop where
  leads :
    ∀ index, handles.files.locate ((handles.directory index).join fileName) = .ok location
  readable : ∃ known, listedAt handles.files location = some known

variable {handles : Handles ι} {location : Location}

/-- Where a change of the session leads, the handles are led. -/
theorem readableAt_withSession
    (readable : handles.ReadableAt location)
    {index : ι}
    {applied : List Revision}
    {change : List Revision → List Revision}
    {reached : Session}
    (advances :
      Session.Advances location change ⟨⟨handles.directory index, applied⟩, handles.files⟩
        reached) :
    (handles.withSession index reached).ReadableAt location where
  leads := fun other =>
    advances.evolves.locate (readable.leads other)
  readable := by
    obtain ⟨known, listed⟩ := readable.readable
    refine ⟨change known, ?_⟩
    rw [withSession, advances.listed, listed, Option.map_some]

/-- Whether a handle holds what the file lists, each revision once. -/
def Current (location : Location) (handles : Handles ι) (index : ι) : Prop :=
  ∃ applied,
    handles.applied index = some applied ∧
      listedAt handles.files location = some applied ∧ applied.Nodup

theorem current_withSession
    (handles : Handles ι)
    (index : ι)
    {session : Session}
    (agrees : session.Agrees location) :
    (handles.withSession index session).Current location index :=
  ⟨session.ledger.applied, Function.update_self .., agrees,
    (wellformed_listedAt agrees).distinct⟩

/-- A change keeps the file readable, and a handle that it succeeds on is current. -/
theorem change_keeps
    (readable : handles.ReadableAt location)
    (index : ι)
    {action : Action Session MigrationError Unit}
    {change : Except MigrationError Unit → List Revision → List Revision}
    (advances :
      ∀ session : Session,
        session.LeadsTo location →
          action.Ends session (fun reached outcome =>
            Session.Advances location (change outcome) session reached))
    (agrees :
      ∀ session : Session,
        session.LeadsTo location →
          action.Ends session (fun reached outcome =>
            outcome = .ok () → reached.Agrees location)) :
    (handles.change index action).1.ReadableAt location ∧
      ((handles.change index action).2 = some (.ok ()) →
        (handles.change index action).1.Current location index) := by
  unfold Handles.change
  split
  · exact ⟨readable, nofun⟩
  · rename_i applied _
    have leads :
        Session.LeadsTo ⟨⟨handles.directory index, applied⟩, handles.files⟩ location :=
      readable.leads index
    refine ⟨readableAt_withSession readable (advances _ leads), ?_⟩
    intro succeeded
    apply current_withSession
    exact agrees _ leads (Option.some.inj succeeded)

/-- A call keeps the file readable, and a handle that it succeeds on is current. -/
theorem call_keeps
    (readable : handles.ReadableAt location)
    (index : ι)
    {call : Call}
    (digits : ∀ revision, call = .insert revision → revision.Genuine) :
    (handles.call index call).1.ReadableAt location ∧
      ((handles.call index call).2 = some (.ok ()) →
        (handles.call index call).1.Current location index) := by
  cases call with
  | opening =>
      obtain ⟨known, listed⟩ := readable.readable
      have opened := openIn_of_listed (readable.leads index) listed
      have unchanged :
          Session.Advances location id ⟨⟨handles.directory index, known⟩, handles.files⟩
            ⟨⟨handles.directory index, known⟩, handles.files⟩ :=
        .of_sameFiles rfl rfl
      simp only [Handles.call, opened]
      exact ⟨readableAt_withSession readable unchanged,
        fun _ => current_withSession handles index listed⟩
  | insert revision =>
      have genuine := digits revision rfl
      exact change_keeps readable index
        (fun _ leads => insert_ends leads genuine)
        (fun _ leads => insert_agrees leads genuine)
  | remove revision =>
      exact change_keeps readable index
        (fun _ leads => remove_ends leads revision)
        (fun _ leads => remove_agrees leads revision)

theorem run_keeps
    (readable : handles.ReadableAt location)
    {calls : List (ι × Call)}
    (digits :
      ∀ entry ∈ calls, ∀ revision, entry.2 = .insert revision → revision.Genuine) :
    (handles.run calls).ReadableAt location := by
  induction calls generalizing handles with
  | nil =>
      exact readable
  | cons indexed later inductionHypothesis =>
      obtain ⟨first, rest⟩ := List.forall_mem_cons.mp digits
      exact inductionHypothesis (call_keeps readable indexed.1 first).1 rest

end Handles

/-! ## Round trips -/

/--
Every content is read by its segments and read again from how it is written.
A file that could be read once can be read after any calls on handles of it that
insert revisions of digits, and the handle of such a call that succeeds holds
what the file lists then.
-/
theorem content_and_file_round_trip :
    (∀ content, ReadsBySegments content) ∧
      ∀ (ι : Type) [DecidableEq ι] (handles : Handles ι) (location : Location),
        handles.ReadableAt location →
          ∀ calls : List (ι × Call),
            (∀ entry ∈ calls, ∀ revision, entry.2 = .insert revision → revision.Genuine) →
              (handles.run calls).ReadableAt location ∧
                ∀ index call,
                  (∀ revision, call = .insert revision → revision.Genuine) →
                    ((handles.run calls).call index call).2 = some (.ok ()) →
                      ((handles.run calls).call index call).1.Current location index := by
  refine ⟨readsBySegments, ?_⟩
  intro ι _ handles location readable calls digits
  have reached := Handles.run_keeps readable digits
  exact ⟨reached, fun index _ another => (Handles.call_keeps reached index another).2⟩

/-- A ledger as an older version left it, under two spellings of its directory. -/
def legacyHandles : Handles Bool where
  directory := fun spelled => if spelled then ⟨"./m", [".", "m"]⟩ else ⟨"m", ["m"]⟩
  applied := fun _ => none
  files := ⟨[(["m"], .directory), (["m", ".version"], .file (.text "|1| 20|1\n"))], []⟩

/-- Both handles are opened, and one inserts a revision that the other one has not read. -/
def legacyCalls : List (Bool × Call) :=
  [(false, .opening), (true, .opening), (true, .insert ⟨"3"⟩)]

/-- A removal through the other handle keeps the revision that it had not read. -/
theorem legacy_ledger_round_trips :
    segments "|1| 20|1\n" = ["", "1", "20", "1"] ∧
      ReadsBySegments "|1| 20|1\n" ∧
        (legacyHandles.run legacyCalls).applied false = some [⟨"1"⟩, ⟨"20"⟩] ∧
          ((legacyHandles.run legacyCalls).call false (.remove ⟨"1"⟩)).1.Current
              ["m", ".version"] false ∧
            listedAt ((legacyHandles.run legacyCalls).call false (.remove ⟨"1"⟩)).1.files
                ["m", ".version"] = some [⟨"20"⟩, ⟨"3"⟩] := by
  have readable : legacyHandles.ReadableAt ["m", ".version"] := {
    leads := by
      intro index
      cases index <;> rfl
    readable := ⟨_, rfl⟩ }
  have digits :
      ∀ entry ∈ legacyCalls, ∀ revision, entry.2 = .insert revision → revision.Genuine := by
    intro entry member revision inserts
    simp only [legacyCalls, List.mem_cons, List.not_mem_nil, or_false] at member
    rcases member with rfl | rfl | rfl <;> cases inserts
    rfl
  obtain ⟨contents, files⟩ := content_and_file_round_trip
  refine ⟨by decide, contents _, rfl, ?_, rfl⟩
  exact (files Bool legacyHandles ["m", ".version"] readable legacyCalls digits).2 false
    (.remove ⟨"1"⟩) nofun rfl

/-- An empty ledger that is opened once. -/
def emptyHandles : Handles Unit where
  directory := fun _ => ⟨"m", ["m"]⟩
  applied := fun _ => none
  files := ⟨[(["m"], .directory), (["m", ".version"], .file (.text ""))], []⟩

/-- A revision that starts with a sign is inserted, and the file cannot be read any more. -/
theorem file_unreadable_after_far_revision :
    emptyHandles.ReadableAt ["m", ".version"] ∧
      ((emptyHandles.run [((), .opening)]).call () (.insert Revision.far)).2 = some (.ok ()) ∧
        ¬ (emptyHandles.run [((), .opening), ((), .insert Revision.far)]).ReadableAt
            ["m", ".version"] := by
  have readable : emptyHandles.ReadableAt ["m", ".version"] := {
    leads := by
      rintro ⟨⟩
      rfl
    readable := ⟨[], rfl⟩ }
  rw [Revision.far_eq]
  refine ⟨readable, rfl, ?_⟩
  rintro ⟨_, known, listed⟩
  have unlisted :
      listedAt (emptyHandles.run [((), .opening), ((), .insert ⟨"+100000101000000"⟩)]).files
          ["m", ".version"] =
        none := by
    rfl
  rw [unlisted] at listed
  cases listed

end Ledger

end SchemaMigration
