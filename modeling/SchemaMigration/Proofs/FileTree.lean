import SchemaMigration.FileTree.Basic
import SchemaMigration.Proofs.Outcomes

namespace SchemaMigration.FileTree

/-!
# Files come and go, directories stay

Where a path leads depends on the directories only.  Writing, moving and
removing files leaves the directories as they are, so a path that led somewhere
still leads there.

Replacing a file either makes it hold the new text or leaves it as it was, at
whatever call it breaks off.
-/

/-! ## Entries -/

theorem lookup_filter_ne
    (entries : List (Location × FileEntry))
    {location other : Location}
    (different : other ≠ location) :
    (entries.filter (fun kept => kept.1 != location)).lookup other =
      entries.lookup other := by
  induction entries with
  | nil =>
      rfl
  | cons entry rest inductionHypothesis =>
      obtain ⟨path, held⟩ := entry
      by_cases removed : path = location
      · have elsewhere : (other == location) = false := by
          simpa using different
        simp [removed, List.lookup_cons, elsewhere, inductionHypothesis]
      · simp [removed, List.lookup_cons, inductionHypothesis]

theorem lookup_filter_self
    (entries : List (Location × FileEntry))
    (location : Location) :
    (entries.filter (fun kept => kept.1 != location)).lookup location = none := by
  simp only [List.lookup_eq_none_iff, List.mem_filter, bne_iff_ne]
  exact fun entry member => member.2.symm

@[simp] theorem holding?_nil (tree : FileTree) :
    tree.holding? [] = some .directory :=
  rfl

theorem holding?_put_self
    (tree : FileTree)
    {location : Location}
    (below : location ≠ [])
    (entry : FileEntry) :
    (tree.put location entry).holding? location = some entry := by
  simp [holding?, put, below]

theorem holding?_put_of_ne
    (tree : FileTree)
    {location other : Location}
    (different : other ≠ location)
    (entry : FileEntry) :
    (tree.put location entry).holding? other = tree.holding? other := by
  have elsewhere : (other == location) = false := by
    simpa using different
  simp [holding?, put, List.lookup_cons, elsewhere, lookup_filter_ne tree.entries different]

theorem holding?_remove_of_ne
    (tree : FileTree)
    {location other : Location}
    (different : other ≠ location) :
    (tree.remove location).holding? other = tree.holding? other := by
  simp [holding?, remove, lookup_filter_ne tree.entries different]

theorem holding?_remove_self
    (tree : FileTree)
    {location : Location}
    (below : location ≠ []) :
    (tree.remove location).holding? location = none := by
  simp [holding?, remove, below, lookup_filter_self]

/-! ## Directories -/

/-- Whether two trees have their directories at the same locations. -/
def SameDirectories (first second : FileTree) : Prop :=
  ∀ location,
    first.holding? location = some .directory ↔
      second.holding? location = some .directory

namespace SameDirectories

theorem refl (tree : FileTree) : SameDirectories tree tree :=
  fun _ => Iff.rfl

theorem symm
    {first second : FileTree}
    (same : SameDirectories first second) :
    SameDirectories second first :=
  fun location => (same location).symm

theorem trans
    {first second third : FileTree}
    (before : SameDirectories first second)
    (after : SameDirectories second third) :
    SameDirectories first third :=
  fun location => (before location).trans (after location)

/-- Putting a file where no directory is. -/
theorem put
    {tree : FileTree}
    {location : Location}
    (free : tree.holding? location ≠ some .directory)
    (content : FileContent) :
    SameDirectories tree (tree.put location (.file content)) := by
  intro other
  by_cases same : other = location
  · subst same
    have below : other ≠ [] := by
      rintro rfl
      exact free (holding?_nil tree)
    simp [holding?_put_self tree below, free]
  · rw [holding?_put_of_ne tree same]

/-- Taking away what is no directory. -/
theorem remove
    {tree : FileTree}
    {location : Location}
    (free : tree.holding? location ≠ some .directory) :
    SameDirectories tree (tree.remove location) := by
  intro other
  by_cases same : other = location
  · subst same
    have below : other ≠ [] := by
      rintro rfl
      exact free (holding?_nil tree)
    simp [holding?_remove_self tree below, free]
  · rw [holding?_remove_of_ne tree same]

end SameDirectories

/-! ## Paths -/

/-- Steps that were followed lead to the same location where the directories are the same. -/
theorem follow_of_sameDirectories
    {tree other : FileTree}
    (same : SameDirectories tree other)
    {start location : Location}
    {steps : List String}
    (followed : tree.follow start steps = .ok location) :
    other.follow start steps = .ok location := by
  induction steps generalizing start with
  | nil =>
      exact followed
  | cons step rest inductionHypothesis =>
      unfold follow at followed ⊢
      cases held : tree.holding? start with
      | none =>
          simp [held] at followed
      | some entry =>
          cases entry with
          | file content =>
              simp [held] at followed
          | directory =>
              simp only [held] at followed
              simp only [(same start).mp held]
              split at followed
              · cases followed
              split at followed
              · rename_i nonempty stays
                rw [if_neg nonempty, if_pos stays]
                exact inductionHypothesis followed
              split at followed
              · rename_i nonempty moves rises
                rw [if_neg nonempty, if_neg moves, if_pos rises]
                exact inductionHypothesis followed
              split at followed
              · cases followed
              · rename_i nonempty moves descends fits
                rw [if_neg nonempty, if_neg moves, if_neg descends, if_neg fits]
                exact inductionHypothesis followed

/-- Steps are followed one part after the other. -/
theorem follow_append
    (tree : FileTree)
    (start : Location)
    (first second : List String) :
    tree.follow start (first ++ second) =
      tree.follow start first >>= (fun between => tree.follow between second) := by
  induction first generalizing start with
  | nil =>
      rfl
  | cons step rest inductionHypothesis =>
      simp only [List.cons_append, follow]
      split
      · rfl
      · rfl
      · split
        · rfl
        split
        · exact inductionHypothesis start
        split
        · exact inductionHypothesis (above start)
        split
        · rfl
        · exact inductionHypothesis (start ++ [step])

/-- A step that names an entry leads below the directory where it starts. -/
theorem eq_of_follow_name
    {tree : FileTree}
    {start location : Location}
    {name : String}
    (named : name.isEmpty = false ∧ name ≠ "." ∧ name ≠ "..")
    (followed : tree.follow start [name] = .ok location) :
    location = start ++ [name] := by
  obtain ⟨nonempty, moves, descends⟩ := named
  simp only [follow, nonempty, moves, descends, Bool.false_eq_true, if_false] at followed
  split at followed
  · cases followed
  · cases followed
  · split at followed <;> cases followed
    rfl

/-- A place leads where its steps do, if nothing is wrong with how it is written. -/
theorem locate_eq_ok_iff
    {tree : FileTree}
    {place : Place}
    {location : Location} :
    tree.locate place = .ok location ↔
      pathProblem? place.label = none ∧ tree.follow [] place.steps = .ok location := by
  unfold locate
  cases pathProblem? place.label <;> simp

/-- The location of a place stays where the directories are the same. -/
theorem locate_of_sameDirectories
    {tree other : FileTree}
    (same : SameDirectories tree other)
    {place : Place}
    {location : Location}
    (leads : tree.locate place = .ok location) :
    other.locate place = .ok location := by
  obtain ⟨fine, followed⟩ := locate_eq_ok_iff.mp leads
  exact locate_eq_ok_iff.mpr ⟨fine, follow_of_sameDirectories same followed⟩

/-- A place that is one name more than steps is located below where these lead. -/
theorem location_of_locate
    {tree : FileTree}
    {place : Place}
    {steps : List String}
    {name : String}
    (shape : place.steps = steps ++ [name])
    (named : name.isEmpty = false ∧ name ≠ "." ∧ name ≠ "..")
    {location : Location}
    (leads : tree.locate place = .ok location) :
    ∃ directory,
      tree.follow [] steps = .ok directory ∧ location = directory ++ [name] := by
  have followed := (locate_eq_ok_iff.mp leads).2
  rw [shape, follow_append, Outcome.bind_eq_ok] at followed
  obtain ⟨directory, reached, here⟩ := followed
  exact ⟨directory, reached, eq_of_follow_name named here⟩

/-! ## Writing and moving -/

/-- A write that succeeds puts the text where the place leads, which is no directory. -/
theorem write_eq_ok
    {tree written : FileTree}
    {place : Place}
    {value : String}
    (succeeded : tree.write place value = .ok written) :
    ∃ location,
      tree.locate place = .ok location ∧
        tree.holding? location ≠ some .directory ∧
          written = tree.put location (.file (.text value)) := by
  unfold write fill at succeeded
  split at succeeded
  · cases succeeded
  · rename_i location leads
    split at succeeded
    · cases succeeded
    · rename_i free
      cases succeeded
      exact ⟨location, leads, free, rfl⟩

/-- A move that succeeds takes the entry from one place to the other, which is no directory. -/
theorem rename_eq_ok
    {tree moved : FileTree}
    {source target : Place}
    (succeeded : tree.rename source target = .ok moved) :
    ∃ before after entry,
      tree.locate source = .ok before ∧
        tree.locate target = .ok after ∧
          tree.holding? before = some entry ∧
            tree.holding? after ≠ some .directory ∧
              moved = (tree.remove before).put after entry := by
  unfold rename at succeeded
  split at succeeded
  · cases succeeded
  · cases succeeded
  · rename_i before after sourceLeads targetLeads
    split at succeeded
    · cases succeeded
    · cases succeeded
    · rename_i entry held free
      cases succeeded
      exact ⟨before, after, entry, sourceLeads, targetLeads, held, free, rfl⟩

/-- A write succeeds where a place leads to no directory. -/
theorem write_of_locate
    {tree : FileTree}
    {place : Place}
    {location : Location}
    (leads : tree.locate place = .ok location)
    (free : tree.holding? location ≠ some .directory)
    (value : String) :
    tree.write place value = .ok (tree.put location (.file (.text value))) := by
  unfold write fill
  rw [leads]
  dsimp only
  split
  · rename_i isDirectory
    exact absurd isDirectory free
  · rfl

/-- A move succeeds from a place that holds an entry to one that leads to no directory. -/
theorem rename_of_locate
    {tree : FileTree}
    {source target : Place}
    {before after : Location}
    {entry : FileEntry}
    (sourceLeads : tree.locate source = .ok before)
    (targetLeads : tree.locate target = .ok after)
    (held : tree.holding? before = some entry)
    (free : tree.holding? after ≠ some .directory) :
    tree.rename source target = .ok ((tree.remove before).put after entry) := by
  unfold rename
  rw [sourceLeads, targetLeads]
  dsimp only
  rw [held]
  split
  · rename_i absent
    cases absent
  · rename_i isDirectory
    exact absurd isDirectory free
  · rename_i same _
    cases same
    rfl

/-! ## Trees after one another -/

/-- Whether one tree may be there after another one: files came and went, and calls were made. -/
structure Evolves (before after : FileTree) : Prop where
  directories : SameDirectories before after
  faults : after.faults <:+ before.faults

namespace Evolves

theorem refl (tree : FileTree) : Evolves tree tree where
  directories := .refl tree
  faults := List.suffix_refl _

theorem trans
    {first second third : FileTree}
    (before : Evolves first second)
    (after : Evolves second third) :
    Evolves first third where
  directories := before.directories.trans after.directories
  faults := after.faults.trans before.faults

theorem pastFault (tree : FileTree) : Evolves tree tree.pastFault where
  directories := fun _ => Iff.rfl
  faults := List.tail_suffix _

theorem put
    {tree : FileTree}
    {location : Location}
    (free : tree.holding? location ≠ some .directory)
    (content : FileContent) :
    Evolves tree (tree.put location (.file content)) where
  directories := .put free content
  faults := List.suffix_refl _

theorem remove
    {tree : FileTree}
    {location : Location}
    (free : tree.holding? location ≠ some .directory) :
    Evolves tree (tree.remove location) where
  directories := .remove free
  faults := List.suffix_refl _

/-- A place leads where it led. -/
theorem locate
    {before after : FileTree}
    (evolves : Evolves before after)
    {place : Place}
    {location : Location}
    (leads : before.locate place = .ok location) :
    after.locate place = .ok location :=
  locate_of_sameDirectories evolves.directories leads

end Evolves

@[simp] theorem holding?_pastFault (tree : FileTree) (location : Location) :
    tree.pastFault.holding? location = tree.holding? location :=
  rfl

theorem locate_pastFault
    {tree : FileTree}
    {place : Place}
    {location : Location} :
    tree.pastFault.locate place = .ok location ↔ tree.locate place = .ok location := by
  have same : SameDirectories tree.pastFault tree :=
    fun _ => Iff.rfl
  exact ⟨locate_of_sameDirectories same, (Evolves.pastFault tree).locate⟩

/-! ## Replacing a file -/

/-- Writing the file at a place puts the text there and touches no other location. -/
theorem write_pastFault_eq_ok
    {tree written : FileTree}
    {place : Place}
    {value : String}
    (succeeded : tree.pastFault.write place value = .ok written) :
    Evolves tree written ∧
      ∃ location,
        tree.locate place = .ok location ∧
          written.holding? location = some (.file (.text value)) ∧
            ∀ other, other ≠ location → written.holding? other = tree.holding? other := by
  obtain ⟨location, leads, free, rfl⟩ := write_eq_ok succeeded
  have below : location ≠ [] := by
    rintro rfl
    exact free (holding?_nil _)
  exact ⟨(Evolves.pastFault tree).trans (.put free _), location, locate_pastFault.mp leads,
    holding?_put_self _ below _, fun _ different => holding?_put_of_ne _ different _⟩

/-- A write that breaks off touches no location but the one that was to be written. -/
theorem tryWrite_breaks
    {tree broken : FileTree}
    {place : Place}
    {value : String}
    {problem : FileProblem}
    (ended : tree.tryWrite place value = (broken, some problem)) :
    Evolves tree broken ∧
      ∀ other,
        tree.locate place ≠ .ok other → broken.holding? other = tree.holding? other := by
  have unchanged :
      Evolves tree tree.pastFault ∧
        ∀ other,
          tree.locate place ≠ .ok other →
            tree.pastFault.holding? other = tree.holding? other :=
    ⟨.pastFault tree, fun _ _ => rfl⟩
  unfold tryWrite at ended
  split at ended
  · cases ended
    unfold begun
    split
    · rename_i begins
      obtain ⟨text, _, succeeded⟩ := Option.map_eq_some_iff.mp begins
      obtain ⟨evolves, location, leads, _, others⟩ := write_pastFault_eq_ok succeeded
      refine ⟨evolves, ?_⟩
      intro other elsewhere
      apply others
      rintro rfl
      exact elsewhere leads
    · exact unchanged
  · split at ended <;> cases ended
    exact unchanged

/-- A write that is done is one that the tree allows. -/
theorem tryWrite_done
    {tree written : FileTree}
    {place : Place}
    {value : String}
    (ended : tree.tryWrite place value = (written, none)) :
    tree.pastFault.write place value = .ok written := by
  unfold tryWrite at ended
  split at ended
  · cases ended
  · split at ended <;> cases ended
    assumption

/-- A move that breaks off changes no location. -/
theorem tryRename_breaks
    {tree broken : FileTree}
    {source target : Place}
    {problem : FileProblem}
    (ended : tree.tryRename source target = (broken, some problem)) :
    broken = tree.pastFault := by
  unfold tryRename at ended
  split at ended
  · cases ended
    rfl
  · split at ended <;> cases ended
    rfl

/-- A move that is done is one that the tree allows. -/
theorem tryRename_done
    {tree moved : FileTree}
    {source target : Place}
    (ended : tree.tryRename source target = (moved, none)) :
    tree.pastFault.rename source target = .ok moved := by
  unfold tryRename at ended
  split at ended
  · cases ended
  · split at ended <;> cases ended
    assumption

/-- A file that was moved over another one is there then. -/
theorem rename_pastFault_eq_ok
    {tree moved : FileTree}
    {source target : Place}
    {before after : Location}
    {content : FileContent}
    (sourceLeads : tree.locate source = .ok before)
    (held : tree.holding? before = some (.file content))
    (targetLeads : tree.locate target = .ok after)
    (succeeded : tree.pastFault.rename source target = .ok moved) :
    Evolves tree moved ∧ moved.holding? after = some (.file content) := by
  obtain ⟨_, _, entry, isSource, isTarget, isEntry, free, rfl⟩ := rename_eq_ok succeeded
  rw [locate_pastFault, sourceLeads] at isSource
  cases isSource
  rw [locate_pastFault, targetLeads] at isTarget
  cases isTarget
  rw [holding?_pastFault, held] at isEntry
  cases isEntry
  have notDirectory : tree.pastFault.holding? before ≠ some .directory := by
    simp [held]
  have taken : Evolves tree (tree.pastFault.remove before) :=
    (Evolves.pastFault tree).trans (.remove notDirectory)
  have stillFree : (tree.pastFault.remove before).holding? after ≠ some .directory :=
    fun isDirectory => free ((taken.directories after).mpr isDirectory)
  have below : after ≠ [] := by
    rintro rfl
    exact free (holding?_nil _)
  exact ⟨taken.trans (.put stillFree _), holding?_put_self _ below _⟩

/-- A file that was replaced holds the new text. -/
theorem replace_done
    {tree replaced : FileTree}
    {draft target : Place}
    {value : String}
    {location : Location}
    (leads : tree.locate target = .ok location)
    (ended : tree.replace draft target value = (replaced, none)) :
    Evolves tree replaced ∧ replaced.holding? location = some (.file (.text value)) := by
  unfold replace at ended
  split at ended
  · rename_i drafted drafts
    obtain ⟨drafting, _, draftLeads, held, _⟩ := write_pastFault_eq_ok (tryWrite_done drafts)
    obtain ⟨moving, there⟩ :=
      rename_pastFault_eq_ok (drafting.locate draftLeads) held (drafting.locate leads)
        (tryRename_done ended)
    exact ⟨drafting.trans moving, there⟩
  · rename_i notDrafted
    exact absurd ended (notDrafted replaced)

/-- A file that could not be replaced holds what it held, when its draft is another file. -/
theorem replace_breaks
    {tree broken : FileTree}
    {draft target : Place}
    {value : String}
    {problem : FileProblem}
    {location : Location}
    (apart : tree.locate draft ≠ .ok location)
    (ended : tree.replace draft target value = (broken, some problem)) :
    Evolves tree broken ∧ broken.holding? location = tree.holding? location := by
  unfold replace at ended
  split at ended
  · rename_i drafted drafts
    obtain ⟨drafting, _, draftLeads, _, others⟩ := write_pastFault_eq_ok (tryWrite_done drafts)
    cases tryRename_breaks ended
    refine ⟨drafting.trans (.pastFault drafted), others location ?_⟩
    rintro rfl
    exact apart draftLeads
  · obtain ⟨evolves, others⟩ := tryWrite_breaks ended
    exact ⟨evolves, others location apart⟩

/-! ## Where no call breaks off -/

/-- Whether no call breaks off. -/
def Faultless (tree : FileTree) : Prop :=
  ∀ fault ∈ tree.faults, fault = none

theorem Faultless.of_evolves
    {before after : FileTree}
    (faultless : before.Faultless)
    (evolves : Evolves before after) :
    after.Faultless :=
  fun fault member => faultless fault (evolves.faults.mem member)

theorem Faultless.fault?_eq_none
    {tree : FileTree}
    (faultless : tree.Faultless) :
    tree.fault? = none := by
  unfold fault?
  cases shape : tree.faults with
  | nil =>
      rfl
  | cons fault rest =>
      rw [faultless fault (shape ▸ List.mem_cons_self)]
      rfl

/-- Whether a place is one that a file can be put at. -/
def TakesFile (tree : FileTree) (place : Place) : Prop :=
  ∃ location,
    tree.locate place = .ok location ∧ tree.holding? location ≠ some .directory

theorem TakesFile.of_sameDirectories
    {tree other : FileTree}
    {place : Place}
    (takes : tree.TakesFile place)
    (same : SameDirectories tree other) :
    other.TakesFile place := by
  obtain ⟨location, leads, free⟩ := takes
  exact ⟨location, locate_of_sameDirectories same leads,
    fun isDirectory => free ((same location).mpr isDirectory)⟩

/-- What can be replaced takes files, and its draft does. -/
theorem takesFile_of_replace
    {tree replaced : FileTree}
    {draft target : Place}
    {value : String}
    (ended : tree.replace draft target value = (replaced, none)) :
    tree.TakesFile draft ∧ tree.TakesFile target := by
  unfold replace at ended
  split at ended
  · rename_i drafted drafts
    have writes := tryWrite_done drafts
    obtain ⟨drafting, _⟩ := write_pastFault_eq_ok writes
    obtain ⟨before, draftLeads, draftFree, _⟩ := write_eq_ok writes
    obtain ⟨_, after, _, _, targetLeads, _, targetFree, _⟩ :=
      rename_eq_ok (tryRename_done ended)
    have takesThere : drafted.TakesFile target :=
      ⟨after, locate_pastFault.mp targetLeads, targetFree⟩
    exact ⟨⟨before, locate_pastFault.mp draftLeads, draftFree⟩,
      takesThere.of_sameDirectories drafting.directories.symm⟩
  · rename_i notDrafted
    exact absurd ended (notDrafted replaced)

/-- A file is replaced where it and its draft can be put and no call breaks off. -/
theorem replace_of_faultless
    {tree : FileTree}
    (faultless : tree.Faultless)
    {draft target : Place}
    (takesDraft : tree.TakesFile draft)
    (takesTarget : tree.TakesFile target)
    (value : String) :
    ∃ replaced, tree.replace draft target value = (replaced, none) := by
  obtain ⟨before, draftLeads, draftFree⟩ := takesDraft
  have writes := write_of_locate (locate_pastFault.mpr draftLeads) draftFree value
  obtain ⟨drafting, _, alsoLeads, held, _⟩ := write_pastFault_eq_ok writes
  rw [draftLeads] at alsoLeads
  cases alsoLeads
  obtain ⟨after, targetLeads, targetFree⟩ := takesTarget.of_sameDirectories drafting.directories
  have moves :=
    rename_of_locate (locate_pastFault.mpr (drafting.locate draftLeads))
      (locate_pastFault.mpr targetLeads) held targetFree
  have stillFaultless := faultless.of_evolves drafting
  simp only [replace, tryWrite, faultless.fault?_eq_none, writes, tryRename,
    stillFaultless.fault?_eq_none, moves]
  exact ⟨_, rfl⟩

end SchemaMigration.FileTree
