import Mathlib.Data.List.Induction
import SchemaMigration.Proofs.Discovery

namespace SchemaMigration.FileTree

/-!
# Rooted trees

In a rooted tree every entry is in a directory, so nothing is below what is not
there.  The tree without entries is rooted.  Making directories, filling files
and taking files away keep a tree rooted: entries are put into directories only,
and no directory gives way to a file.
-/

/-- Whether every entry is in a directory. -/
def Rooted (tree : FileTree) : Prop :=
  ∀ location,
    tree.holding? location ≠ none →
      tree.holding? location.dropLast = some .directory

theorem holding?_empty (location : Location) :
    empty.holding? location = if location = [] then some .directory else none := by
  simp [holding?, empty]

theorem rooted_empty : empty.Rooted := by
  intro location held
  rw [holding?_empty] at held
  split at held
  · rename_i isRoot
    rw [isRoot]
    rfl
  · exact absurd rfl held

/-- What is listed in a directory is held there. -/
theorem holding_of_mem_names
    {tree : FileTree}
    {directory : Location}
    {name : String}
    (member : name ∈ tree.names directory) :
    tree.holding? (directory ++ [name]) ≠ none := by
  intro absent
  obtain ⟨⟨path, entry⟩, isEntry, named⟩ := List.mem_filterMap.mp member
  apply lookup_eq_of_absent absent _ isEntry
  dsimp only at named ⊢
  split at named
  · rename_i last isLast
    split at named
    · rename_i inDirectory
      cases named
      obtain ⟨front, rfl⟩ := List.getLast?_eq_some_iff.mp isLast
      rw [List.dropLast_concat] at inDirectory
      rw [inDirectory]
    · cases named
  · cases named

theorem ne_dropLast {location : Location} (below : location ≠ []) :
    location.dropLast ≠ location := by
  intro same
  have shorter := congrArg List.length same
  have longer := List.length_pos_iff.mpr below
  rw [List.length_dropLast] at shorter
  omega

namespace Rooted

variable
  {tree : FileTree}
  (rooted : tree.Rooted)

include rooted

/-! ## What is not there -/

/-- Nothing is below what is not there. -/
theorem absent_below
    {location : Location}
    (absent : tree.holding? location = none)
    (below : List String) :
    tree.holding? (location ++ below) = none := by
  induction below using List.reverseRecOn with
  | nil =>
      rwa [List.append_nil]
  | append_singleton front name inductionHypothesis =>
      by_contra held
      have parent := rooted _ held
      rw [← List.append_assoc, List.dropLast_concat, inductionHypothesis] at parent
      cases parent

/-! ## Entries that come and go -/

/-- An entry is put into a directory, and only a directory in place of a directory. -/
theorem put
    {location : Location}
    (parent : tree.holding? location.dropLast = some .directory)
    {entry : FileEntry}
    (keeps : tree.holding? location = some .directory → entry = .directory) :
    (tree.put location entry).Rooted := by
  by_cases isRoot : location = []
  · subst isRoot
    cases keeps rfl
    intro other held
    by_cases otherRoot : other = []
    · rw [otherRoot]
      rfl
    · rw [holding?_put_of_ne tree otherRoot] at held
      have otherParent := rooted other held
      by_cases parentRoot : other.dropLast = []
      · rw [parentRoot]
        rfl
      · rwa [holding?_put_of_ne tree parentRoot]
  intro other held
  by_cases same : other = location
  · rwa [same, holding?_put_of_ne tree (ne_dropLast isRoot)]
  · rw [holding?_put_of_ne tree same] at held
    have otherParent := rooted other held
    by_cases isParent : other.dropLast = location
    · rw [isParent] at otherParent ⊢
      rw [holding?_put_self tree isRoot, keeps otherParent]
    · rwa [holding?_put_of_ne tree isParent]

/-- What is no directory has nothing below it that would be left behind. -/
theorem remove
    {location : Location}
    (free : tree.holding? location ≠ some .directory) :
    (tree.remove location).Rooted := by
  intro other held
  have below : location ≠ [] := by
    rintro rfl
    exact free (holding?_nil tree)
  have different : other ≠ location := by
    rintro rfl
    exact held (holding?_remove_self tree below)
  rw [holding?_remove_of_ne tree different] at held
  have parent := rooted other held
  have parentDifferent : other.dropLast ≠ location := by
    intro same
    exact free (same ▸ parent)
  rwa [holding?_remove_of_ne tree parentDifferent]

/-! ## Where paths lead -/

/-- Steps lead into a directory, whether or not there is an entry where they end. -/
theorem follow_parent
    {start location : Location}
    {steps : List String}
    (startParent : tree.holding? start.dropLast = some .directory)
    (followed : tree.follow start steps = .ok location) :
    tree.holding? location.dropLast = some .directory := by
  induction steps generalizing start with
  | nil =>
      cases followed
      exact startParent
  | cons step rest inductionHypothesis =>
      unfold follow at followed
      split at followed
      · cases followed
      · cases followed
      · rename_i isDirectory
        split at followed
        · cases followed
        split at followed
        · exact inductionHypothesis startParent followed
        split at followed
        · have aboveParent : tree.holding? (above start).dropLast = some .directory := by
            unfold above
            split
            · rfl
            · refine rooted _ ?_
              rw [startParent]
              exact nofun
          exact inductionHypothesis aboveParent followed
        split at followed
        · cases followed
        · have nextParent : tree.holding? (start ++ [step]).dropLast = some .directory := by
            rwa [List.dropLast_concat]
          exact inductionHypothesis nextParent followed

theorem locate_parent
    {place : Place}
    {location : Location}
    (leads : tree.locate place = .ok location) :
    tree.holding? location.dropLast = some .directory :=
  rooted.follow_parent rfl (locate_eq_ok_iff.mp leads).2

/-! ## Operations -/

theorem makeDirectories
    {location : Location}
    (parent : tree.holding? location.dropLast = some .directory)
    (steps : List String) :
    (tree.makeDirectories location steps).1.Rooted := by
  induction steps generalizing tree location with
  | nil =>
      exact rooted
  | cons step rest inductionHypothesis =>
      unfold FileTree.makeDirectories
      split
      · exact rooted
      · rename_i next followed
        have nextParent := rooted.follow_parent parent followed
        split
        · exact inductionHypothesis rooted nextParent
        · exact rooted
        · rename_i absent
          have made : (tree.put next .directory).Rooted :=
            rooted.put nextParent (fun _ => rfl)
          have different := ne_dropLast (ne_nil_of_absent absent)
          refine inductionHypothesis made ?_
          rwa [holding?_put_of_ne tree different]

theorem makeAbove (place : Place) : (tree.makeAbove place).Rooted := by
  unfold FileTree.makeAbove
  split
  · exact rooted
  · exact rooted.makeDirectories rfl _

theorem makeDirectory (place : Place) : (tree.makeDirectory place).1.Rooted := by
  unfold FileTree.makeDirectory
  split
  · exact rooted
  · split
    · split
      · exact rooted
      · exact rooted.makeAbove place
      · exact rooted
    · exact rooted.makeDirectories rfl _

theorem fill
    {place : Place}
    {content : FileContent}
    {filled : FileTree}
    (succeeded : tree.fill place content = .ok filled) :
    filled.Rooted := by
  unfold FileTree.fill at succeeded
  split at succeeded
  · cases succeeded
  · rename_i leads
    split at succeeded
    · cases succeeded
    · rename_i free
      cases succeeded
      exact rooted.put (rooted.locate_parent leads) (fun held => absurd held free)

theorem write
    {place : Place}
    {value : String}
    {written : FileTree}
    (succeeded : tree.write place value = .ok written) :
    written.Rooted :=
  rooted.fill succeeded

theorem deposit (place : Place) (entry : FileEntry) : (tree.deposit place entry).Rooted := by
  have made := rooted.makeAbove place
  cases entry with
  | directory =>
      exact made.makeDirectory place
  | file content =>
      simp only [FileTree.deposit]
      split
      · rename_i filled
        exact made.fill filled
      · exact made

theorem withdraw (place : Place) : (tree.withdraw place).Rooted := by
  unfold FileTree.withdraw
  split
  · exact rooted
  · split
    · rename_i held
      refine rooted.remove ?_
      rw [held]
      exact nofun
    · exact rooted

end Rooted

/-- A tree that is put together from entries is rooted. -/
theorem rooted_of_deposits (entries : List (Place × FileEntry)) :
    (entries.foldl (fun tree entry => tree.deposit entry.1 entry.2) empty).Rooted := by
  refine List.foldlRecOn entries _ rooted_empty ?_
  exact fun tree rooted entry _ => rooted.deposit entry.1 entry.2

end SchemaMigration.FileTree
