import Mathlib.Data.List.Pairwise
import Mathlib.Data.String.Basic
import SchemaMigration.Proofs.Ledger.Opening

namespace SchemaMigration

/-!
# The order of the registry

Registering puts migrations in ascending order of what identifies them: the
digits of the revision, an underscore and the name.  An underscore comes after
every digit, so of two revisions where one goes on where the other one ends,
the longer one is first.  Wherever no revision goes on like that, the order of
the registry is the order of the revisions.
-/

/-! ## The order of identifiers -/

/-- Digits before an underscore compare as digits unless one list goes on where the other ends. -/
theorem Text.lt_append_bar_iff
    {bar : Char}
    {first second : List Char}
    (firstRest secondRest : List Char)
    (firstBelow : ∀ c ∈ first, c < bar)
    (secondBelow : ∀ c ∈ second, c < bar) :
    first ++ bar :: firstRest < second ++ bar :: secondRest ↔
      (second <+: first ∧ second ≠ first) ∨
        (first < second ∧ ¬ (first <+: second ∧ first ≠ second)) ∨
          first = second ∧ firstRest < secondRest := by
  induction first generalizing second with
  | nil =>
      cases second with
      | nil =>
          simp
      | cons c later =>
          have below : c < bar := secondBelow c List.mem_cons_self
          simp [List.cons_lt_cons_iff, below.not_gt, below.ne']
  | cons c later inductionHypothesis =>
      have below : c < bar := firstBelow c List.mem_cons_self
      cases second with
      | nil =>
          simp [List.cons_lt_cons_iff, below]
      | cons d other =>
          have rest := inductionHypothesis
            (fun e member => firstBelow e (List.mem_cons_of_mem c member))
            (fun e member => secondBelow e (List.mem_cons_of_mem d member))
          rcases lt_trichotomy c d with less | same | greater
          · simp [List.cons_lt_cons_iff, less, less.ne, less.ne']
          · subst same
            simp [rest]
          · simp [List.cons_lt_cons_iff, greater.not_gt, greater.ne, greater.ne']

namespace Revision

/-- Whether the digits of a revision go on where those of another one end. -/
def Extends (longer shorter : Revision) : Prop :=
  shorter.text.toList <+: longer.text.toList ∧ shorter ≠ longer

instance (longer shorter : Revision) : Decidable (longer.Extends shorter) :=
  inferInstanceAs (Decidable (_ ∧ _))

theorem ext_text {first second : Revision} (same : first.text = second.text) :
    first = second := by
  cases first
  cases second
  cases same
  rfl

/-- A revision that goes on where another one ends is greater. -/
theorem Extends.lt
    {longer shorter : Revision}
    (goesOn : longer.Extends shorter) :
    shorter.text < longer.text := by
  obtain ⟨⟨rest, appended⟩, different⟩ := goesOn
  cases rest with
  | nil =>
      rw [List.append_nil] at appended
      exact absurd (ext_text (String.toList_inj.mp appended)) different
  | cons c later =>
      have less :
          shorter.text.toList ++ [] < shorter.text.toList ++ c :: later :=
        List.append_left_lt (List.nil_lt_cons c later)
      rwa [List.append_nil, appended, ← String.lt_iff_toList_lt] at less

theorem isLE_compare_iff {first second : Revision} :
    (compare first second).isLE = true ↔ ¬ second.text < first.text := by
  change (compareOfLessAndEq first.text second.text).isLE = true ↔ _
  unfold compareOfLessAndEq
  split
  · rename_i less
    simp [less.not_gt]
  · split
    · rename_i same
      simp [same]
    · rename_i notLess different
      simpa using lt_of_le_of_ne (not_lt.mp notLess) (Ne.symm different)

theorem lt_bar_of_genuine
    {revision : Revision}
    (genuine : revision.Genuine) :
    ∀ c ∈ revision.text.toList, c < '_' := by
  intro c member
  have digit := (genuine_iff.mp genuine).2 c member
  simp only [Text.isDigit, Bool.and_eq_true, decide_eq_true_eq] at digit
  exact lt_of_le_of_lt digit.2 (by decide)

end Revision

namespace Migration

/-- What identifies a migration: the digits of its revision, an underscore and its name. -/
theorem toList_id (migration : Migration σ) :
    migration.id.toList =
      migration.revision.text.toList ++ '_' :: migration.name.toList := by
  simp [id, stemOf]

/--
One migration is before another one when its revision goes on where the other
one ends, or else is less without ending where the other one goes on, or is the
same and its name is less.
-/
theorem id_lt_iff
    {first second : Migration σ}
    (firstGenuine : first.revision.Genuine)
    (secondGenuine : second.revision.Genuine) :
    first.id < second.id ↔
      first.revision.Extends second.revision ∨
        (first.revision.text < second.revision.text ∧
          ¬ second.revision.Extends first.revision) ∨
          first.revision = second.revision ∧ first.name < second.name := by
  have sameText (a b : Revision) : a.text.toList = b.text.toList ↔ a = b :=
    ⟨fun same => Revision.ext_text (String.toList_inj.mp same), fun same => by rw [same]⟩
  have compared :=
    Text.lt_append_bar_iff first.name.toList second.name.toList
      (Revision.lt_bar_of_genuine firstGenuine) (Revision.lt_bar_of_genuine secondGenuine)
  rw [String.lt_iff_toList_lt, toList_id, toList_id, compared]
  simp only [Revision.Extends, ne_eq, sameText, String.lt_iff_toList_lt]

end Migration

/-! ## Registering -/

namespace Migrator

/-- Whether migrations are in ascending order of what identifies them, each once. -/
def Ordered (migrator : Migrator σ) : Prop :=
  migrator.ids.Pairwise (· < ·)

theorem ordered_start (directory : Place) (ledger : Ledger) :
    (⟨directory, ledger, []⟩ : Migrator σ).Ordered :=
  List.Pairwise.nil

/-- The migrator after a migration was offered to it, which it registers or refuses. -/
def offer (migrator : Migrator σ) (migration : Migration σ) : Migrator σ :=
  match (migrator.register migration).outcome with
  | .ok next => next
  | .error _ => migrator

/-- The migrator after migrations were offered to it one after the other. -/
def offerAll (migrator : Migrator σ) (offered : List (Migration σ)) : Migrator σ :=
  offered.foldl offer migrator

theorem perm_insertById (migration : Migration σ) (migrations : List (Migration σ)) :
    (insertById migration migrations).Perm (migration :: migrations) := by
  induction migrations with
  | nil =>
      exact .refl _
  | cons first rest inductionHypothesis =>
      unfold insertById
      split
      · exact (inductionHypothesis.cons first).trans (.swap migration first rest)
      · exact .refl _

/-- A migration is put where it belongs when nothing else is identified like it. -/
theorem ordered_insertById
    {migration : Migration σ}
    {migrations : List (Migration σ)}
    (ordered : (migrations.map Migration.id).Pairwise (· < ·))
    (absent : migration.id ∉ migrations.map Migration.id) :
    ((insertById migration migrations).map Migration.id).Pairwise (· < ·) := by
  induction migrations with
  | nil =>
      simp [insertById]
  | cons first rest inductionHypothesis =>
      rw [List.map_cons, List.pairwise_cons] at ordered
      obtain ⟨firstLeast, restOrdered⟩ := ordered
      rw [List.map_cons, List.mem_cons, not_or] at absent
      obtain ⟨different, restAbsent⟩ := absent
      unfold insertById
      split
      · rename_i firstLess
        rw [List.map_cons, List.pairwise_cons]
        refine ⟨?_, inductionHypothesis restOrdered restAbsent⟩
        intro other member
        have moved := ((perm_insertById migration rest).map Migration.id).mem_iff.mp member
        rcases List.mem_cons.mp moved with rfl | later
        · exact firstLess
        · exact firstLeast other later
      · rename_i notLess
        have less : migration.id < first.id :=
          lt_of_le_of_ne (not_lt.mp notLess) different
        rw [List.map_cons, List.map_cons, List.pairwise_cons, List.pairwise_cons]
        refine ⟨?_, firstLeast, restOrdered⟩
        intro other member
        rcases List.mem_cons.mp member with rfl | later
        · exact less
        · exact less.trans (firstLeast other later)

theorem offer_eq (migrator : Migrator σ) (migration : Migration σ) :
    migrator.offer migration =
      if migration.id ∈ migrator.ids then
        migrator
      else
        { migrator with migrations := insertById migration migrator.migrations } := by
  unfold offer register
  by_cases known : migration.id ∈ migrator.ids
  · rw [if_pos (List.contains_iff_mem.mpr known), if_pos known]
    rfl
  · rw [if_neg (fun held => known (List.contains_iff_mem.mp held)), if_neg known]
    rfl

theorem ordered_offer
    {migrator : Migrator σ}
    (ordered : migrator.Ordered)
    (migration : Migration σ) :
    (migrator.offer migration).Ordered := by
  rw [offer_eq]
  split
  · exact ordered
  · rename_i absent
    exact ordered_insertById ordered absent

/-- However many migrations are offered, and in whichever order, the registry stays ordered. -/
theorem ordered_offerAll
    {migrator : Migrator σ}
    (ordered : migrator.Ordered)
    (offered : List (Migration σ)) :
    (migrator.offerAll offered).Ordered := by
  induction offered generalizing migrator with
  | nil =>
      exact ordered
  | cons migration rest inductionHypothesis =>
      exact inductionHypothesis (ordered_offer ordered migration)

theorem mem_offer
    {migrator : Migrator σ}
    {migration held : Migration σ} :
    held ∈ (migrator.offer migration).migrations →
      held = migration ∨ held ∈ migrator.migrations := by
  rw [offer_eq]
  split
  · exact .inr
  · exact mem_insertById

/-- What a migrator holds it held before, or it was offered. -/
theorem mem_offerAll
    {migrator : Migrator σ}
    {offered : List (Migration σ)}
    {held : Migration σ}
    (member : held ∈ (migrator.offerAll offered).migrations) :
    held ∈ migrator.migrations ∨ held ∈ offered := by
  induction offered generalizing migrator with
  | nil =>
      exact .inl member
  | cons migration rest inductionHypothesis =>
      rcases inductionHypothesis member with before | later
      · rcases mem_offer before with rfl | known
        · exact .inr List.mem_cons_self
        · exact .inl known
      · exact .inr (List.mem_cons_of_mem migration later)

theorem mem_ids_offer (migrator : Migrator σ) (migration : Migration σ) {id : String} :
    id ∈ (migrator.offer migration).ids ↔ id = migration.id ∨ id ∈ migrator.ids := by
  rw [offer_eq]
  split
  · rename_i known
    constructor
    · exact .inr
    · rintro (rfl | held)
      · exact known
      · exact held
  · have moved := ((perm_insertById migration migrator.migrations).map Migration.id).mem_iff
      (a := id)
    exact moved.trans List.mem_cons

/-- The migrations that are held are identified like those held before and those offered. -/
theorem mem_ids_offerAll
    (migrator : Migrator σ)
    (offered : List (Migration σ))
    {id : String} :
    id ∈ (migrator.offerAll offered).ids ↔
      id ∈ migrator.ids ∨ id ∈ offered.map Migration.id := by
  induction offered generalizing migrator with
  | nil =>
      simp [offerAll]
  | cons migration rest inductionHypothesis =>
      have step := inductionHypothesis (migrator.offer migration)
      rw [mem_ids_offer] at step
      refine step.trans ?_
      rw [List.map_cons, List.mem_cons]
      tauto

theorem ledger_offerAll (migrator : Migrator σ) (offered : List (Migration σ)) :
    (migrator.offerAll offered).ledger = migrator.ledger := by
  induction offered generalizing migrator with
  | nil =>
      rfl
  | cons migration rest inductionHypothesis =>
      refine (inductionHypothesis (migrator.offer migration)).trans ?_
      rw [offer_eq]
      split <;> rfl

/-- Registering one after the other, as long as nothing is refused, is offering. -/
theorem offerAll_of_sweep
    {migrator final : Migrator σ}
    {offered : List (Migration σ)}
    (swept : (Traced.sweep register migrator offered).outcome = .ok final) :
    final = migrator.offerAll offered := by
  refine Traced.sweep_eq_foldl ?_ swept
  intro known migration next registered
  rw [offer, registered]

/-- A migrator that was opened holds its migrations in order. -/
theorem ordered_of_openIn
    {directory : Place}
    {files : FileTree}
    {migrator : Migrator σ}
    (opened : (openIn directory files).outcome = .ok migrator) :
    migrator.Ordered := by
  have ends :
      (openIn directory).Ends files (fun _ outcome =>
        ∀ migrator : Migrator σ, outcome = .ok migrator → migrator.Ordered) := by
    unfold openIn
    simp only [Action.ends_bind, Action.ends_current]
    split
    · rintro migrator ⟨⟩
    · rw [Action.ends_bind]
      refine Action.ends_of_forall ?_
      rintro reached (_ | ledger)
      · rintro migrator ⟨⟩
      · dsimp only
        rw [Action.ends_inspect]
        intro found outcome
        simp only [Traced.outcome_bind_eq_ok, Traced.outcome_tell, Traced.outcome_pure,
          Except.ok.injEq] at outcome
        obtain ⟨_, _, final, swept, _, _, rfl⟩ := outcome
        rw [offerAll_of_sweep swept]
        exact ordered_offerAll (ordered_start directory ledger) _
  exact ends migrator opened

/-! ## The order of revisions -/

section RevisionOrder

variable
  {migrator : Migrator σ}
  (ordered : migrator.Ordered)
  (genuine : GenuineMigrations migrator.migrations)

include ordered genuine

/-- Each migration is before a later one by their revisions and names. -/
theorem pairwise_precedes :
    migrator.migrations.Pairwise (fun earlier later =>
      earlier.revision.Extends later.revision ∨
        (earlier.revision.text < later.revision.text ∧
          ¬ later.revision.Extends earlier.revision) ∨
          earlier.revision = later.revision ∧ earlier.name < later.name) := by
  have byId : migrator.migrations.Pairwise (fun earlier later => earlier.id < later.id) :=
    List.pairwise_map.mp ordered
  refine byId.imp_of_mem ?_
  intro earlier later earlierHeld laterHeld less
  exact (Migration.id_lt_iff (genuine earlier earlierHeld) (genuine later laterHeld)).mp less

/-- The revision of a later migration is less exactly when the earlier one goes on where it ends. -/
theorem pairwise_isLE_iff :
    migrator.migrations.Pairwise (fun earlier later =>
      ((compare earlier.revision later.revision).isLE = true ↔
          ¬ earlier.revision.Extends later.revision) ∧
        ¬ later.revision.Extends earlier.revision) := by
  refine (pairwise_precedes ordered genuine).imp ?_
  intro earlier later precedes
  rw [Revision.isLE_compare_iff]
  rcases precedes with goesOn | ⟨less, endsEarly⟩ | ⟨same, _⟩
  · have less := goesOn.lt
    exact ⟨iff_of_false (not_not_intro less) (not_not_intro goesOn),
      fun other => less.asymm other.lt⟩
  · exact ⟨iff_of_true less.asymm (fun other => less.asymm other.lt), endsEarly⟩
  · rw [same]
    have alone : ¬ later.revision.Extends later.revision :=
      fun other => other.2 rfl
    exact ⟨iff_of_true (lt_irrefl _) alone, alone⟩

end RevisionOrder

/--
Migrations that are registered in any order, duplicates refused, are held with
ascending revisions exactly when no revision among them goes on where another
one ends.

A migration whose revision goes on is always held before the one whose revision
ends there, although its revision is greater; any other two are held in the
order of their revisions.
-/
theorem revisions_ascend_iff_none_extended
    (directory : Place)
    (ledger : Ledger)
    {offered : List (Migration σ)}
    (genuine : GenuineMigrations offered) :
    let held := ((⟨directory, ledger, []⟩ : Migrator σ).offerAll offered).migrations
    held.Pairwise (fun earlier later =>
        ((compare earlier.revision later.revision).isLE = true ↔
            ¬ earlier.revision.Extends later.revision) ∧
          ¬ later.revision.Extends earlier.revision) ∧
      (held.Pairwise (fun earlier later =>
          (compare earlier.revision later.revision).isLE = true) ↔
        ∀ longer ∈ offered, ∀ shorter ∈ offered,
          ¬ longer.revision.Extends shorter.revision) := by
  intro held
  have start : (⟨directory, ledger, []⟩ : Migrator σ).Ordered := ordered_start directory ledger
  have heldOffered : ∀ migration ∈ held, migration ∈ offered := by
    intro migration member
    rcases mem_offerAll member with before | isOffered
    · cases before
    · exact isOffered
  have pairs := pairwise_isLE_iff (ordered_offerAll start offered)
    (fun migration member => genuine migration (heldOffered migration member))
  refine ⟨pairs, ?_, ?_⟩
  · intro ascending longer longerOffered shorter shorterOffered
    have unrelated : held.Pairwise (fun first second =>
        ¬ first.revision.Extends second.revision ∧
          ¬ second.revision.Extends first.revision) :=
      (pairs.and ascending).imp (fun ⟨here, less⟩ => ⟨here.1.mp less, here.2⟩)
    have apart := unrelated.forall_of_forall_of_flip
      (fun _ _ => ⟨fun self => self.2 rfl, fun self => self.2 rfl⟩)
      (unrelated.imp (fun both => both.symm))
    have heldLike :
        ∀ migration ∈ offered, ∃ like ∈ held, like.revision = migration.revision := by
      intro migration member
      have known : migration.id ∈ held.map Migration.id :=
        (mem_ids_offerAll _ offered).mpr (.inr (List.mem_map_of_mem member))
      obtain ⟨like, likeHeld, sameId⟩ := List.mem_map.mp known
      exact ⟨like, likeHeld, Migration.revision_eq_of_id_eq
        (genuine like (heldOffered like likeHeld)) (genuine migration member) sameId⟩
    obtain ⟨first, firstHeld, firstSame⟩ := heldLike longer longerOffered
    obtain ⟨second, secondHeld, secondSame⟩ := heldLike shorter shorterOffered
    rw [← firstSame, ← secondSame]
    exact (apart firstHeld secondHeld).1
  · intro noneExtended
    refine pairs.imp_of_mem ?_
    intro earlier later earlierHeld laterHeld here
    exact here.1.mpr (noneExtended earlier (heldOffered earlier earlierHeld)
      later (heldOffered later laterHeld))

/-- A migrator that holds nothing yet. -/
def emptyMigrator : Migrator Unit :=
  ⟨⟨"m", ["m"]⟩, ⟨⟨"m", ["m"]⟩, []⟩, []⟩

/-- Migrations whose revisions have different lengths, where none goes on where another ends. -/
def mixedMigrations : List (Migration Unit) :=
  [.unimplemented ⟨"9"⟩ "c", .unimplemented ⟨"111"⟩ "b", .unimplemented ⟨"10"⟩ "a"]

/-- Revisions of different lengths ascend as texts. -/
theorem mixed_revisions_ascend :
    GenuineMigrations mixedMigrations ∧
      (emptyMigrator.offerAll mixedMigrations).ids = ["10_a", "111_b", "9_c"] ∧
        (emptyMigrator.offerAll mixedMigrations).migrations.Pairwise (fun earlier later =>
          (compare earlier.revision later.revision).isLE = true) := by
  have genuine : GenuineMigrations mixedMigrations := by
    unfold GenuineMigrations Revision.Genuine mixedMigrations
    decide
  refine ⟨genuine, by decide, ?_⟩
  apply (revisions_ascend_iff_none_extended ⟨"m", ["m"]⟩ ⟨⟨"m", ["m"]⟩, []⟩ genuine).2.mpr
  unfold mixedMigrations
  decide

/-- Revision 10 goes on where revision 1 ends: its migration is held first, against the order. -/
theorem longer_revision_held_first :
    (emptyMigrator.offerAll
        [.unimplemented ⟨"1"⟩ "create_runs", .unimplemented ⟨"10"⟩ "add_notes"]).ids =
        ["10_add_notes", "1_create_runs"] ∧
      ¬ (emptyMigrator.offerAll
          [.unimplemented ⟨"1"⟩ "create_runs",
            .unimplemented ⟨"10"⟩ "add_notes"]).migrations.Pairwise
        (fun earlier later => (compare earlier.revision later.revision).isLE = true) := by
  decide

end Migrator

end SchemaMigration
