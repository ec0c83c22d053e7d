import SchemaMigration.Migration.File
import SchemaMigration.Proofs.Ledger.Opening
import SchemaMigration.Proofs.Template

namespace SchemaMigration

/-!
# What files are loaded as

A file is identified by the stem of its path, and the rest is in its text.  A
new migration file is loaded as the revision and the name it was made for.
-/

namespace Revision

/-- Where revisions come from: digits that were read, or a point in time. -/
inductive Given : Revision → Prop
  | read {revision : Revision} : revision.Genuine → Given revision
  | made (moment : Timestamp) : Given (ofTimestamp moment)

theorem isDigit_of_mem_padded
    {width number : Nat}
    {c : Char}
    (member : c ∈ Timestamp.padded width number) :
    c.isDigit = true := by
  rcases List.mem_append.mp member with filled | written
  · rw [List.eq_of_mem_replicate filled]
    rfl
  · exact Nat.isDigit_of_mem_toDigits (by decide) (by decide) written

/-- No revision goes into another directory. -/
theorem Given.single
    {revision : Revision}
    (given : revision.Given) :
    '/' ∉ revision.text.toList := by
  intro member
  cases given with
  | read genuine =>
      have digit := (genuine_iff.mp genuine).2 '/' member
      cases digit
  | made moment =>
      have noSlash {width number : Nat} : '/' ∉ Timestamp.padded width number := by
        intro isPadded
        have digit := isDigit_of_mem_padded isPadded
        cases digit
      have inYear : '/' ∉ Timestamp.yearDigits moment.year := by
        unfold Timestamp.yearDigits
        split
        · exact noSlash
        split
        · simp [noSlash]
        · simp [noSlash]
      simp [ofTimestamp, Timestamp.compact, inYear, noSlash] at member

end Revision

namespace Migration

/-- The file name of a new migration names an entry of a directory. -/
theorem isName_made
    {revision : Revision}
    (given : revision.Given)
    {name : String}
    (snake : Name.IsSnake name.toList) :
    Place.IsName (stemOf revision name ++ madeExtension) := by
  have shape :
      (stemOf revision name ++ madeExtension).toList =
        revision.text.toList ++ '_' :: (name.toList ++ ['.', 'y', 'm', 'l']) := by
    simp [stemOf, madeExtension]
  have hasBar : '_' ∈ (stemOf revision name ++ madeExtension).toList := by
    rw [shape]
    simp
  have isOther {text : String} (noBar : '_' ∉ text.toList) :
      stemOf revision name ++ madeExtension ≠ text := by
    intro same
    rw [same] at hasBar
    exact noBar hasBar
  refine ⟨isOther (by decide), isOther (by decide), isOther (by decide), ?_⟩
  rw [shape, List.mem_append, List.mem_cons, List.mem_append]
  rintro (inRevision | isBar | inName | inExtension)
  · exact given.single inRevision
  · cases isBar
  · rcases snake.of_mem '/' inName with isBar | solid
    · cases isBar
    · exact absurd solid (by decide)
  · exact absurd inExtension (by decide)

end Migration

namespace MigrationFile

/-! ## Identification -/

theorem stem_of_identify
    {stem? : Option String}
    {stem name : String}
    {revision : Revision}
    (identified : identify stem? = .ok (stem, revision, name)) :
    stem? = some (Migration.stemOf revision name) := by
  unfold identify at identified
  split at identified
  · cases identified
  · split at identified
    · cases identified
    · rename_i split
      split at identified
      · rename_i parsed
        cases identified
        have sameText := (Revision.genuine_of_parse parsed).1
        rw [Migration.stemOf, sameText, Migration.stemOf_of_splitStem split]
      · cases identified

/-- What a file that loads has gone through. -/
theorem of_load
    {files : FileTree}
    {place : Place}
    {file : MigrationFile}
    (loaded : (load files place).outcome = .ok file) :
    ∃ stem text document,
      identify (Migration.stem? place.label) = .ok (stem, file.revision, file.name) ∧
        files.read place = .ok text ∧
          Migration.Document.ofText text = .ok document ∧
            checkRevision document file.revision = .ok () ∧
              checkOperations document = .ok () ∧
                file =
                  ⟨file.revision, file.name, document.entity, place, document.up,
                    document.down⟩ := by
  unfold load loadNamed at loaded
  simp only [Traced.outcome_bind_eq_ok, Traced.outcome_ofExcept, Outcome.mapError_eq_ok]
    at loaded
  obtain ⟨⟨stem, revision, name⟩, identified, text, read, document, parsed, _, sameRevision, _, _,
    _, checked, returned⟩ := loaded
  cases returned
  exact ⟨stem, text, document, identified, read, parsed, sameRevision, checked, rfl⟩

/-- A file that loads is identified by the stem of its path. -/
theorem id_of_load
    {files : FileTree}
    {place : Place}
    {file : MigrationFile}
    (loaded : (load files place).outcome = .ok file) :
    Migration.stem? place.label = some file.id := by
  obtain ⟨_, _, _, identified, _⟩ := of_load loaded
  exact stem_of_identify identified

/-- A file is loaded the same wherever the same text is read at its place. -/
theorem load_of_sameText
    {before after : FileTree}
    {place : Place}
    (same : before.read place = after.read place) :
    load before place = load after place := by
  unfold load loadNamed
  rw [same]

/-! ## New files -/

section Made

variable
  {revision : Revision}
  {name : String}
  (snake : Name.IsSnake name.toList)

include snake

theorem stem?_made
    (given : revision.Given)
    {path : String}
    (ends : Place.EndsWith path (Migration.stemOf revision name ++ Migration.madeExtension)) :
    Migration.stem? path = some (Migration.stemOf revision name) := by
  have named := Place.fileName?_of_endsWith (Migration.isName_made given snake) ends
  have stem := Migration.stemOf_append_extension (Migration.stemOf_ne_empty revision name)
  rw [Migration.stem?, named, Option.map_some, stem]

theorem identify_made (genuine : revision.Genuine) :
    identify (some (Migration.stemOf revision name)) =
      .ok (Migration.stemOf revision name, revision, name) := by
  have someName : name ≠ "" := by
    intro isEmpty
    exact snake.ne_nil (String.toList_eq_nil_iff.mpr isEmpty)
  have parsed : Revision.parse revision.text = .ok revision :=
    genuine
  have split := Migration.splitStem_stemOf genuine someName snake.oneLine
  simp only [identify, split, parsed]

/-- A new migration file is loaded as what it was made for, with nothing to say about it. -/
theorem load_made
    (genuine : revision.Genuine)
    {files : FileTree}
    {place : Place}
    (ends :
      Place.EndsWith place.label (Migration.stemOf revision name ++ Migration.madeExtension))
    (holds : files.read place = .ok (Migration.Template.render revision name)) :
    load files place =
      ⟨[], .ok ⟨revision, name, Name.pascalCase name, place, [], []⟩⟩ := by
  have stem := stem?_made snake (.read genuine) ends
  have identified := identify_made snake genuine
  have document := Migration.Template.ofText_render genuine snake
  have sameRevision :
      checkRevision ⟨Name.pascalCase name, some (.text revision.text), [], []⟩ revision =
        .ok () := by
    simp [checkRevision, Migration.DeclaredRevision.isFor]
  have sameEntity :
      entityNotices (Migration.stemOf revision name) name (Name.pascalCase name) = [] := by
    simp [entityNotices]
  simp only [load, loadNamed, stem, identified, holds, document, sameRevision, sameEntity,
    Except.mapError, bind, Traced.bind, Traced.ofExcept, Traced.tell]
  rfl

end Made

end MigrationFile

end SchemaMigration
