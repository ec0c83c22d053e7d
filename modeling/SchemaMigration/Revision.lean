import SchemaMigration.Calendar.Timestamp

namespace SchemaMigration

/-!
# Revisions

A revision is the run of digits a migration file starts with. Generated
revisions are fourteen digits that write a point in time, so that their order
as texts is the order of time.
-/

/-- A sortable migration revision. -/
structure Revision where
  text : String
  deriving DecidableEq

/-- Why a text is no revision. -/
inductive Revision.Flaw
  | empty
  | notDigits
  deriving DecidableEq

/-- The refusal of a text as a revision. -/
structure Revision.Invalid where
  value : String
  flaw : Revision.Flaw
  deriving DecidableEq

namespace Revision

/-- The wording of a refusal. -/
def Invalid.message (problem : Invalid) : String :=
  let reason :=
    match problem.flaw with
    | .empty => "revision cannot be empty"
    | .notDigits => "revision must contain only digits"
  s!"[E004] Invalid revision '{problem.value}': {reason}"

/-- A revision from a nonempty run of ASCII digits. -/
def parse (value : String) : Except Invalid Revision :=
  if value.toList.isEmpty then
    .error ⟨value, .empty⟩
  else if value.toList.all Text.isDigit then
    .ok ⟨value⟩
  else
    .error ⟨value, .notDigits⟩

/-- The revision generated at a point in time. -/
def ofTimestamp (t : Timestamp) : Revision :=
  ⟨String.ofList t.compact⟩

/-- The point in time a revision was generated at, when it has that shape. -/
def timestamp? (revision : Revision) : Option Timestamp :=
  Timestamp.ofCompact? revision.text.toList

/-- Revisions are ordered as texts. -/
instance : Ord Revision where
  compare first second := compare first.text second.text

end Revision

end SchemaMigration
