import SchemaMigration.Schema.Key
import SchemaMigration.Text.Blank
import SchemaMigration.Text.Letter

namespace SchemaMigration

/-!
# Foreign keys

A foreign key from one column of a table to one column of a table, first as it
is declared, step by step, and then complete.
-/

/-- What happens to referring rows when the row they refer to changes. -/
inductive ReferentialAction
  | cascade
  | restrict
  | setNull
  | setDefault
  | noAction
  deriving DecidableEq

namespace ReferentialAction

/-- The keywords of an action. -/
def keyword : ReferentialAction → String
  | .cascade => "CASCADE"
  | .restrict => "RESTRICT"
  | .setNull => "SET NULL"
  | .setDefault => "SET DEFAULT"
  | .noAction => "NO ACTION"

/-- The words of a text, which blanks and underscores separate. -/
def wordsOf (text : String) : List String :=
  let lowered := String.ofList (text.toList.map Text.lowerAscii)
  Text.words (fun c => c == '_' || Text.isBlank c) lowered

/-- The action a text names; case, blanks and underscores do not matter. -/
def parse? (text : String) : Option ReferentialAction :=
  match wordsOf text with
  | ["cascade"] => some .cascade
  | ["restrict"] => some .restrict
  | ["set", "null"] => some .setNull
  | ["set", "default"] => some .setDefault
  | ["no", "action"] => some .noAction
  | _ => none

end ReferentialAction

/-- A foreign key as far as it is declared. -/
structure ForeignKeyDraft where
  name : String
  column : String
  refTable : Option String
  refColumn : Option String
  onDelete : Option ReferentialAction
  onUpdate : Option ReferentialAction
  deriving DecidableEq

/-- A complete foreign key. -/
structure ForeignKey where
  name : String
  column : String
  refTable : String
  refColumn : String
  onDelete : Option ReferentialAction
  onUpdate : Option ReferentialAction
  deriving DecidableEq

namespace ForeignKeyDraft

/-- A foreign key on a column, of which nothing else is declared yet. -/
def onColumn (table column : String) : ForeignKeyDraft :=
  ⟨Key.defaultName table [column] .foreign, column, none, none, none, none⟩

/-- What a declared foreign key lacks. -/
inductive Gap
  | table
  | column
  deriving DecidableEq

/-- What a gap is called in messages. -/
def Gap.title : Gap → String
  | .table => "referenced table (on)"
  | .column => "referenced column (references)"

/-- The complete foreign key, when nothing is missing. -/
def complete (draft : ForeignKeyDraft) : Except Gap ForeignKey :=
  match draft.refTable, draft.refColumn with
  | none, _ => .error .table
  | some _, none => .error .column
  | some table, some column =>
      .ok ⟨draft.name, draft.column, table, column, draft.onDelete, draft.onUpdate⟩

end ForeignKeyDraft

namespace ForeignKey

/-- Whether a foreign key says what happens to referring rows. -/
def hasActions (key : ForeignKey) : Bool :=
  key.onDelete.isSome || key.onUpdate.isSome

end ForeignKey

end SchemaMigration
