import SchemaMigration.Text.Pieces

namespace SchemaMigration.CommandLine

/-!
# Arguments

The arguments of one command: options by their long or short names, with a
value or without, and plain words. Short options may be written together, and
after two dashes every argument is a plain word.
-/

/-- Why arguments cannot be understood. -/
inductive UsageError
  | unknownOption (written : String)
  | missingValue (option : String)
  | unexpectedValue (option : String)
  | invalidValue (option value : String)
  | repeatedOption (option : String)
  | unexpectedArgument (written : String)
  | missingArgument (name : String)
  | missingCommand
  deriving DecidableEq

/-- The wording of a usage error. -/
def UsageError.message : UsageError → String
  | .unknownOption written => s!"unknown option '{written}'"
  | .missingValue option => s!"option '--{option}' needs a value"
  | .unexpectedValue option => s!"option '--{option}' takes no value"
  | .invalidValue option value => s!"invalid value '{value}' for option '--{option}'"
  | .repeatedOption option => s!"option '--{option}' is given twice"
  | .unexpectedArgument written => s!"unexpected argument '{written}'"
  | .missingArgument name => s!"missing argument '{name}'"
  | .missingCommand => "missing command"

/-- An option: its long name, its short name if it has one, and whether it has a value. -/
structure OptionRule where
  name : String
  short : Option Char
  hasValue : Bool
  deriving DecidableEq

/-- An argument as it is written. -/
inductive Word
  /-- The two dashes after which every argument is a plain word. -/
  | separator
  | long (name : String) (value : Option String)
  | short (letters : List Char)
  | plain (text : String)
  deriving DecidableEq

namespace Word

/-- A long option, whose value may follow an equals sign. -/
def ofLong (text : List Char) : Word :=
  let name := String.ofList (text.takeWhile (· != '='))
  match text.dropWhile (· != '=') with
  | '=' :: value => .long name (some (String.ofList value))
  | _ => .long name none

/-- An argument by how it starts; a single dash is a plain word. -/
def ofText (text : String) : Word :=
  match text.toList with
  | ['-', '-'] => .separator
  | '-' :: '-' :: rest => ofLong rest
  | ['-'] => .plain text
  | '-' :: letters => .short letters
  | _ => .plain text

end Word

/-- Options that are given, with their values; an option without one has the empty text. -/
abbrev GivenOptions : Type :=
  List (String × String)

namespace GivenOptions

/-- Add an option that is not given yet. -/
def add (given : GivenOptions) (rule : OptionRule) (value : String) :
    Except UsageError GivenOptions :=
  if (given.lookup rule.name).isSome then .error (.repeatedOption rule.name)
  else .ok ((rule.name, value) :: given)

end GivenOptions

/-- The arguments of one command, understood. -/
structure Arguments where
  options : GivenOptions
  /-- The plain words. -/
  plain : List String
  /-- The command inside this one, with its own arguments. -/
  inner : Option (String × List String)
  deriving DecidableEq

namespace Arguments

/-- Short options written together; the last may wait for a value in the next argument. -/
def addShort (rules : List OptionRule) (given : GivenOptions) :
    List Char → Except UsageError (GivenOptions × Option OptionRule)
  | [] => .ok (given, none)
  | letter :: rest =>
      match rules.find? (fun rule => rule.short = some letter) with
      | none => .error (.unknownOption (String.singleton letter))
      | some rule =>
          if rule.hasValue then
            match rest with
            | [] => .ok (given, some rule)
            | '=' :: value => do return (← given.add rule (String.ofList value), none)
            | value => do return (← given.add rule (String.ofList value), none)
          else do
            addShort rules (← given.add rule "") rest

/-- A long option; it may wait for a value in the next argument. -/
def addLong (rules : List OptionRule) (given : GivenOptions) (name : String)
    (value? : Option String) : Except UsageError (GivenOptions × Option OptionRule) :=
  match rules.find? (fun rule => rule.name = name) with
  | none => .error (.unknownOption name)
  | some rule =>
      match rule.hasValue, value? with
      | true, some value => do return (← given.add rule value, none)
      | true, none => .ok (given, some rule)
      | false, none => do return (← given.add rule "", none)
      | false, some _ => .error (.unexpectedValue rule.name)

/--
Understand arguments after those already read, up to the name of an inner
command. `waiting?` is an option that waits for its value.
-/
def readFrom (rules : List OptionRule) (commands : List String) :
    Arguments → Option OptionRule → List String → Except UsageError Arguments
  | known, none, [] => .ok known
  | _, some rule, [] => .error (.missingValue rule.name)
  | known, waiting?, written :: rest =>
      match waiting?, Word.ofText written with
      | some rule, .plain value => do
          let options ← known.options.add rule value
          readFrom rules commands { known with options := options } none rest
      | some rule, _ => .error (.missingValue rule.name)
      | none, .separator => .ok { known with plain := known.plain ++ rest }
      | none, .plain text =>
          if commands.contains text then .ok { known with inner := some (text, rest) }
          else
            readFrom rules commands { known with plain := known.plain ++ [text] } none rest
      | none, .long name value? => do
          let (options, waiting?) ← addLong rules known.options name value?
          readFrom rules commands { known with options := options } waiting? rest
      | none, .short letters => do
          let (options, waiting?) ← addShort rules known.options letters
          readFrom rules commands { known with options := options } waiting? rest

/-- Understand the arguments of a command that has options and inner commands. -/
def read (rules : List OptionRule) (commands : List String) (written : List String) :
    Except UsageError Arguments :=
  readFrom rules commands ⟨[], [], none⟩ none written

/-- The inner command, where nothing else is expected. -/
def command (arguments : Arguments) : Except UsageError (String × List String) :=
  match arguments.plain, arguments.inner with
  | text :: _, _ => .error (.unexpectedArgument text)
  | [], some inner => .ok inner
  | [], none => .error .missingCommand

/-- Check that there is no plain word. -/
def noWord (arguments : Arguments) : Except UsageError Unit :=
  match arguments.plain with
  | [] => .ok ()
  | text :: _ => .error (.unexpectedArgument text)

/-- The only plain word. -/
def oneWord (arguments : Arguments) (name : String) : Except UsageError String :=
  match arguments.plain with
  | [] => .error (.missingArgument name)
  | [text] => .ok text
  | _ :: text :: _ => .error (.unexpectedArgument text)

end Arguments

end SchemaMigration.CommandLine
