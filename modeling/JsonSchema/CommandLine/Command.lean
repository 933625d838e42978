import JsonSchema.CommandLine.Similar
import JsonSchema.Text.Quoted

/-!
# Commands

The program has commands, and the program and each command have switches of their own. Switches have
a long name and sometimes a letter, and most of them take a value. All positional arguments are
paths.
-/

namespace JsonSchema.CommandLine

/-- A switch of the program or of one of its commands. -/
inductive Switch where
  | config | verbose | strictReferences | output | count | seed | indent | help
deriving DecidableEq

namespace Switch

/-- The long name of a switch. -/
def long : Switch → String
  | .config => "--config"
  | .verbose => "--verbose"
  | .strictReferences => "--strict-refs"
  | .output => "--output"
  | .count => "--count"
  | .seed => "--seed"
  | .indent => "--indent"
  | .help => "--help"

/-- The letter of a switch. -/
def letter? : Switch → Option Char
  | .config => some 'c'
  | .verbose => some 'v'
  | .output => some 'o'
  | .count => some 'n'
  | _ => none

/-- The short name of a letter. -/
def short (letter : Char) : String := String.ofList ['-', letter]

/-- What stands for the value of a switch in help texts; a switch without it takes no value. -/
def metavariable? : Switch → Option String
  | .config => some "PATH"
  | .output => some "PATH"
  | .count => some "INTEGER RANGE"
  | .seed => some "INTEGER"
  | .indent => some "INTEGER"
  | .verbose => none
  | .strictReferences => none
  | .help => none

/-- Whether a switch takes a value. -/
def takesValue (switch : Switch) : Bool := switch.metavariable?.isSome

/-- What a switch is for. -/
def purpose : Switch → String
  | .config => ""
  | .verbose => "Log debug output to stderr"
  | .strictReferences => "Report references to missing definitions"
  | .output => "Write the report to a file"
  | .count => "Number of values to draw  [x>=1]"
  | .seed => "Seed for reproducible output"
  | .indent => ""
  | .help => "Show this message and exit."

/-- The names of a switch as errors show them. -/
def hint (switch : Switch) : String :=
  " / ".intercalate ((switch.long :: (switch.letter?.map short).toList).map Text.quoted)

end Switch

/-- A positional argument. -/
structure Argument where
  metavariable : String
  required : Bool
deriving DecidableEq

namespace Argument

/-- The argument in a usage line. -/
def usage (argument : Argument) : String :=
  if argument.required then argument.metavariable else "[" ++ argument.metavariable ++ "]"

end Argument

/-- A command of the program. -/
inductive Command where
  | validate | generate | normalize
deriving DecidableEq

namespace Command

/-- All commands, in alphabetical order. -/
def all : List Command := [.generate, .normalize, .validate]

/-- The name of a command. -/
def name : Command → String
  | .validate => "validate"
  | .generate => "generate"
  | .normalize => "normalize"

/-- The command of a name. -/
def ofName? (name : String) : Option Command := all.find? (·.name = name)

/-- The switches of a command. -/
def switches : Command → List Switch
  | .validate => [.strictReferences, .output, .help]
  | .generate => [.count, .seed, .help]
  | .normalize => [.indent, .help]

/-- The positional arguments of a command. -/
def arguments : Command → List Argument
  | .validate => [⟨"SCHEMA_PATH", true⟩, ⟨"INSTANCE_PATH", true⟩]
  | .generate => [⟨"SCHEMA_PATH", true⟩]
  | .normalize => [⟨"SCHEMA_PATH", true⟩, ⟨"OUTPUT", false⟩]

/-- What a command does. -/
def purpose : Command → String
  | .validate => "Validate INSTANCE_PATH against SCHEMA_PATH."
  | .generate => "Print values drawn from SCHEMA_PATH, one JSON document per line."
  | .normalize => "Decode SCHEMA_PATH and encode it again, to OUTPUT or stdout."

/-- What a command does, short enough for the list of commands. -/
def brief : Command → String
  | .generate => "Print values drawn from SCHEMA_PATH, one JSON document per..."
  | command => command.purpose

end Command

/-- The name of the program. -/
def programName : String := "json_schema_toolkit"

/-- The program itself, or one of its commands. -/
inductive Level where
  | program
  | within (command : Command)
deriving DecidableEq

namespace Level

/-- The words that lead to a level. -/
def path : Level → String
  | .program => programName
  | .within command => programName ++ " " ++ command.name

/-- The switches of a level. -/
def switches : Level → List Switch
  | .program => [.config, .verbose, .help]
  | .within command => command.switches

/-- What follows the switches in a usage line. -/
def operands : Level → List String
  | .program => ["COMMAND", "[ARGS]..."]
  | .within command => command.arguments.map Argument.usage

/-- The usage line of a level. -/
def usage (level : Level) : String :=
  " ".intercalate ("Usage:" :: level.path :: "[OPTIONS]" :: level.operands) ++ "\n"

/-- What a level does. -/
def purpose : Level → String
  | .program => "Validate, generate and normalize JSON Schema documents."
  | .within command => command.purpose

/-- Rows of two columns, the second one aligned and possibly empty. -/
def table (rows : List (String × String)) : String :=
  let width := (rows.map fun (left, _) => left.length).foldl max 0 + 2
  String.join (rows.map fun (left, right) =>
    "  " ++ left ++
      (if right = "" then "" else "".pushn ' ' (width - left.length) ++ right) ++ "\n")

/-- The row of a switch in a help text. -/
def switchRow (switch : Switch) : String × String :=
  (", ".intercalate ((switch.letter?.map Switch.short).toList ++ [switch.long]) ++
    (match switch.metavariable? with
      | some name => " " ++ name
      | none => ""), switch.purpose)

/-- The help text of a level. -/
def help (level : Level) : String :=
  level.usage ++ "\n  " ++ level.purpose ++ "\n\nOptions:\n" ++ table (level.switches.map switchRow) ++
    match level with
    | .program =>
      "\nCommands:\n" ++ table (Command.all.map fun command => (command.name, command.brief))
    | .within _ => ""

end Level

/-- Why a command line cannot be used. -/
inductive UsageError where
  | noSuchSwitch (name : String) (similar : List String)
  | valueMissing (name : String)
  | valueUnwanted (name : String)
  | badValue (hint complaint : String)
  | missingArgument (metavariable : String)
  | extraArguments (arguments : List String)
  | missingCommand
  | noSuchCommand (name : String)
deriving DecidableEq

namespace UsageError

/-- The wording of an error. -/
def message : UsageError → String
  | .noSuchSwitch name [] => "No such option: " ++ name
  | .noSuchSwitch name [one] => "No such option: " ++ name ++ " Did you mean " ++ one ++ "?"
  | .noSuchSwitch name many =>
    "No such option: " ++ name ++ " (Possible options: " ++ ", ".intercalate many ++ ")"
  | .valueMissing name => "Option " ++ Text.quoted name ++ " requires an argument."
  | .valueUnwanted name => "Option " ++ Text.quoted name ++ " does not take a value."
  | .badValue hint complaint => "Invalid value for " ++ hint ++ ": " ++ complaint
  | .missingArgument metavariable => "Missing argument '" ++ metavariable ++ "'."
  | .extraArguments [one] => "Got unexpected extra argument (" ++ one ++ ")"
  | .extraArguments arguments =>
    "Got unexpected extra arguments (" ++ " ".intercalate arguments ++ ")"
  | .missingCommand => "Missing command."
  | .noSuchCommand name => "No such command " ++ Text.quoted name ++ "."

/-- Whether the usage line stands before an error; a switch without its value is explained by the
error alone. -/
def showsUsage : UsageError → Bool
  | .valueMissing _ => false
  | .valueUnwanted _ => false
  | _ => true

/-- The full text of an error at a level. -/
def render (level : Level) (error : UsageError) : String :=
  (if error.showsUsage then
    level.usage ++ "Try '" ++ level.path ++ " --help' for help.\n\n" else "") ++
    "Error: " ++ error.message ++ "\n"

end UsageError

end JsonSchema.CommandLine
