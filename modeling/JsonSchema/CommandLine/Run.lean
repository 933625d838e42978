import JsonSchema.CommandLine.Folder
import JsonSchema.CommandLine.Reading
import JsonSchema.Document.Read
import JsonSchema.Document.Write
import JsonSchema.Generation.Sample
import JsonSchema.Validation.Summary
import JsonSchema.Text.Integer

/-!
# Running a command line

A run is a function from a folder and words to what is printed and written. Switches are judged
before arguments, in the order in which they are used, and nothing is read before the words of the
level are judged. The program's own switches come before the command's.
-/

namespace JsonSchema.CommandLine

/-- What a run prints and writes. -/
structure Outcome where
  exitCode : Nat := 0
  output : String := ""
  errors : String := ""
  written : Entries String := []

/-- Why a run stops early. -/
inductive Stop where
  | help (level : Level)
  | usage (level : Level) (error : UsageError)
  | unreadable (path : String) (error : ReadError)
  | noObject (path : String)
  | options (error : OptionsError)
  | unsupported (name : String) (part : RefusedPart)
  | fault (met : Fault)

namespace Stop

/-- The wording of an error that is none of usage. -/
def message : Stop → String
  | .unreadable path error => path ++ " is not valid JSON: " ++ error.message
  | .noObject path => path ++ " must contain a JSON object"
  | .options error => error.message
  | .unsupported name part => "Cannot generate values for " ++ name ++ ": " ++ part.message
  | .fault met => met.message
  | .help _ => ""
  | .usage _ error => error.message

/-- What is printed for a stop. -/
def outcome : Stop → Outcome
  | .help level => { output := level.help }
  | .usage level error => { exitCode := 2, errors := error.render level }
  | stop => { exitCode := 1, errors := "Error: " ++ stop.message ++ "\n" }

end Stop

/-- A path that must lead to a file. -/
def existing (folder : Folder) (hint given : String) : Except UsageError Unit :=
  if folder.holds (folder.resolve given) then .ok ()
  else .error (.badValue hint ("Path " ++ Text.quoted given ++ " does not exist."))

/-- Judges the value of a switch. -/
def judgeValue (folder : Folder) (switch : Switch) (given : String) : Except UsageError Unit :=
  let bad (complaint : String) : Except UsageError Unit := .error (.badValue switch.hint complaint)
  match switch with
  | .config => existing folder switch.hint given
  | .count =>
    match Text.integer? given with
    | none => bad (Text.quoted given ++ " is not a valid integer range.")
    | some count =>
      if count < 1 then bad (toString count ++ " is not in the range x>=1.") else .ok ()
  | .seed | .indent =>
    if (Text.integer? given).isSome then .ok ()
    else bad (Text.quoted given ++ " is not a valid integer.")
  | .verbose | .strictReferences | .output | .help => .ok ()

/-- Judges the switches that are used. -/
def judgeUses (folder : Folder) (reading : Reading) : List Switch → Except UsageError Unit
  | [] => .ok ()
  | switch :: rest =>
    match judgeValue folder switch ((reading.value? switch).getD "") with
    | .error error => .error error
    | .ok () => judgeUses folder reading rest

/-- Judges the arguments against those that a command takes. -/
def judgeOperands (folder : Folder) : List Argument → List String → Except UsageError Unit
  | [], [] => .ok ()
  | [], extra => .error (.extraArguments extra)
  | argument :: rest, [] =>
    if argument.required then .error (.missingArgument argument.metavariable)
    else judgeOperands folder rest []
  | argument :: rest, given :: others =>
    if argument.required then
      match existing folder ("'" ++ argument.metavariable ++ "'") given with
      | .error error => .error error
      | .ok () => judgeOperands folder rest others
    else judgeOperands folder rest others

/-- Turns an error of usage into a stop. -/
def atLevel {α : Type} (level : Level) : Except UsageError α → Except Stop α
  | .ok value => .ok value
  | .error error => .error (.usage level error)

/-- Reads the words of a level and judges the switches; help comes before all other judgements. -/
def readLevel (folder : Folder) (level : Level) (mixed : Bool) (words : List String) :
    Except Stop Reading := do
  let reading ← atLevel level (read level.switches mixed words)
  if reading.has .help then throw (.help level)
  atLevel level (judgeUses folder reading reading.used)
  return reading

/-- The JSON value of a file. -/
def loadJson (folder : Folder) (path : String) : Except Stop Json :=
  let text := (folder.text? path).getD ""
  match Json.read (String.ofList (unifyLineEnds text.toList)) with
  | .ok value => .ok value
  | .error error => .error (.unreadable path error)

/-- The options of a file, or the defaults. -/
def loadOptions (folder : Folder) : Option String → Except Stop Options
  | none => .ok {}
  | some path => do
    match ← loadJson folder path with
    | .object members =>
      match Options.read members with
      | .ok options => return options
      | .error error => throw (.options error)
    | _ => throw (.noObject path)

/-- The schema of a file. -/
def loadSchema (folder : Folder) (path : String) : Except Stop Schema := do
  return (Document.read (← loadJson folder path)).value

/-- Prints a text, or writes it to a file. -/
def deliver (text : String) : Option String → Outcome
  | none => { output := text }
  | some path => { written := [(path, text)] }

/-- The command line that a report names: the arguments, then the switches in a fixed order. -/
def reportedCommand (folder : Folder) (schema instancePath : String) (strict : Bool)
    (output : Option String) : String :=
  " ".intercalate ([(Level.within .validate).path, folder.shown schema, folder.shown instancePath] ++
    (if strict then [Switch.strictReferences.long] else []) ++
    match output with
    | some path => [Switch.output.long, folder.shown path]
    | none => [])

/-- Checks an instance against a schema and reports what is wrong. -/
def runValidate (folder : Folder) (options : Options) (reading : Reading) :
    List String → Except Stop Outcome
  | [schemaPath, instancePath] => do
    let schema ← loadSchema folder schemaPath
    let value ← loadJson folder instancePath
    let strict := reading.has .strictReferences
    let output := (reading.value? .output).map folder.resolve
    let asked := options.validation.strictness
    let strictness := { asked with unresolvedFails := strict || asked.unresolvedFails }
    match (schema.check [] strictness value).result with
    | .error fault => throw (.fault fault)
    | .ok violations =>
      match Summary.text violations (Folder.lastName instancePath)
        (some (reportedCommand folder schemaPath instancePath strict output)) with
      | .error fault => throw (.fault fault)
      | .ok report =>
        return { deliver report output with exitCode := if violations.isEmpty then 0 else 1 }
  | _ => return {}

/-- Prints values of a schema, each on its line. -/
def runGenerate (folder : Folder) (options : Options) (reading : Reading) :
    List String → Except Stop Outcome
  | [schemaPath] => do
    let schema ← loadSchema folder schemaPath
    let count := ((reading.value? .count).bind Text.integer?).getD 10
    match (schema.sample options.generation [] count).run.value with
    | .error (.refused part) => throw (.unsupported (Folder.lastName schemaPath) part)
    | .error (.fault fault) => throw (.fault fault)
    | .ok values =>
      match values.mapM (Json.print none) with
      | .error fault => throw (.fault fault)
      | .ok lines => return deliver (String.join (lines.map (· ++ "\n"))) none
  | _ => return {}

/-- Reads a schema and writes it again. -/
def runNormalize (folder : Folder) (reading : Reading) : List String → Except Stop Outcome
  | schemaPath :: output => do
    let schema ← loadSchema folder schemaPath
    let indent := ((reading.value? .indent).bind Text.integer?).getD 2
    match (Document.write [] schema).value with
    | .error fault => throw (.fault fault)
    | .ok document =>
      match document.print (some indent) with
      | .error fault => throw (.fault fault)
      | .ok text => return deliver (text ++ "\n") output.head?
  | [] => return {}

/-- Runs a command. -/
def runCommand (folder : Folder) (options : Options) (command : Command) (words : List String) :
    Except Stop Outcome := do
  let reading ← readLevel folder (.within command) true words
  atLevel (.within command) (judgeOperands folder command.arguments reading.operands)
  let paths := reading.operands.map folder.resolve
  match command with
  | .validate => runValidate folder options reading paths
  | .generate => runGenerate folder options reading paths
  | .normalize => runNormalize folder reading paths

/-- Whether a word looks like a switch although it is read as a command. -/
def looksLikeSwitch (word : String) : Bool :=
  word.toList.head?.any fun c => !Text.isAlphanumeric c.toNat

/-- Runs a command line, up to where it stops. -/
def runWords (folder : Folder) (words : List String) : Except Stop Outcome := do
  if words.isEmpty then throw (.help .program)
  let reading ← readLevel folder .program false words
  match reading.operands with
  | [] => throw (.usage .program .missingCommand)
  | name :: rest =>
    match Command.ofName? name with
    | none =>
      throw (if looksLikeSwitch name then .help .program
        else .usage .program (.noSuchCommand name))
    | some command =>
      let options ← loadOptions folder ((reading.value? .config).map folder.resolve)
      runCommand folder options command rest

/-- Runs a command line. -/
def run (folder : Folder) (words : List String) : Outcome :=
  match runWords folder words with
  | .ok outcome => outcome
  | .error stop => stop.outcome

/-- The paths that words may name: a word, what follows an equals sign in it, and what follows a
letter of a switch. -/
def namedPaths (words : List String) : List String :=
  words.flatMap fun word =>
    [word, String.ofList ((word.toList.dropWhile (· ≠ '=')).drop 1), String.ofList (word.toList.drop 2)]

end JsonSchema.CommandLine
