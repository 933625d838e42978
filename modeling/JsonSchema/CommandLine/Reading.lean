import JsonSchema.CommandLine.Command

/-!
# Reading a command line

Words that start with a dash are switches, up to a lone double dash; a lone dash is no switch. A
value stands after an equals sign, after the letter in the same word, or in the next word, whatever
that looks like. Letters of switches without values may share a word. At the program's own level the
first word that is no switch ends the reading; a command's switches and arguments may be mixed.
-/

namespace JsonSchema.CommandLine

/-- The switches that a command line uses, in order and with their values, and the other words. -/
structure Reading where
  uses : List (Switch × String) := []
  operands : List String := []
deriving DecidableEq

namespace Reading

/-- Adds switches at the front. -/
def afterUses (uses : List (Switch × String)) (reading : Reading) : Reading :=
  { reading with uses := uses ++ reading.uses }

/-- Adds a word that is no switch at the front. -/
def afterOperand (word : String) (reading : Reading) : Reading :=
  { reading with operands := word :: reading.operands }

/-- The value of a switch; the last use counts. -/
def value? (reading : Reading) (switch : Switch) : Option String :=
  (reading.uses.reverse.find? (·.1 = switch)).map Prod.snd

/-- Whether a switch is used. -/
def has (reading : Reading) (switch : Switch) : Bool := (reading.value? switch).isSome

/-- The switches that are used, in order of their first uses. -/
def used (reading : Reading) : List Switch := (reading.uses.map Prod.fst).eraseDups

end Reading

/-- The switches of one word, with a last one that takes its value from the next word. -/
structure WordReading where
  uses : List (Switch × String) := []
  open? : Option (Switch × String) := none

namespace WordReading

/-- The parts of a word before and after its first equals sign. -/
def splitValue (word : List Char) : List Char × Option (List Char) :=
  match word.dropWhile (· ≠ '=') with
  | [] => (word, none)
  | _ :: value => (word.takeWhile (· ≠ '='), some value)

/-- The reading of a long switch. -/
def ofLong (switch : Switch) (value : Option String) : Except UsageError WordReading :=
  match switch.takesValue, value with
  | true, some value => .ok { uses := [(switch, value)] }
  | true, none => .ok { open? := some (switch, switch.long) }
  | false, some _ => .error (.valueUnwanted switch.long)
  | false, none => .ok { uses := [(switch, "")] }

/-- The reading of letters that share a word. -/
def ofLetters (switches : List Switch) : List Char → Except UsageError WordReading
  | [] => .ok {}
  | letter :: rest =>
    match switches.find? (·.letter? = some letter) with
    | none => .error (.noSuchSwitch (Switch.short letter) [])
    | some switch =>
      if switch.takesValue then
        if rest.isEmpty then .ok { open? := some (switch, Switch.short letter) }
        else .ok { uses := [(switch, String.ofList rest)] }
      else
        (ofLetters switches rest).map fun others =>
          { others with uses := (switch, "") :: others.uses }

/-- The reading of a word that starts with a dash. -/
def ofWord (switches : List Switch) (word : String) : Except UsageError WordReading :=
  let (name, value) := splitValue word.toList
  match switches.find? (·.long = String.ofList name) with
  | some switch => ofLong switch (value.map String.ofList)
  | none =>
    if word.startsWith "--" then
      .error (.noSuchSwitch (String.ofList name)
        (Similar.similar (String.ofList name) (switches.map Switch.long)))
    else ofLetters switches (word.toList.drop 1)

end WordReading

/-- Whether a word is read as a switch. -/
def isSwitch (word : String) : Bool := word.startsWith "-" && word ≠ "-"

/-- The reading of words, up to the first that is no switch where switches and arguments are not
mixed. -/
def read (switches : List Switch) (mixed : Bool) : List String → Except UsageError Reading
  | [] => .ok {}
  | word :: rest =>
    if word = "--" then .ok { operands := rest }
    else if isSwitch word then
      match WordReading.ofWord switches word with
      | .error error => .error error
      | .ok ⟨uses, none⟩ => (read switches mixed rest).map (·.afterUses uses)
      | .ok ⟨uses, some (switch, name)⟩ =>
        match rest with
        | [] => .error (.valueMissing name)
        | value :: rest => (read switches mixed rest).map (·.afterUses (uses ++ [(switch, value)]))
    else if mixed then (read switches mixed rest).map (·.afterOperand word)
    else .ok { operands := word :: rest }

end JsonSchema.CommandLine
