import JsonSchema.Fault
import JsonSchema.Validation.Check

/-!
# Options

Options come in two sections, for validation and for generation, and each option has a default.
A section is read from a JSON object: values of any kind are stored as they are, and names that are
no options are passed over. Four names do not name options but parts of the section itself; what is
given for them is refused at once or when the section is written.
-/

namespace JsonSchema

/-- Why options cannot be read or written. -/
inductive OptionsError where
  | classReplaced (found : Kind)
  | tableReplaced (found : Kind)
  | weakReference (owner : String)
  | notCallable (found : Kind)
deriving DecidableEq

namespace OptionsError

/-- The wording of an error. -/
def message : OptionsError → String
  | .classReplaced found => "__class__ must be set to a class, not '" ++ found.operandName ++ "' object"
  | .tableReplaced found => "__dict__ must be set to a dictionary, not a '" ++ found.operandName ++ "'"
  | .weakReference owner =>
    "attribute '__weakref__' of '" ++ owner ++ "' objects is not writable"
  | .notCallable found => "'" ++ found.operandName ++ "' object is not callable"

end OptionsError

/-- A group of options. -/
inductive SectionKind where
  | validation
  | generation
deriving DecidableEq

namespace SectionKind

/-- The options of a section with their defaults, in order. -/
def defaults : SectionKind → Entries Json
  | .validation => [("strict_refs", .bool false), ("enforce_property_bounds", .bool false)]
  | .generation =>
    [("array_length_slack", .number (.int 10)), ("tuple_filler_slack", .number (.int 100)),
      ("boundary_offset", .number (.int 10))]

/-- What a section is called in errors. -/
def owner : SectionKind → String
  | .validation => "ValidatorConfig"
  | .generation => "FuzzConfig"

/-- The name under which a section is written. -/
def exportName : String := "to_dict"

/-- Whether a value can be stored under a name. -/
def knows (kind : SectionKind) (name : String) : Bool :=
  (Entries.names kind.defaults).contains name || name = exportName

end SectionKind

/-- A group of options with the values that are stored in it. -/
structure OptionSection where
  kind : SectionKind
  stored : Entries Json := []

namespace OptionSection

/-- The value of an option. -/
def value (options : OptionSection) (name : String) : Json :=
  ((Entries.find? name options.stored).or (Entries.find? name options.kind.defaults)).getD .null

/-- Stores one entry. -/
def store (options : OptionSection) (name : String) (given : Json) :
    Except OptionsError OptionSection :=
  if name = "__class__" then .error (.classReplaced given.kind)
  else if name = "__weakref__" then .error (.weakReference options.kind.owner)
  else if name = "__dict__" then
    match given with
    | .object members => .ok { options with stored := members }
    | given => .error (.tableReplaced given.kind)
  else if options.kind.knows name then
    .ok { options with stored := Entries.put name given options.stored }
  else .ok options

/-- Stores entries in order. -/
def storeAll (options : OptionSection) : Entries Json → Except OptionsError OptionSection
  | [] => .ok options
  | (name, given) :: rest =>
    match options.store name given with
    | .ok options => options.storeAll rest
    | .error error => .error error

/-- The section that a JSON object gives. -/
def read (kind : SectionKind) (members : Entries Json) : Except OptionsError OptionSection :=
  storeAll { kind } members

/-- The options with their values, in order. -/
def toEntries (options : OptionSection) : Entries Json :=
  options.kind.defaults.map fun (name, _) => (name, options.value name)

/-- The JSON object of a section. -/
def write (options : OptionSection) : Except OptionsError Json :=
  match Entries.find? SectionKind.exportName options.stored with
  | some given => .error (.notCallable given.kind)
  | none => .ok (.object options.toEntries)

/-- Equality of sections: every option has equal values. -/
def same (a b : OptionSection) : Bool := Json.sameMembers a.toEntries b.toEntries

/-- How strictly values are checked; any value that is not empty, zero or false switches on. -/
def strictness (options : OptionSection) : Strictness where
  unresolvedFails := (options.value "strict_refs").holds
  countsProperties := (options.value "enforce_property_bounds").holds

end OptionSection

/-- The options of both sections. -/
structure Options where
  validation : OptionSection := { kind := .validation }
  generation : OptionSection := { kind := .generation }

namespace Options

/-- The section that a JSON object gives under a name, the default where it gives no object. -/
def readSection (members : Entries Json) (name : String) (kind : SectionKind) :
    Except OptionsError OptionSection :=
  match Entries.find? name members with
  | some (.object members) => OptionSection.read kind members
  | _ => .ok { kind }

/-- The options that a JSON object gives. -/
def read (members : Entries Json) : Except OptionsError Options := do
  let validation ← readSection members "validator" .validation
  let generation ← readSection members "fuzz" .generation
  return { validation, generation }

/-- The JSON object of options. -/
def write (options : Options) : Except OptionsError Json := do
  let validation ← options.validation.write
  let generation ← options.generation.write
  return .object [("validator", validation), ("fuzz", generation)]

/-- Equality of options. -/
def same (a b : Options) : Bool := a.validation.same b.validation && a.generation.same b.generation

end Options

end JsonSchema
