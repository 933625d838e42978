import JsonSchema.Json.Basic

/-!
# Schema nodes

A schema is a root node with named definitions, which references in the nodes speak of. Nodes of all
kinds stand in one inductive type. A deferred node names a suspended node of a table, so a schema
with deferred nodes can be infinite although each node is finite. A verbatim node keeps a document
of no known shape and accepts every value.
-/

namespace JsonSchema

/-- The text that documents a node. -/
structure Documentation where
  title : Option String := none
  description : Option String := none
  examples : List Json := []

/-- Optional lower and upper bounds, both inclusive. -/
structure Bounds (α : Type) where
  least : Option α := none
  greatest : Option α := none
deriving DecidableEq

/-- The string formats with a meaning of their own. -/
inductive NamedFormat where
  | dateTime | email | hostname | ipv4 | ipv6 | uri
deriving DecidableEq

namespace NamedFormat

/-- The label of a format. -/
def label : NamedFormat → String
  | .dateTime => "date-time"
  | .email => "email"
  | .hostname => "hostname"
  | .ipv4 => "ipv4"
  | .ipv6 => "ipv6"
  | .uri => "uri"

/-- All formats. -/
def all : List NamedFormat := [.dateTime, .email, .hostname, .ipv4, .ipv6, .uri]

/-- The format of a label. -/
def ofLabel? (label : String) : Option NamedFormat := all.find? (·.label = label)

end NamedFormat

/-- A string format: a named one, or any other label. -/
inductive Format where
  | named (format : NamedFormat)
  | custom (label : String)
deriving DecidableEq

namespace Format

/-- The label of a format. -/
def label : Format → String
  | .named format => format.label
  | .custom label => label

/-- The format of a label, a named one where there is one. -/
def ofLabel (label : String) : Format :=
  match NamedFormat.ofLabel? label with
  | some format => .named format
  | none => .custom label

end Format

/-- What a string node asks of a string. -/
structure StringRules where
  enum : Option (List String) := none
  length : Bounds Int := {}
  pattern : Option String := none
  format : Option Format := none

/-- What a node for integers or numbers asks of a number. -/
structure NumberRules where
  enum : Option (List Number) := none
  range : Bounds Number := {}

/-- How a combination counts the members that accept a value: exactly one, at least one, or all. -/
inductive Combination where
  | oneOf | anyOf | allOf
deriving DecidableEq

namespace Combination

/-- The keyword of a combination in documents. -/
def keyword : Combination → String
  | .oneOf => "oneOf"
  | .anyOf => "anyOf"
  | .allOf => "allOf"

end Combination

/-- A named property with the schema of its values. -/
structure Property (α : Type) where
  name : String
  schema : α
  required : Bool

/-- A schema node. -/
inductive Node where
  | object (docs : Documentation) (properties : List (Property Node)) (count : Bounds Int)
  | array (docs : Documentation) (items : Option Node) (length : Bounds Int)
  | tuple (docs : Documentation) (items : List Node) (additional : Option Node)
      (length : Bounds Int)
  | string (docs : Documentation) (rules : StringRules)
  | integer (docs : Documentation) (rules : NumberRules)
  | number (docs : Documentation) (rules : NumberRules)
  | boolean (docs : Documentation) (enum : Option (List Bool))
  | null (docs : Documentation)
  | reference (docs : Documentation) (target : String)
  | combined (docs : Documentation) (how : Combination) (members : List Node)
  | deferred (thunk : Option String)
  | verbatim (document : Json)
  | unknown

/-- Named nodes. -/
abbrev Definitions := Entries Node

/-- A schema: a root node and the definitions that references speak of. -/
structure Schema where
  root : Node
  definitions : Definitions := []

mutual

/-- The reference strings in a node, deferred nodes not followed. -/
def Node.references : Node → List String
  | .object _ properties _ => propertyReferences properties
  | .array _ (some items) _ => items.references
  | .tuple _ items none _ => listReferences items
  | .tuple _ items (some additional) _ => listReferences items ++ additional.references
  | .reference _ target => [target]
  | .combined _ _ members => listReferences members
  | _ => []

/-- The reference strings in nodes. -/
def listReferences : List Node → List String
  | [] => []
  | node :: rest => node.references ++ listReferences rest

/-- The reference strings in properties. -/
def propertyReferences : List (Property Node) → List String
  | [] => []
  | ⟨_, schema, _⟩ :: rest => schema.references ++ propertyReferences rest

end

end JsonSchema
