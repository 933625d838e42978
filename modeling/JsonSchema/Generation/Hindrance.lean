import JsonSchema.Pointer
import JsonSchema.Text.Quoted

/-!
# Schemas that nothing is generated for

The parts of a schema that the generator refuses, with the place of the part in the schema.
-/

namespace JsonSchema

/-- Why nothing is generated for a node. -/
inductive Hindrance where
  | reference (target : String)
  | oneOf
  | allOf
  | propertyCounts
  | emptyEnumeration
  | crossedRange
  | emptyChoice
deriving DecidableEq

namespace Hindrance

/-- The wording of a hindrance. -/
def message : Hindrance → String
  | .reference target => "cannot generate values for reference " ++ Text.quoted target
  | .oneOf => "cannot generate values for oneOf"
  | .allOf => "cannot generate values for allOf"
  | .propertyCounts => "cannot generate objects with minProperties or maxProperties"
  | .emptyEnumeration => "enumeration is empty"
  | .crossedRange => "minimum is greater than maximum"
  | .emptyChoice => "anyOf has no schemas to choose from"

end Hindrance

/-- A refused part of a schema. -/
structure RefusedPart where
  reason : Hindrance
  pointer : Pointer
deriving DecidableEq

namespace RefusedPart

/-- The wording of a refusal. -/
def message (refused : RefusedPart) : String := refused.pointer.text ++ ": " ++ refused.reason.message

end RefusedPart

end JsonSchema
