/-!
# Documents of no known shape

Why a document is kept verbatim although its keywords name a known kind of node: an attribute that is
not of the JSON kind that its keyword asks for.
-/

namespace JsonSchema

/-- What a keyword asks its attribute to be. -/
inductive AttributeKind where
  | string | integer | number | array | object | strings
deriving DecidableEq

namespace AttributeKind

/-- The wording of what a keyword asks for. -/
def wording : AttributeKind → String
  | .string => "a string"
  | .integer => "an integer"
  | .number => "a number"
  | .array => "an array"
  | .object => "an object"
  | .strings => "an array of strings"

end AttributeKind

/-- Why a document is kept verbatim. -/
inductive Mismatch where
  | malformed (keyword : String) (asked : AttributeKind)
  | enumeration
  | tupleItems
deriving DecidableEq

namespace Mismatch

/-- The wording of a mismatch. -/
def message : Mismatch → String
  | .malformed keyword asked => keyword ++ " must be " ++ asked.wording
  | .enumeration => "enum does not match the schema type"
  | .tupleItems => "items of a tuple must be an array"

end Mismatch

end JsonSchema
