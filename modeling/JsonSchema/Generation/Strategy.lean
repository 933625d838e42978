import JsonSchema.Fault
import JsonSchema.Generation.Hindrance
import JsonSchema.Node.Basic

/-!
# Strategies

A strategy describes the values that may be drawn for a schema. It is finite where the schema is
recursive too: a deferred strategy names a suspended node, which is planned only when it is drawn
from.
-/

namespace JsonSchema

/-- A description of the values that may be drawn. -/
inductive Strategy where
  | null
  | boolean
  | text (length : Bounds Int)
  | just (value : Json)
  | choice (values : List Json)
  | integer (range : Bounds Number)
  | double (range : Bounds Number)
  | list (item : Strategy) (least : Int) (greatest : Number)
  | tuple (items : List Strategy) (filler : Strategy) (least : Int) (greatest : Number)
  | oneOf (members : List Strategy)
  | object (required optional : List (String × Strategy))
  | deferred (thunk : Option String) (pointer : Pointer)

/-- What stands in the way of a strategy or of a value. -/
inductive Obstacle where
  | refused (part : RefusedPart)
  | fault (fault : Fault)
deriving DecidableEq

end JsonSchema
