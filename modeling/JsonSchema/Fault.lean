import JsonSchema.Json.Reader

/-!
# Faults

A fault ends a computation that met misuse of a schema and not a problem of a value: a deferred node
without a body, a node of no known kind, limits and clashes in patterns, options that no sum can be
taken of, integers beyond the limits. A deferred node that is forced for ever without reaching anything
new is a fault too.
-/

namespace JsonSchema

/-- A sum or a difference. -/
inductive SumSign where
  | plus | minus
deriving DecidableEq

namespace SumSign

/-- The sign as it is written. -/
def text : SumSign → String
  | .plus => "+"
  | .minus => "-"

/-- The sum or the difference of two numbers. -/
def combine : SumSign → Number → Number → Number
  | .plus, a, b => a.add b
  | .minus, a, b => a.sub b

end SumSign

/-- Why a computation ends. -/
inductive Fault where
  | noThunk
  | unknownNode
  | repetitionLimit
  | repertoireClash
  | digitLimit (count : Nat)
  | noSum (sign : SumSign) (left right : Kind)
  | tooLarge
  | noNumeral
  | noCount
  | noRoom
  | endless
deriving DecidableEq

namespace Kind

/-- The name of a kind in the wording of faults about operands. -/
def operandName : Kind → String
  | .null => "NoneType"
  | .boolean => "bool"
  | .integer => "int"
  | .number => "float"
  | .string => "str"
  | .array => "list"
  | .object => "dict"

end Kind

namespace Fault

/-- The wording of a fault. -/
def message : Fault → String
  | .noThunk => "LazyNode has no thunk"
  | .unknownNode => "Unknown schema node: SchemaNode"
  | .repetitionLimit => "the repetition number is too large"
  | .repertoireClash => "ASCII and UNICODE flags are incompatible"
  | .digitLimit count => (ReadError.tooManyDigits count).message
  | .noSum sign left right =>
    "unsupported operand type(s) for " ++ sign.text ++ ": '" ++ left.operandName ++ "' and '" ++
      right.operandName ++ "'"
  | .tooLarge => "int too large to convert to float"
  | .noNumeral =>
    s!"Exceeds the limit ({JsonSchema.digitLimit} digits) for integer string conversion; use " ++
      "sys.set_int_max_str_digits() to increase the limit"
  | .noCount => "cannot fit 'int' into an index-sized integer"
  | .noRoom => ""
  | .endless => "deferred nodes are forced without end"

end Fault

end JsonSchema
