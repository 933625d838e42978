import JsonSchema.Fault
import JsonSchema.Json.Writer
import JsonSchema.Pointer
import JsonSchema.Text.Quoted

/-!
# Problems of values

A problem says in which way a value does not satisfy a node, and a violation says where in the value
the problem was found. Both have a wording, except where it would spell an integer that has no numeral.
-/

namespace JsonSchema

/-- What a node asks a value to be. -/
inductive Asked where
  | object | array | string | integer | number | boolean | null
deriving DecidableEq

namespace Asked

/-- The wording of what is asked. -/
def wording : Asked → String
  | .object => "an object"
  | .array => "an array"
  | .string => "a string"
  | .integer => "an integer"
  | .number => "a number"
  | .boolean => "a boolean"
  | .null => "null"

end Asked

/-- Why a value cannot be checked any further. -/
inductive Misfit where
  | kind (asked : Asked) (found : Kind)
  | badPattern (pattern complaint : String)
  | circular (target : String)
  | unresolved (target : String)
  | other (message : String)
deriving DecidableEq

namespace Misfit

/-- The wording of a misfit. -/
def message : Misfit → String
  | .kind asked found => "Expected " ++ asked.wording ++ ", got " ++ found.name
  | .badPattern pattern complaint => "Invalid pattern " ++ Text.quoted pattern ++ ": " ++ complaint
  | .circular target => "Circular reference " ++ Text.quoted target
  | .unresolved target => "Unresolved reference " ++ Text.quoted target
  | .other message => message

end Misfit

/-- In which way a value does not satisfy a node. -/
inductive Problem where
  | shorterThan (length : Int)
  | longerThan (length : Int)
  | unmatchedPattern (pattern : String)
  | notInEnumeration
  | missingProperty (name : String)
  | fewerItemsThan (count : Int)
  | moreItemsThan (count : Int)
  | lessThan (bound : Number)
  | moreThan (bound : Number)
  | tooManyMatches
  | tooFewMatches
  | misfit (cause : Misfit)
deriving DecidableEq

namespace Problem

/-- The integer that the wording of a problem spells. -/
def numeral? : Problem → Option Int
  | .shorterThan length | .longerThan length => some length
  | .fewerItemsThan count | .moreItemsThan count => some count
  | .lessThan bound | .moreThan bound => bound.numeral?
  | _ => none

/-- The wording of a problem, with integers of any size in full. -/
def wording : Problem → String
  | .shorterThan length => "must be at least " ++ toString length ++ " characters long"
  | .longerThan length => "must be at most " ++ toString length ++ " characters long"
  | .unmatchedPattern pattern => "must match pattern " ++ Text.quoted pattern
  | .notInEnumeration => "is not one of the enumerated values"
  | .missingProperty name => "is missing required property " ++ Text.quoted name
  | .fewerItemsThan count => "must have at least " ++ toString count ++ " items"
  | .moreItemsThan count => "must have at most " ++ toString count ++ " items"
  | .lessThan bound => "must be >= " ++ bound.text Number.plainSpelling
  | .moreThan bound => "must be <= " ++ bound.text Number.plainSpelling
  | .tooManyMatches => "matches more than one of the oneOf schemas"
  | .tooFewMatches => "does not match enough of the combined schemas"
  | .misfit cause => cause.message

/-- The wording of a problem, unless its integer has no numeral. -/
def message (problem : Problem) : Except Fault String :=
  if problem.numeral?.all hasNumeral then .ok problem.wording else .error .noNumeral

end Problem

/-- A problem and where in the value it was found. -/
structure Violation where
  pointer : Pointer
  problem : Problem
deriving DecidableEq

namespace Violation

/-- The wording of a violation, if its problem has one. -/
def message (violation : Violation) : Except Fault String := do
  return violation.pointer.text ++ ": " ++ (← violation.problem.message)

/-- The violation as seen from a value that holds the checked one under a segment. -/
def under (segment : String) (violation : Violation) : Violation :=
  { violation with pointer := segment :: violation.pointer }

end Violation

end JsonSchema
