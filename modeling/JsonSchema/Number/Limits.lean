import JsonSchema.Number.Double

/-!
# Limits on integers

Integers are of any size, but not everything that is done with them is. Only integers of so many digits
are turned into decimal numerals or made from them, and only those of 64 bits count items.
-/

namespace JsonSchema

/-- The largest number of digits of a numeral that is read as an integer or written for one. -/
def digitLimit : Nat := 4300

/-- Whether an integer is written as a numeral: it has at most `digitLimit` digits. -/
def hasNumeral (value : Int) : Bool := value.natAbs < tenTo digitLimit

/-- Whether an integer counts items: it is a signed integer of 64 bits. -/
def isCount (value : Int) : Bool := -(twoTo 63 : Int) ≤ value && value < twoTo 63

end JsonSchema
