import JsonSchema.Number.Double

/-!
# Numbers

A JSON number is an integer of any size or a double, and the two stay apart: `2` and `2.0` are
different numbers with one place on the number line. `Number.same` compares places exactly, so no
integer is rounded for it. `Number.widen` rounds to a double, which bounds are compared through.
-/

namespace JsonSchema

/-- An integer of any size, or a double. -/
inductive Number where
  | int (value : Int)
  | double (value : Double)
deriving DecidableEq

namespace Number

/-- The place of a number on the closed number line. -/
def place : Number → Option Place
  | .int value => some (.at (value * unitsPerOne))
  | .double value => value.place

/-- Equality of value: equal places, and not-a-number equals itself. -/
def same (a b : Number) : Bool := a.place == b.place

/-- The exact order; a comparison with not-a-number is false. -/
def lt (a b : Number) : Bool :=
  match a.place, b.place with
  | some p, some q => p.lt q
  | _, _ => false

/-- The double nearest to a number, an infinity for an integer that is too large. -/
def widen : Number → Double
  | .int value => .ofInt value
  | .double value => value

/-- The order of the numbers rounded to doubles. -/
def widenLt (a b : Number) : Bool := lt (.double a.widen) (.double b.widen)

/-- The integer that a number equals. -/
def toInt? : Number → Option Int
  | .int value => some value
  | .double value => value.toInt?

/-- The sum, exact for two integers and otherwise a double. -/
def add : Number → Number → Number
  | .int a, .int b => .int (a + b)
  | a, b => .double (a.widen.add b.widen)

/-- The negated number. -/
def neg : Number → Number
  | .int a => .int (-a)
  | .double a => .double a.neg

/-- The difference, exact for two integers and otherwise a double. -/
def sub (a b : Number) : Number := a.add b.neg

/-- What is left of a number that is not negative after taking away a positive one as often as it
goes in, exact for two integers and otherwise a double. -/
def mod : Number → Number → Number
  | .int a, .int b => .int (a % b)
  | a, b => .double (a.widen.mod b.widen)

/-- Whether the number is zero. -/
def isZero (a : Number) : Bool := a.same (.int 0)

end Number

end JsonSchema
