/-!
# Binary64 numbers

A finite double is a signed whole number of units of `2 ^ -1074`, so its arithmetic is arithmetic of
whole numbers followed by one rounding. The type holds the representable numbers only, with the two
infinities and one not-a-number. `Double.ofQuotient` is the one place where rounding happens: to the
nearest representable number, a tie to the even one, and to an infinity past the largest one.
-/

namespace JsonSchema

/-- A power of two. -/
def twoTo (exponent : Nat) : Nat := Nat.pow 2 exponent

/-- A power of ten. -/
def tenTo (exponent : Nat) : Nat := Nat.pow 10 exponent

/-- The number of units of `2 ^ -1074` in one. -/
def unitsPerOne : Nat := twoTo 1074

/-- A count of units that binary64 can hold: at most 53 significant bits, below `2 ^ 1024`. -/
def Representable (units : Nat) : Prop :=
  ∃ mantissa scale, mantissa < twoTo 53 ∧ scale ≤ 2045 ∧ units = mantissa * twoTo scale

/-- A binary64 number. -/
inductive Double where
  | nan
  | infinity (negative : Bool)
  | finite (negative : Bool) (units : Nat) (representable : Representable units)
deriving DecidableEq

/-- A place on the number line closed by the two infinities, in units of `2 ^ -1074`. -/
inductive Place where
  | below
  | at (units : Int)
  | above
deriving DecidableEq

namespace Place

/-- The order of the closed number line. -/
def lt : Place → Place → Bool
  | .below, .below => false
  | .below, _ => true
  | .at _, .below => false
  | .at a, .at b => a < b
  | .at _, .above => true
  | .above, _ => false

end Place

/-- The quotient rounded to the nearest whole number, a tie to the even one. -/
def roundDiv (num den : Nat) : Nat :=
  let whole := num / den
  let twice := 2 * (num % den)
  if twice < den then whole
  else if den < twice then whole + 1
  else if whole % 2 = 0 then whole else whole + 1

namespace Double

/-- Zero is representable. -/
theorem representable_zero : Representable 0 := ⟨0, 0, by decide, by decide, by decide⟩

/-- Positive zero. -/
def zero : Double := .finite false 0 representable_zero

/-- The double nearest to `num / den` units, with the given sign. -/
def ofQuotient (negative : Bool) (num den : Nat) : Double :=
  let scale := (num / den).log2 - 52
  let mantissa := roundDiv num (den * twoTo scale)
  if h : mantissa < twoTo 53 ∧ scale ≤ 2045 then
    .finite negative (mantissa * twoTo scale) ⟨mantissa, scale, h.1, h.2, rfl⟩
  else if h : mantissa = twoTo 53 ∧ scale ≤ 2044 then
    .finite negative (twoTo 52 * twoTo (scale + 1)) ⟨twoTo 52, scale + 1, by decide, by omega, rfl⟩
  else .infinity negative

/-- The double nearest to a signed count of units. -/
def ofUnits (units : Int) : Double := ofQuotient (units < 0) units.natAbs 1

/-- The double nearest to an integer, an infinity for one that is too large. -/
def ofInt (value : Int) : Double := ofUnits (value * unitsPerOne)

/-- The double nearest to half an integer. -/
def half (value : Int) : Double := ofQuotient (value < 0) (value.natAbs * unitsPerOne) 2

/-- The place of a double on the number line; not-a-number has none, and both zeros share one. -/
def place : Double → Option Place
  | .nan => none
  | .infinity negative => some (if negative then .below else .above)
  | .finite negative units _ => some (.at (if negative then -(units : Int) else units))

/-- Whether a double is finite. -/
def isFinite : Double → Bool
  | .finite .. => true
  | _ => false

/-- The integer that a double equals. -/
def toInt? : Double → Option Int
  | .finite negative units _ =>
    if units % unitsPerOne = 0 then
      some (if negative then -((units / unitsPerOne : Nat) : Int) else (units / unitsPerOne : Nat))
    else none
  | _ => none

/-- The negated double. -/
def neg : Double → Double
  | .nan => .nan
  | .infinity negative => .infinity (!negative)
  | .finite negative units representable => .finite (!negative) units representable

/-- The sum, rounded once; a sum of two negative zeros stays negative. -/
def add : Double → Double → Double
  | .nan, _ => .nan
  | _, .nan => .nan
  | .infinity a, .infinity b => if a = b then .infinity a else .nan
  | .infinity a, _ => .infinity a
  | _, .infinity b => .infinity b
  | .finite a m _, .finite b n _ =>
    let total := (if a then -(m : Int) else m) + (if b then -(n : Int) else n)
    if total = 0 then .finite (a && b) 0 representable_zero else ofUnits total

/-- What is left of a double that is not negative after taking away a positive one as often as it
goes in. -/
def mod : Double → Double → Double
  | .finite a m _, .finite b n _ => if n = 0 then .nan else if a || b then .nan else ofUnits (m % n : Nat)
  | .finite false m representable, .infinity false => .finite false m representable
  | _, _ => .nan

/-- The number of decimal digits of a number; zero has one. -/
def digitCount (n : Nat) : Nat := (Nat.toDigits 10 n).length

/-- The double nearest to `digits * 10 ^ exponent`. The first two tests only keep the powers small:
from `10 ^ 309` on every number rounds to infinity and below `10 ^ -324` every number to zero. -/
def ofDecimal (negative : Bool) (digits : Nat) (exponent : Int) : Double :=
  let size : Int := digitCount digits + exponent
  if digits = 0 ∨ size ≤ -324 then .finite negative 0 representable_zero
  else if 310 ≤ size then .infinity negative
  else if 0 ≤ exponent then ofQuotient negative (digits * tenTo exponent.toNat * unitsPerOne) 1
  else ofQuotient negative (digits * unitsPerOne) (tenTo (-exponent).toNat)

end Double

end JsonSchema
