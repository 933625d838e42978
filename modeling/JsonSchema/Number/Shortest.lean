import JsonSchema.Number.Double

/-!
# The shortest decimal of a double

A double is written with the fewest decimal digits that read back as the same double, and among
those with the decimal nearest to it. The candidates for each digit count are the two neighbours of
the double on the decimal grid of that count, and they are compared in whole-number arithmetic.
`Double.text` then lays the digits out: positional from `10 ^ -4` up to `10 ^ 16`, with at least one
decimal, and in exponent form elsewhere.
-/

namespace JsonSchema

/-- A decimal number `digits * 10 ^ exponent`. -/
structure Decimal where
  digits : Nat
  exponent : Int
deriving DecidableEq

namespace Decimal

/-- Removes up to `fuel` zeros from the end of the digits, keeping the value. -/
def trim : Nat → Decimal → Decimal
  | 0, d => d
  | fuel + 1, d =>
    if d.digits ≠ 0 ∧ d.digits % 10 = 0 then trim fuel ⟨d.digits / 10, d.exponent + 1⟩ else d

end Decimal

/-- The numbers that round to one double, in units of `2 ^ -1076`, with the double itself. -/
structure RoundingInterval where
  low : Nat
  value : Nat
  high : Nat
  closed : Bool

namespace RoundingInterval

/-- The interval of a positive double: half a gap to each side, the gap below a power of two being
half as wide, and with its ends exactly when the mantissa is even. -/
def ofUnits (units : Nat) : RoundingInterval :=
  let scale := units.log2 - 52
  let mantissa := units / twoTo scale
  let below := if mantissa = twoTo 52 ∧ 0 < scale then twoTo scale else 2 * twoTo scale
  { low := 4 * units - below
    value := 4 * units
    high := 4 * units + 2 * twoTo scale
    closed := mantissa % 2 = 0 }

/-- Whether `candidate / scale` lies in the interval. -/
def holds (interval : RoundingInterval) (candidate scale : Nat) : Bool :=
  if interval.closed then interval.low * scale ≤ candidate && candidate ≤ interval.high * scale
  else interval.low * scale < candidate && candidate < interval.high * scale

/-- The grid point of step `10 ^ exponent` nearest to the double among its two neighbours that lie
in the interval; a tie goes to the even one. -/
def onGrid? (interval : RoundingInterval) (exponent : Int) : Option Nat :=
  let step := 4 * unitsPerOne * tenTo exponent.toNat
  let scale := tenTo (-exponent).toNat
  let value := interval.value * scale
  let down := value / step
  let up := down + 1
  match interval.holds (down * step) scale, interval.holds (up * step) scale with
  | true, true =>
    let toDown := value - down * step
    let toUp := up * step - value
    if toDown < toUp then some down
    else if toUp < toDown then some up
    else if down % 2 = 0 then some down else some up
  | true, false => some down
  | false, true => some up
  | false, false => none

/-- The first grid that has a point of the interval, from the given exponent down. -/
def shortest : Nat → RoundingInterval → Int → Decimal
  | 0, interval, exponent =>
    ⟨interval.value * tenTo (-exponent).toNat / (4 * unitsPerOne * tenTo exponent.toNat), exponent⟩
  | fuel + 1, interval, exponent =>
    match interval.onGrid? exponent with
    | some digits => ⟨digits, exponent⟩
    | none => shortest fuel interval (exponent - 1)

end RoundingInterval

namespace Double

/-- The exponent of the first digit of a positive number below one: the least number of decimal
shifts that bring it to one or more. -/
def leadingBelowOne : Nat → Nat → Int → Int
  | 0, _, exponent => exponent
  | fuel + 1, units, exponent =>
    if unitsPerOne ≤ units then exponent else leadingBelowOne fuel (units * 10) (exponent - 1)

/-- The exponent of the first decimal digit of a positive count of units. -/
def leading (units : Nat) : Int :=
  if unitsPerOne ≤ units then digitCount (units / unitsPerOne) - 1 else leadingBelowOne 324 units 0

/-- The shortest decimal that reads back as the given positive count of units. -/
def shortest (units : Nat) : Decimal :=
  (RoundingInterval.shortest 17 (.ofUnits units) (leading units)).trim 17

/-- An exponent with its sign and at least two digits. -/
def exponentText (exponent : Int) : String :=
  let digits := toString exponent.natAbs
  (if exponent < 0 then "e-" else "e+") ++ (if exponent.natAbs < 10 then "0" else "") ++ digits

/-- Lays out the digits of a decimal. -/
def layout (d : Decimal) : String :=
  let digits := Nat.toDigits 10 d.digits
  let point : Int := digits.length + d.exponent
  if point ≤ -4 ∨ 16 < point then
    let fraction := digits.drop 1
    String.ofList (digits.take 1 ++ (if fraction.isEmpty then [] else '.' :: fraction)) ++
      exponentText (point - 1)
  else if point ≤ 0 then
    String.ofList ('0' :: '.' :: List.replicate (-point).toNat '0' ++ digits)
  else
    let whole := point.toNat
    let fraction := digits.drop whole
    String.ofList (digits.take whole ++ List.replicate (whole - digits.length) '0' ++
      '.' :: (if fraction.isEmpty then ['0'] else fraction))

/-- How the numbers that are not finite are spelled. -/
structure Spelling where
  nan : String
  infinity : String

/-- The text of a double. -/
def text (spelling : Spelling) : Double → String
  | .nan => spelling.nan
  | .infinity negative => (if negative then "-" else "") ++ spelling.infinity
  | .finite negative units _ =>
    (if negative then "-" else "") ++ if units = 0 then "0.0" else layout (shortest units)

end Double

end JsonSchema
