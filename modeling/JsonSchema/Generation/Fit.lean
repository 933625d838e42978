import JsonSchema.Node.Basic

/-!
# Fitting lengths

A text is fitted to bounds of its length: one that is too short is doubled, with a letter after it,
until it is long enough, and one that is too long is cut. A negative upper bound cuts from the end.
-/

namespace JsonSchema.Fit

/-- How many of so many items an upper bound keeps; a negative one leaves out as many at the end. -/
def kept (count : Nat) : Option Int → Nat
  | none => count
  | some greatest => if 0 ≤ greatest then min count greatest.toNat else count - greatest.natAbs

/-- Doubles a text, with a letter after it, until it has a number of characters. -/
def pad (least : Nat) (value : List Char) : List Char :=
  if value.length < least then pad least (value ++ value ++ ['x']) else value
termination_by least - value.length
decreasing_by simp; omega

/-- A text fitted to bounds of its length. -/
def fit (length : Bounds Int) (value : List Char) : List Char :=
  let padded := pad (length.least.getD 0).toNat value
  padded.take (kept padded.length length.greatest)

end JsonSchema.Fit
