import JsonSchema.Proofs.Number.Sums
import JsonSchema.Proofs.Validation.Faults

/-!
# Bounds of numbers

A number and a bound are both rounded to doubles before they are compared. Rounding keeps the order of
all numbers, also where integers without a double near to them become infinite, so a number that keeps to
its bounds is never reported. It may make different numbers equal, so a number beyond a bound can pass.
That does not happen to integers of at most `2 ^ 53`, which are doubles themselves.
-/

namespace JsonSchema

namespace Double

/-- Only an infinity stands at an end of the number line. -/
theorem eq_infinity_of_place {value : Double} {negative : Bool}
    (h : value.place = some (if negative then .below else .above)) : value = .infinity negative := by
  cases value with
  | nan => cases h
  | infinity other => cases other <;> cases negative <;> first | rfl | cases h
  | finite other units hunits => cases negative <;> cases h

/-- A double at a count of units is finite. -/
theorem isFinite_of_place {value : Double} {units : Int} (h : value.place = some (.at units)) :
    value.isFinite = true := by
  cases value with
  | nan => cases h
  | infinity negative => cases negative <;> cases h
  | finite negative units hunits => rfl

end Double

namespace Number

/-- The least integer that is too large for a double: it lies half a step beyond the greatest one. -/
def overflow : Nat := twoTo 1024 - twoTo 970

/-- An integer is rounded to the limit of doubles or beyond where it is too large. -/
theorem limit_le_roundedUnits_iff {value : Nat} :
    twoTo 2098 ≤ roundedUnits (value * unitsPerOne) ↔ overflow ≤ value := by
  constructor
  · intro hlimit
    by_contra hless
    have hmono := roundedUnits_mono (Nat.mul_le_mul_right unitsPerOne (Nat.le_pred_of_lt
      (Nat.lt_of_not_le hless)))
    have hbelow : roundedUnits (overflow.pred * unitsPerOne) < twoTo 2098 := by decide +kernel
    omega
  · intro hle
    have hmono := roundedUnits_mono (Nat.mul_le_mul_right unitsPerOne hle)
    have hlimit : roundedUnits (overflow * unitsPerOne) = twoTo 2098 := by decide +kernel
    omega

/-- An integer that is too large for a double becomes the infinity of its sign, and any other integer
becomes a finite double. -/
theorem widen_int (value : Int) :
    (overflow ≤ value.natAbs → (int value).widen = .infinity (decide (value < 0))) ∧
      (value.natAbs < overflow → (int value).widen.isFinite = true) := by
  have hpos : (0 : Int) < unitsPerOne := Int.natCast_pos.mpr (twoTo_pos 1074)
  have hless : value * unitsPerOne < 0 ↔ value < 0 := by
    have hscaled := @Int.mul_lt_mul_right unitsPerOne value 0 hpos
    rwa [Int.zero_mul] at hscaled
  have hsign : decide (value * unitsPerOne < 0) = decide (value < 0) := decide_eq_decide.mpr hless
  have hplace : (int value).widen.place = some (.limited (if decide (value < 0) then
      -(roundedUnits (value.natAbs * unitsPerOne) : Int)
      else roundedUnits (value.natAbs * unitsPerOne))) := by
    rw [widen, Double.ofInt, Double.ofUnits, Double.place_ofQuotient_one, hsign, Int.natAbs_mul,
      Int.natAbs_natCast]
  constructor
  · intro hlarge
    rw [Place.limited_of_le _ (limit_le_roundedUnits_iff.mpr hlarge)] at hplace
    exact Double.eq_infinity_of_place hplace
  · intro hsmall
    have hlt := Nat.lt_of_not_le (mt limit_le_roundedUnits_iff.mp (Nat.not_le.mpr hsmall))
    rw [Place.limited_of_lt _ hlt] at hplace
    exact Double.isFinite_of_place hplace

/-- Rounding to doubles keeps the order. -/
theorem widen_le_widen {a b : Number} (h : a.Le b) : (double a.widen).Le (double b.widen) := by
  have hpresent : ∀ {value : Number}, value ≠ .double .nan → double value.widen ≠ .double .nan := by
    intro value hvalue hnan
    cases value with
    | int value =>
      have hplace := Double.place_ofUnits (value * unitsPerOne)
      rw [show Double.ofUnits (value * unitsPerOne) = .nan from Number.double.inj hnan] at hplace
      cases hplace
    | double value => exact hvalue hnan
  exact ⟨hpresent h.1, hpresent h.2.1, widenLt_eq_false h.2.2⟩

/-- An integer of at most `2 ^ 53` is a double. -/
theorem place_widen_int {value : Int} (h : value.natAbs ≤ twoTo 53) :
    (int value).widen.place = (int value).place := by
  have hunits : Representable (value.natAbs * unitsPerOne) := by
    rcases Nat.lt_or_eq_of_le h with hlt | heq
    · exact ⟨value.natAbs, 1074, hlt, by decide, rfl⟩
    · exact ⟨twoTo 52, 1075, by decide, by decide, by rw [heq]; decide +kernel⟩
  have hrounded : roundedSigned (value * unitsPerOne) = value * unitsPerOne := by
    have hnatAbs : (value * unitsPerOne).natAbs = value.natAbs * unitsPerOne := by
      rw [Int.natAbs_mul, Int.natAbs_natCast]
    rw [roundedSigned, hnatAbs, hunits.roundedUnits_eq, ← hnatAbs]
    split <;> omega
  have hlt : (value * unitsPerOne).natAbs < twoTo 2098 := by
    rw [Int.natAbs_mul, Int.natAbs_natCast]
    exact hunits.lt_limit
  rw [place_widen, place, Option.map_some, Place.rounded, hrounded, Place.limited]
  generalize twoTo 2098 = limit at hlt ⊢
  grind

/-- Integers of at most `2 ^ 53` are compared exactly. -/
theorem widenLt_int {m n : Int} (hm : m.natAbs ≤ twoTo 53) (hn : n.natAbs ≤ twoTo 53) :
    (int m).widenLt (int n) = decide (m < n) := by
  rw [← int_lt_int, widenLt, lt, lt, place_double, place_double, place_widen_int hm,
    place_widen_int hn]

end Number

/-- A node for integers or for numbers that a number is of the right kind for, with what the node asks of
the number. -/
inductive Node.Measures : Node → NumberRules → Number → Prop
  | integer {docs : Documentation} {rules : NumberRules} {value : Number}
      (h : value.toInt?.isSome = true) : Measures (.integer docs rules) rules value
  | number {docs : Documentation} {rules : NumberRules} {value : Number} :
      Measures (.number docs rules) rules value

namespace Check

/-- The violations of a number are that it is not enumerated and that it is beyond a bound. -/
theorem mem_violations_numberTrace {rules : NumberRules} {value : Number} {violation : Violation} :
    violation ∈ (numberTrace rules value).violations ↔
      violation = ⟨[], .notInEnumeration⟩ ∧
        (rules.enum.any fun enum => !enum.any value.same) = true ∨
      (∃ bound, rules.range.least = some bound ∧ value.widenLt bound = true ∧
        violation = ⟨[], .lessThan bound⟩) ∨
      ∃ bound, rules.range.greatest = some bound ∧ bound.widenLt value = true ∧
        violation = ⟨[], .moreThan bound⟩ := by
  have hif : ∀ (condition : Bool) (found : Problem),
      violation ∈ (if condition then [(⟨[], found⟩ : Violation)] else []) ↔
        condition = true ∧ violation = ⟨[], found⟩ := by
    intro condition found
    cases condition <;> simp
  unfold numberTrace
  cases rules.range.least <;> cases rules.range.greatest <;>
    simp [hif, and_comm]

end Check

open Check in
/-- A number of the right kind is checked against what the node asks of it, wherever it is come to. -/
theorem Scope.result_checkAt_number {scope : Scope} {followable : List String} {pending : Thunks}
    {node : Node} {rules : NumberRules} {value : Number} (h : node.Measures rules value) :
    (scope.checkAt followable pending node (.number value)).result =
      .ok (numberTrace rules value).violations := by
  have htrace : scope.checkAt followable pending node (.number value) = numberTrace rules value := by
    cases h with
    | integer hvalue =>
      rw [checkAt_own rfl]
      simp only [ownTrace, hvalue, ↓reduceIte, parts, List.flatMap_nil, List.append_nil]
    | number =>
      rw [checkAt_own rfl]
      simp only [ownTrace, parts, List.flatMap_nil, List.append_nil]
  rw [htrace]
  exact Trace.result_eq_ok fun fault => not_meets_numberTrace

namespace Scope

open Number in
/-- Rounding to doubles keeps the order of numbers, with integers that are too large as infinities. So a
number of the right kind is not reported as less than a bound that it is at least, or as more than one
that it is at most, wherever it is checked. Of integers of at most `2 ^ 53` those beyond a bound are
reported, and no others. -/
theorem result_checkAt_bounds (scope : Scope) (followable : List String) (pending : Thunks)
    {node : Node} {rules : NumberRules} {value : Number} (h : node.Measures rules value) :
    (∀ a b : Number, a.Le b → (double a.widen).Le (double b.widen)) ∧
    (∀ n : Int, (overflow ≤ n.natAbs → (int n).widen = .infinity (decide (n < 0))) ∧
      (n.natAbs < overflow → (int n).widen.isFinite = true)) ∧
    ∃ found, (scope.checkAt followable pending node (.number value)).result = .ok found ∧
      (∀ bound, rules.range.least = some bound → bound.Le value →
        ∀ violation ∈ found, ∀ other, violation.problem ≠ .lessThan other) ∧
      (∀ bound, rules.range.greatest = some bound → value.Le bound →
        ∀ violation ∈ found, ∀ other, violation.problem ≠ .moreThan other) ∧
      ∀ m n : Int, value = .int m → m.natAbs ≤ twoTo 53 → n.natAbs ≤ twoTo 53 →
        (rules.range.least = some (.int n) → (⟨[], .lessThan (.int n)⟩ ∈ found ↔ m < n)) ∧
        (rules.range.greatest = some (.int n) → (⟨[], .moreThan (.int n)⟩ ∈ found ↔ n < m)) := by
  refine ⟨fun _ _ => widen_le_widen, widen_int, _, result_checkAt_number h, ?_, ?_, ?_⟩
  · intro bound hbound hle violation hviolation other hother
    rw [Check.mem_violations_numberTrace] at hviolation
    obtain ⟨rfl, -⟩ | ⟨least, hleast, hless, rfl⟩ | ⟨greatest, -, -, rfl⟩ := hviolation
    · cases hother
    · obtain rfl : bound = least := Option.some.inj (hbound.symm.trans hleast)
      rw [widenLt_eq_false hle.2.2] at hless
      cases hless
    · cases hother
  · intro bound hbound hle violation hviolation other hother
    rw [Check.mem_violations_numberTrace] at hviolation
    obtain ⟨rfl, -⟩ | ⟨least, -, -, rfl⟩ | ⟨greatest, hgreatest, hmore, rfl⟩ := hviolation
    · cases hother
    · cases hother
    · obtain rfl : bound = greatest := Option.some.inj (hbound.symm.trans hgreatest)
      rw [widenLt_eq_false hle.2.2] at hmore
      cases hmore
  · rintro m n rfl hm hn
    constructor
    · intro hleast
      simp [Check.mem_violations_numberTrace, hleast, widenLt_int hm hn]
    · intro hgreatest
      simp [Check.mem_violations_numberTrace, hgreatest, widenLt_int hn hm]

/-- Numbers from `2 ^ 1100` up to infinity. -/
def vast : NumberRules where
  range := ⟨some (.int (twoTo 1100)), some (.double (.infinity false))⟩

/-- An integer beyond all doubles is within bounds that go up to infinity. -/
theorem result_checkAt_bounds_vast : (Node.number {} vast).Measures vast (.int (twoTo 1200)) ∧
    ∃ found, ((Scope.ofNode [] [] {} (.number {} vast)).checkAt [] [] (.number {} vast)
        (.number (.int (twoTo 1200)))).result = .ok found ∧
      (∀ violation ∈ found, ∀ other, violation.problem ≠ .lessThan other) ∧
      ∀ violation ∈ found, ∀ other, violation.problem ≠ .moreThan other := by
  have hmeasures : (Node.number {} vast).Measures vast (.int (twoTo 1200)) := .number
  obtain ⟨-, -, found, hfound, hleast, hgreatest, -⟩ :=
    result_checkAt_bounds (Scope.ofNode [] [] {} (.number {} vast)) [] [] hmeasures
  refine ⟨hmeasures, found, hfound, hleast _ rfl ?_, hgreatest _ rfl ?_⟩
  · exact Number.int_le_int.mpr (by decide +kernel)
  · exact Number.le_of_place rfl rfl rfl

end Scope

end JsonSchema
