import JsonSchema.Number.Basic

/-!
# Rounding keeps the order

A number is rounded to a double by rounding its count of units to 53 significant bits, and counts
from `2 ^ 2098` on become infinite. Both steps keep the order of numbers, except that different
numbers may become equal, and both leave doubles alone. So what is less after rounding was less
before.
-/

namespace JsonSchema

/-- Powers of two are positive. -/
theorem twoTo_pos (exponent : Nat) : 0 < twoTo exponent := Nat.two_pow_pos exponent

/-- Exponents add up. -/
theorem twoTo_add (m n : Nat) : twoTo (m + n) = twoTo m * twoTo n := Nat.pow_add 2 m n

/-- A greater exponent gives a greater power. -/
theorem twoTo_le_twoTo {m n : Nat} (h : m ≤ n) : twoTo m ≤ twoTo n :=
  Nat.pow_le_pow_right (by decide) h

/-- A power of two is a power of two times a smaller one. -/
theorem twoTo_dvd_twoTo {m n : Nat} (h : m ≤ n) : twoTo m ∣ twoTo n := Nat.pow_dvd_pow 2 h

section Division

variable {a b den : Nat}

/-- Rounding goes up from the whole part of a quotient or stays there. -/
theorem div_le_roundDiv : a / den ≤ roundDiv a den := by
  unfold roundDiv
  grind

/-- Rounding goes up by at most one. -/
theorem roundDiv_le_div_succ : roundDiv a den ≤ a / den + 1 := by
  unfold roundDiv
  grind

/-- A quotient without remainder is not rounded. -/
theorem roundDiv_of_dvd (hden : 0 < den) (h : den ∣ a) : roundDiv a den = a / den := by
  have hmod : a % den = 0 := Nat.mod_eq_zero_of_dvd h
  simp [roundDiv, hmod, hden]

/-- A greater number has no smaller rounded quotient. -/
theorem roundDiv_mono (h : a ≤ b) : roundDiv a den ≤ roundDiv b den := by
  have hdiv : a / den ≤ b / den := Nat.div_le_div_right h
  by_cases hlt : a / den < b / den
  · calc
      roundDiv a den ≤ a / den + 1 := roundDiv_le_div_succ
      _ ≤ b / den := hlt
      _ ≤ roundDiv b den := div_le_roundDiv
  · -- With one whole part, the remainders are compared with half of the divisor.
    have heq : a / den = b / den := by omega
    have ha := Nat.div_add_mod a den
    have hb := Nat.div_add_mod b den
    rw [heq] at ha
    have hmod : a % den ≤ b % den := by omega
    unfold roundDiv
    rw [heq]
    grind

end Division

/-- How many of the last bits of a count of units a double has no room for. -/
def droppedBits (units : Nat) : Nat := units.log2 - 52

/-- A count of units rounded to 53 significant bits, a tie to the even one. -/
def roundedUnits (units : Nat) : Nat :=
  roundDiv units (twoTo (droppedBits units)) * twoTo (droppedBits units)

section Units

variable {units : Nat}

/-- The bits that are kept are at most 53. -/
theorem div_twoTo_droppedBits_lt : units / twoTo (droppedBits units) < twoTo 53 := by
  have hlt : units < twoTo (units.log2 + 1) := Nat.lt_log2_self
  have hle : twoTo (units.log2 + 1) ≤ twoTo (53 + droppedBits units) :=
    twoTo_le_twoTo (by unfold droppedBits; omega)
  rw [Nat.div_lt_iff_lt_mul (twoTo_pos _), ← twoTo_add]
  exact Nat.lt_of_lt_of_le hlt hle

/-- Where bits are dropped, 53 are kept. -/
theorem twoTo_le_div_twoTo_droppedBits (h : 0 < droppedBits units) :
    twoTo 52 ≤ units / twoTo (droppedBits units) := by
  have hlog : 52 + droppedBits units = units.log2 := by
    unfold droppedBits at h ⊢
    omega
  have hunits : units ≠ 0 := by
    rintro rfl
    simp [droppedBits] at h
  rw [Nat.le_div_iff_mul_le (twoTo_pos _), ← twoTo_add, hlog]
  exact Nat.log2_self_le hunits

/-- The rounded bits are at most the first number of 54 bits. -/
theorem roundDiv_droppedBits_le : roundDiv units (twoTo (droppedBits units)) ≤ twoTo 53 :=
  Nat.le_trans roundDiv_le_div_succ div_twoTo_droppedBits_lt

/-- A rounded count is below the next power of two or equal to it. -/
theorem roundedUnits_le : roundedUnits units ≤ twoTo (53 + droppedBits units) := by
  rw [twoTo_add]
  exact Nat.mul_le_mul_right _ roundDiv_droppedBits_le

/-- Where bits are dropped, the rounded count has 53 significant bits. -/
theorem le_roundedUnits (h : 0 < droppedBits units) :
    twoTo (52 + droppedBits units) ≤ roundedUnits units := by
  rw [twoTo_add]
  exact Nat.mul_le_mul_right _ (Nat.le_trans (twoTo_le_div_twoTo_droppedBits h) div_le_roundDiv)

/-- A greater count has no fewer bits. -/
theorem droppedBits_mono {a b : Nat} (h : a ≤ b) : droppedBits a ≤ droppedBits b := by
  by_cases hzero : a = 0
  · simp [hzero, droppedBits]
  · have hlog : a.log2 ≤ b.log2 :=
      (Nat.le_log2 (by omega)).mpr (Nat.le_trans (Nat.log2_self_le hzero) h)
    unfold droppedBits
    omega

/-- A greater count has no smaller rounded count. -/
theorem roundedUnits_mono {a b : Nat} (h : a ≤ b) : roundedUnits a ≤ roundedUnits b := by
  by_cases heq : droppedBits a = droppedBits b
  · unfold roundedUnits
    rw [heq]
    exact Nat.mul_le_mul_right _ (roundDiv_mono h)
  · -- The greater count has more bits, so a power of two lies in between.
    have hlt : droppedBits a < droppedBits b := Nat.lt_of_le_of_ne (droppedBits_mono h) heq
    calc
      roundedUnits a ≤ twoTo (53 + droppedBits a) := roundedUnits_le
      _ ≤ twoTo (52 + droppedBits b) := twoTo_le_twoTo (by omega)
      _ ≤ roundedUnits b := le_roundedUnits (by omega)

/-- A count that a double can hold is not rounded. -/
theorem Representable.roundedUnits_eq (h : Representable units) : roundedUnits units = units := by
  obtain ⟨mantissa, scale, hmantissa, -, rfl⟩ := h
  have hdropped : droppedBits (mantissa * twoTo scale) ≤ scale := by
    by_cases hzero : mantissa * twoTo scale = 0
    · simp [hzero, droppedBits]
    · have hlt : mantissa * twoTo scale < twoTo (53 + scale) := by
        rw [twoTo_add]
        exact Nat.mul_lt_mul_of_pos_right hmantissa (twoTo_pos _)
      have hlog := (Nat.log2_lt hzero).mpr hlt
      unfold droppedBits
      omega
  have hdvd : twoTo (droppedBits (mantissa * twoTo scale)) ∣ mantissa * twoTo scale :=
    Nat.dvd_mul_left_of_dvd (twoTo_dvd_twoTo hdropped) _
  rw [roundedUnits, roundDiv_of_dvd (twoTo_pos _) hdvd, Nat.div_mul_cancel hdvd]

/-- A count that a double can hold is below the limit. -/
theorem Representable.lt_limit (h : Representable units) : units < twoTo 2098 := by
  obtain ⟨mantissa, scale, hmantissa, hscale, rfl⟩ := h
  calc
    mantissa * twoTo scale < twoTo 53 * twoTo scale :=
      Nat.mul_lt_mul_of_pos_right hmantissa (twoTo_pos _)
    _ ≤ twoTo 53 * twoTo 2045 := Nat.mul_le_mul_left _ (twoTo_le_twoTo hscale)
    _ = twoTo 2098 := (twoTo_add 53 2045).symm

end Units

/-- A signed count of units rounded to 53 significant bits. -/
def roundedSigned (units : Int) : Int :=
  if units < 0 then -(roundedUnits units.natAbs : Int) else roundedUnits units.natAbs

/-- A greater signed count has no smaller rounded count. -/
theorem roundedSigned_mono {a b : Int} (h : a ≤ b) : roundedSigned a ≤ roundedSigned b := by
  unfold roundedSigned
  by_cases ha : a < 0
  · by_cases hb : b < 0
    · have hmono := roundedUnits_mono (show b.natAbs ≤ a.natAbs by omega)
      simp only [ha, hb, ↓reduceIte]
      omega
    · simp only [ha, hb, ↓reduceIte]
      omega
  · have hb : ¬ b < 0 := by omega
    have hmono := roundedUnits_mono (show a.natAbs ≤ b.natAbs by omega)
    simp only [ha, hb, ↓reduceIte]
    omega

namespace Place

/-- The place of a signed count of units, an infinity from the limit of doubles on. -/
def limited (units : Int) : Place :=
  if (twoTo 2098 : Int) ≤ units then .above
  else if units ≤ -(twoTo 2098 : Int) then .below
  else .at units

/-- A place rounded to that of a double. -/
def rounded : Place → Place
  | .at units => limited (roundedSigned units)
  | .below => .below
  | .above => .above

/-- Of two limited counts the less one was less before. -/
theorem lt_of_limited_lt {a b : Int} (h : (limited a).lt (limited b) = true) : a < b := by
  have hpos : (0 : Int) < twoTo 2098 := Int.natCast_pos.mpr (twoTo_pos 2098)
  unfold limited lt at h
  grind

/-- What is less after rounding was less before. -/
theorem lt_of_rounded_lt {p q : Place} (h : p.rounded.lt q.rounded = true) : p.lt q = true := by
  cases p with
  | below => cases q <;> simp_all [rounded, lt]
  | above => simp [rounded, lt] at h
  | «at» a =>
    cases q with
    | below => cases hplace : limited (roundedSigned a) <;> simp [rounded, lt, hplace] at h
    | above => rfl
    | «at» b =>
      have hlt := lt_of_limited_lt h
      have hab : a < b := Int.lt_of_not_ge fun hge =>
        Int.not_le.mpr hlt (roundedSigned_mono hge)
      simpa [lt] using hab

end Place

section Signed

variable {units : Nat} (negative : Bool)

/-- A count below the limit keeps its place with either sign. -/
theorem Place.limited_of_lt (h : units < twoTo 2098) :
    Place.limited (if negative then -(units : Int) else units) =
      .at (if negative then -(units : Int) else units) := by
  have hpos := twoTo_pos 2098
  unfold Place.limited
  generalize twoTo 2098 = limit at h hpos ⊢
  cases negative <;> grind

/-- A count from the limit on is infinite with either sign. -/
theorem Place.limited_of_le (h : twoTo 2098 ≤ units) :
    Place.limited (if negative then -(units : Int) else units) =
      if negative then .below else .above := by
  have hpos := twoTo_pos 2098
  unfold Place.limited
  generalize twoTo 2098 = limit at h hpos ⊢
  cases negative <;> grind

/-- A count that needs more bits than doubles have is rounded to the limit or beyond. -/
theorem limit_le_roundedUnits
    (hfits : ¬ (roundDiv units (twoTo (droppedBits units)) < twoTo 53 ∧ droppedBits units ≤ 2045))
    (hcarry : ¬ (roundDiv units (twoTo (droppedBits units)) = twoTo 53 ∧ droppedBits units ≤ 2044)) :
    twoTo 2098 ≤ roundedUnits units := by
  rcases Nat.lt_or_eq_of_le (@roundDiv_droppedBits_le units) with hlt | heq
  · have hdropped : 2046 ≤ droppedBits units := Nat.lt_of_not_le fun hle => hfits ⟨hlt, hle⟩
    calc
      twoTo 2098 ≤ twoTo (52 + droppedBits units) := twoTo_le_twoTo (Nat.add_le_add_left hdropped 52)
      _ ≤ roundedUnits units := le_roundedUnits (Nat.lt_of_lt_of_le (by decide) hdropped)
  · have hdropped : 2045 ≤ droppedBits units := Nat.lt_of_not_le fun hle => hcarry ⟨heq, hle⟩
    calc
      twoTo 2098 ≤ twoTo (53 + droppedBits units) := twoTo_le_twoTo (Nat.add_le_add_left hdropped 53)
      _ = roundedUnits units := by rw [roundedUnits, heq, twoTo_add]

/-- The double nearest to a count of units stands where the rounded count does. -/
theorem Double.place_ofQuotient_one :
    (ofQuotient negative units 1).place =
      some (.limited (if negative then -(roundedUnits units : Int) else roundedUnits units)) := by
  have hdropped : units.log2 - 52 = droppedBits units := rfl
  simp only [ofQuotient, Nat.div_one, Nat.one_mul, hdropped]
  split
  · rename_i hfits
    have hunits : Representable (roundedUnits units) := ⟨_, _, hfits.1, hfits.2, rfl⟩
    rw [Place.limited_of_lt negative hunits.lt_limit]
    rfl
  · rename_i hfits
    split
    · rename_i hcarry
      have hunits : twoTo 52 * twoTo (droppedBits units + 1) = roundedUnits units := by
        rw [roundedUnits, hcarry.1, ← twoTo_add, ← twoTo_add]
        exact congrArg twoTo (by omega)
      have hlt : Representable (roundedUnits units) :=
        ⟨twoTo 52, droppedBits units + 1, by decide, by omega, hunits.symm⟩
      rw [Place.limited_of_lt negative hlt.lt_limit, place, hunits]
    · rename_i hcarry
      rw [Place.limited_of_le negative (limit_le_roundedUnits hfits hcarry)]
      rfl

end Signed

namespace Double

/-- The double nearest to a signed count of units stands where the rounded count does. -/
theorem place_ofUnits (units : Int) :
    (ofUnits units).place = some (.limited (roundedSigned units)) := by
  rw [ofUnits, place_ofQuotient_one, roundedSigned]
  simp only [decide_eq_true_eq]

/-- The place of a double is not rounded. -/
theorem place_map_rounded (value : Double) : value.place.map Place.rounded = value.place := by
  cases value with
  | nan => rfl
  | infinity negative => cases negative <;> rfl
  | finite negative units hunits =>
    have hsigned : roundedSigned (if negative then -(units : Int) else units) =
        if negative then -(units : Int) else units := by
      have hnat := hunits.roundedUnits_eq
      unfold roundedSigned
      cases negative <;> grind
    simp only [place, Option.map_some, Place.rounded, hsigned,
      Place.limited_of_lt negative hunits.lt_limit]

end Double

namespace Number

/-- A double among the numbers keeps its place. -/
@[simp] theorem place_double (value : Double) : (double value).place = value.place := rfl

/-- Widening a number rounds its place. -/
theorem place_widen (value : Number) : value.widen.place = value.place.map Place.rounded := by
  cases value with
  | int value => exact Double.place_ofUnits _
  | double value => exact (Double.place_map_rounded value).symm

/-- The order of integers is that of their values. -/
@[simp] theorem int_lt_int {a b : Int} : (int a).lt (int b) = decide (a < b) := by
  have hpos : (0 : Int) < unitsPerOne := Int.natCast_pos.mpr (twoTo_pos 1074)
  exact decide_eq_decide.mpr (Int.mul_lt_mul_right hpos)

/-- A number that is less after rounding to doubles is less. -/
theorem lt_of_widenLt {x y : Number} (h : x.widenLt y = true) : x.lt y = true := by
  unfold widenLt at h
  unfold lt at h ⊢
  simp only [place_double, place_widen] at h
  cases hx : x.place with
  | none => simp [hx] at h
  | some p =>
    cases hy : y.place with
    | none => simp [hx, hy] at h
    | some q =>
      rw [hx, hy] at h
      exact Place.lt_of_rounded_lt h

/-- A number that is not less is not less after rounding to doubles. -/
theorem widenLt_eq_false {x y : Number} (h : x.lt y = false) : x.widenLt y = false := by
  cases hwiden : x.widenLt y with
  | false => rfl
  | true => exact absurd (h.symm.trans (lt_of_widenLt hwiden)) (by decide)

end Number

end JsonSchema
