import JsonSchema.Proofs.Number.Rounding

/-!
# Sums stay on their side

A sum with a number that is not negative is not less than the other number, and a difference is not
greater. For doubles the exact sum is rounded, but rounding keeps the order and leaves the other number
where it is. Not-a-number stands on no side of anything.
-/

namespace JsonSchema

namespace Place

/-- A greater count has no lesser place. -/
theorem limited_lt_limited_eq_false {a b : Int} (h : a ≤ b) :
    (limited b).lt (limited a) = false :=
  Bool.eq_false_iff.mpr fun hlt => Int.not_le.mpr (lt_of_limited_lt hlt) h

/-- A count whose place is no infinity keeps its place, and so does the opposite count. -/
theorem limited_eq_at {a b : Int} (h : limited a = .at b) : a = b ∧ limited (-a) = .at (-a) := by
  have hpos : (0 : Int) < twoTo 2098 := Int.natCast_pos.mpr (twoTo_pos 2098)
  unfold limited at h ⊢
  generalize (twoTo 2098 : Int) = limit at h hpos ⊢
  grind

end Place

/-- A count that is not negative is not rounded to a negative one. -/
theorem roundedSigned_nonneg {units : Int} (h : 0 ≤ units) : 0 ≤ roundedSigned units := by
  unfold roundedSigned
  split <;> omega

/-- Opposite counts are rounded to opposite counts. -/
theorem roundedSigned_neg (units : Int) : roundedSigned (-units) = -roundedSigned units := by
  have hzero : roundedUnits 0 = 0 := Representable.roundedUnits_eq Double.representable_zero
  unfold roundedSigned
  rw [Int.natAbs_neg]
  rcases Int.lt_trichotomy units 0 with h | rfl | h
  · have hopposite : ¬ -units < 0 := by omega
    simp only [h, hopposite, ↓reduceIte, Int.neg_neg]
  · simp [hzero]
  · have hopposite : -units < 0 := by omega
    simp only [hopposite, Int.not_lt.mpr (Int.le_of_lt h), ↓reduceIte]

namespace Double

variable {x y : Double}

/-- Every double but not-a-number has a place. -/
theorem exists_place (h : x ≠ .nan) : ∃ p, x.place = some p := by
  cases x with
  | nan => exact absurd rfl h
  | infinity negative => exact ⟨_, rfl⟩
  | finite negative units hunits => exact ⟨_, rfl⟩

/-- The sum of finite doubles stands where their exact sum is rounded to. -/
theorem place_add {a b : Int} (hx : x.place = some (.at a)) (hy : y.place = some (.at b)) :
    (x.add y).place = some (.limited (roundedSigned (a + b))) := by
  cases x with
  | nan => cases hx
  | infinity negative => cases negative <;> cases hx
  | finite negative units hunits =>
    cases y with
    | nan => cases hy
    | infinity other => cases other <;> cases hy
    | finite other more hmore =>
      simp only [place, Option.some.injEq, Place.at.injEq] at hx hy
      simp only [add, hx, hy]
      split
      · rename_i htotal
        have hzero : (if (negative && other) = true then -((0 : Nat) : Int) else (0 : Nat)) = 0 := by
          split <;> rfl
        rw [htotal, ← place_map_rounded]
        simp only [place, Option.map_some, Place.rounded, hzero]
      · exact place_ofUnits _

/-- Adding a finite double that is not negative leads to no lesser place, and adding one that is not
positive leads to no greater one. -/
theorem exists_place_add {p : Place} {b : Int} (hx : x.place = some p)
    (hy : y.place = some (.at b)) :
    ∃ q, (x.add y).place = some q ∧ (0 ≤ b → q.lt p = false) ∧ (b ≤ 0 → p.lt q = false) := by
  cases p with
  | «at» a =>
    have hself : Place.limited (roundedSigned a) = .at a := by
      simpa [hx, Place.rounded] using place_map_rounded x
    refine ⟨_, place_add hx hy, fun hb => ?_, fun hb => ?_⟩
    all_goals
      rw [← hself]
      exact Place.limited_lt_limited_eq_false (roundedSigned_mono (by omega))
  | below | above =>
    -- A finite double does not move an infinity.
    have hsum : x.add y = x := by
      cases x with
      | nan => cases hx
      | finite negative units hunits => cases hx
      | infinity negative =>
        cases y with
        | nan => cases hy
        | infinity other => cases other <;> cases hy
        | finite other more hmore => rfl
    exact ⟨_, hsum ▸ hx, fun _ => rfl, fun _ => rfl⟩

/-- An integer that has a finite double stands on the side of zero that its sign says, and so does the
opposite integer. -/
theorem exists_place_ofInt {value : Int} (h : (ofInt value).isFinite = true) :
    ∃ units, (ofInt value).place = some (.at units) ∧ (ofInt (-value)).place = some (.at (-units)) ∧
      (0 ≤ value → 0 ≤ units) := by
  have hplace : ∃ units, (ofInt value).place = some (.at units) := by
    cases hvalue : ofInt value with
    | finite negative units hunits => exact ⟨_, rfl⟩
    | _ => simp [hvalue, isFinite] at h
  obtain ⟨units, hunits⟩ := hplace
  have hlimited : Place.limited (roundedSigned (value * unitsPerOne)) = .at units := by
    rw [ofInt, place_ofUnits] at hunits
    exact Option.some.inj hunits
  obtain ⟨hrounded, hopposite⟩ := Place.limited_eq_at hlimited
  refine ⟨units, hunits, ?_, fun hvalue => ?_⟩
  · rw [ofInt, place_ofUnits, Int.neg_mul, roundedSigned_neg, hopposite, hrounded]
  · rw [← hrounded]
    exact roundedSigned_nonneg (Int.mul_nonneg hvalue (Int.natCast_nonneg _))

end Double

namespace Number

/-- A number is at most another one. Not-a-number is not compared, not even with itself. -/
def Le (a b : Number) : Prop := a ≠ .double .nan ∧ b ≠ .double .nan ∧ b.lt a = false

/-- The order of integers is that of their values. -/
@[simp] theorem int_le_int {a b : Int} : (int a).Le (int b) ↔ a ≤ b := by
  simp [Le]

/-- A double has its place as a number. -/
theorem le_of_place {a b : Number} {p q : Place} (ha : a.place = some p) (hb : b.place = some q)
    (h : q.lt p = false) : a.Le b := by
  refine ⟨?_, ?_, by rw [lt, ha, hb]; exact h⟩
  · rintro rfl
    cases ha
  · rintro rfl
    cases hb

variable {base : Number} {offset : Int}

/-- Adding an integer that is not negative gives no lesser number, and taking it away gives no greater
one, where the integer is added as a double only if it has one. -/
theorem le_add_and_sub_le (hbase : base ≠ .double .nan) (hoffset : 0 ≤ offset)
    (hfits : ∀ value, base = .double value → (Double.ofInt offset).isFinite = true) :
    base.Le (base.add (.int offset)) ∧ (base.sub (.int offset)).Le base := by
  cases base with
  | int value =>
    simp only [sub, add, neg, int_le_int]
    omega
  | double value =>
    obtain ⟨p, hp⟩ := Double.exists_place (x := value) (by simpa using hbase)
    obtain ⟨units, hunits, hopposite, hnonneg⟩ := Double.exists_place_ofInt (hfits value rfl)
    obtain ⟨sum, hsum, hle, -⟩ := Double.exists_place_add hp hunits
    obtain ⟨difference, hdifference, -, hge⟩ := Double.exists_place_add hp hopposite
    have hsign := hnonneg hoffset
    exact ⟨le_of_place hp hsum (hle hsign), le_of_place hdifference hp (hge (by omega))⟩

end Number

end JsonSchema
