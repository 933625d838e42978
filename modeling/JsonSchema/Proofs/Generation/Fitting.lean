import JsonSchema.Generation.Fit
import JsonSchema.Proofs.Validation.Conformance
import Mathlib.Logic.Function.Iterate

/-!
# Texts of fitted lengths

A text that is too short is doubled, with a letter after it, round by round until it is long enough, and
then it is cut where it is too long. Doubling only puts letters after a text and cutting only takes
letters away from its end, so the given text and the fitted one are never different where both have a
letter. A text that fits already goes through no round and is not cut, which makes a second fitting do
nothing, even where no length lies between the bounds and the upper one decides.
-/

namespace JsonSchema.Fit

/-- A text twice, with a letter after it: what one round makes of a text. -/
def doubled (value : List Char) : List Char := value ++ value ++ ['x']

section Padding

variable {least : Nat} {value : List Char}

/-- A text that is long enough is not padded. -/
theorem pad_of_le (h : least ≤ value.length) : pad least value = value := by
  rw [pad, if_neg (Nat.not_lt.mpr h)]

/-- Padding goes through rounds up to the first one after which the text is long enough. -/
theorem exists_rounds (least : Nat) (value : List Char) :
    ∃ rounds, pad least value = doubled^[rounds] value ∧
      ∀ round < rounds, (doubled^[round] value).length < least := by
  fun_induction pad least value with
  | case1 value hshort ih =>
    obtain ⟨rounds, hpad, hearlier⟩ := ih
    refine ⟨rounds + 1, hpad, fun round hround => ?_⟩
    cases round with
    | zero => exact hshort
    | succ round => exact hearlier round (Nat.lt_of_succ_lt_succ hround)
  | case2 value hlong => exact ⟨0, rfl, fun round hround => absurd hround (Nat.not_lt_zero round)⟩

/-- A padded text is long enough. -/
theorem le_length_pad (least : Nat) (value : List Char) : least ≤ (pad least value).length := by
  fun_induction pad least value with
  | case1 value hshort ih => exact ih
  | case2 value hlong => exact Nat.le_of_not_lt hlong

/-- A padded text starts with the text. -/
theorem prefix_pad (least : Nat) (value : List Char) : value <+: pad least value := by
  fun_induction pad least value with
  | case1 value hshort ih =>
    have hdoubled : value <+: value ++ value ++ ['x'] := by simp
    exact hdoubled.trans ih
  | case2 value hlong => exact List.prefix_rfl

end Padding

section Fitting

variable {length : Bounds Int} {value : List Char}

/-- Without an upper bound a text is only padded. -/
theorem fit_of_unbounded (h : length.greatest = none) :
    fit length value = pad (length.least.getD 0).toNat value := by
  rw [fit, h, kept, List.take_length]

/-- An upper bound that is not negative cuts a padded text. -/
theorem fit_of_bounded {greatest : Int} (h : length.greatest = some greatest) (hnonneg : 0 ≤ greatest) :
    fit length value = (pad (length.least.getD 0).toNat value).take greatest.toNat := by
  rw [fit, h, kept, if_pos hnonneg, Nat.min_comm, ← List.take_eq_take_min]

/-- A fitted text and the text are never different where both have a letter. -/
theorem prefix_or_prefix_fit (length : Bounds Int) (value : List Char) :
    value <+: fit length value ∨ fit length value <+: value :=
  List.prefix_or_prefix_of_prefix (prefix_pad _ value) (List.take_prefix _ _)

/-- A text is fitted to bounds that some length lies between. -/
theorem admits_length_fit
    (hnonneg : ∀ greatest, length.greatest = some greatest → 0 ≤ greatest)
    (hcrossed : ∀ least greatest, length.least = some least → length.greatest = some greatest →
      least ≤ greatest) (value : List Char) : length.Admits (fit length value).length := by
  have hpad := le_length_pad (length.least.getD 0).toNat value
  cases hgreatest : length.greatest with
  | none =>
    rw [fit_of_unbounded hgreatest]
    refine ⟨fun least hleast => ?_, fun greatest h => ?_⟩
    · rw [hleast, Option.getD_some] at hpad ⊢
      omega
    · simp [hgreatest] at h
  | some most =>
    have hmost := hnonneg most hgreatest
    rw [fit_of_bounded hgreatest hmost, List.length_take]
    refine ⟨fun least hleast => ?_, fun greatest h => ?_⟩
    · have hle := hcrossed least most hleast hgreatest
      rw [hleast, Option.getD_some] at hpad ⊢
      omega
    · obtain rfl : most = greatest := Option.some.inj (hgreatest.symm.trans h)
      omega

/-- A text whose length lies between the bounds is fitted already. -/
theorem fit_of_admits (h : length.Admits value.length) : fit length value = value := by
  have hpad : pad (length.least.getD 0).toNat value = value := by
    apply pad_of_le
    cases hleast : length.least with
    | none => exact Nat.zero_le _
    | some least =>
      have hle := h.1 least hleast
      rw [Option.getD_some]
      omega
  cases hgreatest : length.greatest with
  | none => rw [fit_of_unbounded hgreatest, hpad]
  | some greatest =>
    have hle := h.2 greatest hgreatest
    rw [fit_of_bounded hgreatest (by omega), hpad]
    exact List.take_of_length_le (by omega)

/-- Where no length lies between the bounds, the upper one decides. -/
theorem length_fit_of_crossed {least greatest : Int} (hleast : length.least = some least)
    (hgreatest : length.greatest = some greatest) (hnonneg : 0 ≤ greatest) (h : greatest < least) :
    ((fit length value).length : Int) = greatest := by
  have hpad := le_length_pad (length.least.getD 0).toNat value
  rw [fit_of_bounded hgreatest hnonneg, List.length_take]
  rw [hleast, Option.getD_some] at hpad ⊢
  omega

/-- A fitted text is not changed by fitting it again. -/
theorem fit_fit (hnonneg : ∀ greatest, length.greatest = some greatest → 0 ≤ greatest)
    (value : List Char) : fit length (fit length value) = fit length value := by
  have hpad := le_length_pad (length.least.getD 0).toNat value
  cases hgreatest : length.greatest with
  | none => rw [fit_of_unbounded hgreatest, fit_of_unbounded hgreatest, pad_of_le hpad]
  | some greatest =>
    rw [fit_of_bounded hgreatest (hnonneg greatest hgreatest),
      fit_of_bounded hgreatest (hnonneg greatest hgreatest)]
    generalize pad (length.least.getD 0).toNat value = padded at hpad ⊢
    -- What was cut is as long as it may be, so what is put after it is cut off again.
    rcases Nat.le_total padded.length greatest.toNat with hshort | hlong
    · rw [List.take_of_length_le hshort, pad_of_le hpad, List.take_of_length_le hshort]
    · have hlength : (padded.take greatest.toNat).length = greatest.toNat :=
        List.length_take_of_le hlong
      have hprefix := prefix_pad (length.least.getD 0).toNat (padded.take greatest.toNat)
      rw [List.prefix_iff_eq_take, hlength] at hprefix
      exact hprefix.symm

end Fitting

/-- Fitting a text to a lower bound and to an upper bound that is not negative ends after the first round
that leaves the text long enough, and the text is then cut to the upper bound. The length of the result
lies between the bounds, or is the upper one where they are crossed, a text that fits is not changed, one
of the two texts starts with the other one, and a second fitting changes nothing. -/
theorem fit_pads_and_cuts (length : Bounds Int)
    (hnonneg : ∀ greatest, length.greatest = some greatest → 0 ≤ greatest) (value : List Char) :
    (∃ rounds, (∀ round < rounds, ∃ least, length.least = some least ∧
        ((doubled^[round] value).length : Int) < least) ∧
      (∀ least, length.least = some least → least ≤ (doubled^[rounds] value).length) ∧
      fit length value = (length.greatest.elim id fun greatest => List.take greatest.toNat)
        (doubled^[rounds] value)) ∧
    ((∀ least greatest, length.least = some least → length.greatest = some greatest →
      least ≤ greatest) → length.Admits (fit length value).length) ∧
    (length.Admits value.length → fit length value = value) ∧
    (∀ least greatest, length.least = some least → length.greatest = some greatest →
      greatest < least → ((fit length value).length : Int) = greatest) ∧
    (value <+: fit length value ∨ fit length value <+: value) ∧
    fit length (fit length value) = fit length value := by
  refine ⟨?_, fun hcrossed => admits_length_fit hnonneg hcrossed value, fit_of_admits,
    fun least greatest hleast hgreatest =>
      length_fit_of_crossed hleast hgreatest (hnonneg greatest hgreatest),
    prefix_or_prefix_fit length value, fit_fit hnonneg value⟩
  obtain ⟨rounds, hpad, hearlier⟩ := exists_rounds (length.least.getD 0).toNat value
  have hlong := le_length_pad (length.least.getD 0).toNat value
  refine ⟨rounds, fun round hround => ?_, fun least hleast => ?_, ?_⟩
  · have hshort := hearlier round hround
    cases hleast : length.least with
    | none => simp [hleast] at hshort
    | some least =>
      rw [hleast, Option.getD_some] at hshort
      exact ⟨least, rfl, by omega⟩
  · rw [hleast, Option.getD_some] at hpad hlong
    rw [← hpad]
    omega
  · rw [← hpad]
    cases hgreatest : length.greatest with
    | none => exact fit_of_unbounded hgreatest
    | some greatest => exact fit_of_bounded hgreatest (hnonneg greatest hgreatest)

/-- Where a lower bound of five and an upper bound of four are crossed, two rounds make a text of one
letter too long, and the upper bound decides. -/
theorem fit_pads_and_cuts_crossed :
    (∀ greatest, (⟨some 5, some 4⟩ : Bounds Int).greatest = some greatest → 0 ≤ greatest) ∧
    fit ⟨some 5, some 4⟩ ['a'] = ['a', 'a', 'x', 'a'] ∧
    ((fit ⟨some 5, some 4⟩ ['a']).length : Int) = 4 ∧
    (['a'] <+: fit ⟨some 5, some 4⟩ ['a'] ∨ fit ⟨some 5, some 4⟩ ['a'] <+: ['a']) ∧
    fit ⟨some 5, some 4⟩ (fit ⟨some 5, some 4⟩ ['a']) = fit ⟨some 5, some 4⟩ ['a'] := by
  have hnonneg : ∀ greatest, (⟨some 5, some 4⟩ : Bounds Int).greatest = some greatest →
      0 ≤ greatest := by simp
  obtain ⟨-, -, -, hcrossed, hprefix, hagain⟩ := fit_pads_and_cuts ⟨some 5, some 4⟩ hnonneg ['a']
  exact ⟨hnonneg, by cbv, hcrossed 5 4 rfl rfl (by decide), hprefix, hagain⟩

end JsonSchema.Fit
