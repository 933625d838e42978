import JsonSchema.Generation.Draw
import JsonSchema.Proofs.Generation.Ranges
import Mathlib.Data.List.Forall2

/-!
# How many items are drawn

An array with a schema for its items and a tuple are planned with a range of lengths. The range of an
array is that of its bounds, and without an upper bound it is as wide as the options say. A tuple has as
many of its positional items as there is room for, and the range says how many items fill it up: taken
together these are the lengths from the positional items, or the lower bound, up to the upper bound.

Exactly the lengths of the range are drawn, and each item is drawn from the strategy of its place.
-/

namespace JsonSchema

open Planning

namespace Bounds

/-- The least and the greatest number of items that are drawn for an array with these bounds; without
an upper bound there are so many lengths beyond the least. -/
def listLengths (length : Bounds Int) (slack : Nat) : Int × Int :=
  let least := length.least.getD 0
  (least, length.greatest.getD (least + slack))

/-- How many of so many positional items there is room for. -/
def room (length : Bounds Int) (count : Nat) : Int :=
  match length.greatest with
  | some greatest => min count greatest
  | none => count

/-- The least and the greatest number of items that are drawn for a tuple with so many positional items;
without an upper bound there are so many lengths beyond the least. -/
def tupleLengths (length : Bounds Int) (count slack : Nat) : Int × Int :=
  match length.greatest with
  | some greatest => (max (min count greatest) (length.least.getD 0), greatest)
  | none => (max (count : Int) (length.least.getD 0), max (count : Int) (length.least.getD 0) + slack)

/-- A number of items is in a range of integers where it is between them. -/
theorem holds_int_iff {least greatest : Int} {count : Nat} :
    Bounds.Holds ⟨some (.int least), some (.int greatest)⟩ (.int count) ↔
      least ≤ count ∧ (count : Int) ≤ greatest := by
  simp [Bounds.Holds]

/-- Bounds in order keep as many items as there is room for. -/
theorem InOrder.kept_eq_room {length : Bounds Int} (h : length.InOrder) (count : Nat) :
    (Fit.kept count length.greatest : Int) = length.room count := by
  unfold room
  cases hgreatest : length.greatest with
  | none => rfl
  | some greatest =>
    have hnonneg := h.greatest_nonneg greatest hgreatest
    simp only [Fit.kept, hnonneg, ↓reduceIte]
    omega

end Bounds

/-- An array with a number of items between two others, with something that holds of each item at its
place. -/
def Json.IsRow (lengths : Int × Int) (holds : Nat → Json → Prop) (value : Json) : Prop :=
  ∃ values, value = .array values ∧ lengths.1 ≤ values.length ∧ values.length ≤ lengths.2 ∧
    ∀ index found, values[index]? = some found → holds index found

/-- The items of two rows belong together where those of the second belong to what the first has at
their places, whatever the first is taken to have beyond its end. -/
theorem forall₂_iff_getD {α β : Type} {R : α → β → Prop} {items : List α} {values : List β} (other : α) :
    List.Forall₂ R items values ↔ values.length = items.length ∧
      ∀ (index : Nat) value, values[index]? = some value → R (items[index]?.getD other) value := by
  induction items generalizing values with
  | nil =>
    rw [List.forall₂_nil_left_iff, List.length_nil, List.length_eq_zero_iff]
    exact ⟨fun h => ⟨h, by simp [h]⟩, And.left⟩
  | cons item items ih =>
    cases values with
    | nil => simp
    | cons value values =>
      rw [List.forall₂_cons, ih]
      constructor
      · rintro ⟨hhead, hlength, hrest⟩
        refine ⟨by simpa using hlength, fun index found hfound => ?_⟩
        cases index with
        | zero => simpa [← Option.some_inj.mp hfound] using hhead
        | succ index => simpa using hrest index found (by simpa using hfound)
      · rintro ⟨hlength, h⟩
        exact ⟨by simpa using h 0 value rfl, by simpa using hlength,
          fun index found hfound => by simpa using h (index + 1) found (by simpa using hfound)⟩

namespace Json

variable {holds : Nat → Json → Prop} {count : Nat}

/-- There is a row of each length in the range where something holds at each place. -/
theorem exists_isRow {lengths : Int × Int} (hfew : lengths.1 ≤ count) (hmany : (count : Int) ≤ lengths.2)
    (h : ∀ index < count, ∃ found, holds index found) :
    ∃ values, values.length = count ∧ (Json.array values).IsRow lengths holds := by
  choose found hfound using h
  refine ⟨List.ofFn fun index : Fin count => found index index.isLt, List.length_ofFn, _, rfl, ?_, ?_,
    fun index value hvalue => ?_⟩
  · rwa [List.length_ofFn]
  · rwa [List.length_ofFn]
  · obtain ⟨hindex, rfl⟩ := List.getElem?_eq_some_iff.mp hvalue
    rw [List.getElem_ofFn]
    exact hfound _ _

/-- A row with so many items at least consists of these items and of the others. -/
theorem isRow_placed_iff {α : Type} {R : α → Json → Prop} {placed : List α} {other : α}
    {least greatest : Int} (hleast : 0 ≤ least) {value : Json} :
    value.IsRow (placed.length + least, placed.length + greatest)
        (fun index => R (placed[index]?.getD other)) ↔
      ∃ first rest, value = .array (first ++ rest) ∧ List.Forall₂ R placed first ∧
        (least ≤ rest.length ∧ (rest.length : Int) ≤ greatest) ∧ ∀ found ∈ rest, R other found := by
  constructor
  · rintro ⟨values, rfl, hfew, hmany, h⟩
    have hcount : placed.length ≤ values.length := by
      simp only at hfew
      omega
    refine ⟨values.take placed.length, values.drop placed.length, by rw [List.take_append_drop],
      (forall₂_iff_getD other).mpr ⟨by simp [hcount], fun index found hfound => ?_⟩, ?_,
      fun found hfound => ?_⟩
    · have hlt : index < placed.length := by
        have := (List.getElem?_eq_some_iff.mp hfound).1
        rw [List.length_take] at this
        omega
      rw [List.getElem?_take_of_lt hlt] at hfound
      exact h index found hfound
    · simp only at hfew hmany
      rw [List.length_drop]
      omega
    · obtain ⟨index, hindex⟩ := List.mem_iff_getElem?.mp hfound
      rw [List.getElem?_drop] at hindex
      simpa using h _ found hindex
  · rintro ⟨first, rest, rfl, hfirst, ⟨hfew, hmany⟩, hrest⟩
    obtain ⟨hcount, hplaced⟩ := (forall₂_iff_getD other).mp hfirst
    refine ⟨_, rfl, ?_, ?_, fun index found hfound => ?_⟩
    · simp only [List.length_append]
      omega
    · simp only [List.length_append]
      omega
    · by_cases hindex : index < first.length
      · rw [List.getElem?_append_left hindex] at hfound
        exact hplaced index found hfound
      · rw [List.getElem?_append_right (by omega)] at hfound
        rw [List.getElem?_eq_none (by omega), Option.getD_none]
        exact hrest found (List.mem_of_getElem? hfound)

end Json

namespace Drawing

variable {α β : Type}

/-- Drawing ends with a value for some supply of choices. -/
def Gives (action : Drawing α) (value : α) : Prop :=
  ∃ choices left, (action.run choices).run.value = .ok (value, left)

/-- A drawing that is done gives its value only. -/
@[simp] theorem gives_pure {value result : α} :
    Gives (pure value : Drawing α) result ↔ value = result := by
  constructor
  · rintro ⟨choices, left, h⟩
    exact congrArg Prod.fst (Except.ok.inj h)
  · rintro rfl
    exact ⟨⟨[], 0⟩, _, rfl⟩

/-- What actions in a row end with comes from what each of them ends with. -/
theorem exists_of_gives_bind {first : Drawing α} {next : α → Drawing β} {result : β}
    (h : Gives (first >>= next) result) : ∃ value, first.Gives value ∧ (next value).Gives result := by
  obtain ⟨choices, left, h⟩ := h
  change (((first.run choices) >>= fun p => (next p.1).run p.2 :
    ExceptT DrawFailure Noted (β × Choices))).run.value = _ at h
  rcases hfirst : first.run choices with ⟨outcome, notes⟩
  rw [hfirst] at h
  cases outcome with
  | error failure => cases h
  | ok pair => exact ⟨pair.1, ⟨choices, pair.2, congrArg Noted.value hfirst⟩, pair.2, left, h⟩

/-- Values in a row are those of the actions, one by one. -/
theorem forall₂_of_gives_inOrder {actions : List (Drawing Json)} {values : List Json}
    (h : (inOrder actions).Gives values) : List.Forall₂ Gives actions values := by
  induction actions generalizing values with
  | nil =>
    obtain rfl := gives_pure.mp h
    exact .nil
  | cons action rest ih =>
    obtain ⟨value, hvalue, h⟩ := exists_of_gives_bind h
    obtain ⟨others, hothers, h⟩ := exists_of_gives_bind h
    obtain rfl := gives_pure.mp h
    exact .cons hvalue (ih hothers)

/-- A drawing that fails gives nothing. -/
@[simp] theorem not_gives_fail {failure : DrawFailure} {result : α} :
    ¬ Gives (fail failure : Drawing α) result := by
  rintro ⟨choices, left, h⟩
  cases h

/-- A range of integers that passes its check is not crossed. -/
theorem le_of_gives_checkRange {kind : RangeKind} {least greatest : Int} {result : Unit}
    (h : (checkRange kind ⟨some (.int least), some (.int greatest)⟩).Gives result) :
    least ≤ greatest := by
  simp only [checkRange] at h
  split at h
  · exact (not_gives_fail h).elim
  · rename_i hlt
    simpa using hlt

/-- The items of an array are so many as the range says, all from one action. -/
theorem of_gives_items {least greatest : Int} {action : Drawing Json} {values : List Json}
    (hleast : 0 ≤ least) (h : (items least (.int greatest) action).Gives values) :
    least ≤ values.length ∧ (values.length : Int) ≤ greatest ∧ ∀ value ∈ values, action.Gives value := by
  obtain ⟨_, hchecked, h⟩ := exists_of_gives_bind h
  obtain ⟨choice, -, h⟩ := exists_of_gives_bind h
  have hall := forall₂_of_gives_inOrder h
  have hle := le_of_gives_checkRange hchecked
  have hwithin : within (.int least) (.int greatest) choice =
      .int (least + choice % (greatest + -least + 1)) := rfl
  have hlength := hall.length_eq
  rw [List.length_replicate, hwithin, Number.toInt?, Option.getD_some] at hlength
  have hnonneg := Int.emod_nonneg choice (b := greatest + -least + 1) (by omega)
  have hlt := Int.emod_lt_of_pos choice (b := greatest + -least + 1) (by omega)
  refine ⟨by omega, by omega, fun value hvalue => ?_⟩
  obtain ⟨drawn, hmem, hgives⟩ := exists_of_mem_right hall hvalue
  rwa [List.eq_of_mem_replicate hmem] at hgives

end Drawing

namespace Strategy

/-- The numbers of items of the arrays that a strategy stands for. -/
def Admits : Strategy → Nat → Prop
  | .just (.array values), count => count = values.length
  | .list _ least greatest, count => Bounds.Holds ⟨some (.int least), some greatest⟩ (.int count)
  | .tuple items _ least greatest, count => ∃ rest : Nat, count = items.length + rest ∧
      Bounds.Holds ⟨some (.int least), some greatest⟩ (.int rest)
  | _, _ => False

/-- A strategy draws the arrays with a number of items between two others, all of them, with items from
strategies that depend on the place. -/
structure DrawsRows (options : OptionSection) (strategy : Strategy) (lengths : Int × Int)
    (item : Nat → Strategy) : Prop where
  admits_iff : ∀ count : Nat, strategy.Admits count ↔ lengths.1 ≤ count ∧ (count : Int) ≤ lengths.2
  draws_iff : ∀ thunks value, strategy.Draws options thunks value ↔
    value.IsRow lengths fun index => (item index).Draws options thunks
  reaches : ∀ thunks (count : Nat), lengths.1 ≤ count → (count : Int) ≤ lengths.2 →
    (∀ index < count, ∃ found, (item index).Draws options thunks found) →
    ∃ values, values.length = count ∧ strategy.Draws options thunks (.array values)
  isRow_of_gives : ∀ thunks texts depth value,
    (strategy.drawWithin options thunks texts depth).Gives value →
      value.IsRow lengths fun index => ((item index).drawWithin options thunks texts depth).Gives

variable {options : OptionSection}

/-- Where exactly the rows of a range are drawn, all lengths of the range are. -/
theorem DrawsRows.of_draws_iff {strategy : Strategy} {lengths : Int × Int} {item : Nat → Strategy}
    (hadmits : ∀ count : Nat, strategy.Admits count ↔ lengths.1 ≤ count ∧ (count : Int) ≤ lengths.2)
    (hdraws : ∀ thunks value, strategy.Draws options thunks value ↔
      value.IsRow lengths fun index => (item index).Draws options thunks)
    (hgives : ∀ thunks texts depth value,
      (strategy.drawWithin options thunks texts depth).Gives value →
        value.IsRow lengths fun index => ((item index).drawWithin options thunks texts depth).Gives) :
    strategy.DrawsRows options lengths item where
  admits_iff := hadmits
  draws_iff := hdraws
  reaches thunks count hfew hmany h := by
    obtain ⟨values, hlength, hrow⟩ := Json.exists_isRow hfew hmany h
    exact ⟨values, hlength, (hdraws thunks _).mpr hrow⟩
  isRow_of_gives := hgives

/-- A list of items draws arrays of all lengths of its range, with items from one strategy. -/
theorem drawsRows_list {item : Strategy} {least greatest : Int} (hleast : 0 ≤ least) :
    (list item least (.int greatest)).DrawsRows options (least, greatest) fun _ => item := by
  refine .of_draws_iff (fun count => Bounds.holds_int_iff) (fun thunks value => ⟨fun h => ?_, ?_⟩)
    fun thunks texts depth value h => ?_
  · cases h with
    | list hlength h =>
      obtain ⟨hfew, hmany⟩ := Bounds.holds_int_iff.mp hlength
      exact ⟨_, rfl, hfew, hmany, fun index found hfound => h found (List.mem_of_getElem? hfound)⟩
  · rintro ⟨values, rfl, hfew, hmany, h⟩
    refine .list (Bounds.holds_int_iff.mpr ⟨hfew, hmany⟩) fun found hmem => ?_
    obtain ⟨index, hfound⟩ := List.mem_iff_getElem?.mp hmem
    exact h index found hfound
  · rw [drawWithin] at h
    obtain ⟨values, hvalues, h⟩ := Drawing.exists_of_gives_bind h
    obtain rfl := Drawing.gives_pure.mp h
    obtain ⟨hfew, hmany, h⟩ := Drawing.of_gives_items hleast hvalues
    exact ⟨values, rfl, hfew, hmany, fun index found hfound => h found (List.mem_of_getElem? hfound)⟩

/-- A tuple draws arrays of all lengths of its range beyond its positional items, with each of these from
the strategy of its place and with all others from one strategy. -/
theorem drawsRows_tuple {positional : List Strategy} {filler : Strategy} {least greatest : Int}
    (hleast : 0 ≤ least) :
    (tuple positional filler least (.int greatest)).DrawsRows options
      (positional.length + least, positional.length + greatest)
      fun index => positional[index]?.getD filler := by
  refine .of_draws_iff (fun count => ?_) (fun thunks value => ?_) fun thunks texts depth value h => ?_
  · simp only [Admits, Bounds.holds_int_iff]
    constructor
    · rintro ⟨rest, rfl, hfew, hmany⟩
      constructor <;> push_cast <;> omega
    · rintro ⟨hfew, hmany⟩
      exact ⟨count - positional.length, by omega, by omega, by omega⟩
  · rw [Json.isRow_placed_iff hleast]
    constructor
    · intro h
      cases h with
      | tuple hcount hfirst hlength hrest =>
        refine ⟨_, _, rfl, List.forall₂_iff_zip.mpr ⟨hcount.symm, fun hmem => hfirst _ hmem⟩,
          Bounds.holds_int_iff.mp hlength, hrest⟩
    · rintro ⟨first, rest, rfl, hfirst, hlength, hrest⟩
      obtain ⟨hcount, hfirst⟩ := List.forall₂_iff_zip.mp hfirst
      exact .tuple hcount.symm (fun pair hmem => hfirst hmem) (Bounds.holds_int_iff.mpr hlength) hrest
  · rw [drawWithin] at h
    obtain ⟨first, hfirst, h⟩ := Drawing.exists_of_gives_bind h
    obtain ⟨rest, hrest, h⟩ := Drawing.exists_of_gives_bind h
    obtain rfl := Drawing.gives_pure.mp h
    obtain ⟨hfew, hmany, hrest⟩ := Drawing.of_gives_items hleast hrest
    refine (Json.isRow_placed_iff
      (R := fun item : Strategy => (item.drawWithin options thunks texts depth).Gives)
      hleast).mpr ⟨first, rest, rfl, ?_, ⟨hfew, hmany⟩, hrest⟩
    have hactions : positional.attach.map (fun item => item.1.drawWithin options thunks texts depth) =
        positional.map fun item => item.drawWithin options thunks texts depth := List.attach_map_val
    rw [← List.forall₂_map_left_iff (f := fun item => drawWithin options thunks texts depth item),
      ← hactions]
    exact Drawing.forall₂_of_gives_inOrder hfirst

end Strategy

section Plans

variable {options : OptionSection} {length : Bounds Int}

/-- A sum of two integers as a step of planning is the integer. -/
theorem Planning.eq_int_of_gives_shift {least : Int} {slack : Nat} {option : Json} {greatest : Number}
    (hoption : option.number? = some (.int slack))
    (h : (shift .plus (.int least) option).Gives greatest) : greatest = .int (least + slack) :=
  (gives_shift hoption h).1

/-- An array with bounds in order and a schema for its items is planned as a list that draws the lengths
of its range. -/
theorem drawsRows_of_planned_array {docs : Documentation} {node : Node} {strategy : Strategy} {slack : Nat}
    (hslack : options.listSlack.number? = some (.int slack)) (hlength : length.InOrder)
    (h : (Node.array docs (some node) length).Planned options strategy) :
    ∃ item, node.Planned options item ∧
      strategy.DrawsRows options (length.listLengths slack) fun _ => item := by
  rcases array_cases_of_planned h with ⟨hcrossed, -⟩ | ⟨hitems, -⟩ |
    ⟨other, item, greatest, hitems, -, hitem, rfl, hmost, hgives⟩
  · simp [(crossed_eq_false hlength).2] at hcrossed
  · cases hitems
  obtain rfl := Option.some_inj.mp hitems
  have hleast : 0 ≤ length.least.getD 0 := by
    cases hleast : length.least with
    | none => exact Int.le_refl 0
    | some least => exact hlength.least_nonneg least hleast
  refine ⟨item, hitem, ?_⟩
  unfold Bounds.listLengths
  cases hgreatest : length.greatest with
  | some most =>
    obtain rfl := hmost most hgreatest
    exact Strategy.drawsRows_list hleast
  | none =>
    obtain rfl := Planning.eq_int_of_gives_shift hslack (hgives hgreatest)
    exact Strategy.drawsRows_list hleast

/-- A tuple with bounds in order is planned with strategies for the positional items that there is room
for and with one for all others, and draws the lengths of its range. -/
theorem drawsRows_of_planned_tuple {docs : Documentation} {items : List Node} {additional : Option Node}
    {strategy : Strategy} {slack : Nat} (hslack : options.fillerSlack.number? = some (.int slack))
    (hlength : length.InOrder) (h : (Node.tuple docs items additional length).Planned options strategy) :
    ∃ item : Nat → Strategy,
      (∀ index : Nat, index < length.room items.length →
        ∃ node, items[index]? = some node ∧ node.Planned options (item index)) ∧
      (∀ index : Nat, length.room items.length ≤ index →
        (additional = none ∧ item index = .just .null) ∨
          ∃ node, additional = some node ∧ node.Planned options (item index)) ∧
      strategy.DrawsRows options (length.tupleLengths items.length slack) item := by
  rcases tuple_cases_of_planned h with ⟨hcrossed, -⟩ |
    ⟨positional, filler, least, greatest, -, hbounds, hall, hfiller, rfl⟩
  · simp [(crossed_eq_false hlength).1] at hcrossed
  obtain ⟨rfl, hmost, hgives⟩ := bounds_of_gives_fillerBounds hbounds
  have hroom := hlength.kept_eq_room items.length
  have hcount : positional.length = Fit.kept items.length length.greatest := by
    have htake := hall.length_eq
    have hle := Fit.kept_le items.length length.greatest
    rw [List.length_take] at htake
    omega
  refine ⟨fun index => positional[index]?.getD filler, fun index hindex => ?_, fun index hindex => ?_, ?_⟩
  · have hitem : index < items.length := by
      have hle := Fit.kept_le items.length length.greatest
      omega
    have hplace : index < positional.length := by omega
    have hplanned := ((forall₂_iff_getD (.null {})).mp hall).2 index _
      (List.getElem?_eq_getElem hplace)
    rw [List.getElem?_take_of_lt (by omega), List.getElem?_eq_getElem hitem, Option.getD_some] at hplanned
    refine ⟨items[index], List.getElem?_eq_getElem hitem, ?_⟩
    simpa only [List.getElem?_eq_getElem hplace, Option.getD_some] using hplanned
  · have hnone : positional[index]? = none := List.getElem?_eq_none (by omega)
    simpa only [hnone, Option.getD_none] using hfiller
  · have hrange : ∃ most : Int, greatest = .int most ∧ length.tupleLengths items.length slack =
        (positional.length + max 0 (length.least.getD 0 - Fit.kept items.length length.greatest),
          positional.length + most) := by
      rw [← hcount] at hmost hgives hroom ⊢
      unfold Bounds.tupleLengths
      unfold Bounds.room at hroom
      cases hgreatest : length.greatest with
      | some most =>
        refine ⟨_, hmost most hgreatest, ?_⟩
        simp only [hgreatest] at hroom ⊢
        rw [Prod.mk.injEq]
        omega
      | none =>
        refine ⟨_, Planning.eq_int_of_gives_shift hslack (hgives hgreatest), ?_⟩
        simp only [hgreatest] at hroom ⊢
        rw [Prod.mk.injEq]
        omega
    obtain ⟨most, rfl, hlengths⟩ := hrange
    rw [hlengths]
    exact Strategy.drawsRows_tuple (Int.le_max_left _ _)

/-- An array with a schema for its items, and a tuple, whose bounds are in order draw exactly the lengths of
their ranges: those of the bounds, where the positional items that there is room for count as a lower bound
too, and the width of the options stands for an upper bound that is not given. The items of an array are
drawn for its schema; in a tuple, each positional item that there is room for is drawn for the schema of its
place, and every later one for the additional schema, or it is null. -/
theorem drawsRows_of_planned (options : OptionSection) (listSlack fillerSlack : Nat)
    (hlist : options.listSlack.number? = some (.int listSlack))
    (hfiller : options.fillerSlack.number? = some (.int fillerSlack)) {length : Bounds Int}
    (hlength : length.InOrder) (docs : Documentation) :
    (∀ node strategy, (Node.array docs (some node) length).Planned options strategy →
      ∃ item, node.Planned options item ∧
        strategy.DrawsRows options (length.listLengths listSlack) fun _ => item) ∧
    ∀ items additional strategy, (Node.tuple docs items additional length).Planned options strategy →
      ∃ item : Nat → Strategy,
        (∀ index : Nat, index < length.room items.length →
          ∃ node, items[index]? = some node ∧ node.Planned options (item index)) ∧
        (∀ index : Nat, length.room items.length ≤ index →
          (additional = none ∧ item index = .just .null) ∨
            ∃ node, additional = some node ∧ node.Planned options (item index)) ∧
        strategy.DrawsRows options (length.tupleLengths items.length fillerSlack) item :=
  ⟨fun _ _ h => drawsRows_of_planned_array hlist hlength h,
    fun _ _ _ h => drawsRows_of_planned_tuple hfiller hlength h⟩

/-- An array with a bound on each side, and a tuple that is cut before its last item. -/
theorem drawsRows_of_planned_cut :
    (∃ item, (Node.null {}).Planned { kind := .generation } item ∧
      (Strategy.list .null 1 (.int 2)).DrawsRows { kind := .generation } (1, 2) fun _ => item) ∧
    ∃ item : Nat → Strategy,
      (∀ index : Nat, (index : Int) < 2 → ∃ node,
        [Node.string {} {}, .null {}, .boolean {} none][index]? = some node ∧
          node.Planned { kind := .generation } (item index)) ∧
      (∀ index : Nat, (2 : Int) ≤ index →
        (some (Node.null {}) = none ∧ item index = .just .null) ∨
          ∃ node, some (Node.null {}) = some node ∧ node.Planned { kind := .generation } (item index)) ∧
      (Strategy.tuple [.text {}, .null] .null 0 (.int 0)).DrawsRows { kind := .generation } (2, 2) item := by
  obtain ⟨harray, htuple⟩ := drawsRows_of_planned { kind := .generation } 10 100 rfl rfl
    (⟨by simp, by simp, by simp⟩ : Bounds.InOrder ⟨some 1, some 2⟩) {}
  exact ⟨harray (.null {}) (.list .null 1 (.int 2)) ⟨[], rfl⟩,
    htuple [.string {} {}, .null {}, .boolean {} none] (some (.null {}))
      (.tuple [.text {}, .null] .null 0 (.int 0)) ⟨[], rfl⟩⟩

end Plans

end JsonSchema
