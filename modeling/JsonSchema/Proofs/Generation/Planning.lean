import JsonSchema.Generation.Plan
import JsonSchema.Proofs.Entries
import Mathlib.Data.List.Nodup

/-!
# What planning gives

Planning gives a strategy unless it meets an obstacle. A step of planning gives what the steps that
it is made of give, so each part of a plan is the plan of a part of the node.
-/

namespace JsonSchema

/-- Bounds are not negative and not crossed. -/
structure Bounds.InOrder (bounds : Bounds Int) : Prop where
  least_nonneg : ∀ least, bounds.least = some least → 0 ≤ least
  greatest_nonneg : ∀ greatest, bounds.greatest = some greatest → 0 ≤ greatest
  le : ∀ least greatest, bounds.least = some least → bounds.greatest = some greatest →
    least ≤ greatest

namespace Planning

variable {α β : Type}

/-- Planning ends without an obstacle. -/
def Gives (planning : Planning α) (result : α) : Prop := planning.run.value = .ok result

/-- A plan that is done gives its value only. -/
@[simp] theorem gives_pure {value result : α} : Gives (pure value) result ↔ value = result :=
  ⟨Except.ok.inj, congrArg Except.ok⟩

/-- A plan in two steps gives what the second step gives for the value of the first. -/
@[simp] theorem gives_bind {first : Planning α} {next : α → Planning β} {result : β} :
    Gives (first >>= next) result ↔ ∃ value, first.Gives value ∧ (next value).Gives result := by
  obtain ⟨outcome, notes⟩ := first
  cases outcome with
  | ok value =>
    constructor
    · exact fun h => ⟨value, rfl, h⟩
    · rintro ⟨_, hvalue, h⟩
      obtain rfl := Except.ok.inj hvalue
      exact h
  | error met =>
    constructor
    · intro h
      cases h
    · rintro ⟨_, hvalue, -⟩
      cases hvalue

/-- A plan that met an obstacle gives nothing. -/
@[simp] theorem not_gives_throw {met : Obstacle} {result : α} :
    ¬ Gives (throw met : Planning α) result := by
  intro h
  cases h

/-- A plan that refuses gives nothing. -/
@[simp] theorem not_gives_refuse {reason : Hindrance} {pointer : Pointer} {result : α} :
    ¬ Gives (refuse reason pointer) result := by
  intro h
  cases h

/-- The plan for crossed bounds gives the empty array only. -/
@[simp] theorem gives_emptyArray {pointer : Pointer} {strategy : Strategy} :
    Gives (emptyArray pointer) strategy ↔ strategy = .just (.array []) :=
  ⟨fun h => (Except.ok.inj h).symm, fun h => congrArg Except.ok h.symm⟩

/-- A noted value is given as it is. -/
@[simp] theorem gives_lift {body : Noted α} {result : α} :
    Gives (ExceptT.lift body : Planning α) result ↔ body.value = result :=
  ⟨Except.ok.inj, congrArg Except.ok⟩

/-- Placeholders are given where their number counts them. -/
@[simp] theorem gives_nulls {count : Int} {strategy : Strategy} :
    (nulls count).Gives strategy ↔
      countFault? count = none ∧ strategy = .just (.array (List.replicate count.toNat .null)) := by
  unfold nulls
  cases countFault? count with
  | none => simp [eq_comm]
  | some fault => simp

/-- A choice among enumerated values is the strategy of the enumeration. -/
theorem eq_choice_of_gives {values : List Json} {pointer : Pointer} {strategy : Strategy}
    (h : (choice values pointer).Gives strategy) : strategy = .choice values := by
  unfold choice at h
  split at h
  · simp at h
  · exact (gives_pure.mp h).symm

/-- Bounds that are in order are not crossed. -/
theorem crossed_eq_false {bounds : Bounds Int} (h : bounds.InOrder) :
    crossed bounds.least bounds.greatest = false ∧
      crossed (some (bounds.least.getD 0)) bounds.greatest = false := by
  cases hgreatest : bounds.greatest with
  | none => cases bounds.least <;> exact ⟨rfl, rfl⟩
  | some greatest =>
    cases hleast : bounds.least with
    | none => simpa [crossed] using h.greatest_nonneg greatest hgreatest
    | some least => simpa [crossed] using h.le least greatest hleast hgreatest

/-- The filler has as many items as are missing at least, and as many as are admitted at most. -/
theorem bounds_of_gives_fillerBounds {options : OptionSection} {length : Bounds Int} {count : Nat}
    {least : Int} {greatest : Number}
    (h : (fillerBounds options length count).Gives (least, greatest)) :
    least = max 0 (length.least.getD 0 - count) ∧
      (∀ most, length.greatest = some most → greatest = .int (most - count)) ∧
      (length.greatest = none → (shift .plus (.int least) options.fillerSlack).Gives greatest) := by
  unfold fillerBounds at h
  cases hmost : length.greatest with
  | some most =>
    simp only [hmost, gives_pure, Prod.mk.injEq] at h
    obtain ⟨rfl, rfl⟩ := h
    exact ⟨rfl, by simp, by simp⟩
  | none =>
    simp only [hmost, gives_bind, gives_pure, Prod.mk.injEq] at h
    obtain ⟨_, hshift, rfl, rfl⟩ := h
    exact ⟨rfl, by simp, fun _ => hshift⟩

end Planning

open Planning

variable {options : OptionSection}

/-- A strategy that is planned for a node, wherever it stands. -/
def Node.Planned (options : OptionSection) (node : Node) (strategy : Strategy) : Prop :=
  ∃ pointer, (node.planAt options pointer).Gives strategy

/-- The strategies of nodes are planned one by one. -/
theorem forall₂_of_gives_planNodes {place : Nat → Pointer} {index count : Nat} {nodes : List Node}
    {strategies : List Strategy}
    (h : (planNodes options place index count nodes).Gives strategies) :
    List.Forall₂ (Node.Planned options) (nodes.take count) strategies := by
  induction nodes generalizing index count strategies with
  | nil =>
    rw [planNodes, gives_pure] at h
    subst h
    simp
  | cons node rest ih =>
    cases count with
    | zero =>
      rw [planNodes, gives_pure] at h
      subst h
      simp
    | succ count =>
      simp only [planNodes, gives_bind, gives_pure] at h
      obtain ⟨strategy, hstrategy, others, hothers, rfl⟩ := h
      exact .cons ⟨_, hstrategy⟩ (ih hothers)

/-- The strategies of properties are planned one by one. -/
theorem forall₂_of_gives_planProperties {pointer : Pointer} {properties : List (Property Node)}
    {planned : List (String × Bool × Strategy)}
    (h : (planProperties options pointer properties).Gives planned) :
    List.Forall₂ (fun property entry => entry.1 = property.name ∧ entry.2.1 = property.required ∧
      property.schema.Planned options entry.2.2) properties planned := by
  induction properties generalizing planned with
  | nil =>
    rw [planProperties, gives_pure] at h
    subst h
    exact .nil
  | cons property rest ih =>
    obtain ⟨name, schema, required⟩ := property
    simp only [planProperties, gives_bind, gives_pure] at h
    obtain ⟨strategy, hstrategy, others, hothers, rfl⟩ := h
    exact .cons ⟨rfl, rfl, _, hstrategy⟩ (ih hothers)

/-- The strategy of a deferred node is planned for its body. -/
theorem planned_of_gives_forced {thunks : Thunks} {thunk : Option String} {pointer : Pointer}
    {strategy : Strategy} (h : (forced options thunks thunk pointer).Gives strategy) :
    ∃ name body, thunk = some name ∧ Entries.find? name thunks = some body ∧
      body.value.Planned options strategy := by
  unfold forced at h
  cases hbody : thunk.bind fun name => Entries.find? name thunks with
  | none => simp [hbody] at h
  | some body =>
    obtain ⟨name, hname, hfound⟩ := Option.bind_eq_some_iff.mp hbody
    simp only [hbody, gives_bind, gives_lift] at h
    obtain ⟨node, rfl, hstrategy⟩ := h
    exact ⟨name, body, hname, hfound, pointer, hstrategy⟩

/-- The entries that are kept of planned properties have names of those. -/
theorem names_filterMap_sublist {planned : List (String × Bool × Strategy)}
    {keep : String × Bool × Strategy → Option (String × Strategy)}
    (hkeep : ∀ entry kept, keep entry = some kept → kept.1 = entry.1) :
    (Entries.names (planned.filterMap keep)).Sublist (planned.map (·.1)) := by
  induction planned with
  | nil => exact .slnil
  | cons entry rest ih =>
    cases hentry : keep entry with
    | none => simpa [hentry] using ih.cons _
    | some kept =>
      have hname := hkeep entry kept hentry
      simpa [hentry, Entries.names, hname] using ih

/-- An entry that is kept as required or as optional is that of a planned property. -/
theorem exists_of_mem_kept {planned : List (String × Bool × Strategy)} {entry : String × Strategy}
    (h : entry ∈ (planned.filterMap fun (name, required, strategy) =>
        if required then some (name, strategy) else none) ++
      planned.filterMap fun (name, required, strategy) =>
        if required then none else some (name, strategy)) :
    ∃ required, (entry.1, required, entry.2) ∈ planned := by
  rcases List.mem_append.mp h with h | h
  all_goals
    obtain ⟨⟨name, required, strategy⟩, hmem, hkept⟩ := List.mem_filterMap.mp h
    cases required <;> simp at hkept
    subst hkept
    exact ⟨_, hmem⟩

/-- The strategy of an object with different property names is made of one strategy for each property,
planned for its schema, among the required or the optional ones. -/
theorem exists_planned_of_object {docs : Documentation} {properties : List (Property Node)}
    {count : Bounds Int} {strategy : Strategy}
    (h : (Node.object docs properties count).Planned options strategy)
    (hnames : (properties.map (·.name)).Nodup) :
    count.least = none ∧ count.greatest = none ∧ ∃ planned : List (String × Bool × Strategy),
      List.Forall₂ (fun property entry => entry.1 = property.name ∧ entry.2.1 = property.required ∧
        property.schema.Planned options entry.2.2) properties planned ∧
      strategy = .object (planned.filterMap fun (name, required, strategy) =>
          if required then some (name, strategy) else none)
        (planned.filterMap fun (name, required, strategy) =>
          if required then none else some (name, strategy)) := by
  obtain ⟨pointer, h⟩ := h
  rw [Node.planAt] at h
  split at h
  · simp at h
  rename_i hcount
  simp only [gives_bind, gives_pure] at h
  obtain ⟨planned, hplanned, rfl⟩ := h
  have hall := forall₂_of_gives_planProperties hplanned
  have hsame : List.Forall₂ (· = ·) (properties.map (·.name)) (planned.map (·.1)) :=
    List.forall₂_map_left_iff.mpr (List.forall₂_map_right_iff.mpr
      (hall.imp fun _ _ hentry => hentry.1.symm))
  rw [List.forall₂_eq_eq_eq] at hsame
  rw [Entries.ofList_of_nodup, Entries.ofList_of_nodup]
  · exact ⟨by simp_all, by simp_all, planned, hall, rfl⟩
  all_goals
    refine (names_filterMap_sublist ?_).nodup (hsame ▸ hnames)
    rintro ⟨name, flag, strategy⟩ kept hkeep
    cases flag <;> simp at hkeep
    rw [← hkeep]

/-- The strategy of an object with different property names has an entry for each property, planned
for its schema, and all required ones among those that are always drawn. -/
theorem object_of_planned {docs : Documentation} {properties : List (Property Node)}
    {count : Bounds Int} {strategy : Strategy}
    (h : (Node.object docs properties count).Planned options strategy)
    (hnames : (properties.map (·.name)).Nodup) :
    count.least = none ∧ count.greatest = none ∧ ∃ required optional,
      strategy = .object required optional ∧
      (∀ property ∈ properties, property.required = true →
        property.name ∈ Entries.names required) ∧
      ∀ entry ∈ required ++ optional, ∀ property ∈ properties, property.name = entry.1 →
        property.schema.Planned options entry.2 := by
  obtain ⟨hleast, hgreatest, planned, hall, rfl⟩ := exists_planned_of_object h hnames
  refine ⟨hleast, hgreatest, _, _, rfl, fun property hproperty hrequired => ?_,
    fun entry hentry property hproperty hname => ?_⟩
  · obtain ⟨⟨name, flag, strategy⟩, hentry, rfl, rfl, -⟩ := exists_of_mem_left hall hproperty
    refine List.mem_map.mpr ⟨(property.name, strategy), List.mem_filterMap.mpr ⟨_, hentry, ?_⟩, rfl⟩
    simp [hrequired]
  · obtain ⟨flag, hmem⟩ := exists_of_mem_kept hentry
    obtain ⟨other, hother, hsameName, -, hplan⟩ := exists_of_mem_right hall hmem
    obtain rfl := List.inj_on_of_nodup_map hnames hproperty hother (hname.trans hsameName)
    exact hplan

/-- The strategy of an array gives nothing where its bounds are crossed, the least number of
placeholders, or a list of items planned for the node of its items. -/
theorem array_cases_of_planned {docs : Documentation} {items : Option Node} {length : Bounds Int}
    {strategy : Strategy} (h : (Node.array docs items length).Planned options strategy) :
    (crossed (some (length.least.getD 0)) length.greatest = true ∧ strategy = .just (.array [])) ∨
    (items = none ∧ crossed (some (length.least.getD 0)) length.greatest = false ∧
      strategy = .just (.array (List.replicate (length.least.getD 0).toNat .null))) ∨
    ∃ node item greatest, items = some node ∧
      crossed (some (length.least.getD 0)) length.greatest = false ∧ node.Planned options item ∧
      strategy = .list item (length.least.getD 0) greatest ∧
      (∀ most, length.greatest = some most → greatest = .int most) ∧
      (length.greatest = none →
        (shift .plus (.int (length.least.getD 0)) options.listSlack).Gives greatest) := by
  obtain ⟨pointer, h⟩ := h
  cases hcrossed : crossed (some (length.least.getD 0)) length.greatest with
  | true =>
    have hempty : (emptyArray pointer).Gives strategy := by
      cases items <;> simpa only [Node.planAt, hcrossed, ↓reduceIte] using h
    exact .inl ⟨rfl, gives_emptyArray.mp hempty⟩
  | false =>
    refine .inr ?_
    cases items with
    | none =>
      simp only [Node.planAt, hcrossed, Bool.false_eq_true, ↓reduceIte, gives_nulls] at h
      exact .inl ⟨rfl, rfl, h.2⟩
    | some node =>
      simp only [Node.planAt, hcrossed, Bool.false_eq_true, ↓reduceIte, gives_bind] at h
      obtain ⟨item, hitem, h⟩ := h
      refine .inr ?_
      cases hgreatest : length.greatest with
      | some greatest =>
        rw [hgreatest, gives_pure] at h
        exact ⟨node, item, _, rfl, rfl, ⟨_, hitem⟩, h.symm, by simp, by simp⟩
      | none =>
        simp only [hgreatest, gives_bind, gives_pure] at h
        obtain ⟨greatest, hshift, rfl⟩ := h
        exact ⟨node, item, greatest, rfl, rfl, ⟨_, hitem⟩, rfl, by simp, fun _ => hshift⟩

/-- The strategy of an array with bounds in order gives the least number of placeholders, or a list of
items planned for the node of its items. -/
theorem array_of_planned {docs : Documentation} {items : Option Node} {length : Bounds Int}
    {strategy : Strategy} (h : (Node.array docs items length).Planned options strategy)
    (hlength : length.InOrder) :
    (items = none ∧
      strategy = .just (.array (List.replicate (length.least.getD 0).toNat .null))) ∨
    ∃ node item greatest, items = some node ∧ node.Planned options item ∧
      strategy = .list item (length.least.getD 0) greatest ∧
      ∀ most, length.greatest = some most → greatest = .int most := by
  rcases array_cases_of_planned h with ⟨hcrossed, -⟩ | ⟨hitems, -, hstrategy⟩ |
    ⟨node, item, greatest, hitems, -, hitem, hstrategy, hmost, -⟩
  · simp [(crossed_eq_false hlength).2] at hcrossed
  · exact .inl ⟨hitems, hstrategy⟩
  · exact .inr ⟨node, item, greatest, hitems, hitem, hstrategy, hmost⟩

/-- The strategy of a tuple gives nothing where its bounds are crossed, or it draws the items that there
is room for one by one, and fills up with items planned for the additional node. -/
theorem tuple_cases_of_planned {docs : Documentation} {items : List Node} {additional : Option Node}
    {length : Bounds Int} {strategy : Strategy}
    (h : (Node.tuple docs items additional length).Planned options strategy) :
    (crossed length.least length.greatest = true ∧ strategy = .just (.array [])) ∨
    ∃ positional filler least greatest, crossed length.least length.greatest = false ∧
      (fillerBounds options length (Fit.kept items.length length.greatest)).Gives (least, greatest) ∧
      List.Forall₂ (Node.Planned options) (items.take (Fit.kept items.length length.greatest))
        positional ∧
      ((additional = none ∧ filler = .just .null) ∨
        ∃ node, additional = some node ∧ node.Planned options filler) ∧
      strategy = .tuple positional filler least greatest := by
  obtain ⟨pointer, h⟩ := h
  cases hcrossed : crossed length.least length.greatest with
  | true =>
    simp only [Node.planAt, hcrossed, ↓reduceIte, gives_emptyArray] at h
    exact .inl ⟨rfl, h⟩
  | false =>
    simp only [Node.planAt, hcrossed, Bool.false_eq_true, ↓reduceIte, gives_bind, Prod.exists] at h
    obtain ⟨least, greatest, hbounds, positional, hpositional, h⟩ := h
    have hall := forall₂_of_gives_planNodes hpositional
    cases additional with
    | none =>
      rw [gives_pure] at h
      exact .inr ⟨positional, _, least, greatest, rfl, hbounds, hall, .inl ⟨rfl, rfl⟩, h.symm⟩
    | some node =>
      simp only [gives_bind, gives_pure] at h
      obtain ⟨filler, hfiller, rfl⟩ := h
      exact .inr ⟨positional, filler, least, greatest, rfl, hbounds, hall,
        .inr ⟨node, rfl, _, hfiller⟩, rfl⟩

/-- The strategy of a tuple with bounds in order draws the items that there is room for one by one, and
fills up to an admitted number with items planned for the additional node. -/
theorem tuple_of_planned {docs : Documentation} {items : List Node} {additional : Option Node}
    {length : Bounds Int} {strategy : Strategy}
    (h : (Node.tuple docs items additional length).Planned options strategy)
    (hlength : length.InOrder) :
    ∃ positional filler greatest,
      List.Forall₂ (Node.Planned options) (items.take (Fit.kept items.length length.greatest))
        positional ∧
      (∀ node, additional = some node → node.Planned options filler) ∧
      strategy = .tuple positional filler
        (max 0 (length.least.getD 0 - Fit.kept items.length length.greatest)) greatest ∧
      ∀ most, length.greatest = some most →
        greatest = .int (most - Fit.kept items.length length.greatest) := by
  rcases tuple_cases_of_planned h with ⟨hcrossed, -⟩ |
    ⟨positional, filler, least, greatest, -, hbounds, hall, hfiller, hstrategy⟩
  · simp [(crossed_eq_false hlength).1] at hcrossed
  obtain ⟨rfl, hgreatest, -⟩ := bounds_of_gives_fillerBounds hbounds
  refine ⟨positional, filler, greatest, hall, fun node hnode => ?_, hstrategy, hgreatest⟩
  rcases hfiller with ⟨hnone, -⟩ | ⟨other, hother, hplanned⟩
  · cases hnode.symm.trans hnone
  · obtain rfl := Option.some_inj.mp (hnode.symm.trans hother)
    exact hplanned

/-- The strategy of a choice among schemas is that of one of them, and no other combination has a
strategy. -/
theorem combined_of_planned {docs : Documentation} {how : Combination} {members : List Node}
    {strategy : Strategy} (h : (Node.combined docs how members).Planned options strategy) :
    how = .anyOf ∧ ∃ strategies, strategy = .oneOf strategies ∧
      List.Forall₂ (Node.Planned options) members strategies := by
  obtain ⟨pointer, h⟩ := h
  cases how with
  | oneOf => simp [Node.planAt] at h
  | allOf => simp [Node.planAt] at h
  | anyOf =>
    rw [Node.planAt] at h
    split at h
    · simp at h
    · simp only [gives_bind, gives_pure] at h
      obtain ⟨strategies, hstrategies, rfl⟩ := h
      refine ⟨rfl, strategies, rfl, ?_⟩
      simpa using forall₂_of_gives_planNodes hstrategies

end JsonSchema
