import JsonSchema.Proofs.Document.Proper
import JsonSchema.Proofs.Generation.Drawn
import JsonSchema.Proofs.Number.Sums
import Mathlib.Data.List.Forall2
import Mathlib.Logic.Relation

/-!
# Ranges that can be drawn from

A strategy can be drawn from where every range in it has a value: no list is to have fewer than no items
or fewer items at most than at least, and no range of numbers ends before it starts. Documents may give
any bounds, and planning does not make all of them usable. It cuts the least number of items of a tuple
at zero, but not that of an array; it takes a negative greatest number of items for crossed bounds in an
array, but not in a tuple without a least number; and it finds no range of numbers crossed by
not-a-number.

A node is orderly where none of this happens. The strategy of a document can be drawn from exactly where
all nodes are orderly that its plan looks at.
-/

namespace JsonSchema

open Planning

/-- What holds of all that paths lead to holds at the start and of all that the first steps lead to. -/
theorem forall_reflTransGen_iff {α : Type} {R : α → α → Prop} {P : α → Prop} {a : α} :
    (∀ b, Relation.ReflTransGen R a b → P b) ↔
      P a ∧ ∀ c, R a c → ∀ b, Relation.ReflTransGen R c b → P b := by
  constructor
  · exact fun h => ⟨h a .refl, fun c hstep b hpath => h b (.head hstep hpath)⟩
  · rintro ⟨hstart, hrest⟩ b hpath
    rcases hpath.cases_head with rfl | ⟨c, hstep, hpath⟩
    · exact hstart
    · exact hrest c hstep b hpath

/-- The widths that planning adds to bounds are integers that are not negative, as by default. -/
structure OptionSection.Natural (options : OptionSection) : Prop where
  listSlack : ∃ slack : Nat, options.listSlack.number? = some (.int slack)
  fillerSlack : ∃ slack : Nat, options.fillerSlack.number? = some (.int slack)
  boundaryOffset : ∃ offset : Nat, options.boundaryOffset.number? = some (.int offset)

namespace Strategy

/-- The strategies directly inside a strategy. -/
def parts : Strategy → List Strategy
  | .list item _ _ => [item]
  | .tuple items filler _ _ => items ++ [filler]
  | .oneOf members => members
  | .object required optional => required.map (·.2) ++ optional.map (·.2)
  | _ => []

/-- A list has no negative length and a range that is not crossed, and a range of numbers with two bounds
is not crossed either. -/
def InRange : Strategy → Prop
  | .list _ least greatest => 0 ≤ least ∧ Number.Le (.int least) greatest
  | .tuple _ _ least greatest => 0 ≤ least ∧ Number.Le (.int least) greatest
  | .integer range | .double range =>
    ∀ least greatest, range.least = some least → range.greatest = some greatest → least.Le greatest
  | _ => True

/-- Every range in a strategy has a value. -/
def Drawable (strategy : Strategy) : Prop :=
  ∀ inner, Relation.ReflTransGen (fun outer part => part ∈ outer.parts) strategy inner →
    inner.InRange

/-- A strategy can be drawn from where its own range has a value and its parts can be drawn from. -/
theorem drawable_iff {strategy : Strategy} :
    strategy.Drawable ↔ strategy.InRange ∧ ∀ part ∈ strategy.parts, part.Drawable :=
  forall_reflTransGen_iff

/-- A strategy without parts can be drawn from where its own range has a value. -/
theorem drawable_iff_inRange {strategy : Strategy} (h : strategy.parts = []) :
    strategy.Drawable ↔ strategy.InRange := by
  rw [drawable_iff, h]
  simp

/-- A strategy without parts and without a range can be drawn from. -/
theorem drawable_of_inRange {strategy : Strategy} (hparts : strategy.parts = [])
    (h : strategy.InRange) : strategy.Drawable :=
  (drawable_iff_inRange hparts).mpr h

/-- One of several strategies can be drawn from where each of them can. -/
theorem drawable_oneOf {members : List Strategy} :
    (oneOf members).Drawable ↔ ∀ member ∈ members, member.Drawable := by
  rw [drawable_iff]
  simp [InRange, parts]

/-- The parts of the strategy of an object are the strategies of all properties, required or not. -/
theorem mem_parts_object {planned : List (String × Bool × Strategy)} {part : Strategy} :
    part ∈ (object (planned.filterMap fun (name, required, strategy) =>
        if required then some (name, strategy) else none)
      (planned.filterMap fun (name, required, strategy) =>
        if required then none else some (name, strategy))).parts ↔ part ∈ planned.map (·.2.2) := by
  unfold parts
  induction planned with
  | nil => simp
  | cons entry rest ih =>
    obtain ⟨name, required, strategy⟩ := entry
    rw [List.mem_append] at ih
    cases required <;>
      simp only [List.filterMap_cons, ↓reduceIte, Bool.false_eq_true, List.map_cons, List.mem_append,
        List.mem_cons, ← ih]
    · exact or_left_comm
    · exact or_assoc

end Strategy

namespace Node

/-- The nodes directly inside a node that its plan looks at. -/
def plannedParts : Node → List Node
  | .object _ properties _ => properties.map (·.schema)
  | .array _ items length =>
    if crossed (some (length.least.getD 0)) length.greatest then [] else items.toList
  | .tuple _ items additional length =>
    if crossed length.least length.greatest then []
    else items.take (Fit.kept items.length length.greatest) ++ additional.toList
  | .combined _ _ members => members
  | _ => []

/-- The bounds of a node leave a range: an array with a schema for its items has no negative least
number of items, a tuple no negative greatest one, and numbers are not bounded by not-a-number. Crossed
bounds and those of enumerated numbers do not matter. -/
def Orderly : Node → Prop
  | .array _ (some _) length =>
    crossed (some (length.least.getD 0)) length.greatest = false → 0 ≤ length.least.getD 0
  | .tuple _ _ _ length =>
    crossed length.least length.greatest = false →
      ∀ greatest, length.greatest = some greatest → 0 ≤ greatest
  | .integer _ rules | .number _ rules =>
    rules.enum = none →
      rules.range.least ≠ some (.double .nan) ∧ rules.range.greatest ≠ some (.double .nan)
  | _ => True

/-- The plan of a node looks at the node and at what it looks at inside. -/
def Plans (node inner : Node) : Prop :=
  Relation.ReflTransGen (fun outer part => part ∈ outer.plannedParts) node inner

/-- The plan of a node looks at nodes inside it. -/
theorem mem_children_of_mem_plannedParts {node part : Node} (h : part ∈ node.plannedParts) :
    part ∈ node.children := by
  cases node with
  | array docs items length =>
    rw [plannedParts] at h
    split at h
    · cases h
    · exact h
  | tuple docs items additional length =>
    rw [plannedParts] at h
    split at h
    · cases h
    · rcases List.mem_append.mp h with hitem | hadditional
      · exact List.mem_append_left _ (List.mem_of_mem_take hitem)
      · exact List.mem_append_right _ hadditional
  | _ => exact h

end Node

namespace Planning

variable {options : OptionSection} {option : Json} {base near : Number} {offset : Int}

/-- A step of planning that shifts a number gives the exact or rounded sum or difference, and next to a
double the option has a double. -/
theorem gives_shift {sign : SumSign} (hoption : option.number? = some (.int offset))
    (h : (shift sign base option).Gives near) :
    near = sign.combine base (.int offset) ∧
      ∀ value, base = .double value → (Double.ofInt offset).isFinite = true := by
  rw [shift, shifted, hoption] at h
  cases base with
  | int value =>
    rw [gives_pure] at h
    exact ⟨h.symm, by simp⟩
  | double value =>
    cases hfits : exceedsDoubles (.int offset) with
    | true => simp only [hfits, Bool.or_true, ↓reduceIte, not_gives_throw] at h
    | false =>
      have hbase : exceedsDoubles (.double value) = false := rfl
      simp only [hbase, hfits, Bool.or_false, Bool.false_eq_true, ↓reduceIte, gives_pure] at h
      exact ⟨h.symm, fun _ _ => by simpa only [exceedsDoubles, Bool.not_eq_false'] using hfits⟩

/-- A number that is shifted up is not less than before. -/
theorem le_of_gives_shift_plus (hoption : option.number? = some (.int offset)) (hoffset : 0 ≤ offset)
    (h : (shift .plus base option).Gives near) (hbase : base ≠ .double .nan) : base.Le near := by
  obtain ⟨rfl, hfits⟩ := gives_shift hoption h
  exact (Number.le_add_and_sub_le hbase hoffset hfits).1

/-- A number that is shifted down is not greater than before. -/
theorem le_of_gives_shift_minus (hoption : option.number? = some (.int offset)) (hoffset : 0 ≤ offset)
    (h : (shift .minus base option).Gives near) (hbase : base ≠ .double .nan) : near.Le base := by
  obtain ⟨rfl, hfits⟩ := gives_shift hoption h
  exact (Number.le_add_and_sub_le hbase hoffset hfits).2

/-- The strategy of a range can be drawn from exactly where values are enumerated or no bound is
not-a-number. -/
theorem drawable_of_gives_range {make : Bounds Number → Strategy} {rules : NumberRules}
    {pointer : Pointer} {strategy : Strategy} (hoptions : options.Natural)
    (hmake : ∀ range, (make range).Drawable ↔ ∀ least greatest, range.least = some least →
      range.greatest = some greatest → least.Le greatest)
    (h : (range make options rules pointer).Gives strategy) :
    strategy.Drawable ↔ (rules.enum = none →
      rules.range.least ≠ some (.double .nan) ∧ rules.range.greatest ≠ some (.double .nan)) := by
  obtain ⟨offset, hoffset⟩ := hoptions.boundaryOffset
  have hnonneg : (0 : Int) ≤ offset := Int.natCast_nonneg offset
  obtain ⟨enum, least, greatest⟩ := rules
  cases enum with
  | some values =>
    obtain rfl := eq_choice_of_gives h
    have hchoice : (Strategy.choice (values.map .number)).Drawable :=
      Strategy.drawable_of_inRange rfl trivial
    simp [hchoice]
  | none =>
    cases least with
    | none =>
      cases greatest with
      | none =>
        simp only [range, gives_pure] at h
        subst h
        simp [hmake]
      | some greatest =>
        simp only [range, gives_bind, gives_pure] at h
        obtain ⟨near, hnear, rfl⟩ := h
        have hle : near.Le greatest ↔ greatest ≠ .double .nan :=
          ⟨fun hle => hle.2.1, le_of_gives_shift_minus hoffset hnonneg hnear⟩
        simp [Strategy.drawable_oneOf, hmake, hle]
    | some least =>
      cases greatest with
      | none =>
        simp only [range, gives_bind, gives_pure] at h
        obtain ⟨near, hnear, rfl⟩ := h
        have hle : least.Le near ↔ least ≠ .double .nan :=
          ⟨fun hle => hle.1, le_of_gives_shift_plus hoffset hnonneg hnear⟩
        simp [Strategy.drawable_oneOf, hmake, hle]
      | some greatest =>
        simp only [range] at h
        split at h
        · simp at h
        · rename_i hlt
          rw [gives_pure] at h
          subst h
          simp [hmake, Number.Le, hlt]

end Planning

section Plans

variable {options : OptionSection} {length : Bounds Int} {least : Int} {greatest : Number}

/-- A list of items can be drawn from where the least number of items is not negative and the strategy of
the items can be drawn from. -/
theorem drawable_list_iff {item : Strategy} (hoptions : options.Natural)
    (hcrossed : crossed (some least) length.greatest = false)
    (hmost : ∀ most, length.greatest = some most → greatest = .int most)
    (hslack : length.greatest = none →
      (shift .plus (.int least) options.listSlack).Gives greatest) :
    (Strategy.list item least greatest).Drawable ↔ 0 ≤ least ∧ item.Drawable := by
  obtain ⟨slack, hoption⟩ := hoptions.listSlack
  have hle : Number.Le (.int least) greatest := by
    cases hgreatest : length.greatest with
    | none =>
      exact le_of_gives_shift_plus hoption (Int.natCast_nonneg slack) (hslack hgreatest) (by simp)
    | some most =>
      rw [hmost most hgreatest, Number.int_le_int]
      simpa [crossed, hgreatest] using hcrossed
  rw [Strategy.drawable_iff]
  simp [Strategy.InRange, Strategy.parts, hle]

/-- The filler of a tuple has a range of lengths where the greatest number of items is not negative. -/
theorem inRange_tuple_iff {count : Nat} {positional : List Strategy} {filler : Strategy}
    (hoptions : options.Natural) (hcrossed : crossed length.least length.greatest = false)
    (hbounds : (fillerBounds options length (Fit.kept count length.greatest)).Gives
      (least, greatest)) :
    (Strategy.tuple positional filler least greatest).InRange ↔
      ∀ most, length.greatest = some most → 0 ≤ most := by
  obtain ⟨slack, hoption⟩ := hoptions.fillerSlack
  obtain ⟨hleast, hmost, hslack⟩ := bounds_of_gives_fillerBounds hbounds
  cases hgreatest : length.greatest with
  | none =>
    have hle := le_of_gives_shift_plus hoption (Int.natCast_nonneg slack) (hslack hgreatest) (by simp)
    have hnonneg : 0 ≤ least := by omega
    simp [Strategy.InRange, hle, hnonneg]
  | some most =>
    have hfew : length.least.getD 0 ≤ max 0 most := by
      cases hfew : length.least with
      | none => exact Int.le_max_left _ _
      | some few =>
        have hle : few ≤ most := by simpa [crossed, hfew, hgreatest] using hcrossed
        exact Int.le_trans hle (Int.le_max_right _ _)
    obtain rfl := hmost most hgreatest
    rw [hgreatest] at hleast ⊢
    simp only [Strategy.InRange, Number.int_le_int, Option.some.injEq, forall_eq']
    by_cases hsign : 0 ≤ most
    · have hkept : (Fit.kept count (some most) : Int) ≤ most := by
        rw [Fit.kept, if_pos hsign]
        omega
      exact iff_of_true ⟨by omega, by omega⟩ hsign
    · exact iff_of_false (by omega) hsign

/-- There are strategies for the nodes that the plan of a node looks at, and a strategy can be drawn from
exactly where the node is orderly and these strategies can be drawn from. -/
def Node.Rests (options : OptionSection) (node : Node) (strategy : Strategy) : Prop :=
  ∃ row, List.Forall₂ (Node.Planned options) node.plannedParts row ∧
    (strategy.Drawable ↔ node.Orderly ∧ ∀ part ∈ row, part.Drawable)

/-- A strategy without parts rests on nothing but its range. -/
theorem rests_leaf {node : Node} {strategy : Strategy} (hnode : node.plannedParts = [])
    (hparts : strategy.parts = []) (hrange : strategy.InRange) (horderly : node.Orderly) :
    node.Rests options strategy :=
  ⟨[], hnode ▸ .nil,
    iff_of_true (Strategy.drawable_of_inRange hparts hrange) ⟨horderly, List.forall_mem_nil _⟩⟩

/-- The strategy of an object rests on those of its properties. -/
theorem rests_object {docs : Documentation} {properties : List (Property Node)} {count : Bounds Int}
    {strategy : Strategy} (h : (Node.object docs properties count).Planned options strategy)
    (hnames : (Node.object docs properties count).propertyNames.Nodup) :
    (Node.object docs properties count).Rests options strategy := by
  obtain ⟨-, -, planned, hall, rfl⟩ := exists_planned_of_object h hnames
  refine ⟨planned.map (·.2.2), ?_, ?_⟩
  · exact List.forall₂_map_left_iff.mpr (List.forall₂_map_right_iff.mpr
      (hall.imp fun _ _ hentry => hentry.2.2))
  · rw [Strategy.drawable_iff]
    simp only [Strategy.InRange, Node.Orderly, Strategy.mem_parts_object]

/-- The strategy of an array rests on that of its items, if it has any. -/
theorem rests_array (hoptions : options.Natural) {docs : Documentation} {items : Option Node}
    {length : Bounds Int} {strategy : Strategy}
    (h : (Node.array docs items length).Planned options strategy) :
    (Node.array docs items length).Rests options strategy := by
  rcases array_cases_of_planned h with ⟨hcrossed, rfl⟩ | ⟨rfl, hcrossed, rfl⟩ |
    ⟨item, planned, greatest, rfl, hcrossed, hitem, rfl, hmost, hslack⟩
  · refine rests_leaf (by simp [Node.plannedParts, hcrossed]) rfl trivial ?_
    cases items <;> simp [Node.Orderly, hcrossed]
  · exact rests_leaf (by simp [Node.plannedParts]) rfl trivial trivial
  · refine ⟨[planned], by simpa [Node.plannedParts, hcrossed] using hitem, ?_⟩
    simpa [Node.Orderly, hcrossed] using drawable_list_iff hoptions hcrossed hmost hslack

/-- The strategy of a tuple rests on those of the items that are kept and on that of its filler. -/
theorem rests_tuple (hoptions : options.Natural) {docs : Documentation} {items : List Node}
    {additional : Option Node} {length : Bounds Int} {strategy : Strategy}
    (h : (Node.tuple docs items additional length).Planned options strategy) :
    (Node.tuple docs items additional length).Rests options strategy := by
  rcases tuple_cases_of_planned h with ⟨hcrossed, rfl⟩ |
    ⟨positional, filler, least, greatest, hcrossed, hbounds, hall, hfiller, rfl⟩
  · refine rests_leaf (by simp [Node.plannedParts, hcrossed]) rfl trivial ?_
    simp [Node.Orderly, hcrossed]
  · have horderly : (Node.tuple docs items additional length).Orderly ↔
        ∀ most, length.greatest = some most → 0 ≤ most := by
      simp [Node.Orderly, hcrossed]
    rw [Node.Rests, Strategy.drawable_iff, inRange_tuple_iff hoptions hcrossed hbounds, horderly]
    rcases hfiller with ⟨rfl, rfl⟩ | ⟨node, rfl, hnode⟩
    · have hjust : (Strategy.just .null).Drawable := Strategy.drawable_of_inRange rfl trivial
      refine ⟨positional, by simpa [Node.plannedParts, hcrossed] using hall, ?_⟩
      simp [Strategy.parts, or_imp, forall_and, hjust]
    · refine ⟨positional ++ [filler], ?_, by simp [Strategy.parts]⟩
      simpa [Node.plannedParts, hcrossed] using List.rel_append hall (.cons hnode .nil)

/-- The strategy of a text rests on nothing. -/
theorem rests_string {docs : Documentation} {rules : StringRules} {strategy : Strategy}
    (h : (Node.string docs rules).Planned options strategy) :
    (Node.string docs rules).Rests options strategy := by
  obtain ⟨pointer, h⟩ := h
  rw [Node.planAt] at h
  split at h
  · obtain rfl := eq_choice_of_gives h
    exact rests_leaf rfl rfl trivial trivial
  · obtain rfl := gives_pure.mp h
    exact rests_leaf rfl rfl trivial trivial

/-- Nor does that of a truth value. -/
theorem rests_boolean {docs : Documentation} {enum : Option (List Bool)} {strategy : Strategy}
    (h : (Node.boolean docs enum).Planned options strategy) :
    (Node.boolean docs enum).Rests options strategy := by
  obtain ⟨pointer, h⟩ := h
  cases enum with
  | some values =>
    rw [Node.planAt] at h
    obtain rfl := eq_choice_of_gives h
    exact rests_leaf rfl rfl trivial trivial
  | none =>
    rw [Node.planAt, gives_pure] at h
    subst h
    exact rests_leaf rfl rfl trivial trivial

/-- A node has a strategy that can be drawn from exactly where the node is orderly and the strategies of
the nodes that its plan looks at can be drawn from. -/
theorem rests_of_planned (hoptions : options.Natural) {node : Node} {strategy : Strategy}
    (h : node.Planned options strategy) (hnames : node.propertyNames.Nodup) :
    node.Rests options strategy := by
  cases node with
  | object docs properties count => exact rests_object h hnames
  | array docs items length => exact rests_array hoptions h
  | tuple docs items additional length => exact rests_tuple hoptions h
  | combined docs how members =>
    obtain ⟨rfl, row, rfl, hall⟩ := combined_of_planned h
    exact ⟨row, hall, by simp [Strategy.drawable_oneOf, Node.Orderly]⟩
  | integer docs rules | number docs rules =>
    obtain ⟨pointer, h⟩ := h
    rw [Node.planAt] at h
    refine ⟨[], .nil, ?_⟩
    rw [drawable_of_gives_range hoptions (fun range => Strategy.drawable_iff_inRange rfl) h]
    simp [Node.Orderly]
  | string docs rules => exact rests_string h
  | boolean docs enum => exact rests_boolean h
  | null docs | deferred thunk | verbatim document =>
    obtain ⟨pointer, h⟩ := h
    rw [Node.planAt, gives_pure] at h
    subst h
    exact rests_leaf rfl rfl trivial trivial
  | reference docs target | unknown =>
    obtain ⟨pointer, h⟩ := h
    simp [Node.planAt] at h

/-- A strategy that is planned for a node can be drawn from exactly where all nodes are orderly that
the plan looks at, if their properties have different names. -/
theorem drawable_iff_orderly (hoptions : options.Natural) {node : Node} {strategy : Strategy}
    (h : node.Planned options strategy)
    (hnames : ∀ inner, node.Plans inner → inner.propertyNames.Nodup) :
    strategy.Drawable ↔ ∀ inner, node.Plans inner → inner.Orderly := by
  induction node using Node.induction_children generalizing strategy with
  | step node ih =>
    obtain ⟨hself, hrest⟩ := forall_reflTransGen_iff.mp hnames
    obtain ⟨row, hall, hiff⟩ := rests_of_planned hoptions h hself
    refine hiff.trans (Iff.trans ?_ forall_reflTransGen_iff.symm)
    refine and_congr_right fun _ => ⟨fun hrow part hpart => ?_, fun hparts planned hmem => ?_⟩
    · obtain ⟨planned, hmem, hplanned⟩ := exists_of_mem_left hall hpart
      exact (ih part (Node.mem_children_of_mem_plannedParts hpart) hplanned (hrest part hpart)).mp
        (hrow planned hmem)
    · obtain ⟨part, hpart, hplanned⟩ := exists_of_mem_right hall hmem
      exact (ih part (Node.mem_children_of_mem_plannedParts hpart) hplanned (hrest part hpart)).mpr
        (hparts part hpart)

end Plans

namespace Document

/-- A strategy that is planned for a document can be drawn from exactly where all nodes are orderly that
the plan looks at. -/
theorem drawable_plan_read (document : Json) (h : document.WellFormed) (options : OptionSection)
    (hoptions : options.Natural) {strategy : Strategy}
    (hplan : ((read document).value.plan options).Gives strategy) :
    strategy.Drawable ↔ ∀ node, (read document).value.root.Plans node → node.Orderly := by
  refine drawable_iff_orderly hoptions ⟨[], hplan⟩ fun node hnode => ?_
  have hsettled : node.Settled := by
    induction hnode with
    | refl => exact (settled_read h).of_contains (.root : Schema.Contains _ [] _)
    | tail _ hpart ih => exact ih.child (Node.mem_children_of_mem_plannedParts hpart)
  cases node with
  | object docs properties count => exact hsettled.proper
  | _ => exact List.nodup_nil

/-- Rows of at least two numbers, and a mark of a text and at most one more item. -/
def shelf : Json :=
  .object [("type", .string "object"), ("required", .array [.string "rows"]), ("properties", .object
    [("rows", .object [("type", .string "array"), ("minItems", .number (.int 2)),
        ("items", .object [("type", .string "number"), ("minimum", .number (.int 0))])]),
      ("mark", .object [("type", .string "array"), ("maxItems", .number (.int 2)),
        ("items", .array [.object [("type", .string "string")]])])])]

/-- The strategy of the shelf. -/
def shelfStrategy : Strategy :=
  .object
    [("rows", .list
      (.oneOf [.double ⟨some (.int 0), some (.int 10)⟩, .double ⟨some (.int 0), none⟩]) 2 (.int 12))]
    [("mark", .tuple [.text {}] (.just .null) 0 (.int 1))]

/-- The strategy of the shelf can be drawn from exactly if all its nodes are in order. -/
theorem drawable_plan_read_shelf :
    ((read shelf).value.plan { kind := .generation }).Gives shelfStrategy ∧
      (shelfStrategy.Drawable ↔ ∀ node, (read shelf).value.root.Plans node → node.Orderly) := by
  have hread : (read shelf).value = ⟨.object {}
      [⟨"rows", .array {} (some (.number {} { range := ⟨some (.int 0), none⟩ })) ⟨some 2, none⟩, true⟩,
        ⟨"mark", .tuple {} [.string {} {}] none ⟨none, some 2⟩, false⟩] {}, []⟩ := by with_unfolding_all rfl
  have hplan : ((read shelf).value.plan { kind := .generation }).Gives shelfStrategy := by
    rw [hread, Planning.Gives]
    rfl
  exact ⟨hplan, drawable_plan_read shelf (by simp [shelf, Entries.names]) _
    ⟨⟨10, rfl⟩, ⟨100, rfl⟩, ⟨10, rfl⟩⟩ hplan⟩

/-- An array that is to have fewer than no items. -/
def shrunken : Json :=
  .object [("type", .string "array"), ("items", .object [("type", .string "null")]),
    ("minItems", .number (.int (-1)))]

/-- The strategy that is planned for a document cannot always be drawn from. -/
theorem not_drawable_plan_read_shrunken : shrunken.WellFormed ∧
    OptionSection.Natural { kind := .generation } ∧
    ∃ strategy, ((read shrunken).value.plan { kind := .generation }).Gives strategy ∧
      ¬ strategy.Drawable := by
  have hread : (read shrunken).value = ⟨.array {} (some (.null {})) ⟨some (-1), none⟩, []⟩ := by
    with_unfolding_all rfl
  have hplan : ((read shrunken).value.plan { kind := .generation }).Gives
      (.list .null (-1) (.int 9)) := by
    rw [hread, Planning.Gives]
    rfl
  refine ⟨by simp [shrunken, Entries.names], ⟨⟨10, rfl⟩, ⟨100, rfl⟩, ⟨10, rfl⟩⟩, _, hplan,
    fun hdrawable => ?_⟩
  have hrange : (0 : Int) ≤ -1 := (hdrawable _ .refl).1
  omega

end Document

end JsonSchema
