import JsonSchema.Proofs.Generation.Ranges
import Mathlib.Algebra.Ring.Int.Defs

/-!
# What is refused

The refusals of a node are listed depth first: a node that nothing is generated for is one refusal, at
its own place, and every other node has the refusals of the nodes that its plan looks at, in their order.
The list is made of the node only, so neither options nor definitions nor the bodies of deferred nodes
have a part in it.

Planning stops at the first refusal of the list, and gives a strategy where the list is empty. The one
other way for it to end is a fault: a sum of a bound and an option that cannot be formed, more placeholders
than can be counted, or a node of no known kind. Planning meets a fault where it comes to it, so a refusal
after it is not reported.
-/

namespace JsonSchema

open Planning

/-- An enumeration without values leaves nothing to choose. -/
def Hindrance.ofEnum? {α : Type} : Option (List α) → Option Hindrance
  | some [] => some .emptyEnumeration
  | _ => none

namespace NumberRules

/-- Why nothing is generated for numbers: none is enumerated, or the bounds are crossed where they
count. -/
def hindrance? (rules : NumberRules) : Option Hindrance :=
  match rules.enum, rules.range.least, rules.range.greatest with
  | none, some least, some greatest => if greatest.lt least then some .crossedRange else none
  | enum, _, _ => Hindrance.ofEnum? enum

/-- The sum of the only bound and an option, for the numbers near the bound. -/
def sum? (options : OptionSection) (rules : NumberRules) : Option (SumSign × Number × Json) :=
  match rules.enum, rules.range.least, rules.range.greatest with
  | none, some least, none => some (.plus, least, options.boundaryOffset)
  | none, none, some greatest => some (.minus, greatest, options.boundaryOffset)
  | _, _, _ => none

end NumberRules

namespace Node

/-- Why nothing is generated for a node, whatever stands inside it. -/
def hindrance? : Node → Option Hindrance
  | .object _ _ count =>
    if count.least.isSome || count.greatest.isSome then some .propertyCounts else none
  | .string _ rules => Hindrance.ofEnum? rules.enum
  | .integer _ rules | .number _ rules => rules.hindrance?
  | .boolean _ enum => Hindrance.ofEnum? enum
  | .reference _ target => some (.reference target)
  | .combined _ .oneOf _ => some .oneOf
  | .combined _ .allOf _ => some .allOf
  | .combined _ .anyOf members => if members.isEmpty then some .emptyChoice else none
  | _ => none

/-- The nodes directly inside a node that something is generated for, in order and each with its place:
properties, the items of an array whose bounds are not crossed, the items of a tuple that there is room
for and then its additional node, or alternatives. -/
def placedParts : Node → List (Pointer × Node)
  | .object _ properties _ => properties.map fun property => ([property.name], property.schema)
  | .array _ items length =>
    if crossed (some (length.least.getD 0)) length.greatest then []
    else items.toList.map (["items"], ·)
  | .tuple _ items additional length =>
    if crossed length.least length.greatest then []
    else ((items.take (Fit.kept items.length length.greatest)).zipIdx.map fun (item, index) =>
        ([Pointer.index index], item)) ++ additional.toList.map (["additionalItems"], ·)
  | .combined _ .anyOf members => members.zipIdx.map fun (member, index) =>
    ([Combination.anyOf.keyword, Pointer.index index], member)
  | _ => []

/-- The plan of a node looks at no other nodes than those of a row that holds it and, with each node,
the parts that the plan of that looks at. -/
theorem Plans.mem_of_closed {node inner : Node} {nodes : List Node} (h : node.Plans inner)
    (hnode : node ∈ nodes) (hparts : ∀ outer ∈ nodes, ∀ part ∈ outer.plannedParts, part ∈ nodes) :
    inner ∈ nodes := by
  induction h with
  | refl => exact hnode
  | tail _ hpart ih => exact hparts _ ih _ hpart

/-- A part with a place is one that the plan looks at. -/
theorem mem_plannedParts_of_mem_placedParts {node part : Node} {place : Pointer}
    (h : (place, part) ∈ node.placedParts) : part ∈ node.plannedParts := by
  cases node with
  | object docs properties count =>
    obtain ⟨property, hmem, heq⟩ := List.mem_map.mp h
    cases heq
    exact List.mem_map_of_mem hmem
  | array docs items length =>
    rw [placedParts] at h
    rw [plannedParts]
    split at h <;> simp_all
  | tuple docs items additional length =>
    rw [placedParts] at h
    rw [plannedParts]
    split at h
    · cases h
    · rename_i hcrossed
      rw [if_neg hcrossed]
      rcases List.mem_append.mp h with hitem | hadditional
      · obtain ⟨⟨item, index⟩, hmem, heq⟩ := List.mem_map.mp hitem
        cases heq
        exact List.mem_append_left _ (List.fst_mem_of_mem_zipIdx hmem)
      · obtain ⟨other, hmem, heq⟩ := List.mem_map.mp hadditional
        cases heq
        exact List.mem_append_right _ hmem
  | combined docs how members =>
    cases how with
    | anyOf =>
      obtain ⟨⟨member, index⟩, hmem, heq⟩ := List.mem_map.mp h
      cases heq
      exact List.fst_mem_of_mem_zipIdx hmem
    | _ => cases h
  | _ => cases h

/-- The refusals of a node that stands at a place, depth first. -/
def refusals (pointer : Pointer) (node : Node) : List RefusedPart :=
  match node.hindrance? with
  | some reason => [⟨reason, pointer⟩]
  | none => node.placedParts.attach.flatMap fun ⟨(place, part), h⟩ =>
    have := sizeOf_lt_of_mem_children
      (mem_children_of_mem_plannedParts (mem_plannedParts_of_mem_placedParts h))
    part.refusals (pointer ++ place)
termination_by sizeOf node

/-- A node that nothing is generated for is the one refusal. -/
theorem refusals_of_hindrance {node : Node} {reason : Hindrance} (h : node.hindrance? = some reason)
    (pointer : Pointer) : node.refusals pointer = [⟨reason, pointer⟩] := by
  rw [refusals, h]

/-- The refusals of any other node are those inside it. -/
theorem refusals_of_placedParts {node : Node} (h : node.hindrance? = none) (pointer : Pointer) :
    node.refusals pointer =
      node.placedParts.flatMap fun (place, part) => part.refusals (pointer ++ place) := by
  rw [refusals, h, List.flatMap_def, List.flatMap_def]
  exact congrArg List.flatten (@List.attach_map_val _ _ _ fun placed : Pointer × Node =>
    placed.2.refusals (pointer ++ placed.1))

/-- The sum of a bound and an option that the plan of a node takes, where the bound has no counterpart:
for the greatest length of an array or of the filler of a tuple, and for the numbers near a bound. -/
def sum? (options : OptionSection) : Node → Option (SumSign × Number × Json)
  | .array _ (some _) ⟨least, none⟩ => some (.plus, .int (least.getD 0), options.listSlack)
  | .tuple _ items _ ⟨least, none⟩ =>
    some (.plus, .int (max 0 (least.getD 0 - items.length)), options.fillerSlack)
  | .integer _ rules | .number _ rules => rules.sum? options
  | _ => none

/-- The number of placeholders that the plan of a node puts in a row: the least number of items of an array
without a node for them, unless its bounds are crossed. -/
def placeholders? : Node → Option Int
  | .array _ none length =>
    if crossed (some (length.least.getD 0)) length.greatest then none else some (length.least.getD 0)
  | _ => none

/-- Planning can end with a fault at a node: its sum cannot be formed, there is no row of so many
placeholders, or it is of no known kind. -/
def Halts (options : OptionSection) (node : Node) (fault : Fault) : Prop :=
  (node = .unknown ∧ fault = .unknownNode) ∨
    (∃ count, node.placeholders? = some count ∧ countFault? count = some fault) ∨
    ∃ sign base option, node.sum? options = some (sign, base, option) ∧
      shifted sign base option = .error fault

end Node

namespace Planning

variable {α β : Type} {mayEnd : Fault → Prop}

/-- Planning stops at an obstacle. -/
def Stops (planning : Planning α) (met : Obstacle) : Prop := planning.run.value = .error met

/-- Planning stops where something else was met before, or where the rest stops. -/
theorem stops_bind {first : Planning α} {next : α → Planning β} {met : Obstacle} :
    (first >>= next).Stops met ↔ first.Stops met ∨ ∃ value, first.Gives value ∧ (next value).Stops met := by
  obtain ⟨outcome, notes⟩ := first
  cases outcome with
  | ok value =>
    constructor
    · exact fun h => .inr ⟨value, rfl, h⟩
    · rintro (h | ⟨_, hvalue, h⟩)
      · cases h
      · obtain rfl := Except.ok.inj hvalue
        exact h
  | error reason =>
    constructor
    · intro h
      cases h
      exact .inl rfl
    · rintro (h | ⟨_, hvalue, -⟩)
      · cases h
        rfl
      · cases hvalue

/-- Planning stops at the first of some refusals and gives nothing where there are any, unless it ends
with a fault. -/
structure Refuses (planning : Planning α) (refusals : List RefusedPart) (mayEnd : Fault → Prop) :
    Prop where
  nothing : ∀ result, planning.Gives result → refusals = []
  first : ∀ part, planning.Stops (.refused part) → refusals.head? = some part
  fault : ∀ fault, planning.Stops (.fault fault) → mayEnd fault

/-- What is given without planning refuses nothing. -/
theorem refuses_pure (value : α) : Refuses (pure value) [] mayEnd where
  nothing _ _ := rfl
  first _ h := by cases h
  fault _ h := by cases h

/-- Steps refuse what the first refuses and then what the others refuse. -/
theorem Refuses.bind {first : Planning α} {next : α → Planning β} {before after : List RefusedPart}
    (hfirst : first.Refuses before mayEnd)
    (hnext : ∀ value, first.Gives value → (next value).Refuses after mayEnd) :
    (first >>= next).Refuses (before ++ after) mayEnd where
  nothing result h := by
    obtain ⟨value, hvalue, hresult⟩ := gives_bind.mp h
    rw [hfirst.nothing value hvalue, (hnext value hvalue).nothing result hresult, List.nil_append]
  first part h := by
    rcases stops_bind.mp h with hstops | ⟨value, hvalue, hstops⟩
    · rw [List.head?_append, hfirst.first part hstops, Option.some_or]
    · rw [hfirst.nothing value hvalue, List.nil_append]
      exact (hnext value hvalue).first part hstops
  fault fault h := by
    rcases stops_bind.mp h with hstops | ⟨value, hvalue, hstops⟩
    · exact hfirst.fault fault hstops
    · exact (hnext value hvalue).fault fault hstops

/-- A last step that only puts a result together refuses nothing. -/
theorem Refuses.map {first : Planning α} {refusals : List RefusedPart} (f : α → β)
    (h : first.Refuses refusals mayEnd) :
    (first >>= fun value => pure (f value)).Refuses refusals mayEnd := by
  simpa using h.bind (fun value _ => refuses_pure (f value))

/-- More faults may be expected. -/
theorem Refuses.mono {planning : Planning α} {refusals : List RefusedPart} {mayEnd' : Fault → Prop}
    (h : planning.Refuses refusals mayEnd) (hmono : ∀ fault, mayEnd fault → mayEnd' fault) :
    planning.Refuses refusals mayEnd' where
  nothing := h.nothing
  first := h.first
  fault fault hstops := hmono fault (h.fault fault hstops)

/-- A refusal is the only one. -/
theorem refuses_refuse (reason : Hindrance) (pointer : Pointer) :
    (refuse reason pointer : Planning α).Refuses [⟨reason, pointer⟩] mayEnd where
  nothing _ h := by cases h
  first part h := by cases h; rfl
  fault _ h := by cases h

/-- A fault refuses nothing. -/
theorem refuses_throw {fault : Fault} (h : mayEnd fault) :
    (throw (.fault fault) : Planning α).Refuses [] mayEnd where
  nothing _ _ := rfl
  first _ hstops := by cases hstops
  fault other hstops := by
    cases hstops
    exact h

/-- The empty array is not refused. -/
theorem refuses_emptyArray (pointer : Pointer) : (emptyArray pointer).Refuses [] mayEnd where
  nothing _ _ := rfl
  first _ h := by cases h
  fault _ h := by cases h

/-- Placeholders are not refused, but there may be too many of them. -/
theorem refuses_nulls {count : Int} (h : ∀ fault, countFault? count = some fault → mayEnd fault) :
    (nulls count).Refuses [] mayEnd := by
  unfold nulls
  cases hfault : countFault? count with
  | some fault => exact refuses_throw (h fault hfault)
  | none => exact refuses_pure _

/-- A sum is not refused, but it may fail. -/
theorem refuses_shift {sign : SumSign} {base : Number} {option : Json}
    (h : ∀ fault, shifted sign base option = .error fault → mayEnd fault) :
    (shift sign base option).Refuses [] mayEnd := by
  unfold shift
  cases hsum : shifted sign base option with
  | ok sum => exact refuses_pure sum
  | error fault => exact refuses_throw (h fault hsum)

/-- A choice among enumerated values is refused where there are none. -/
theorem refuses_choice {γ : Type} (values : List γ) (f : γ → Json) (pointer : Pointer) :
    (choice (values.map f) pointer).Refuses
      ((Hindrance.ofEnum? (some values)).toList.map (⟨·, pointer⟩)) mayEnd := by
  cases values with
  | nil => exact refuses_refuse _ _
  | cons value rest => exact refuses_pure _

end Planning

variable {options : OptionSection} {mayEnd : Fault → Prop}

/-- Nodes in a row refuse what they refuse one after the other. -/
theorem refuses_planNodes {place : Nat → Pointer} {index count : Nat} {nodes : List Node}
    (h : ∀ node ∈ nodes.take count, ∀ pointer,
      (node.planAt options pointer).Refuses (node.refusals pointer) mayEnd) :
    (planNodes options place index count nodes).Refuses
      (((nodes.take count).zipIdx index).flatMap fun (node, i) => node.refusals (place i)) mayEnd := by
  induction nodes generalizing index count with
  | nil => simpa [planNodes] using refuses_pure _
  | cons node rest ih =>
    cases count with
    | zero => exact refuses_pure _
    | succ count =>
      rw [planNodes, List.take_succ_cons, List.zipIdx_cons, List.flatMap_cons]
      rw [List.take_succ_cons] at h
      exact (h node List.mem_cons_self (place index)).bind fun strategy _ =>
        (ih fun other hother => h other (List.mem_cons_of_mem _ hother)).map _

/-- Properties refuse what their schemas refuse one after the other. -/
theorem refuses_planProperties {pointer : Pointer} {properties : List (Property Node)}
    (h : ∀ property ∈ properties, ∀ pointer,
      (property.schema.planAt options pointer).Refuses (property.schema.refusals pointer) mayEnd) :
    (planProperties options pointer properties).Refuses
      (properties.flatMap fun property => property.schema.refusals (pointer ++ [property.name]))
      mayEnd := by
  induction properties with
  | nil => simpa [planProperties] using refuses_pure _
  | cons property rest ih =>
    obtain ⟨name, schema, required⟩ := property
    rw [planProperties, List.flatMap_cons]
    exact (h _ List.mem_cons_self _).bind fun strategy _ =>
      (ih fun other hother => h other (List.mem_cons_of_mem _ hother)).map _

namespace Node

/-- A sum of a node fails only where a fault is expected. -/
theorem refuses_sum {node : Node} (h : ∀ fault, node.Halts options fault → mayEnd fault)
    {sign : SumSign} {base : Number} {option : Json}
    (hnode : node.sum? options = some (sign, base, option)) :
    (shift sign base option).Refuses [] mayEnd :=
  refuses_shift fun fault hfault => h fault (.inr (.inr ⟨sign, base, option, hnode, hfault⟩))

/-- Numbers refuse an empty enumeration and crossed bounds, and only a sum can fail. -/
theorem refuses_range {make : Bounds Number → Strategy} {rules : NumberRules} (node : Node)
    (hhindrance : node.hindrance? = rules.hindrance?) (hsum : node.sum? options = rules.sum? options)
    (h : ∀ fault, node.Halts options fault → mayEnd fault) (pointer : Pointer) :
    (range make options rules pointer).Refuses (node.hindrance?.toList.map (⟨·, pointer⟩)) mayEnd := by
  rw [hhindrance]
  obtain ⟨enum, least, greatest⟩ := rules
  cases enum with
  | some values =>
    have hchoice := @refuses_choice mayEnd _ values .number pointer
    cases least <;> cases greatest <;> exact hchoice
  | none =>
    cases least with
    | none =>
      cases greatest with
      | none => exact refuses_pure _
      | some greatest => exact (refuses_sum h hsum).map _
    | some least =>
      cases greatest with
      | none => exact (refuses_sum h hsum).map _
      | some greatest =>
        cases hcrossed : greatest.lt least with
        | true => simpa [range, NumberRules.hindrance?, hcrossed] using refuses_refuse _ pointer
        | false => simpa [range, NumberRules.hindrance?, hcrossed] using refuses_pure _

/-- The refusals of a node without nodes inside that its plan looks at. -/
theorem refusals_of_leaf {node : Node} (h : node.placedParts = []) (pointer : Pointer) :
    node.refusals pointer = node.hindrance?.toList.map (⟨·, pointer⟩) := by
  cases hhindrance : node.hindrance? with
  | none => rw [refusals_of_placedParts hhindrance, h]; rfl
  | some reason => rw [refusals_of_hindrance hhindrance]; rfl

section Parts

variable {docs : Documentation} {length : Bounds Int}

/-- An object refuses bounds of its number of properties, or what its properties refuse. -/
theorem refuses_object {properties : List (Property Node)} {count : Bounds Int}
    (hpart : ∀ part ∈ (Node.object docs properties count).plannedParts, ∀ pointer,
      (part.planAt options pointer).Refuses (part.refusals pointer) mayEnd) (pointer : Pointer) :
    ((Node.object docs properties count).planAt options pointer).Refuses
      ((Node.object docs properties count).refusals pointer) mayEnd := by
  rw [planAt]
  split
  · rename_i hcount
    have hhindrance : (Node.object docs properties count).hindrance? = some .propertyCounts :=
      if_pos hcount
    rw [refusals_of_hindrance hhindrance]
    exact refuses_refuse _ _
  · rename_i hcount
    have hhindrance : (Node.object docs properties count).hindrance? = none := if_neg hcount
    rw [refusals_of_placedParts hhindrance, placedParts, List.flatMap_map]
    exact (refuses_planProperties fun property hmem =>
      hpart property.schema (List.mem_map_of_mem hmem)).map _

/-- An array refuses what its items refuse, unless its bounds are crossed. -/
theorem refuses_array {items : Option Node}
    (hself : ∀ fault, (Node.array docs items length).Halts options fault → mayEnd fault)
    (hpart : ∀ part ∈ (Node.array docs items length).plannedParts, ∀ pointer,
      (part.planAt options pointer).Refuses (part.refusals pointer) mayEnd) (pointer : Pointer) :
    ((Node.array docs items length).planAt options pointer).Refuses
      ((Node.array docs items length).refusals pointer) mayEnd := by
  rw [refusals_of_placedParts rfl]
  cases hcrossed : crossed (some (length.least.getD 0)) length.greatest with
  | true =>
    have hempty := @refuses_emptyArray mayEnd pointer
    cases items <;> simpa only [planAt, placedParts, hcrossed, ↓reduceIte, List.flatMap_nil] using hempty
  | false =>
    rw [planAt.eq_def]
    simp only [placedParts, hcrossed, Bool.false_eq_true, ↓reduceIte]
    cases items with
    | none =>
      have hcount : (Node.array docs none length).placeholders? = some (length.least.getD 0) := by
        simp [placeholders?, hcrossed]
      exact refuses_nulls fun fault hfault => hself fault (.inr (.inl ⟨_, hcount, hfault⟩))
    | some node =>
      obtain ⟨least, greatest⟩ := length
      have hnode := hpart node (by simp [plannedParts, hcrossed]) (pointer ++ ["items"])
      rw [Option.toList_some, List.map_singleton, List.flatMap_singleton]
      cases greatest with
      | some greatest => exact hnode.map _
      | none =>
        rw [← List.append_nil (node.refusals _)]
        exact hnode.bind fun item _ => (refuses_sum hself rfl).map _

/-- A tuple refuses what the items refuse that there is room for and then what its additional node
refuses, unless its bounds are crossed. -/
theorem refuses_tuple {items : List Node} {additional : Option Node}
    (hself : ∀ fault, (Node.tuple docs items additional length).Halts options fault → mayEnd fault)
    (hpart : ∀ part ∈ (Node.tuple docs items additional length).plannedParts, ∀ pointer,
      (part.planAt options pointer).Refuses (part.refusals pointer) mayEnd) (pointer : Pointer) :
    ((Node.tuple docs items additional length).planAt options pointer).Refuses
      ((Node.tuple docs items additional length).refusals pointer) mayEnd := by
  rw [refusals_of_placedParts rfl]
  cases hcrossed : crossed length.least length.greatest with
  | true =>
    have hempty := @refuses_emptyArray mayEnd pointer
    simpa only [planAt, placedParts, hcrossed, ↓reduceIte, List.flatMap_nil] using hempty
  | false =>
    have hbounds : (fillerBounds options length (Fit.kept items.length length.greatest)).Refuses []
        mayEnd := by
      obtain ⟨least, greatest⟩ := length
      cases greatest with
      | some greatest => exact refuses_pure _
      | none => exact (refuses_sum hself rfl).map _
    have hitems : (planNodes options (fun index => pointer ++ [Pointer.index index]) 0
        (Fit.kept items.length length.greatest) items).Refuses _ mayEnd :=
      refuses_planNodes fun item hitem => hpart item (by simp [plannedParts, hcrossed, hitem])
    rw [planAt]
    simp only [placedParts, hcrossed, Bool.false_eq_true, ↓reduceIte, List.flatMap_append,
      List.flatMap_map]
    refine hbounds.bind fun bounds _ => hitems.bind fun positional _ => ?_
    cases additional with
    | none => exact refuses_pure _
    | some node =>
      have hnode := hpart node (by simp [plannedParts, hcrossed])
        (pointer ++ ["additionalItems"])
      simpa using hnode.map _

/-- A choice refuses what its alternatives refuse, or that there are none, and any other combination is
refused. -/
theorem refuses_combined {how : Combination} {members : List Node}
    (hpart : ∀ part ∈ (Node.combined docs how members).plannedParts, ∀ pointer,
      (part.planAt options pointer).Refuses (part.refusals pointer) mayEnd) (pointer : Pointer) :
    ((Node.combined docs how members).planAt options pointer).Refuses
      ((Node.combined docs how members).refusals pointer) mayEnd := by
  cases how with
  | oneOf | allOf =>
    rw [planAt, refusals_of_leaf rfl]
    exact refuses_refuse _ _
  | anyOf =>
    rw [planAt]
    split
    · rename_i hempty
      have hhindrance : (Node.combined docs .anyOf members).hindrance? = some .emptyChoice :=
        if_pos hempty
      rw [refusals_of_hindrance hhindrance]
      exact refuses_refuse _ _
    · rename_i hempty
      have hhindrance : (Node.combined docs .anyOf members).hindrance? = none := if_neg hempty
      rw [refusals_of_placedParts hhindrance, placedParts, List.flatMap_map]
      have hmembers : (planNodes options
          (fun index => pointer ++ [Combination.anyOf.keyword, Pointer.index index]) 0
          members.length members).Refuses _ mayEnd :=
        refuses_planNodes fun member hmember => hpart member (List.mem_of_mem_take hmember)
      rw [List.take_length] at hmembers
      exact hmembers.map _

end Parts

/-- Planning a node stops at the first of its refusals, unless it ends with a fault at a node that the
plan looks at. -/
theorem refuses_planAt (node : Node) (pointer : Pointer) :
    (node.planAt options pointer).Refuses (node.refusals pointer)
      fun fault => ∃ inner, node.Plans inner ∧ inner.Halts options fault := by
  induction node using induction_children generalizing pointer with
  | step node ih =>
    have hself : ∀ fault, node.Halts options fault →
        ∃ inner, node.Plans inner ∧ inner.Halts options fault := fun _ hfault => ⟨node, .refl, hfault⟩
    have hpart : ∀ part ∈ node.plannedParts, ∀ pointer,
        (part.planAt options pointer).Refuses (part.refusals pointer)
          fun fault => ∃ inner, node.Plans inner ∧ inner.Halts options fault := by
      intro part hmem pointer
      refine (ih part (mem_children_of_mem_plannedParts hmem) pointer).mono fun fault hfault => ?_
      obtain ⟨inner, hplans, hhalts⟩ := hfault
      exact ⟨inner, .head hmem hplans, hhalts⟩
    cases node with
    | object docs properties count => exact refuses_object hpart pointer
    | array docs items length => exact refuses_array hself hpart pointer
    | tuple docs items additional length => exact refuses_tuple hself hpart pointer
    | combined docs how members => exact refuses_combined hpart pointer
    | string docs rules =>
      rw [planAt, refusals_of_leaf rfl]
      cases henum : rules.enum with
      | some values => simpa [hindrance?, henum] using refuses_choice values .string pointer
      | none => simpa [hindrance?, henum, Hindrance.ofEnum?] using refuses_pure _
    | integer docs rules =>
      rw [planAt, refusals_of_leaf rfl]
      exact refuses_range (.integer docs rules) rfl rfl hself pointer
    | number docs rules =>
      rw [planAt, refusals_of_leaf rfl]
      exact refuses_range (.number docs rules) rfl rfl hself pointer
    | boolean docs enum =>
      rw [refusals_of_leaf rfl]
      cases enum with
      | some values =>
        rw [planAt]
        exact refuses_choice values .bool pointer
      | none =>
        rw [planAt]
        exact refuses_pure _
    | reference docs target =>
      rw [planAt, refusals_of_leaf rfl]
      exact refuses_refuse _ _
    | null docs | deferred thunk | verbatim document =>
      rw [planAt, refusals_of_leaf rfl]
      exact refuses_pure _
    | unknown =>
      rw [planAt, refusals_of_leaf rfl]
      exact refuses_throw (hself _ (.inl ⟨rfl, rfl⟩))

end Node

/-- The widths that planning adds to bounds are integers. -/
structure OptionSection.Integral (options : OptionSection) : Prop where
  listSlack : ∃ slack, options.listSlack.number? = some (.int slack)
  fillerSlack : ∃ slack, options.fillerSlack.number? = some (.int slack)
  boundaryOffset : ∃ offset, options.boundaryOffset.number? = some (.int offset)

/-- Two integers have a sum, and so have any number and an integer that has a double. -/
theorem Planning.exists_shifted {sign : SumSign} {base : Number} {option : Json} {offset : Int}
    (hoption : option.number? = some (.int offset))
    (h : (∃ value, base = .int value) ∨ exceedsDoubles (.int offset) = false) :
    ∃ sum, shifted sign base option = .ok sum := by
  rw [shifted, hoption]
  cases base with
  | int value => exact ⟨_, rfl⟩
  | double value =>
    have hoffset : exceedsDoubles (.int offset) = false := by
      refine h.resolve_left fun hint => ?_
      obtain ⟨_, hvalue⟩ := hint
      cases hvalue
    have hbase : exceedsDoubles (.double value) = false := rfl
    simp only [hbase, hoffset, Bool.or_self, Bool.false_eq_true, ↓reduceIte]
    exact ⟨_, rfl⟩

/-- Lengths are integers, and only the numbers near a bound have a sum with it. -/
theorem Node.cases_of_sum? {node : Node} {sign : SumSign} {base : Number} {option : Json}
    (h : node.sum? options = some (sign, base, option)) :
    ((∃ value, base = .int value) ∧ (option = options.listSlack ∨ option = options.fillerSlack)) ∨
      option = options.boundaryOffset := by
  have hrules : ∀ rules : NumberRules, rules.sum? options = some (sign, base, option) →
      option = options.boundaryOffset := by
    intro rules hsum
    unfold NumberRules.sum? at hsum
    split at hsum <;> cases hsum <;> rfl
  unfold Node.sum? at h
  split at h
  · cases h
    exact .inl ⟨⟨_, rfl⟩, .inl rfl⟩
  · cases h
    exact .inl ⟨⟨_, rfl⟩, .inr rfl⟩
  · exact .inr (hrules _ h)
  · exact .inr (hrules _ h)
  · cases h

/-- There is a row of every number of items that fits into the memory. -/
theorem Planning.countFault?_eq_none {count : Int} (hleast : -(twoTo 63 : Int) ≤ count)
    (hgreatest : count < twoTo 60) : countFault? count = none := by
  have hlimits : twoTo 60 < twoTo 63 := by decide
  have hcount : isCount count = true := by
    rw [isCount, Bool.and_eq_true, decide_eq_true_eq, decide_eq_true_eq]
    omega
  rw [countFault?, hcount, if_neg (by decide), if_neg (by omega)]

/-- Where options are integers and the width of ranges has a double, planning does not end with a fault
at a node of a known kind whose placeholders fit into the memory. -/
theorem Node.not_halts (hoptions : options.Integral) {node : Node} (hknown : node ≠ .unknown)
    (hfits : ∀ offset, options.boundaryOffset.number? = some (.int offset) →
      exceedsDoubles (.int offset) = false)
    (hroom : ∀ count, node.placeholders? = some count → -(twoTo 63 : Int) ≤ count ∧ count < twoTo 60)
    (fault : Fault) : ¬ node.Halts options fault := by
  rintro (⟨hunknown, -⟩ | ⟨count, hcount, hfault⟩ | ⟨sign, base, option, hsum, hfault⟩)
  · exact hknown hunknown
  · obtain ⟨hleast, hgreatest⟩ := hroom count hcount
    cases (countFault?_eq_none hleast hgreatest).symm.trans hfault
  · have hformed : ∃ sum, shifted sign base option = .ok sum := by
      rcases cases_of_sum? hsum with ⟨hbase, rfl | rfl⟩ | rfl
      · obtain ⟨slack, hslack⟩ := hoptions.listSlack
        exact exists_shifted hslack (.inl hbase)
      · obtain ⟨slack, hslack⟩ := hoptions.fillerSlack
        exact exists_shifted hslack (.inl hbase)
      · obtain ⟨offset, hoffset⟩ := hoptions.boundaryOffset
        exact exists_shifted hoffset (.inr (hfits offset hoffset))
    obtain ⟨sum, hsum⟩ := hformed
    rw [hsum] at hfault
    cases hfault

namespace Schema

/-- The plan of a schema stops at the first refusal of its root if there is one, and gives a strategy if
there is none. -/
structure TellsFirst (options : OptionSection) (schema : Schema) : Prop where
  stops_iff : ∀ part, (schema.plan options).Stops (.refused part) ↔
    (schema.root.refusals []).head? = some part
  gives_iff : (∃ strategy, (schema.plan options).Gives strategy) ↔ schema.root.refusals [] = []

/-- The plan of a schema tells the first refusal, or it ends with a fault at a node that it looks at.
With integers as options, of which the one for ranges has a double, it tells the first refusal wherever
all nodes that it looks at are of known kinds and have placeholders that fit into the memory, if any. -/
theorem tellsFirst_or_halts (schema : Schema) (options : OptionSection) :
    (schema.TellsFirst options ∨ ∃ node fault, schema.root.Plans node ∧ node.Halts options fault ∧
      (schema.plan options).Stops (.fault fault)) ∧
    (options.Integral →
      (∀ offset, options.boundaryOffset.number? = some (.int offset) →
        exceedsDoubles (.int offset) = false) →
      (∀ node, schema.root.Plans node → node ≠ .unknown) →
      (∀ node count, schema.root.Plans node → node.placeholders? = some count →
        -(twoTo 63 : Int) ≤ count ∧ count < twoTo 60) → schema.TellsFirst options) := by
  have hrefuses := @Node.refuses_planAt options schema.root []
  have heither : schema.TellsFirst options ∨ ∃ node fault, schema.root.Plans node ∧
      node.Halts options fault ∧ (schema.plan options).Stops (.fault fault) := by
    cases hend : (schema.plan options).run.value with
    | ok strategy =>
      have hnothing := hrefuses.nothing strategy hend
      refine .inl ⟨fun part => ?_, iff_of_true ⟨strategy, hend⟩ hnothing⟩
      simp [Stops, hend, hnothing]
    | error met =>
      cases met with
      | refused part =>
        have hfirst := hrefuses.first part hend
        refine .inl ⟨fun other => ?_, iff_of_false ?_ ?_⟩
        · rw [Stops, hend, hfirst, Except.error.injEq, Obstacle.refused.injEq, Option.some_inj]
        · simp [Gives, hend]
        · intro hnothing
          simp [hnothing] at hfirst
      | fault fault =>
        obtain ⟨node, hplans, hhalts⟩ := hrefuses.fault fault hend
        exact .inr ⟨node, fault, hplans, hhalts, hend⟩
  refine ⟨heither, fun hoptions hfits hknown hroom => heither.resolve_right ?_⟩
  rintro ⟨node, fault, hplans, hhalts, -⟩
  exact Node.not_halts hoptions (hknown node hplans) hfits (hroom node · hplans) fault hhalts

/-- An array that no value fits, whose items do not matter, an array of two placeholders, and a tuple with
room for one item and without room for its additional one, which matters. -/
def thicket : Schema where
  root := .object {} [⟨"none", .array {} (some (.reference {} "a")) ⟨some 1, some 0⟩, true⟩,
    ⟨"two", .array {} none ⟨some 2, none⟩, true⟩,
    ⟨"row", .tuple {} [.string {} {}, .reference {} "b"] (some (.combined {} .oneOf []))
      ⟨none, some 1⟩, false⟩] {}

/-- The first refusal is that of the additional node. -/
theorem tellsFirst_thicket : thicket.TellsFirst { kind := .generation } ∧
    thicket.root.refusals [] = [⟨.oneOf, ["row", "additionalItems"]⟩] := by
  have hknown : ∀ node, thicket.root.Plans node → node ∈ [thicket.root,
      .array {} (some (.reference {} "a")) ⟨some 1, some 0⟩, .array {} none ⟨some 2, none⟩,
      .tuple {} [.string {} {}, .reference {} "b"] (some (.combined {} .oneOf [])) ⟨none, some 1⟩,
      .string {} {}, .combined {} .oneOf []] := by
    intro node hplans
    refine hplans.mem_of_closed List.mem_cons_self ?_
    simp [thicket, Node.plannedParts, crossed, Fit.kept]
  refine ⟨(tellsFirst_or_halts thicket { kind := .generation }).2
    ⟨⟨10, rfl⟩, ⟨100, rfl⟩, ⟨10, rfl⟩⟩ ?_ ?_ ?_, ?_⟩
  · rintro offset hoffset
    cases hoffset
    decide +kernel
  · rintro node hplans rfl
    simpa [thicket] using hknown _ hplans
  · intro node count hplans hcount
    have hmem := hknown node hplans
    simp only [List.mem_cons, List.not_mem_nil, or_false] at hmem
    obtain rfl | rfl | rfl | rfl | rfl | rfl := hmem <;> cases hcount
    decide
  · cbv

/-- A number from zero on, or a reference. -/
def leaning : Schema where
  root := .combined {} .anyOf
    [.number {} { range := { least := some (.double .zero) } }, .reference {} "a"]

/-- Options with a wide range next to bounds. -/
def wide : OptionSection where
  kind := .generation
  stored := [("boundary_offset", .number (.int (10 ^ 309)))]

/-- The sum of a double and an integer without a double ends planning before the refusal. -/
theorem not_tellsFirst_leaning : wide.Integral ∧
    leaning.root.refusals [] = [⟨.reference "a", ["anyOf", "1"]⟩] ∧
    (leaning.plan wide).Stops (.fault .tooLarge) ∧ ¬ leaning.TellsFirst wide := by
  have hshifted : shifted .plus (.double .zero) wide.boundaryOffset = .error .tooLarge := by
    have hlarge : exceedsDoubles (.int (10 ^ 309)) = true := by decide +kernel
    have hoption : wide.boundaryOffset.number? = some (.int (10 ^ 309)) := rfl
    rw [shifted, hoption]
    simp only [hlarge, Bool.or_true, ↓reduceIte]
  have hstops : (leaning.plan wide).Stops (.fault .tooLarge) := by
    have hshift : (shift .plus (.double .zero) wide.boundaryOffset).Stops (.fault .tooLarge) := by
      rw [shift, hshifted]
      rfl
    have hnumber : ((Node.number {} { range := { least := some (.double .zero) } }).planAt wide
        ["anyOf", "0"]).Stops (.fault .tooLarge) := by
      rw [Node.planAt, range]
      exact stops_bind.mpr (.inl hshift)
    rw [Schema.plan, leaning, Node.planAt]
    exact stops_bind.mpr (.inl (stops_bind.mpr (.inl hnumber)))
  have hrefusals : leaning.root.refusals [] = [⟨.reference "a", ["anyOf", "1"]⟩] := by
    cbv
  refine ⟨⟨⟨10, rfl⟩, ⟨100, rfl⟩, ⟨10 ^ 309, rfl⟩⟩, hrefusals, hstops, fun htells => ?_⟩
  have hrefused := (htells.stops_iff ⟨.reference "a", ["anyOf", "1"]⟩).mpr (by rw [hrefusals]; rfl)
  cases hstops.symm.trans hrefused

end Schema

end JsonSchema
