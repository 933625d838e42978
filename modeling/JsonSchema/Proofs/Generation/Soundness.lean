import JsonSchema.Proofs.Generation.Drawn
import JsonSchema.Proofs.Validation.Recursion
import Mathlib.Data.List.Basic

/-!
# Drawn values pass their check

A value that is drawn for a schema passes the check against the schema, whatever the options of
either, if the nodes of the schema are consistent and its deferred nodes do not force each other for
ever at one place. There is one exception: a check looks at more nodes than a plan, such as the
items of a tuple that there is no room for, and ends with a fault where one of them is to blame for
one.
-/

namespace JsonSchema

namespace Schema

variable {schema : Schema} {thunks : Thunks} {strictness : Strictness} {options : OptionSection}

/-- The check of a value that is drawn for a node of the schema finds nothing wrong. -/
theorem violations_checkAt_of_drawn (hschema : schema.LazilyContractive thunks)
    (hconsistent : ∀ node, schema.Contains thunks node → node.Consistent)
    (followable : List String) (pending : Thunks) (node : Node) (value : Json)
    (hnode : schema.Contains thunks node)
    (hforce : (schema.scope thunks strictness).Forceable [] pending node)
    (h : node.Drawn options thunks value) :
    ((schema.scope thunks strictness).checkAt followable pending node value).violations = [] := by
  induction followable, pending, node, value using
    Scope.checkAt.induct (schema.scope thunks strictness) with
  | case1 => exact (Node.not_drawn_reference h).elim
  | case2 => exact (Node.not_drawn_reference h).elim
  | case3 => exact (Node.not_drawn_reference h).elim
  | case4 followable pending value =>
    obtain ⟨name, body, hname, -⟩ := Node.drawn_deferred h
    simp at hname
  | case5 followable pending value thunk body hbody _ ih =>
    obtain ⟨name, found, hname, hfound, hdrawn⟩ := Node.drawn_deferred h
    obtain rfl := Option.some_inj.mp hname
    obtain rfl := Option.some_inj.mp ((hbody.symm.trans hforce.find?).trans hfound)
    have hcycle := hschema _ hnode _ (List.mem_singleton_self _)
    rw [Scope.checkAt_forced hbody, Trace.violations_append, Trace.violations_notes]
    exact ih (hnode.forced hfound) (hforce.forced hfound hcycle) hdrawn
  | case6 followable pending value thunk hnone =>
    obtain ⟨name, found, hname, hfound, -⟩ := Node.drawn_deferred h
    obtain rfl := Option.some_inj.mp hname
    exact absurd ((hnone.symm.trans hforce.find?).trans hfound) (by simp)
  | case7 followable pending value docs how members ih =>
    obtain ⟨rfl, member, hmember, hdrawn⟩ := Node.drawn_combined h
    have haccepts := ih member hmember (hnode.child hmember) (hforce.member hmember) hdrawn
    rw [Scope.checkAt_combined]
    refine Check.violations_anyTrace.mpr ⟨_, List.mem_map.mpr ⟨member, hmember, rfl⟩, ?_⟩
    exact Trace.accepts_iff.mpr haccepts
  | case8 followable pending value node href hnone hsome hcombined ih =>
    have hown := node.handsOn_eq_false href hnone hsome hcombined
    obtain ⟨hvalue, hparts⟩ := Check.own_of_asks hown
      (Node.asks_of_drawn (hconsistent node hnode) h : node.Asks [] thunks strictness _ value)
    rw [Scope.checkAt_own hown, Trace.violations_append, Trace.violations_flatMap,
      List.append_eq_nil_iff, List.flatMap_eq_nil_iff]
    refine ⟨hvalue, fun part hpart => ?_⟩
    rw [Trace.violations_under, List.map_eq_nil_iff]
    exact ih part hpart (hnode.next (.part hpart)) (fun _ _ => rfl) (hparts part hpart)

/-- A value that is drawn for a schema passes the check against it, unless a node of the schema is to
blame for a fault and the check ends with that. -/
theorem check_drawn (schema : Schema) (thunks : Thunks) (options : OptionSection)
    (strictness : Strictness) (hschema : schema.LazilyContractive thunks)
    (hconsistent : ∀ node, schema.Contains thunks node → node.Consistent) {strategy : Strategy}
    (hplan : (schema.plan options).Gives strategy) {value : Json}
    (hdraws : strategy.Draws options thunks value) :
    (schema.check thunks strictness value).result = .ok [] ∨
      ∃ node fault, schema.Contains thunks node ∧ node.fault? thunks = some fault ∧
        (schema.check thunks strictness value).result = .error fault := by
  have hviolations : (schema.check thunks strictness value).violations = [] :=
    violations_checkAt_of_drawn hschema hconsistent _ _ _ _ .root (fun _ _ => rfl)
      ⟨strategy, ⟨[], hplan⟩, hdraws⟩
  cases hfault : (schema.check thunks strictness value).fault? with
  | none => exact .inl (Trace.result_eq_ok_nil_iff.mpr ⟨hfault, hviolations⟩)
  | some fault =>
    obtain ⟨node, hnode, hblame⟩ := fault?_of_meets_checkAt hschema _ _ _ _ .root
      (fun _ _ => rfl) (Trace.meets_of_fault? hfault)
    exact .inr ⟨node, fault, hnode, hblame, by simp [Trace.result, hfault]⟩

/-- Trees of short labels, which are planned when they are drawn, or small integers. -/
def grove : Schema where
  root := .combined {} .anyOf
    [.deferred (some "tree"), .integer {} { range := ⟨some (.int 1), some (.int 3)⟩ }]

/-- The body of the trees. -/
def groveThunks : Thunks := [("tree", ⟨.object {}
  [⟨"label", .string {} { length := ⟨some 1, some 2⟩ }, true⟩,
    ⟨"children", .array {} (some (.deferred (some "tree"))) {}, false⟩] {}, []⟩)]

/-- The strategy of the children of a tree at a place. -/
def groveChildren (pointer : Pointer) : Strategy :=
  .list (.deferred (some "tree") (pointer ++ ["children"] ++ ["items"])) 0 (.int 10)

/-- A tree with one child. -/
def sapling : Json := .object [("label", .string "x"),
  ("children", .array [.object [("label", .string "ab")]])]

/-- A tree with one child is drawn, so that it passes or one of the nodes has a fault. -/
theorem check_drawn_grove : (grove.check groveThunks {} sapling).result = .ok [] ∨
    ∃ node fault, grove.Contains groveThunks node ∧ node.fault? groveThunks = some fault ∧
      (grove.check groveThunks {} sapling).result = .error fault := by
  have hmem : ∀ node, grove.Contains groveThunks node → node ∈ [grove.root, .deferred (some "tree"),
      .integer {} { range := ⟨some (.int 1), some (.int 3)⟩ },
      .object {} [⟨"label", .string {} { length := ⟨some 1, some 2⟩ }, true⟩,
        ⟨"children", .array {} (some (.deferred (some "tree"))) {}, false⟩] {},
      .string {} { length := ⟨some 1, some 2⟩ }, .array {} (some (.deferred (some "tree"))) {}] :=
    fun node hnode => hnode.mem_of_closed (by simp) (by simp [grove]) (by simp [groveThunks])
      (by simp [grove, Node.children])
  have hplan : (grove.plan { kind := .generation }).Gives (.oneOf
      [.deferred (some "tree") ["anyOf", Pointer.index 0],
        .integer ⟨some (.int 1), some (.int 3)⟩]) := by
    simp [Schema.plan, grove, Node.planAt, planNodes, Planning.range, Combination.keyword]
  have hforced : ∀ pointer, (Planning.forced { kind := .generation } groveThunks (some "tree")
      pointer).Gives (.object [("label", .text ⟨some 1, some 2⟩)]
        [("children", groveChildren pointer)]) := fun _ => rfl
  have hlabel : ∀ text ∈ ["x", "ab"], (Strategy.text ⟨some 1, some 2⟩).Draws { kind := .generation }
      groveThunks (.string text) := by
    intro text htext
    have hfit : String.ofList (Fit.fit ⟨some 1, some 2⟩ text.toList) = text := by
      rcases List.mem_pair.mp htext with rfl | rfl <;> decide +kernel
    exact hfit ▸ .text ⟨some 1, some 2⟩ text
  have hchild : ∀ pointer, (Strategy.object [("label", .text ⟨some 1, some 2⟩)]
      [("children", groveChildren pointer)]).Draws { kind := .generation } groveThunks
      (.object [("label", .string "ab")]) := by
    intro pointer
    refine .object (by decide) (by decide) (fun _ => .text ⟨some 1, some 2⟩) (by simp) ?_
    simpa using hlabel "ab" (by simp)
  have hcontractive : grove.Contractive groveThunks :=
    contractive_of_links_eq_nil (by simp [grove]) (by simp [groveThunks, Node.links])
  refine check_drawn grove groveThunks { kind := .generation } {} hcontractive.lazily
    (fun node hnode => ?_) hplan (.oneOf List.mem_cons_self (.deferred (hforced _) ?_))
  · have hcases := hmem node hnode
    simp only [List.mem_cons, List.not_mem_nil, or_false] at hcases
    rcases hcases with rfl | rfl | rfl | rfl | rfl | rfl <;>
      constructor <;> simp [grove, Node.propertyNames, Node.enumerated, Node.lengths?]
    all_goals exact ⟨by simp, by simp, by simp⟩
  · refine .object (by decide) (by decide)
      (fun name => if name = "label" then .text ⟨some 1, some 2⟩
        else groveChildren ["anyOf", Pointer.index 0]) (by simp) ?_
    simp only [List.mem_cons, List.not_mem_nil, or_false, forall_eq_or_imp, forall_eq]
    refine ⟨hlabel "x" (by simp), .list ⟨by simp, by simp⟩ ?_⟩
    simpa using .deferred (hforced _) (hchild _)

/-- A choice whose first member has an item that there is no room for, with a pattern that exceeds a
limit. -/
def crowded : Schema where
  root := .combined {} .anyOf
    [.tuple {} [.string {} { enum := some [], pattern := some "a\x7b4294967295\x7d" }] none
      { greatest := some 0 },
      .array {} (some (.string {} {})) ⟨some 1, some 1⟩]

/-- A drawn value can end its check with a fault. -/
theorem check_crowded_eq_error : crowded.LazilyContractive [] ∧
    (∀ node, crowded.Contains [] node → node.Consistent) ∧
    ∃ strategy, (crowded.plan { kind := .generation }).Gives strategy ∧
      strategy.Draws { kind := .generation } [] (.array [.string ""]) ∧
      (crowded.check [] {} (.array [.string ""])).result = .error .repetitionLimit := by
  have hmem : ∀ node, crowded.Contains [] node → node ∈ [crowded.root,
      .tuple {} [.string {} { enum := some [], pattern := some "a\x7b4294967295\x7d" }] none
        { greatest := some 0 },
      .string {} { enum := some [], pattern := some "a\x7b4294967295\x7d" },
      .array {} (some (.string {} {})) ⟨some 1, some 1⟩, .string {} {}] :=
    fun node hnode => hnode.mem_of_closed (by simp) (by simp [crowded]) (by simp)
      (by simp [crowded, Node.children])
  have hcontractive : crowded.Contractive [] :=
    contractive_of_links_eq_nil (by simp [crowded]) (by simp)
  refine ⟨hcontractive.lazily, fun node hnode => ?_, .oneOf [.tuple [] (.just .null) 0 (.int 0),
    .list (.text {}) 1 (.int 1)], rfl, ?_, view_check_of_run 3 (by decide +kernel)⟩
  · have hcases := hmem node hnode
    simp only [List.mem_cons, List.not_mem_nil, or_false] at hcases
    rcases hcases with rfl | rfl | rfl | rfl | rfl <;>
      constructor <;> simp [crowded, Node.propertyNames, Node.enumerated, Node.lengths?]
    all_goals exact ⟨by simp, by simp, by simp⟩
  · have hfit : String.ofList (Fit.fit {} "".toList) = "" := by decide +kernel
    have htext : (Strategy.text {}).Draws { kind := .generation } [] (.string "") :=
      hfit ▸ .text {} ""
    exact .oneOf (List.mem_cons_of_mem _ List.mem_cons_self) (.list ⟨by simp, by simp⟩ (by simpa))

end Schema

end JsonSchema
