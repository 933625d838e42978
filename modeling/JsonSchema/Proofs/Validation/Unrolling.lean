import JsonSchema.Proofs.Validation.Building
import JsonSchema.Proofs.Validation.Rearranging
import JsonSchema.Proofs.Validation.Recursion

/-!
# Arrays and tuples

An array asks of each item what a tuple asks of the items after its first ones. So an array is checked as a
tuple whose first items are copies of the node for the items, and a tuple as one with copies of the
additional node after its first items, however many there are. This remains so where arrays and tuples
stand anywhere in a schema, in the bodies of recursive definitions as well: copies bring no new references,
so the references that can be followed at one place of the value are the same.
-/

namespace JsonSchema

/-- A tuple with copies of the node for all further items among its first items, in the place of an array or
of a tuple with fewer copies. -/
inductive Node.Unrolls : Node → Node → Prop
  | array (docs docs' : Documentation) (items : Node) (count : Nat) (length : Bounds Int) :
    Unrolls (.array docs (some items) length)
      (.tuple docs' (List.replicate count items) (some items) length)
  | tuple (docs docs' : Documentation) (items : List Node) (additional : Node) (count : Nat)
      (length : Bounds Int) :
    Unrolls (.tuple docs items (some additional) length)
      (.tuple docs' (items ++ List.replicate count additional) (some additional) length)

/-- A node with arrays and tuples unrolled anywhere in it. -/
inductive Node.Unrolled : Node → Node → Prop
  | inside {node node' : Node} {nodes : List Node}
      (hinside : List.Forall₂ Unrolled node.children nodes)
      (h : Relation.ReflGen Unrolls (node.withChildren nodes) node') : Unrolled node node'

/-- A schema with arrays and tuples unrolled in the root and in the bodies of the definitions. -/
structure Schema.Unrolled (schema schema' : Schema) : Prop where
  root : schema.root.Unrolled schema'.root
  definitions : List.Forall₂ (fun entry other => entry.1 = other.1 ∧ entry.2.Unrolled other.2)
    schema.definitions schema'.definitions

namespace Check

/-- Copies of the additional node ask nothing that is not asked without them. -/
theorem itemParts_append_replicate (nodes : List Node) (node : Node) (count start : Nat)
    (items : List Json) :
    itemParts (nodes ++ List.replicate count node) (some node) start items =
      itemParts nodes (some node) start items := by
  rw [itemParts_eq, itemParts_eq]
  refine List.filterMap_congr fun pair _ => ?_
  obtain ⟨item, index⟩ := pair
  refine congrArg (Option.map _) ?_
  by_cases hindex : index < nodes.length
  · rw [List.getElem?_append_left hindex]
  · have hcopy : ∀ index : Nat, (List.replicate count node)[index]?.or (some node) = some node := by
      intro index
      rw [List.getElem?_replicate]
      split <;> rfl
    rw [List.getElem?_append_right (Nat.le_of_not_lt hindex), hcopy,
      List.getElem?_eq_none (Nat.le_of_not_lt hindex), Option.none_or]

end Check

namespace Node

variable {node node' : Node}

/-- What unrolls holds no combination, reference or deferred node, and neither does what it unrolls to. -/
theorem Unrolls.handsOn (h : node.Unrolls node') : node'.handsOn = node.handsOn ∧ node.handsOn = false := by
  cases h <;> exact ⟨rfl, rfl⟩

/-- The same is asked of a value itself. -/
theorem Unrolls.ownTrace (h : node.Unrolls node') (strictness : Strictness) (value : Json) :
    Check.ownTrace strictness node' value = Check.ownTrace strictness node value := by
  cases h <;> cases value <;> rfl

/-- The same parts of a value are checked against the same nodes. -/
theorem Unrolls.parts (h : node.Unrolls node') (value : Json) :
    Check.parts node' value = Check.parts node value := by
  cases value with
  | array values =>
    cases h with
    | array docs docs' items count length =>
      exact Check.itemParts_append_replicate [] items count 0 values
    | tuple docs docs' items additional count length =>
      exact Check.itemParts_append_replicate items additional count 0 values
  | _ => cases h <;> rfl

/-- The same nodes are inside. -/
theorem Unrolls.mem_children (h : node.Unrolls node') (child : Node) :
    child ∈ node.children ↔ child ∈ node'.children := by
  cases h with
  | array => simp [children, List.mem_replicate]
  | tuple =>
    simp only [children, Option.toList_some, List.mem_append, List.mem_replicate, List.mem_singleton]
    tauto

/-- A node is unrolled where nothing is. -/
theorem Unrolled.refl (node : Node) : node.Unrolled node := by
  induction node using Node.induction_children with
  | step node ih =>
    refine .inside (List.forall₂_same.mpr ih) ?_
    rw [withChildren_children]

/-- A node that unrolls is unrolled where nothing is inside it. -/
theorem Unrolls.unrolled (h : node.Unrolls node') : node.Unrolled node' := by
  refine .inside (List.forall₂_same.mpr fun child _ => .refl child) ?_
  rw [withChildren_children]
  exact .single h

/-- The nodes inside an unrolled node are unrolled nodes of those inside the node. -/
theorem Unrolled.children (h : node.Unrolled node') : ∃ nodes,
    List.Forall₂ Unrolled node.children nodes ∧ ∀ child, child ∈ nodes ↔ child ∈ node'.children := by
  cases h with
  | @inside _ _ nodes hinside h =>
    refine ⟨nodes, hinside, fun child => ?_⟩
    have hchildren : (node.withChildren nodes).children = nodes :=
      children_withChildren hinside.length_eq.symm
    rw [← hchildren]
    cases h with
    | refl => exact Iff.rfl
    | single h => exact h.mem_children child

/-- Nodes that hand the value on stay of their kind: references and deferred nodes as they are, and
combinations with unrolled members. -/
theorem Unrolled.withChildren_of_handsOn (h : node.Unrolled node')
    (hhandsOn : node.handsOn = true ∨ node'.handsOn = true) : ∃ nodes,
    List.Forall₂ Unrolled node.children nodes ∧ node' = node.withChildren nodes := by
  cases h with
  | @inside _ _ nodes hinside h =>
    refine ⟨nodes, hinside, ?_⟩
    cases h with
    | refl => rfl
    | single h =>
      have hown := h.handsOn
      rw [handsOn_withChildren] at hown
      simp [hown] at hhandsOn

/-- References stay as they are, and come from nothing else. -/
theorem Unrolled.eq_reference_iff (h : node.Unrolled node') (docs : Documentation) (target : String) :
    node' = .reference docs target ↔ node = .reference docs target := by
  constructor
  · rintro rfl
    obtain ⟨nodes, -, heq⟩ := h.withChildren_of_handsOn (.inr rfl)
    cases node <;> simp_all [withChildren]
  · rintro rfl
    obtain ⟨nodes, -, heq⟩ := h.withChildren_of_handsOn (.inl rfl)
    exact heq

/-- The same references stand in an unrolled node. -/
theorem Unrolled.mem_references {target : String} (h : node.Unrolled node') :
    target ∈ node'.references ↔ target ∈ node.references :=
  mem_references_congr (fun _ _ h docs => h.eq_reference_iff docs target) (fun _ _ h => h.children) h

end Node

open Check

/-- Scopes in which references are resolved to unrolled bodies, and to which the same references are
known. -/
structure Scope.Unrolled (scope scope' : Scope) : Prop where
  resolves : ∀ target, Option.Rel Node.Unrolled (scope.definitions.resolve? target)
    (scope'.definitions.resolve? target)
  count : scope'.definitions.length = scope.definitions.length
  thunks : scope'.thunks = scope.thunks
  strictness : scope'.strictness = scope.strictness
  references : ∀ target, target ∈ scope'.references ↔ target ∈ scope.references

/-- Checks against unrolled nodes are the same, notes and faults included. -/
theorem Scope.Unrolled.checkAt_eq {scope scope' : Scope} (hscope : scope.Unrolled scope')
    (followable followable' : List String) (pending : Thunks) (node node' : Node) (value : Json)
    (hfollowable : ∀ target, target ∈ followable' ↔ target ∈ followable) (hnode : node.Unrolled node') :
    scope'.checkAt followable' pending node' value = scope.checkAt followable pending node value := by
  induction followable, pending, node, value using Scope.checkAt.induct scope
      generalizing followable' node' with
  | case1 followable pending value docs target hnone =>
    obtain ⟨nodes, -, rfl⟩ := hnode.withChildren_of_handsOn (.inl rfl)
    have hnone' := eq_none_of_rel (hnone ▸ hscope.resolves target)
    rw [Scope.checkAt_unresolved hnone]
    refine (Scope.checkAt_unresolved hnone').trans ?_
    rw [unresolvedTrace, unresolvedTrace, hscope.count, hscope.strictness]
  | case2 followable pending value docs target body hbody htarget _ ih =>
    obtain ⟨nodes, -, rfl⟩ := hnode.withChildren_of_handsOn (.inl rfl)
    obtain ⟨body', hbody', hunrolled⟩ := exists_of_rel_some (hbody ▸ hscope.resolves target)
    have hothers : ∀ other, other ∈ except followable' target ↔ other ∈ except followable target :=
      fun other => by simp [except, hfollowable other]
    rw [Scope.checkAt_followed hbody htarget, ← ih _ body' hothers hunrolled, ← hscope.thunks]
    exact Scope.checkAt_followed hbody' ((hfollowable target).mpr htarget)
  | case3 followable pending value docs target body hbody hnot =>
    obtain ⟨nodes, -, rfl⟩ := hnode.withChildren_of_handsOn (.inl rfl)
    obtain ⟨body', hbody', -⟩ := exists_of_rel_some (hbody ▸ hscope.resolves target)
    rw [Scope.checkAt_circular hbody hnot]
    exact Scope.checkAt_circular hbody' fun htarget => hnot ((hfollowable target).mp htarget)
  | case4 followable pending value =>
    obtain ⟨nodes, -, rfl⟩ := hnode.withChildren_of_handsOn (.inl rfl)
    exact Scope.checkAt_noThunk.trans Scope.checkAt_noThunk.symm
  | case5 followable pending value thunk body hbody _ ih =>
    obtain ⟨nodes, -, rfl⟩ := hnode.withChildren_of_handsOn (.inl rfl)
    rw [Scope.checkAt_forced hbody, ← ih followable' body.value hfollowable (.refl _)]
    exact Scope.checkAt_forced hbody
  | case6 followable pending value thunk hnone =>
    obtain ⟨nodes, -, rfl⟩ := hnode.withChildren_of_handsOn (.inl rfl)
    rw [Scope.checkAt_unforced hnone, ← hscope.thunks]
    exact Scope.checkAt_unforced hnone
  | case7 followable pending value docs how members ih =>
    obtain ⟨others, hmembers, rfl⟩ := hnode.withChildren_of_handsOn (.inl rfl)
    rw [Scope.checkAt_combined]
    refine Scope.checkAt_combined.trans (congrArg (combine how) (Eq.symm ?_))
    rw [← List.forall₂_eq_eq_eq, List.forall₂_map_left_iff, List.forall₂_map_right_iff]
    refine (forall₂_mem hmembers).imp fun member other hrelated => funext fun _ => ?_
    obtain ⟨hmember, -, hunrolled⟩ := hrelated
    exact (ih member hmember followable' other hfollowable hunrolled).symm
  | case8 followable pending value node href hnone hsome hcombined ih =>
    have hown := node.handsOn_eq_false href hnone hsome hcombined
    cases hnode with
    | @inside _ _ nodes hinside h =>
      have hmiddle : node'.handsOn = false ∧
          ownTrace scope.strictness node' value = ownTrace scope.strictness node value ∧
          parts node' value = parts (node.withChildren nodes) value := by
        rw [← ownTrace_withChildren hinside.length_eq.symm]
        cases h with
        | refl => exact ⟨by rwa [Node.handsOn_withChildren], rfl, rfl⟩
        | single h => exact ⟨h.handsOn.1.trans h.handsOn.2, h.ownTrace _ _, h.parts _⟩
      obtain ⟨hown', htrace, hparts⟩ := hmiddle
      rw [Scope.checkAt_own hown, Scope.checkAt_own hown', hscope.strictness, htrace, hparts]
      refine congrArg _ (flatMap_eq_of_forall₂ ?_).symm
      refine (forall₂_mem (forall₂_parts_withChildren hinside value)).imp
        fun part part' hrelated => ?_
      obtain ⟨hpart, -, halong⟩ := hrelated
      rw [← halong.segment, Scope.check, Scope.check, hscope.thunks, ← halong.value,
        ih part hpart _ _ hscope.references halong.node]

namespace Schema

variable {schema schema' : Schema}

/-- Unrolled schemas give scopes in which references are resolved to unrolled bodies. -/
theorem Unrolled.scope (h : schema.Unrolled schema') (thunks : Thunks) (strictness : Strictness) :
    (schema.scope thunks strictness).Unrolled (schema'.scope thunks strictness) where
  resolves target := Entries.rel_find? h.definitions _
  count := h.definitions.length_eq.symm
  thunks := rfl
  strictness := rfl
  references target := by
    have hlisted : target ∈ schema'.definitions.flatMap (fun entry => entry.2.references) ↔
        target ∈ schema.definitions.flatMap fun entry => entry.2.references := by
      rw [List.mem_flatMap, List.mem_flatMap]
      constructor
      · rintro ⟨other, hother, htarget⟩
        obtain ⟨entry, hentry, -, hunrolled⟩ := exists_of_mem_right h.definitions hother
        exact ⟨entry, hentry, hunrolled.mem_references.mp htarget⟩
      · rintro ⟨entry, hentry, htarget⟩
        obtain ⟨other, hother, -, hunrolled⟩ := exists_of_mem_left h.definitions hentry
        exact ⟨other, hother, hunrolled.mem_references.mpr htarget⟩
    simp only [Schema.scope, Scope.ofNode, Scope.reachable, List.mem_eraseDups, List.mem_append,
      h.root.mem_references, hlisted]

/-- A schema and one where arrays and tuples are unrolled are checked alike. -/
theorem Unrolled.check_eq (h : schema.Unrolled schema') (thunks : Thunks) (strictness : Strictness)
    (value : Json) : schema'.check thunks strictness value = schema.check thunks strictness value :=
  (h.scope thunks strictness).checkAt_eq _ _ _ _ _ value (h.scope thunks strictness).references h.root

/-- A node that unrolls unrolls as the root of a schema. -/
theorem unrolled_of_root {node node' : Node} (h : node.Unrolls node') (definitions : Definitions) :
    Schema.Unrolled ⟨node, definitions⟩ ⟨node', definitions⟩ :=
  ⟨h.unrolled, List.forall₂_same.mpr fun _ _ => ⟨rfl, .refl _⟩⟩

/-- An array is checked as a tuple of any number of copies of the node for its items with that node for all
others, and copies of the additional node after the first items of a tuple change no check. Schemas that
come from each other by replacing such arrays and tuples by each other, anywhere and any number of times,
are checked alike. -/
theorem check_unrolled :
    (∀ docs docs' items count length definitions thunks strictness value,
      (Node.array docs (some items) length).check definitions thunks strictness value =
        (Node.tuple docs' (List.replicate count items) (some items) length).check definitions thunks
          strictness value) ∧
    (∀ docs docs' items additional count length definitions thunks strictness value,
      (Node.tuple docs items (some additional) length).check definitions thunks strictness value =
        (Node.tuple docs' (items ++ List.replicate count additional) (some additional) length).check
          definitions thunks strictness value) ∧
    ∀ schema schema', Relation.EqvGen Schema.Unrolled schema schema' →
      ∀ thunks strictness value,
        schema.check thunks strictness value = schema'.check thunks strictness value := by
  refine ⟨fun docs docs' items count length definitions thunks strictness value => ?_,
    fun docs docs' items additional count length definitions thunks strictness value => ?_,
    fun schema schema' h thunks strictness value => ?_⟩
  · exact ((unrolled_of_root (.array docs docs' items count length) definitions).check_eq thunks
      strictness value).symm
  · exact ((unrolled_of_root (.tuple docs docs' items additional count length) definitions).check_eq
      thunks strictness value).symm
  · induction h with
    | rel schema schema' h => exact (h.check_eq thunks strictness value).symm
    | refl schema => rfl
    | symm schema schema' _ ih => exact ih.symm
    | trans schema schema' schema'' _ _ ih ih' => exact ih.trans ih'

/-- A cell of nested rows. -/
def cell : Node := .combined {} .anyOf [.reference {} "#/definitions/rows", .null {}]

/-- Nested rows of at most two cells. -/
def nested : Schema where
  root := .object {} [⟨"rows", .reference {} "#/definitions/rows", true⟩] {}
  definitions := [("rows", .array {} (some cell) ⟨none, some 2⟩)]

/-- Nested rows of at most two cells, of which some are told apart. -/
def nestedTuple (count : Nat) : Schema where
  root := .object {} [⟨"rows", .reference {} "#/definitions/rows", true⟩] {}
  definitions := [("rows", .tuple {} (List.replicate count cell) (some cell) ⟨none, some 2⟩)]

/-- Whether one cell or three are told apart, the check finds the same. -/
theorem check_unrolled_nested :
    Relation.EqvGen Schema.Unrolled (nestedTuple 1) (nestedTuple 3) ∧
    (nestedTuple 1).check [] {} (.object [("rows", .array [.null, .array [.null], .bool true])]) =
      (nestedTuple 3).check [] {} (.object [("rows", .array [.null, .array [.null], .bool true])]) ∧
    ((nestedTuple 3).check [] {}
        (.object [("rows", .array [.null, .array [.null], .bool true])])).result =
      .ok [⟨["rows"], .moreItemsThan 2⟩, ⟨["rows", "2"], .tooFewMatches⟩] := by
  have hrel : ∀ count, Schema.Unrolled nested (nestedTuple count) := fun count => {
    root := .refl _
    definitions := .cons ⟨rfl, (Node.Unrolls.array {} {} cell count ⟨none, some 2⟩).unrolled⟩ .nil }
  have hunrolled : Relation.EqvGen Schema.Unrolled (nestedTuple 1) (nestedTuple 3) :=
    .trans _ nested _ (.symm _ _ (.rel _ _ (hrel 1))) (.rel _ _ (hrel 3))
  exact ⟨hunrolled, check_unrolled.2.2 _ _ hunrolled [] {} _,
    view_check_of_run 9 (by decide +kernel)⟩

end Schema

end JsonSchema
