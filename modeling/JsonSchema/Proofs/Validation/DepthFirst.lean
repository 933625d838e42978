import JsonSchema.Proofs.Validation.Building
import JsonSchema.Proofs.Validation.Pointing
import JsonSchema.Proofs.Validation.Recursion
import JsonSchema.Proofs.Validation.Visits

/-!
# The order of violations

Violations are reported depth first. What a node asks of the value itself stands before what is asked of
the parts, everything that is found below one part stands together, and the parts follow the order of the
declared properties or of the items. References and deferred nodes stand for their bodies, and a combination
reports at its own place only, so the order is that of the nodes that are visited.
-/

namespace JsonSchema

open Check

/-- A part under one segment is not checked after a part under the other: properties come in the order in
which they are declared, and items in the order of their numbers. -/
def Node.Precedes : Node → String → String → Prop
  | .object docs properties count, first, second =>
    (Node.object docs properties count).propertyNames.idxOf first ≤
      (Node.object docs properties count).propertyNames.idxOf second
  | .array .., first, second | .tuple .., first, second =>
    ∃ i j, first = Pointer.index i ∧ second = Pointer.index j ∧ i ≤ j
  | _, _, _ => True

/-- Violations found in a turn are in depth-first order. -/
structure Scope.DepthFirst (scope : Scope) (turn : Turn) (found : List Violation) : Prop where
  /-- No violation comes after one whose pointer properly extends its own. -/
  parents : found.Pairwise fun earlier later =>
    later.pointer <+: earlier.pointer → later.pointer = earlier.pointer
  /-- All violations below one place stand together. -/
  together : ∀ pointer : Pointer, ∃ before block after, found = before ++ block ++ after ∧
    (∀ violation ∈ block, pointer <+: violation.pointer) ∧
    ∀ violation ∈ before ++ after, ¬ pointer <+: violation.pointer
  /-- Below a node that is visited, violations come in the order of its parts. -/
  inOrder : ∀ pointer last, scope.Visits turn pointer last → found.Pairwise fun earlier later =>
    ∀ first second, pointer ++ [first] <+: earlier.pointer → pointer ++ [second] <+: later.pointer →
      last.node.Precedes first second
  /-- Each step of a pointer goes from a node that is visited to one of its parts. -/
  visited : ∀ violation ∈ found, ∀ pointer segment rest,
    violation.pointer = pointer ++ segment :: rest →
    ∃ last, scope.Visits turn pointer last ∧ ∃ part ∈ parts last.node last.value, part.segment = segment

namespace Check

/-- Different names in a row come in the order of their places. -/
theorem pairwise_idxOf {names : List String} (h : names.Nodup) :
    names.Pairwise fun first second => first ≠ second ∧ names.idxOf first ≤ names.idxOf second := by
  rw [List.pairwise_iff_getElem]
  intro i j hi hj hij
  refine ⟨fun heq => ?_, ?_⟩
  · have := h.getElem_inj_iff.mp heq
    omega
  · rw [h.idxOf_getElem, h.idxOf_getElem]
    exact Nat.le_of_lt hij

/-- The items that are checked come in the order of their numbers. -/
theorem pairwise_itemParts (nodes : List Node) (additional : Option Node) (start : Nat)
    (items : List Json) :
    (itemParts nodes additional start items).Pairwise fun part other =>
      ∃ i j, part.segment = Pointer.index i ∧ other.segment = Pointer.index j ∧ i < j := by
  have hlater : ∀ {nodes : List Node} {node : Node} {item : Json} {items : List Json} {start : Nat},
      ∀ other ∈ itemParts nodes additional (start + 1) items, ∃ i j,
        (Part.mk (Pointer.index start) node item).segment = Pointer.index i ∧
          other.segment = Pointer.index j ∧ i < j := by
    intro nodes node item items start other hother
    obtain ⟨index, hsegment, -⟩ := exists_of_mem_itemParts hother
    exact ⟨start, start + 1 + index, rfl, hsegment, by omega⟩
  induction items generalizing nodes start with
  | nil => exact .nil
  | cons item items ih =>
    cases nodes with
    | cons node nodes => exact .cons hlater (ih nodes (start + 1))
    | nil =>
      cases additional with
      | none => exact .nil
      | some node => exact .cons hlater (ih [] (start + 1))

/-- The parts that are checked have different segments, in the order of the node. -/
theorem pairwise_parts {node : Node} (hnames : node.propertyNames.Nodup) (value : Json) :
    (parts node value).Pairwise fun part other =>
      part.segment ≠ other.segment ∧ node.Precedes part.segment other.segment := by
  have hitems : ∀ {nodes additional items},
      (itemParts nodes additional 0 items).Pairwise fun part other =>
        part.segment ≠ other.segment ∧ ∃ i j,
          part.segment = Pointer.index i ∧ other.segment = Pointer.index j ∧ i ≤ j := by
    intro nodes additional items
    refine (pairwise_itemParts nodes additional 0 items).imp ?_
    rintro part other ⟨i, j, hi, hj, hlt⟩
    refine ⟨fun heq => ?_, i, j, hi, hj, Nat.le_of_lt hlt⟩
    have := Pointer.index_injective (hi.symm.trans (heq.trans hj))
    omega
  cases node with
  | object docs properties count =>
    cases value with
    | object members =>
      have horder := List.pairwise_map.mp (pairwise_idxOf hnames)
      refine List.pairwise_filterMap.mpr (horder.imp fun hpair part hpart other hother => ?_)
      obtain ⟨_, -, rfl⟩ := Option.map_eq_some_iff.mp hpart
      obtain ⟨_, -, rfl⟩ := Option.map_eq_some_iff.mp hother
      exact hpair
    | _ => exact .nil
  | array docs items length =>
    cases value with
    | array values => exact hitems
    | _ => exact .nil
  | tuple docs items additional length =>
    cases value with
    | array values => exact hitems
    | _ => exact .nil
  | _ => exact .nil

/-- No part is checked after itself. -/
theorem precedes_self {node : Node} {value : Json} {part : Part} (h : part ∈ parts node value) :
    node.Precedes part.segment part.segment := by
  have hitems : ∀ {nodes additional items}, part ∈ itemParts nodes additional 0 items →
      ∃ i j, part.segment = Pointer.index i ∧ part.segment = Pointer.index j ∧ i ≤ j := by
    intro nodes additional items hpart
    obtain ⟨index, hsegment, -⟩ := exists_of_mem_itemParts hpart
    exact ⟨_, _, hsegment, hsegment, Nat.le_refl _⟩
  cases node with
  | object docs properties count => exact Nat.le_refl _
  | array docs items length =>
    cases value with
    | array values => exact hitems h
    | _ => cases h
  | tuple docs items additional length =>
    cases value with
    | array values => exact hitems h
    | _ => cases h
  | _ => trivial

/-- A problem that a node or combination reports is one at the value. -/
theorem Own.pointer_eq_nil {pattern? : Option String} {limits : List Int} {event : Event}
    (h : Own pattern? limits event) {violation : Violation} (hviolation : event.violation? = some violation) :
    violation.pointer = [] := by
  cases h <;> cases hviolation <;> rfl

/-- What is found below the parts of a value, seen from the value. -/
def reported (below : Part → List Violation) (parts : List Part) : List Violation :=
  parts.flatMap fun part => (below part).map (·.under part.segment)

section Reported

variable {below : Part → List Violation} {own : List Violation} {row : List Part}

/-- A violation that is reported of the parts was found below one of them. -/
theorem exists_of_mem_reported {violation : Violation} (h : violation ∈ reported below row) :
    ∃ part ∈ row, ∃ inner ∈ below part, inner.under part.segment = violation := by
  obtain ⟨part, hpart, h⟩ := List.mem_flatMap.mp h
  exact ⟨part, hpart, List.mem_map.mp h⟩

/-- A relation holds along a report where it holds from what is reported of the value itself to all else,
along what is found below each part, and from part to part. -/
theorem pairwise_reported {related : Violation → Violation → Prop}
    (hown : ∀ earlier ∈ own, ∀ later, related earlier later)
    (hsame : ∀ part ∈ row, (below part).Pairwise fun earlier later =>
      related (earlier.under part.segment) (later.under part.segment))
    (hothers : row.Pairwise fun part other => ∀ earlier later : Violation,
      related (earlier.under part.segment) (later.under other.segment)) :
    (own ++ reported below row).Pairwise related := by
  refine List.pairwise_append.mpr ⟨List.pairwise_of_forall_mem_list fun earlier h _ _ => hown earlier h _,
    List.pairwise_flatMap.mpr ⟨fun part hpart => List.pairwise_map.mpr (hsame part hpart), ?_⟩,
    fun earlier h later _ => hown earlier h later⟩
  refine hothers.imp fun hpair first hfirst second hsecond => ?_
  obtain ⟨earlier, -, rfl⟩ := List.mem_map.mp hfirst
  obtain ⟨later, -, rfl⟩ := List.mem_map.mp hsecond
  exact hpair earlier later

/-- What is reported of parts under other segments is not below a part. -/
theorem not_prefix_of_mem_reported {violation : Violation} {segment : String} {rest : Pointer}
    (h : violation ∈ reported below row) (hother : ∀ part ∈ row, part.segment ≠ segment) :
    ¬ segment :: rest <+: violation.pointer := by
  obtain ⟨part, hpart, inner, -, rfl⟩ := exists_of_mem_reported h
  exact fun hprefix => hother part hpart (List.cons_prefix_cons.mp hprefix).1.symm

/-- What is found below one of several parts stands together, if it does so within the part. -/
theorem together_reported (hdistinct : row.Pairwise fun part other => part.segment ≠ other.segment)
    (hown : ∀ violation ∈ own, violation.pointer = [])
    (hbelow : ∀ part ∈ row, ∀ pointer : Pointer, ∃ before block after,
      below part = before ++ block ++ after ∧ (∀ violation ∈ block, pointer <+: violation.pointer) ∧
        ∀ violation ∈ before ++ after, ¬ pointer <+: violation.pointer) (pointer : Pointer) :
    ∃ before block after, own ++ reported below row = before ++ block ++ after ∧
      (∀ violation ∈ block, pointer <+: violation.pointer) ∧
      ∀ violation ∈ before ++ after, ¬ pointer <+: violation.pointer := by
  cases pointer with
  | nil => exact ⟨[], own ++ reported below row, [], by simp, fun _ _ => List.nil_prefix, by simp⟩
  | cons segment rest =>
    have howns : ∀ violation ∈ own, ¬ segment :: rest <+: violation.pointer := fun violation h => by
      simp [hown violation h]
    by_cases hpart : ∃ part ∈ row, part.segment = segment
    · obtain ⟨part, hpart, rfl⟩ := hpart
      obtain ⟨pre, post, rfl⟩ := List.append_of_mem hpart
      obtain ⟨-, hpost, hpre⟩ := List.pairwise_append.mp hdistinct
      obtain ⟨before, block, after, heq, hblock, hrest⟩ := hbelow part hpart rest
      refine ⟨own ++ reported below pre ++ before.map (·.under part.segment),
        block.map (·.under part.segment), after.map (·.under part.segment) ++ reported below post,
        by simp [reported, heq], ?_, ?_⟩
      · rintro _ hmem
        obtain ⟨inner, hinner, rfl⟩ := List.mem_map.mp hmem
        exact List.cons_prefix_cons.mpr ⟨rfl, hblock inner hinner⟩
      · have hinside : ∀ inner ∈ before ++ after,
            ¬ part.segment :: rest <+: (inner.under part.segment).pointer :=
          fun inner hinner hprefix => hrest inner hinner (List.cons_prefix_cons.mp hprefix).2
        intro violation hmem
        simp only [List.mem_append, List.mem_map] at hmem
        rcases hmem with ((hmem | hmem) | ⟨inner, hinner, rfl⟩) | ⟨inner, hinner, rfl⟩ | hmem
        · exact howns violation hmem
        · exact not_prefix_of_mem_reported hmem fun other hother =>
            hpre other hother part List.mem_cons_self
        · exact hinside inner (List.mem_append_left _ hinner)
        · exact hinside inner (List.mem_append_right _ hinner)
        · exact not_prefix_of_mem_reported hmem fun other hother =>
            ((List.pairwise_cons.mp hpost).1 other hother).symm
    · refine ⟨own ++ reported below row, [], [], by simp, by simp, fun violation hmem => ?_⟩
      rcases List.mem_append.mp (by simpa using hmem) with hmem | hmem
      · exact howns violation hmem
      · exact not_prefix_of_mem_reported hmem fun part hmem heq => hpart ⟨part, hmem, heq⟩

end Reported

end Check

namespace Scope

variable {scope : Scope} {turn next : Turn} {found : List Violation}

/-- Violations at the value itself are in order. -/
theorem depthFirst_of_pointer_eq_nil (h : ∀ violation ∈ found, violation.pointer = []) :
    scope.DepthFirst turn found where
  parents := List.pairwise_of_forall_mem_list fun earlier hearlier later hlater _ =>
    (h later hlater).trans (h earlier hearlier).symm
  together pointer := by
    simpa [reported] using
      @together_reported (fun _ => []) found [] .nil h (List.forall_mem_nil _) pointer
  inOrder pointer last _ := List.pairwise_of_forall_mem_list fun earlier hearlier _ _ first _ hprefix => by
    simp [h earlier hearlier] at hprefix
  visited violation hviolation pointer segment rest heq := by
    simp [h violation hviolation] at heq

/-- Violations that are found in the only turn that is entered, at the same place, are in order. -/
theorem DepthFirst.of_entered (henters : scope.Enters turn [] next)
    (honly : ∀ pointer other, scope.Enters turn pointer other → pointer = [] ∧ other = next)
    (hturn : ∀ first second, turn.node.Precedes first second) (h : scope.DepthFirst next found) :
    scope.DepthFirst turn found where
  parents := h.parents
  together := h.together
  inOrder pointer last hvisits := by
    cases hvisits with
    | here => exact List.pairwise_of_forall_mem_list fun _ _ _ _ first second _ _ => hturn first second
    | through hnext hrest =>
      obtain ⟨rfl, rfl⟩ := honly _ _ hnext
      exact h.inOrder _ last hrest
  visited violation hviolation pointer segment rest heq := by
    obtain ⟨last, hvisits, hpart⟩ := h.visited violation hviolation pointer segment rest heq
    exact ⟨last, .through henters hvisits, hpart⟩

/-- Violations at the value itself, followed by what is found in its parts, are in order. -/
theorem depthFirst_reported {followable : List String} {pending : Thunks} {node : Node} {value : Json}
    (hnames : node.propertyNames.Nodup) {own : List Violation}
    (hown : ∀ violation ∈ own, violation.pointer = []) {below : Part → List Violation}
    (hbelow : ∀ part ∈ parts node value,
      scope.DepthFirst ⟨scope.references, scope.thunks, part.node, part.value⟩ (below part)) :
    scope.DepthFirst ⟨followable, pending, node, value⟩ (own ++ reported below (parts node value)) where
  parents := by
    refine pairwise_reported (fun earlier hearlier later hprefix => ?_) (fun part hpart => ?_) ?_
    · simpa [hown earlier hearlier] using hprefix
    · refine (hbelow part hpart).parents.imp fun hpair hprefix => ?_
      exact congrArg (part.segment :: ·) (hpair (List.cons_prefix_cons.mp hprefix).2)
    · refine (pairwise_parts hnames value).imp fun hpair earlier later hprefix => ?_
      exact absurd (List.cons_prefix_cons.mp hprefix).1.symm hpair.1
  together := together_reported ((pairwise_parts hnames value).imp fun hpair => hpair.1) hown
    fun part hpart => (hbelow part hpart).together
  inOrder pointer last hvisits := by
    have howns : ∀ earlier ∈ own, ∀ later : Violation, ∀ first second,
        pointer ++ [first] <+: earlier.pointer → pointer ++ [second] <+: later.pointer →
          last.node.Precedes first second := fun earlier hearlier later first second hprefix => by
      simp [hown earlier hearlier] at hprefix
    have hdistinct := pairwise_parts hnames value
    cases hvisits with
    | here =>
      refine pairwise_reported howns (fun part hpart => ?_)
        (hdistinct.imp fun hpair earlier later first second hfirst hsecond => ?_)
      · refine List.pairwise_of_forall_mem_list fun earlier _ later _ first second hfirst hsecond => ?_
        obtain ⟨rfl, -⟩ := List.cons_prefix_cons.mp hfirst
        obtain ⟨rfl, -⟩ := List.cons_prefix_cons.mp hsecond
        exact precedes_self hpart
      · obtain ⟨rfl, -⟩ := List.cons_prefix_cons.mp hfirst
        obtain ⟨rfl, -⟩ := List.cons_prefix_cons.mp hsecond
        exact hpair.2
    | @through _ _ _ _ rest hnext hrest =>
      cases hnext with
      | @part _ _ _ _ entered hentered =>
        -- Only what is found below the part that is entered can be below a part of the last node.
        refine pairwise_reported howns (fun part hpart => ?_)
          (hdistinct.imp fun hpair earlier later first second hfirst hsecond => ?_)
        · by_cases hsame : part = entered
          · subst hsame
            refine ((hbelow part hpart).inOrder rest last hrest).imp
              fun hpair first second hfirst hsecond => ?_
            exact hpair first second (List.cons_prefix_cons.mp hfirst).2
              (List.cons_prefix_cons.mp hsecond).2
          · refine List.pairwise_of_forall_mem_list fun earlier _ later _ first second hfirst _ => ?_
            have hnodup := List.pairwise_map.mpr (hdistinct.imp And.left)
            exact absurd (List.inj_on_of_nodup_map hnodup hpart hentered
              (List.cons_prefix_cons.mp hfirst).1.symm) hsame
        · have hfirst := (List.cons_prefix_cons.mp hfirst).1
          exact absurd (hfirst.symm.trans (List.cons_prefix_cons.mp hsecond).1) hpair.1
      | followed | forced => exact pairwise_reported howns (List.forall_mem_nil _) .nil
  visited violation hviolation pointer segment rest heq := by
    rcases List.mem_append.mp hviolation with hmem | hmem
    · simp [hown violation hmem] at heq
    · obtain ⟨part, hpart, inner, hinner, rfl⟩ := exists_of_mem_reported hmem
      cases pointer with
      | nil =>
        obtain ⟨rfl, -⟩ := List.cons.inj heq
        exact ⟨_, .here _, part, hpart, rfl⟩
      | cons first pointer =>
        obtain ⟨rfl, hrest⟩ := List.cons.inj heq
        obtain ⟨last, hvisits, hsegment⟩ :=
          (hbelow part hpart).visited inner hinner pointer segment rest hrest
        exact ⟨last, .through (.part hpart) hvisits, hsegment⟩

/-- The violations of a check are in depth-first order where no object node declares a property twice. -/
theorem depthFirst_checkAt {schema : Schema} {thunks : Thunks} (strictness : Strictness)
    (hnames : ∀ node, schema.Contains thunks node → node.propertyNames.Nodup)
    (followable : List String) (pending : Thunks) (node : Node) (value : Json)
    (hnode : schema.Contains thunks node)
    (hpending : ∀ name body, Entries.find? name pending = some body →
      Entries.find? name thunks = some body) :
    (schema.scope thunks strictness).DepthFirst ⟨followable, pending, node, value⟩
      ((schema.scope thunks strictness).checkAt followable pending node value).violations := by
  induction followable, pending, node, value using
    Scope.checkAt.induct (schema.scope thunks strictness) with
  | case1 followable pending value docs target hnone =>
    rw [checkAt_unresolved hnone]
    refine depthFirst_of_pointer_eq_nil fun violation hviolation => ?_
    unfold unresolvedTrace at hviolation
    split at hviolation
    · obtain rfl := List.mem_singleton.mp hviolation
      rfl
    · cases hviolation
  | case2 followable pending value docs target body hbody htarget _ ih =>
    rw [checkAt_followed hbody htarget]
    refine .of_entered (.followed hbody htarget) (fun pointer other henters => ?_) (fun _ _ => trivial)
      (ih (.definition (Entries.mem_of_find? hbody)) fun _ _ => id)
    cases henters with
    | part hpart => cases hpart
    | followed hother =>
      cases hbody.symm.trans hother
      exact ⟨rfl, rfl⟩
  | case3 followable pending value docs target body hbody hnot =>
    rw [checkAt_circular hbody hnot]
    exact depthFirst_of_pointer_eq_nil (List.forall_mem_singleton.mpr rfl)
  | case4 followable pending value =>
    rw [checkAt_noThunk]
    exact depthFirst_of_pointer_eq_nil (List.forall_mem_nil _)
  | case5 followable pending value thunk body hbody _ ih =>
    rw [checkAt_forced hbody, Trace.violations_append, Trace.violations_notes, List.nil_append]
    refine .of_entered (.forced hbody) (fun pointer other henters => ?_) (fun _ _ => trivial)
      (ih (hnode.forced (hpending thunk body hbody))
        fun name other hother => hpending name other (Entries.find?_of_find?_without hother))
    cases henters with
    | part hpart => cases hpart
    | forced hother =>
      cases hbody.symm.trans hother
      exact ⟨rfl, rfl⟩
  | case6 followable pending value thunk hnone =>
    rw [checkAt_unforced hnone]
    exact depthFirst_of_pointer_eq_nil (List.forall_mem_nil _)
  | case7 followable pending value docs how members _ =>
    rw [checkAt_combined]
    refine depthFirst_of_pointer_eq_nil fun violation hviolation => ?_
    obtain ⟨event, hevent, heq⟩ := List.mem_filterMap.mp hviolation
    rcases mem_combine hevent with ⟨member, -, hsilent⟩ | hown
    · obtain ⟨-, hsilent⟩ := List.mem_filter.mp hsilent
      cases event <;> simp [Event.isSilent, Event.violation?] at hsilent heq
    · exact hown.pointer_eq_nil heq
  | case8 followable pending value node href hnone hsome hcombined ih =>
    rw [checkAt_own (node.handsOn_eq_false href hnone hsome hcombined), Trace.violations_append,
      Trace.violations_flatMap]
    simp only [Trace.violations_under]
    refine depthFirst_reported (hnames node hnode) (fun violation hviolation => ?_)
      fun part hpart => ih part hpart (hnode.next (.part hpart)) fun _ _ => id
    obtain ⟨event, hevent, heq⟩ := List.mem_filterMap.mp hviolation
    exact (own_ownTrace _ _ _ event hevent).pointer_eq_nil heq

end Scope

/-- The list that a check ends with is in depth-first order where no object node declares a property
twice. -/
theorem Schema.depthFirst_of_check (schema : Schema) (thunks : Thunks) (strictness : Strictness)
    (value : Json) (hnames : ∀ node, schema.Contains thunks node → node.propertyNames.Nodup)
    {found : List Violation} (h : (schema.check thunks strictness value).result = .ok found) :
    (schema.scope thunks strictness).DepthFirst
      ⟨(schema.scope thunks strictness).references, thunks, schema.root, value⟩ found := by
  obtain ⟨-, rfl⟩ := Trace.result_eq_ok_iff.mp h
  exact Scope.depthFirst_checkAt strictness hnames _ _ _ value .root fun _ _ => id

/-- Trees with a size, a leaf and at most two smaller trees. -/
def Schema.tree : Schema where
  root := .reference {} "tree"
  definitions := [("tree", .object {} [⟨"size", .integer {} {}, true⟩,
    ⟨"leaf", .combined {} .anyOf [.null {}, .boolean {} none], false⟩,
    ⟨"trees", .array {} (some (.reference {} "tree")) ⟨none, some 2⟩, true⟩] {})]

/-- A tree with its members in another order than they are declared in. -/
def Json.grove : Json :=
  .object [("trees", .array [.object [("leaf", .string "a")],
    .object [("trees", .array []), ("size", .null)], .null]), ("leaf", .array []), ("size", .bool true)]

/-- What is found in the grove, in the order of the declarations and of the items. -/
def Json.groveViolations : List Violation :=
  [⟨["size"], .misfit (.kind .integer .boolean)⟩, ⟨["leaf"], .tooFewMatches⟩,
    ⟨["trees"], .moreItemsThan 2⟩, ⟨["trees", "0"], .missingProperty "size"⟩,
    ⟨["trees", "0"], .missingProperty "trees"⟩, ⟨["trees", "0", "leaf"], .tooFewMatches⟩,
    ⟨["trees", "1", "size"], .misfit (.kind .integer .null)⟩,
    ⟨["trees", "2"], .misfit (.kind .object .null)⟩]

/-- The violations of the grove are found in this order. -/
theorem Schema.depthFirst_of_check_tree :
    (∀ node, tree.Contains [] node → node.propertyNames.Nodup) ∧
    (tree.check [] {} Json.grove).result = .ok Json.groveViolations ∧
    (tree.scope [] {}).DepthFirst ⟨(tree.scope [] {}).references, [], tree.root, Json.grove⟩
      Json.groveViolations := by
  have hnames : ∀ node, tree.Contains [] node → node.propertyNames.Nodup := by
    intro node hnode
    have hcases : node ∈ [tree.root, .object {} [⟨"size", .integer {} {}, true⟩,
        ⟨"leaf", .combined {} .anyOf [.null {}, .boolean {} none], false⟩,
        ⟨"trees", .array {} (some (.reference {} "tree")) ⟨none, some 2⟩, true⟩] {}, .integer {} {},
        .combined {} .anyOf [.null {}, .boolean {} none], .null {}, .boolean {} none,
        .array {} (some (.reference {} "tree")) ⟨none, some 2⟩] :=
      hnode.mem_of_closed (by simp) (by simp [tree]) (by simp) (by simp [tree, Node.children])
    simp only [List.mem_cons, List.not_mem_nil, or_false] at hcases
    rcases hcases with rfl | rfl | rfl | rfl | rfl | rfl | rfl <;> decide
  have hresult : (tree.check [] {} Json.grove).result = .ok Json.groveViolations :=
    view_check_of_run 7 (by decide +kernel)
  exact ⟨hnames, hresult, depthFirst_of_check tree [] {} Json.grove hnames hresult⟩

end JsonSchema
