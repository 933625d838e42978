import JsonSchema.Proofs.Entries
import JsonSchema.Proofs.Node.Contents
import JsonSchema.Validation.Check

/-!
# Checks at one place

The check of a value keeps account of the references that were followed and of the deferred nodes
that were forced at the present place in the value. Where every cycle passes through a property or
an item, this account never refuses anything: `Schema.check_reference` and the equations beside it
are those of a recursion that follows and forces without any account. The nodes and values of that
recursion come to an end, which is `Schema.check_induction`.
-/

namespace JsonSchema

namespace Node

/-- Whether a node hands a value on to other nodes without going into it. -/
def handsOn : Node → Bool
  | .reference .. | .deferred _ | .combined .. => true
  | _ => false

/-- Only references, deferred nodes and combinations hand a value on. -/
theorem handsOn_eq_false {node : Node} (href : ∀ docs target, node = .reference docs target → False)
    (hnone : node = .deferred none → False) (hsome : ∀ thunk, node = .deferred (some thunk) → False)
    (hcombined : ∀ docs how members, node = .combined docs how members → False) :
    node.handsOn = false := by
  cases node with
  | reference docs target => exact (href docs target rfl).elim
  | deferred thunk =>
    cases thunk with
    | none => exact (hnone rfl).elim
    | some thunk => exact (hsome thunk rfl).elim
  | combined docs how members => exact (hcombined docs how members rfl).elim
  | _ => rfl

end Node

namespace Check

/-- The nodes that items are checked against are among those given. -/
theorem node_of_mem_itemParts {nodes : List Node} {additional : Option Node} {index : Nat}
    {items : List Json} {part : Part} (h : part ∈ itemParts nodes additional index items) :
    part.node ∈ nodes ∨ additional = some part.node := by
  induction items generalizing nodes index with
  | nil => simp [itemParts] at h
  | cons item items ih =>
    cases nodes with
    | cons node nodes =>
      rcases List.mem_cons.mp (by simpa [itemParts] using h) with rfl | h
      · exact .inl List.mem_cons_self
      · exact (ih h).imp_left (List.mem_cons_of_mem _)
    | nil =>
      cases additional with
      | none => simp [itemParts] at h
      | some node =>
        rcases List.mem_cons.mp (by simpa [itemParts] using h) with rfl | h
        · exact .inr rfl
        · exact (ih h).imp_left (by simp)

/-- A part is checked against a node inside the node. -/
theorem node_mem_children_of_mem_parts {node : Node} {value : Json} {part : Part}
    (h : part ∈ parts node value) : part.node ∈ node.children := by
  unfold parts at h
  split at h
  · obtain ⟨property, hmem, hproperty⟩ := List.mem_filterMap.mp h
    obtain ⟨found, -, rfl⟩ := Option.map_eq_some_iff.mp hproperty
    exact List.mem_map.mpr ⟨property, hmem, rfl⟩
  · rcases node_of_mem_itemParts h with hitem | hother
    · simp at hitem
    · exact Option.mem_toList.mpr hother
  · rcases node_of_mem_itemParts h with hitem | hother
    · exact List.mem_append_left _ hitem
    · exact List.mem_append_right _ (Option.mem_toList.mpr hother)
  · simp at h

/-- What the check of a node with a value comes to next: the parts, the members, or the node that is
referred to or deferred. -/
inductive Next (definitions : Definitions) (thunks : Thunks) : Node → Json → Node → Json → Prop
  | part {node : Node} {value : Json} {part : Part} (h : part ∈ parts node value) :
      Next definitions thunks node value part.node part.value
  | member {docs : Documentation} {how : Combination} {members : List Node} {member : Node}
      {value : Json} (h : member ∈ members) :
      Next definitions thunks (.combined docs how members) value member value
  | followed {docs : Documentation} {target : String} {body : Node} {value : Json}
      (h : definitions.resolve? target = some body) :
      Next definitions thunks (.reference docs target) value body value
  | forced {thunk : String} {body : Noted Node} {value : Json}
      (h : Entries.find? thunk thunks = some body) :
      Next definitions thunks (.deferred (some thunk)) value body.value value

end Check

namespace Schema

/-- The scope of a check against a schema. -/
def scope (schema : Schema) (thunks : Thunks) (strictness : Strictness) : Scope :=
  .ofNode schema.definitions thunks strictness schema.root

variable {schema : Schema} {thunks : Thunks} {strictness : Strictness}

/-- The scope of a schema has its definitions. -/
@[simp] theorem scope_definitions :
    (schema.scope thunks strictness).definitions = schema.definitions := rfl

/-- It has the thunks at hand. -/
@[simp] theorem scope_thunks : (schema.scope thunks strictness).thunks = thunks := rfl

/-- It has the strictness asked for. -/
@[simp] theorem scope_strictness : (schema.scope thunks strictness).strictness = strictness := rfl

/-- What a check comes to next is contained in the schema. -/
theorem Contains.next {node node' : Node} {value value' : Json}
    (hnode : schema.Contains thunks node)
    (h : Check.Next schema.definitions thunks node value node' value') :
    schema.Contains thunks node' := by
  cases h with
  | part h => exact hnode.child (Check.node_mem_children_of_mem_parts h)
  | member h => exact hnode.child h
  | followed h => exact .definition (Entries.mem_of_find? h)
  | forced h => exact hnode.forced h

/-- The node that a link of a contained node leads to is contained. -/
theorem Contains.body {node body : Node} {link : Link} (hnode : schema.Contains thunks node)
    (hlink : link ∈ node.links) (hbody : link.body? schema.definitions thunks = some body) :
    schema.Contains thunks body := by
  induction node using Node.induction_children with
  | step node ih =>
    cases node with
    | reference docs target =>
      obtain rfl := List.mem_singleton.mp hlink
      exact .definition (Entries.mem_of_find? hbody)
    | deferred thunk =>
      cases thunk with
      | none => simp [Node.links] at hlink
      | some thunk =>
        obtain rfl := List.mem_singleton.mp hlink
        obtain ⟨found, hfound, rfl⟩ := Option.map_eq_some_iff.mp hbody
        exact hnode.forced hfound
    | combined docs how members =>
      obtain ⟨member, hmember, hlink⟩ := mem_listLinks.mp hlink
      exact ih member hmember (hnode.child hmember) hlink
    | _ => simp [Node.links] at hlink

/-- What a contained node reaches is a link of a contained node. -/
theorem Contains.reaches {node : Node} {link : Link} (hnode : schema.Contains thunks node)
    (h : node.Reaches schema.definitions thunks link) :
    ∃ holder, schema.Contains thunks holder ∧ link ∈ holder.links := by
  obtain ⟨first, hfirst, hleads⟩ := h
  induction hleads with
  | refl => exact ⟨node, hnode, hfirst⟩
  | tail _ hlast ih =>
    obtain ⟨holder, hholder, hlink⟩ := ih
    obtain ⟨body, hbody, hnext⟩ := hlast
    exact ⟨body, hholder.body hlink hbody, hnext⟩

/-- The references in contained nodes are listed in the scope. -/
theorem Contains.mem_references {node : Node} {target : String}
    (hnode : schema.Contains thunks node) (h : target ∈ node.references) :
    target ∈ (schema.scope thunks strictness).references := by
  simp only [scope, Scope.ofNode, Scope.reachable, List.mem_eraseDups, List.mem_append,
    List.mem_flatMap, Thunks.references, Prod.exists]
  induction hnode with
  | root => exact .inl (.inl h)
  | definition hmem => exact .inl (.inr ⟨_, _, hmem, h⟩)
  | child _ hmem ih => exact ih (Node.mem_references_of_mem_children hmem h)
  | forced _ hfound => exact .inr ⟨_, _, Entries.mem_of_find? hfound, h⟩

end Schema

namespace Scope

variable {scope : Scope} {followable : List String} {pending : Thunks} {value : Json}

/-- A reference that can be followed is checked as its body. -/
theorem checkAt_followed {docs : Documentation} {target : String} {body : Node}
    (hbody : scope.definitions.resolve? target = some body) (h : target ∈ followable) :
    scope.checkAt followable pending (.reference docs target) value =
      scope.checkAt (Check.except followable target) scope.thunks body value := by
  rw [checkAt]
  simp [hbody, h]

/-- A reference that was followed before is circular. -/
theorem checkAt_circular {docs : Documentation} {target : String} {body : Node}
    (hbody : scope.definitions.resolve? target = some body) (h : target ∉ followable) :
    scope.checkAt followable pending (.reference docs target) value =
      [Trace.problem (.misfit (.circular target))] := by
  rw [checkAt]
  simp [hbody, h]

/-- A reference that is not resolved is accepted or reported, but not followed. -/
theorem checkAt_unresolved {docs : Documentation} {target : String}
    (h : scope.definitions.resolve? target = none) :
    scope.checkAt followable pending (.reference docs target) value =
      Check.unresolvedTrace scope target := by
  rw [checkAt]
  simp [h]

/-- A deferred node without a thunk is a fault. -/
theorem checkAt_noThunk :
    scope.checkAt followable pending (.deferred none) value = [.fault .noThunk] := by
  rw [checkAt]

/-- A deferred node that can be forced is checked as its body. -/
theorem checkAt_forced {thunk : String} {body : Noted Node}
    (h : Entries.find? thunk pending = some body) :
    scope.checkAt followable pending (.deferred (some thunk)) value =
      body.notes.map .note ++
        scope.checkAt followable (Thunks.without pending thunk) body.value value := by
  rw [checkAt]
  split
  · rename_i found hfound
    obtain rfl : found = body := Option.some_inj.mp (hfound.symm.trans h)
    rfl
  · rename_i hnone
    exact absurd (hnone.symm.trans h) (by simp)

/-- A deferred node that cannot be forced is a fault. -/
theorem checkAt_unforced {thunk : String} (h : Entries.find? thunk pending = none) :
    scope.checkAt followable pending (.deferred (some thunk)) value =
      [.fault (if (Entries.find? thunk scope.thunks).isSome then .endless else .noThunk)] := by
  rw [checkAt]
  split
  · rename_i found hfound
    exact absurd (h.symm.trans hfound) (by simp)
  · rfl

/-- A combination is checked by combining the checks of its members. -/
theorem checkAt_combined {docs : Documentation} {how : Combination} {members : List Node} :
    scope.checkAt followable pending (.combined docs how members) value =
      Check.combine how
        (members.map fun member () => scope.checkAt followable pending member value) := by
  rw [checkAt]
  exact congrArg (Check.combine how) (List.attach_map_val (l := members)
    (f := fun member _ => scope.checkAt followable pending member value))

/-- Any other node asks something of the value itself and of its parts. -/
theorem checkAt_own {node : Node} (h : node.handsOn = false) :
    scope.checkAt followable pending node value =
      Check.ownTrace scope.strictness node value ++
        (Check.parts node value).flatMap fun part =>
          (scope.check part.node part.value).under part.segment := by
  rw [checkAt.eq_5]
  · exact congrArg (Check.ownTrace scope.strictness node value ++ ·)
      (List.flatMap_subtype (l := (Check.parts node value).attach) (fun _ _ => rfl) |>.trans
        (by simp [check, Trace.under]))
  all_goals
    intros
    subst_vars
    simp [Node.handsOn] at h

/-- A combination is checked by combining the checks of its members. -/
theorem check_combined {docs : Documentation} {how : Combination} {members : List Node} :
    scope.check (.combined docs how members) value =
      Check.combine how (members.map fun member () => scope.check member value) :=
  checkAt_combined

/-- A node that does not hand the value on asks something of the value and of its parts. -/
theorem check_own {node : Node} (h : node.handsOn = false) :
    scope.check node value =
      Check.ownTrace scope.strictness node value ++
        (Check.parts node value).flatMap fun part =>
          (scope.check part.node part.value).under part.segment :=
  checkAt_own h

end Scope

section Reaching

variable {definitions : Definitions} {thunks : Thunks} {node body : Node} {first link : Link}

/-- What the node of a link reaches is what the link leads to. -/
theorem Node.Reaches.transGen (hbody : first.body? definitions thunks = some body)
    (h : body.Reaches definitions thunks link) :
    Relation.TransGen (Link.Leads definitions thunks) first link := by
  obtain ⟨next, hnext, hleads⟩ := h
  exact .head' ⟨body, hbody, hnext⟩ hleads

/-- A node reaches what the node of one of its links reaches. -/
theorem Node.Reaches.through (hfirst : first ∈ node.links)
    (hbody : first.body? definitions thunks = some body) (h : body.Reaches definitions thunks link) :
    node.Reaches definitions thunks link :=
  ⟨first, hfirst, (h.transGen hbody).to_reflTransGen⟩

/-- A combination reaches what its members reach. -/
theorem Node.Reaches.member {docs : Documentation} {how : Combination} {members : List Node}
    (hmember : node ∈ members) (h : node.Reaches definitions thunks link) :
    (Node.combined docs how members).Reaches definitions thunks link := by
  obtain ⟨first, hfirst, hleads⟩ := h
  exact ⟨first, mem_listLinks.mpr ⟨node, hmember, hfirst⟩, hleads⟩

end Reaching

namespace Scope

/-- All references that a node reaches can be followed. -/
def Followable (scope : Scope) (followable : List String) (node : Node) : Prop :=
  ∀ target, node.Reaches scope.definitions scope.thunks (.reference target) → target ∈ followable

/-- All deferred nodes that a node reaches, where references lead to the given definitions, can be
forced as in the whole table. -/
def Forceable (scope : Scope) (definitions : Definitions) (pending : Thunks) (node : Node) : Prop :=
  ∀ thunk, node.Reaches definitions scope.thunks (.deferred thunk) →
    Entries.find? thunk pending = Entries.find? thunk scope.thunks

/-- The account of a check suffices for all that a node reaches. -/
def Suffices (scope : Scope) (followable : List String) (pending : Thunks) (node : Node) : Prop :=
  scope.Followable followable node ∧ scope.Forceable scope.definitions pending node

variable {scope : Scope} {definitions : Definitions} {followable : List String} {pending : Thunks}
  {body : Node}

/-- Forcing a deferred node that does not come back to itself leaves the rest to force. -/
theorem Forceable.forced {thunk : String} {found : Noted Node}
    (h : scope.Forceable definitions pending (.deferred (some thunk)))
    (hfound : Entries.find? thunk scope.thunks = some found)
    (hcycle : ¬ Relation.TransGen (Link.Leads definitions scope.thunks)
      (.deferred thunk) (.deferred thunk)) :
    scope.Forceable definitions (Thunks.without pending thunk) found.value := by
  intro other hother
  have hbody : (Link.deferred thunk).body? definitions scope.thunks = some found.value := by
    simp [Link.body?, hfound]
  have hne : other ≠ thunk := by
    rintro rfl
    exact hcycle (hother.transGen hbody)
  rw [Entries.find?_without _ hne]
  exact h other (hother.through (List.mem_singleton_self _) hbody)

/-- The members of a combination need no more of the table than it does. -/
theorem Forceable.member {docs : Documentation} {how : Combination} {members : List Node}
    {member : Node} (h : scope.Forceable definitions pending (.combined docs how members))
    (hmember : member ∈ members) : scope.Forceable definitions pending member :=
  fun thunk hthunk => h thunk (hthunk.member hmember)

/-- A deferred node that can be forced as in the whole table has the body of the whole table. -/
theorem Forceable.find? {thunk : String}
    (h : scope.Forceable definitions pending (.deferred (some thunk))) :
    Entries.find? thunk pending = Entries.find? thunk scope.thunks :=
  h thunk ⟨_, List.mem_singleton_self _, .refl⟩

/-- A reference whose account suffices can be followed. -/
theorem Suffices.mem {docs : Documentation} {target : String}
    (h : scope.Suffices followable pending (.reference docs target)) : target ∈ followable :=
  h.1 target ⟨_, List.mem_singleton_self _, .refl⟩

/-- Following a reference that does not come back to itself leaves enough for its body. -/
theorem Suffices.followed {docs : Documentation} {target : String}
    (h : scope.Suffices followable pending (.reference docs target))
    (hbody : scope.definitions.resolve? target = some body)
    (hcycle : ¬ Relation.TransGen (Link.Leads scope.definitions scope.thunks)
      (.reference target) (.reference target)) :
    scope.Suffices (Check.except followable target) scope.thunks body := by
  refine ⟨fun other hother => ?_, fun _ _ => rfl⟩
  have hne : other ≠ target := by
    rintro rfl
    have hlink : (Link.reference other).body? scope.definitions scope.thunks = some body := hbody
    exact hcycle (hother.transGen hlink)
  have hmem := h.1 other (hother.through (List.mem_singleton_self _) hbody)
  simpa [Check.except, hne] using hmem

/-- Forcing a deferred node that does not come back to itself leaves enough for its body. -/
theorem Suffices.forced {thunk : String} {found : Noted Node}
    (h : scope.Suffices followable pending (.deferred (some thunk)))
    (hfound : Entries.find? thunk scope.thunks = some found)
    (hcycle : ¬ Relation.TransGen (Link.Leads scope.definitions scope.thunks)
      (.deferred thunk) (.deferred thunk)) :
    scope.Suffices followable (Thunks.without pending thunk) found.value := by
  refine ⟨fun target htarget => h.1 target ?_, h.2.forced hfound hcycle⟩
  exact htarget.through (List.mem_singleton_self _) (by simp [Link.body?, hfound])

/-- What suffices for a combination suffices for its members. -/
theorem Suffices.member {docs : Documentation} {how : Combination} {members : List Node}
    {member : Node} (h : scope.Suffices followable pending (.combined docs how members))
    (hmember : member ∈ members) : scope.Suffices followable pending member :=
  ⟨fun target htarget => h.1 target (htarget.member hmember), h.2.member hmember⟩

end Scope

namespace Schema

variable {schema : Schema} {thunks : Thunks} {strictness : Strictness} {node : Node}

/-- At a new place the account suffices for every contained node. -/
theorem Contains.suffices (hnode : schema.Contains thunks node) :
    (schema.scope thunks strictness).Suffices (schema.scope thunks strictness).references thunks
      node := by
  refine ⟨fun target h => ?_, fun _ _ => rfl⟩
  obtain ⟨holder, hholder, hlink⟩ := hnode.reaches h
  exact hholder.mem_references (Node.mem_references_of_mem_links hlink)

/-- What holds of a node and a value whenever it holds of what their check comes to next holds of
every contained node and every value. -/
theorem check_induction (hschema : schema.Contractive thunks) {motive : Node → Json → Prop}
    (step : ∀ node value, schema.Contains thunks node →
      (∀ node' value', Check.Next schema.definitions thunks node value node' value' →
        motive node' value') → motive node value)
    (hnode : schema.Contains thunks node) (value : Json) : motive node value := by
  -- The account of the check is the measure, so it has to suffice for what is still to come.
  suffices haccount : ∀ followable pending node value, schema.Contains thunks node →
      (schema.scope thunks {}).Suffices followable pending node → motive node value from
    haccount _ _ node value hnode hnode.suffices
  intro followable pending node value
  induction followable, pending, node, value using
    Scope.checkAt.induct (schema.scope thunks {}) with
  | case1 followable pending value docs target hnone =>
    intro hnode _
    refine step _ _ hnode fun node' value' hnext => ?_
    cases hnext with
    | part h => simp [Check.parts] at h
    | followed h => exact absurd (hnone.symm.trans h) (by simp)
  | case2 followable pending value docs target body hbody _ _ ih =>
    intro hnode haccount
    refine step _ _ hnode fun node' value' hnext => ?_
    have hcontains := hnode.next hnext
    cases hnext with
    | part h => simp [Check.parts] at h
    | followed h =>
      obtain rfl := Option.some_inj.mp (hbody.symm.trans h)
      have hcycle := hschema _ hnode _ (List.mem_singleton_self _)
      exact ih hcontains (haccount.followed hbody hcycle)
  | case3 followable pending value docs target body hbody hnot =>
    intro _ haccount
    exact absurd haccount.mem hnot
  | case4 followable pending value =>
    intro hnode _
    refine step _ _ hnode fun node' value' hnext => ?_
    cases hnext with
    | part h => simp [Check.parts] at h
  | case5 followable pending value thunk body hbody _ ih =>
    intro hnode haccount
    refine step _ _ hnode fun node' value' hnext => ?_
    have hcontains := hnode.next hnext
    cases hnext with
    | part h => simp [Check.parts] at h
    | forced h =>
      obtain rfl := Option.some_inj.mp ((hbody.symm.trans haccount.2.find?).trans h)
      have hcycle := hschema _ hnode _ (List.mem_singleton_self _)
      exact ih hcontains (haccount.forced h hcycle)
  | case6 followable pending value thunk hnone =>
    intro hnode haccount
    refine step _ _ hnode fun node' value' hnext => ?_
    cases hnext with
    | part h => simp [Check.parts] at h
    | forced h => exact absurd (hnone.symm.trans (haccount.2.find?.trans h)) (by simp)
  | case7 followable pending value docs how members ih =>
    intro hnode haccount
    refine step _ _ hnode fun node' value' hnext => ?_
    have hcontains := hnode.next hnext
    cases hnext with
    | part h => simp [Check.parts] at h
    | member h => exact ih _ h hcontains (haccount.member h)
  | case8 followable pending value node _ _ _ _ ih =>
    intro hnode _
    refine step _ _ hnode fun node' value' hnext => ?_
    have hcontains := hnode.next hnext
    cases hnext with
    | part h => exact ih _ h hcontains hcontains.suffices
    | _ => simp_all

/-- An account that suffices changes nothing in the check of a contained node. -/
theorem checkAt_eq_check (hschema : schema.Contractive thunks)
    (hnode : schema.Contains thunks node) (value : Json) {followable : List String}
    {pending : Thunks}
    (haccount : (schema.scope thunks strictness).Suffices followable pending node) :
    (schema.scope thunks strictness).checkAt followable pending node value =
      (schema.scope thunks strictness).check node value := by
  -- Both sides use up their account, so the statement is proved for any two accounts.
  suffices hsame : ∀ followable followable' pending pending',
      (schema.scope thunks strictness).Suffices followable pending node →
      (schema.scope thunks strictness).Suffices followable' pending' node →
      (schema.scope thunks strictness).checkAt followable pending node value =
        (schema.scope thunks strictness).checkAt followable' pending' node value from
    hsame _ _ _ _ haccount hnode.suffices
  clear haccount
  refine check_induction hschema (motive := fun node value => ∀ followable followable' pending pending',
      (schema.scope thunks strictness).Suffices followable pending node →
      (schema.scope thunks strictness).Suffices followable' pending' node →
      (schema.scope thunks strictness).checkAt followable pending node value =
        (schema.scope thunks strictness).checkAt followable' pending' node value) ?_ hnode value
  intro node value hnode ih followable followable' pending pending' haccount haccount'
  cases node with
  | reference docs target =>
    cases hbody : schema.definitions.resolve? target with
    | none => rw [Scope.checkAt_unresolved hbody, Scope.checkAt_unresolved hbody]
    | some body =>
      have hcycle := hschema _ hnode _ (List.mem_singleton_self _)
      rw [Scope.checkAt_followed hbody haccount.mem, Scope.checkAt_followed hbody haccount'.mem]
      exact ih _ _ (.followed hbody) _ _ _ _ (haccount.followed hbody hcycle)
        (haccount'.followed hbody hcycle)
  | deferred thunk =>
    cases thunk with
    | none => rw [Scope.checkAt_noThunk, Scope.checkAt_noThunk]
    | some thunk =>
      have hfind := haccount.2.find?
      have hfind' := haccount'.2.find?
      cases hbody : Entries.find? thunk thunks with
      | none =>
        rw [Scope.checkAt_unforced (hfind.trans hbody),
          Scope.checkAt_unforced (hfind'.trans hbody)]
      | some body =>
        have hcycle := hschema _ hnode _ (List.mem_singleton_self _)
        rw [Scope.checkAt_forced (hfind.trans hbody), Scope.checkAt_forced (hfind'.trans hbody),
          ih _ _ (.forced hbody) _ _ _ _ (haccount.forced hbody hcycle)
            (haccount'.forced hbody hcycle)]
  | combined docs how members =>
    rw [Scope.checkAt_combined, Scope.checkAt_combined]
    refine congrArg (Check.combine how) (List.map_congr_left fun member hmember => funext fun _ => ?_)
    exact ih _ _ (.member hmember) _ _ _ _ (haccount.member hmember) (haccount'.member hmember)
  | _ => rw [Scope.checkAt_own rfl, Scope.checkAt_own rfl]

/-- A reference is checked as its body. -/
theorem check_reference (hschema : schema.Contractive thunks) {docs : Documentation}
    {target : String} {body : Node} (hnode : schema.Contains thunks (.reference docs target))
    (hbody : schema.definitions.resolve? target = some body) (value : Json) :
    (schema.scope thunks strictness).check (.reference docs target) value =
      (schema.scope thunks strictness).check body value := by
  have haccount : (schema.scope thunks strictness).Suffices _ _ _ := hnode.suffices
  rw [Scope.check, Scope.checkAt_followed hbody haccount.mem]
  exact checkAt_eq_check hschema (.definition (Entries.mem_of_find? hbody)) value
    (haccount.followed hbody (hschema _ hnode _ (List.mem_singleton_self _)))

/-- A deferred node is checked as its body, after what is noted when that is built. -/
theorem check_deferred (hschema : schema.Contractive thunks) {thunk : String} {body : Noted Node}
    (hnode : schema.Contains thunks (.deferred (some thunk)))
    (hbody : Entries.find? thunk thunks = some body) (value : Json) :
    (schema.scope thunks strictness).check (.deferred (some thunk)) value =
      body.notes.map .note ++ (schema.scope thunks strictness).check body.value value := by
  have haccount : (schema.scope thunks strictness).Suffices _ _ _ := hnode.suffices
  rw [Scope.check, scope_thunks, Scope.checkAt_forced hbody]
  exact congrArg _ (checkAt_eq_check hschema (hnode.forced hbody) value
    (haccount.forced hbody (hschema _ hnode _ (List.mem_singleton_self _))))

end Schema

end JsonSchema
