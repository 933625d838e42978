import JsonSchema.Proofs.Validation.Place
import JsonSchema.Proofs.Validation.Traces

/-!
# What a check depends on

A check comes only to nodes that the schema uses: its root, the nodes inside a used one, and the
bodies of used references and deferred nodes. Of all definitions only those matter that are used in
this way. So the root can be checked in a larger schema with the same result, as long as the
references that it comes to mean there what they mean in its own schema, circular references included.
-/

namespace JsonSchema

namespace Schema

/-- The nodes that a check against a schema can come to. -/
inductive Uses (schema : Schema) (thunks : Thunks) : Node → Prop
  | root : Uses schema thunks schema.root
  | child {node child : Node} (hnode : Uses schema thunks node) (h : child ∈ node.children) :
      Uses schema thunks child
  | followed {docs : Documentation} {target : String} {body : Node}
      (hnode : Uses schema thunks (.reference docs target))
      (h : schema.definitions.resolve? target = some body) : Uses schema thunks body
  | forced {thunk : String} {body : Noted Node}
      (hnode : Uses schema thunks (.deferred (some thunk)))
      (h : Entries.find? thunk thunks = some body) : Uses schema thunks body.value

/-- A reference is mentioned in a schema, directly or through its definitions. -/
def Mentions (schema : Schema) (thunks : Thunks) (target : String) : Prop :=
  ∃ docs, schema.Uses thunks (.reference docs target)

/-- The references that a schema mentions mean the same among other definitions. -/
def AgreesWith (schema : Schema) (thunks : Thunks) (definitions : Definitions) : Prop :=
  ∀ target, schema.Mentions thunks target →
    definitions.resolve? target = schema.definitions.resolve? target

variable {schema whole : Schema} {thunks : Thunks} {strictness : Strictness}

/-- A schema agrees with its own definitions. -/
theorem agreesWith_self : schema.AgreesWith thunks schema.definitions := fun _ _ => rfl

/-- Nodes that hold the root and all that they lead to are all that a schema uses. -/
theorem Uses.mem_of_closed {nodes : List Node} (hroot : schema.root ∈ nodes)
    (hchildren : ∀ node ∈ nodes, ∀ child ∈ node.children, child ∈ nodes)
    (hfollowed : ∀ docs target, .reference docs target ∈ nodes →
      ∀ body, schema.definitions.resolve? target = some body → body ∈ nodes)
    (hthunks : ∀ entry ∈ thunks, entry.2.value ∈ nodes) {node : Node}
    (h : schema.Uses thunks node) : node ∈ nodes := by
  induction h with
  | root => exact hroot
  | child _ hmem ih => exact hchildren _ ih _ hmem
  | followed _ hbody ih => exact hfollowed _ _ ih _ hbody
  | forced _ hbody => exact hthunks _ (Entries.mem_of_find? hbody)

/-- What a schema uses is contained in every schema that has its root and agrees on what it mentions. -/
theorem Uses.contains {node : Node} (h : schema.Uses thunks node)
    (hroot : whole.Contains thunks schema.root)
    (hagrees : schema.AgreesWith thunks whole.definitions) : whole.Contains thunks node := by
  induction h with
  | root => exact hroot
  | child _ hmem ih => exact .child ih hmem
  | followed hnode hbody _ =>
    exact .definition (Entries.mem_of_find? ((hagrees _ ⟨_, hnode⟩).trans hbody))
  | forced _ hbody ih => exact .forced ih hbody

/-- The references that a schema mentions are listed where its root is contained. -/
theorem Mentions.mem_references {target : String} (h : schema.Mentions thunks target)
    (hroot : whole.Contains thunks schema.root)
    (hagrees : schema.AgreesWith thunks whole.definitions) :
    target ∈ (whole.scope thunks strictness).references := by
  obtain ⟨docs, hnode⟩ := h
  exact (hnode.contains hroot hagrees).mem_references (List.mem_singleton_self target)

/-- A mentioned reference can be followed again wherever a new place is entered. -/
theorem Mentions.mem_references_iff {target : String} (h : schema.Mentions thunks target)
    (hroot : whole.Contains thunks schema.root)
    (hagrees : schema.AgreesWith thunks whole.definitions) :
    target ∈ (whole.scope thunks strictness).references ↔
      target ∈ (schema.scope thunks strictness).references :=
  iff_of_true (h.mem_references hroot hagrees) (h.mem_references .root agreesWith_self)

/-- A check at one place is the same in a larger schema, up to its notes, where the same references
that the schema mentions can still be followed. -/
theorem Uses.bare_checkAt (hroot : whole.Contains thunks schema.root)
    (hagrees : schema.AgreesWith thunks whole.definitions) {node : Node}
    (hnode : schema.Uses thunks node) (followable followable' : List String) (pending : Thunks)
    (value : Json)
    (hfollowable : ∀ target, schema.Mentions thunks target →
      (target ∈ followable' ↔ target ∈ followable))
    (hpending : ∀ name body, Entries.find? name pending = some body →
      Entries.find? name thunks = some body) :
    ((whole.scope thunks strictness).checkAt followable' pending node value).bare =
      ((schema.scope thunks strictness).checkAt followable pending node value).bare := by
  induction followable, pending, node, value using
    Scope.checkAt.induct (schema.scope thunks strictness) generalizing followable' with
  | case1 followable pending value docs target hnone =>
    have hnone' := (hagrees target ⟨docs, hnode⟩).trans hnone
    rw [Scope.checkAt_unresolved hnone, Scope.checkAt_unresolved hnone', Check.unresolvedTrace,
      Check.unresolvedTrace]
    rfl
  | case2 followable pending value docs target body hbody htarget _ ih =>
    have hbody' := (hagrees target ⟨docs, hnode⟩).trans hbody
    have htarget' := (hfollowable target ⟨docs, hnode⟩).mpr htarget
    rw [Scope.checkAt_followed hbody htarget, Scope.checkAt_followed hbody' htarget']
    exact ih (hnode.followed hbody) _
      (fun other hother => by simp [Check.except, hfollowable other hother]) fun _ _ => id
  | case3 followable pending value docs target body hbody hnot =>
    have hbody' : (whole.scope thunks strictness).definitions.resolve? target = some body :=
      (hagrees target ⟨docs, hnode⟩).trans hbody
    have hnot' : target ∉ followable' :=
      fun hmem => hnot ((hfollowable target ⟨docs, hnode⟩).mp hmem)
    rw [Scope.checkAt_circular hbody hnot, Scope.checkAt_circular hbody' hnot']
  | case4 followable pending value => rw [Scope.checkAt_noThunk, Scope.checkAt_noThunk]
  | case5 followable pending value thunk body hbody _ ih =>
    rw [Scope.checkAt_forced hbody, Scope.checkAt_forced hbody, Trace.bare_append,
      Trace.bare_append, ih (hnode.forced (hpending _ _ hbody)) _ hfollowable]
    intro name found hfound
    exact hpending name found (Entries.find?_of_find?_without hfound)
  | case6 followable pending value thunk hnone =>
    rw [Scope.checkAt_unforced hnone, Scope.checkAt_unforced hnone]
    rfl
  | case7 followable pending value docs how members ih =>
    rw [Scope.checkAt_combined, Scope.checkAt_combined, Check.bare_combine, Check.bare_combine,
      List.map_map, List.map_map]
    exact congrArg (Check.combine how) (List.map_congr_left fun member hmember =>
      funext fun _ => ih member hmember (hnode.child hmember) _ hfollowable hpending)
  | case8 followable pending value node href hnone hsome hcombined ih =>
    have hown := node.handsOn_eq_false href hnone hsome hcombined
    rw [Scope.checkAt_own hown, Scope.checkAt_own hown, Trace.bare_append, Trace.bare_append,
      Trace.bare_flatMap, Trace.bare_flatMap]
    refine congrArg _ (List.flatMap_congr fun part hpart => ?_)
    rw [Trace.bare_under, Trace.bare_under]
    exact congrArg (Trace.under part.segment) (ih part hpart
      (hnode.child (Check.node_mem_children_of_mem_parts hpart)) _
      (fun _ htarget => htarget.mem_references_iff hroot hagrees) fun _ _ => id)

/-- The root of a schema is checked in a larger schema with the same result as in its own. -/
theorem AgreesWith.result_check (hagrees : schema.AgreesWith thunks whole.definitions)
    (hroot : whole.Contains thunks schema.root) (value : Json) :
    ((whole.scope thunks strictness).check schema.root value).result =
      (schema.check thunks strictness value).result :=
  Trace.result_congr (Uses.root.bare_checkAt hroot hagrees _ _ _ _
    (fun _ htarget => htarget.mem_references_iff hroot hagrees) fun _ _ => id)

end Schema

end JsonSchema
