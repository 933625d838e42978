import JsonSchema.Proofs.Validation.Place

/-!
# Definitions in another order

A check looks definitions up by their names and counts them, so schemas that differ in the order of their
definitions are checked alike, circular references included: the references that were not followed yet
matter as a set.
-/

namespace JsonSchema

/-- Scopes in which references are resolved alike, and to which the same references are known, give the
same checks. -/
theorem Scope.checkAt_congr {scope scope' : Scope}
    (hresolve : ∀ target, scope'.definitions.resolve? target = scope.definitions.resolve? target)
    (hcount : scope'.definitions.length = scope.definitions.length)
    (hthunks : scope'.thunks = scope.thunks) (hstrictness : scope'.strictness = scope.strictness)
    (hreferences : ∀ target, target ∈ scope'.references ↔ target ∈ scope.references)
    (followable followable' : List String) (pending : Thunks) (node : Node) (value : Json)
    (hfollowable : ∀ target, target ∈ followable' ↔ target ∈ followable) :
    scope'.checkAt followable' pending node value = scope.checkAt followable pending node value := by
  induction followable, pending, node, value using Scope.checkAt.induct scope
      generalizing followable' with
  | case1 followable pending value docs target hnone =>
    rw [Scope.checkAt_unresolved hnone, Scope.checkAt_unresolved ((hresolve target).trans hnone),
      Check.unresolvedTrace, Check.unresolvedTrace, hcount, hstrictness]
  | case2 followable pending value docs target body hbody htarget _ ih =>
    rw [Scope.checkAt_followed hbody htarget,
      Scope.checkAt_followed ((hresolve target).trans hbody) ((hfollowable target).mpr htarget),
      hthunks]
    exact ih _ fun other => by simp [Check.except, hfollowable other]
  | case3 followable pending value docs target body hbody hnot =>
    have hnot' : target ∉ followable' := fun hmem => hnot ((hfollowable target).mp hmem)
    rw [Scope.checkAt_circular hbody hnot,
      Scope.checkAt_circular ((hresolve target).trans hbody) hnot']
  | case4 followable pending value => rw [Scope.checkAt_noThunk, Scope.checkAt_noThunk]
  | case5 followable pending value thunk body hbody _ ih =>
    rw [Scope.checkAt_forced hbody, Scope.checkAt_forced hbody, ih _ hfollowable]
  | case6 followable pending value thunk hnone =>
    rw [Scope.checkAt_unforced hnone, Scope.checkAt_unforced hnone, hthunks]
  | case7 followable pending value docs how members ih =>
    rw [Scope.checkAt_combined, Scope.checkAt_combined]
    exact congrArg (Check.combine how) (List.map_congr_left fun member hmember =>
      funext fun _ => ih member hmember _ hfollowable)
  | case8 followable pending value node href hnone hsome hcombined ih =>
    have hown := node.handsOn_eq_false href hnone hsome hcombined
    rw [Scope.checkAt_own hown, Scope.checkAt_own hown, hstrictness]
    refine congrArg _ (List.flatMap_congr fun part hpart => congrArg (Trace.under part.segment) ?_)
    rw [Scope.check, Scope.check, hthunks]
    exact ih part hpart _ hreferences

namespace Schema

/-- Schemas that differ in the order of their definitions are checked alike. -/
theorem check_perm {schema schema' : Schema} (hroot : schema'.root = schema.root)
    (hdefinitions : schema'.definitions.Perm schema.definitions)
    (hnames : (Entries.names schema.definitions).Nodup) (thunks : Thunks) (strictness : Strictness)
    (value : Json) : schema'.check thunks strictness value = schema.check thunks strictness value := by
  obtain ⟨root, definitions⟩ := schema'
  obtain rfl : root = schema.root := hroot
  have hreferences : ∀ target, target ∈ (Schema.scope ⟨schema.root, definitions⟩ thunks
      strictness).references ↔ target ∈ (schema.scope thunks strictness).references := by
    simp [scope, Scope.ofNode, Scope.reachable, hdefinitions.mem_iff]
  exact @Scope.checkAt_congr (schema.scope thunks strictness)
    (Schema.scope ⟨schema.root, definitions⟩ thunks strictness)
    (fun target => Entries.find?_perm hdefinitions hnames _) hdefinitions.length_eq rfl rfl
    hreferences _ _ _ _ _ hreferences

/-- Every value is accepted where the root is a document that is kept verbatim. -/
theorem check_of_verbatim {schema : Schema} {document : Json} (h : schema.root = .verbatim document)
    (thunks : Thunks) (strictness : Strictness) (value : Json) :
    schema.check thunks strictness value = [] := by
  rw [check, Node.check, h, Scope.check_own rfl]
  cases value <;> rfl

end Schema

end JsonSchema
