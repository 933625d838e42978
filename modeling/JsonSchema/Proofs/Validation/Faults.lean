import JsonSchema.Proofs.Validation.Place
import JsonSchema.Proofs.Validation.Traces

/-!
# Where checks meet faults

Some nodes are at fault themselves: those of no known kind, deferred nodes without a body, and those
whose pattern is refused with a fault, and not with a problem of the value, because it exceeds a
limit or its options clash. A check goes from turn to turn, each of them a node with a value: it enters
the parts of the value and the bodies of references and deferred nodes, and it tries the members of
combinations. A fault in any turn that is come to is met in the whole check. Where deferred nodes do not
force each other for ever at one place, a check meets no other faults than those of the nodes of the
schema.
-/

namespace JsonSchema

/-- The fault that every search of a pattern ends in. -/
def Pattern.fault? (pattern : String) : Option Fault :=
  match Pattern.read pattern.toList with
  | .error .repetitionLimit => some .repetitionLimit
  | .error (.digitLimit count) => some (.digitLimit count)
  | .error .repertoireClash => some .repertoireClash
  | _ => none

namespace Node

/-- The fault that the node itself is to blame for. -/
def fault? (thunks : Thunks) : Node → Option Fault
  | .string _ rules => rules.pattern.bind Pattern.fault?
  | .deferred thunk =>
    if (thunk.bind (Entries.find? · thunks)).isSome then none else some .noThunk
  | .unknown => some .unknownNode
  | _ => none

/-- A node of a known kind is at fault for its pattern only. -/
theorem Known.exists_pattern {thunks : Thunks} {node : Node} {fault : Fault}
    (hknown : node.Known thunks) (h : node.fault? thunks = some fault) :
    ∃ pattern, node.pattern? = some pattern ∧ Pattern.fault? pattern = some fault := by
  cases node with
  | string docs rules => exact Option.bind_eq_some_iff.mp h
  | deferred thunk =>
    obtain ⟨name, rfl, hsome⟩ := hknown
    simp [fault?, hsome] at h
  | unknown => exact hknown.elim
  | _ => simp [fault?] at h

end Node

namespace Check

/-- A node that is checked against a value, with the references that can be followed and the deferred
nodes that can be forced there. -/
structure Turn where
  followable : List String
  pending : Thunks
  node : Node
  value : Json

/-- The pattern that is asked for in the value, if that is a string. -/
def Turn.pattern? (turn : Turn) : Option String :=
  match turn.value with
  | .string _ => turn.node.pattern?
  | _ => none

/-- A value of the wrong kind meets no fault. -/
@[simp] theorem not_meets_wrongKind {asked : Asked} {value : Json} {fault : Fault} :
    ¬ (wrongKind asked value).Meets fault := by
  simp [wrongKind, Trace.Meets, Trace.problem]

/-- Counting meets no fault. -/
@[simp] theorem not_meets_countTrace {count : Nat} {bounds : Bounds Int} {fault : Fault} :
    ¬ (countTrace count bounds).Meets fault := by
  simp [countTrace]

/-- The rules for numbers meet no fault. -/
@[simp] theorem not_meets_numberTrace {rules : NumberRules} {value : Number} {fault : Fault} :
    ¬ (numberTrace rules value).Meets fault := by
  unfold numberTrace
  cases rules.range.least <;> cases rules.range.greatest <;> simp

/-- A fault in the search of a pattern is the fault of the pattern. -/
theorem fault?_of_meets_patternTrace {pattern text : String} {fault : Fault}
    (h : (patternTrace pattern text).Meets fault) : Pattern.fault? pattern = some fault := by
  unfold patternTrace Pattern.search at h
  unfold Pattern.fault?
  cases hread : Pattern.read pattern.toList with
  | ok expression =>
    rw [hread] at h
    cases hsearch : expression.search text.toList <;>
      simp [Except.map, hsearch, Trace.Meets, Trace.problem] at h
  | error refusal =>
    rw [hread] at h
    cases refusal <;> simp_all [Except.map, Trace.Meets, Trace.problem]

/-- A fault in the check of a string is the fault of the pattern. -/
theorem fault?_of_meets_stringTrace {rules : StringRules} {text : String} {fault : Fault}
    (h : (stringTrace rules text).Meets fault) :
    ∃ pattern, rules.pattern = some pattern ∧ Pattern.fault? pattern = some fault := by
  simp only [stringTrace, lengthTrace, Trace.meets_append, Trace.meets_problemIf, false_or,
    or_false] at h
  split at h
  · rename_i pattern hpattern
    exact ⟨pattern, hpattern, fault?_of_meets_patternTrace h⟩
  · simp [Trace.Meets] at h

/-- A fault that is met in the value itself is one that the node is to blame for. -/
theorem fault?_of_meets_ownTrace {strictness : Strictness} {thunks : Thunks} {node : Node}
    {value : Json} {fault : Fault} (h : (ownTrace strictness node value).Meets fault) :
    node.fault? thunks = some fault := by
  cases node with
  | object docs properties count =>
    cases value with
    | object members =>
      simp only [ownTrace, missingTrace, Trace.meets_append] at h
      rcases h with hmissing | hcount
      · simp [Trace.Meets, Trace.problem] at hmissing
      · split at hcount <;> simp at hcount
    | _ => simp [ownTrace] at h
  | string docs rules =>
    cases value with
    | string text => exact Option.bind_eq_some_iff.mpr (fault?_of_meets_stringTrace h)
    | _ => simp [ownTrace] at h
  | integer docs rules =>
    cases value with
    | number value =>
      simp only [ownTrace] at h
      split at h <;> simp at h
    | _ => simp [ownTrace] at h
  | unknown =>
    obtain rfl : fault = .unknownNode := by simpa [ownTrace, Trace.Meets] using h
    rfl
  | _ => cases value <;> simp [ownTrace] at h

/-- Where a fault is met in the value itself, the pattern of the node, if any, is asked for there. -/
theorem pattern?_of_meets_ownTrace {strictness : Strictness} {turn : Turn} {fault : Fault}
    (h : (ownTrace strictness turn.node turn.value).Meets fault) :
    turn.pattern? = turn.node.pattern? := by
  obtain ⟨followable, pending, node, value⟩ := turn
  cases node with
  | string docs rules =>
    cases value with
    | string text => rfl
    | _ => simp [ownTrace] at h
  | _ => cases value <;> rfl

end Check

open Check

namespace Scope

/-- What happens in a turn. -/
def trace (scope : Scope) (turn : Turn) : Trace :=
  scope.checkAt turn.followable turn.pending turn.node turn.value

/-- A turn enters another one, whose violations it reports under a pointer. -/
inductive Enters (scope : Scope) : Turn → Pointer → Turn → Prop
  | part {followable : List String} {pending : Thunks} {node : Node} {value : Json} {part : Part}
      (h : part ∈ parts node value) : Enters scope ⟨followable, pending, node, value⟩ [part.segment]
        ⟨scope.references, scope.thunks, part.node, part.value⟩
  | followed {followable : List String} {pending : Thunks} {docs : Documentation} {target : String}
      {body : Node} {value : Json} (hbody : scope.definitions.resolve? target = some body)
      (h : target ∈ followable) : Enters scope ⟨followable, pending, .reference docs target, value⟩ []
        ⟨except followable target, scope.thunks, body, value⟩
  | forced {followable : List String} {pending : Thunks} {thunk : String} {body : Noted Node}
      {value : Json} (h : Entries.find? thunk pending = some body) :
      Enters scope ⟨followable, pending, .deferred (some thunk), value⟩ []
        ⟨followable, Thunks.without pending thunk, body.value, value⟩

/-- A combination tries a member. All members are tried, except that those of an `anyOf` are tried up to
the first that accepts only. -/
inductive Tries (scope : Scope) : Turn → Turn → Prop
  | member {followable : List String} {pending : Thunks} {docs : Documentation} {how : Combination}
      {before after : List Node} {member : Node} {value : Json}
      (h : how = .anyOf → ∀ earlier ∈ before,
        (scope.checkAt followable pending earlier value).accepts = false) :
      Tries scope ⟨followable, pending, .combined docs how (before ++ member :: after), value⟩
        ⟨followable, pending, member, value⟩

/-- A turn comes to itself and to all that is entered or tried from there on. -/
def Comes (scope : Scope) : Turn → Turn → Prop :=
  Relation.ReflTransGen fun turn next =>
    (∃ pointer, scope.Enters turn pointer next) ∨ scope.Tries turn next

variable {scope : Scope} {turn next last : Turn} {pointer : Pointer} {fault : Fault}

/-- A turn with parts asks something of its value and of them. -/
theorem trace_of_mem_parts {followable : List String} {pending : Thunks} {node : Node} {value : Json}
    {part : Part} (h : part ∈ parts node value) :
    scope.trace ⟨followable, pending, node, value⟩ = ownTrace scope.strictness node value ++
      (parts node value).flatMap fun part =>
        (scope.check part.node part.value).under part.segment := by
  refine checkAt_own ?_
  cases node with
  | reference | deferred | combined => simp [parts] at h
  | _ => rfl

/-- A fault in a turn that is entered is met. -/
theorem Enters.meets (h : scope.Enters turn pointer next) (hfault : (scope.trace next).Meets fault) :
    (scope.trace turn).Meets fault := by
  cases h with
  | part hpart =>
    rw [trace_of_mem_parts hpart, Trace.meets_append, Trace.meets_flatMap]
    exact .inr ⟨_, hpart, Trace.meets_under.mpr hfault⟩
  | followed hbody htarget => rwa [trace, checkAt_followed hbody htarget]
  | forced hbody =>
    rw [trace, checkAt_forced hbody, Trace.meets_append]
    exact .inr hfault

/-- A fault in a member that is tried is met. -/
theorem Tries.meets (h : scope.Tries turn next) (hfault : (scope.trace next).Meets fault) :
    (scope.trace turn).Meets fault := by
  cases h with
  | member hearlier =>
    rw [trace, checkAt_combined, meets_combine_iff, List.map_append, List.map_cons]
    refine ⟨_, _, _, rfl, fun hhow => List.forall_mem_map.mpr (hearlier hhow), hfault⟩

/-- A fault in a turn that is come to is met. -/
theorem Comes.meets (h : scope.Comes turn last) (hfault : (scope.trace last).Meets fault) :
    (scope.trace turn).Meets fault := by
  induction h using Relation.ReflTransGen.head_induction_on with
  | refl => exact hfault
  | head hnext _ ih =>
    obtain ⟨pointer, henters⟩ | htries := hnext
    · exact henters.meets ih
    · exact htries.meets ih

/-- A turn with a string and a pattern asks for the pattern. -/
theorem mem_trace_of_pattern? {pattern : String} (h : turn.pattern? = some pattern) :
    ∃ text, patternTrace pattern text ⊆ scope.trace turn := by
  obtain ⟨followable, pending, node, value⟩ := turn
  cases value with
  | string text =>
    cases node with
    | string docs rules =>
      have hpattern : rules.pattern = some pattern := h
      refine ⟨text, fun event hevent => ?_⟩
      rw [trace, checkAt_own rfl]
      refine List.mem_append_left _ ?_
      simp only [ownTrace, stringTrace, hpattern, List.mem_append]
      exact .inl (.inr hevent)
    | _ => cases h
  | _ => cases h

/-- A pattern that is at fault ends its turn. -/
theorem meets_of_pattern? {pattern : String} (h : turn.pattern? = some pattern)
    (hfault : Pattern.fault? pattern = some fault) : (scope.trace turn).Meets fault := by
  obtain ⟨text, hsubset⟩ := mem_trace_of_pattern? h
  refine hsubset ?_
  unfold Pattern.fault? at hfault
  unfold patternTrace Pattern.search
  split at hfault <;> simp_all [Except.map]

end Scope

namespace Schema

variable {schema : Schema} {thunks : Thunks} {strictness : Strictness}

/-- Deferred nodes alone lead to no more than they do with references. -/
theorem Contractive.lazily (h : schema.Contractive thunks) : schema.LazilyContractive thunks := by
  intro node hnode link hlink hcycle
  refine h node hnode link hlink (Relation.TransGen.mono ?_ _ _ hcycle)
  rintro first second ⟨body, hbody, hsecond⟩
  cases first with
  | reference target => simp [Link.body?, Definitions.resolve?] at hbody
  | deferred thunk => exact ⟨body, hbody, hsecond⟩

/-- A fault is met in a turn that is come to, whose node is to blame for it. If that is for its pattern, the
pattern is asked for there. -/
theorem exists_comes_of_meets (hschema : schema.LazilyContractive thunks) {fault : Fault}
    (followable : List String) (pending : Thunks) (node : Node) (value : Json)
    (hnode : schema.Contains thunks node)
    (hforce : (schema.scope thunks strictness).Forceable [] pending node)
    (h : ((schema.scope thunks strictness).checkAt followable pending node value).Meets fault) :
    ∃ turn, (schema.scope thunks strictness).Comes ⟨followable, pending, node, value⟩ turn ∧
      schema.Contains thunks turn.node ∧ turn.node.fault? thunks = some fault ∧
      turn.pattern? = turn.node.pattern? := by
  -- Forced bodies have to stay those of the whole table, or a fault would be that of no node.
  induction followable, pending, node, value using
    Scope.checkAt.induct (schema.scope thunks strictness) with
  | case1 followable pending value docs target hnone =>
    rw [Scope.checkAt_unresolved hnone, unresolvedTrace] at h
    simp only [Trace.Meets, List.mem_cons, reduceCtorEq, false_or] at h
    split at h <;> simp [Trace.problem] at h
  | case2 followable pending value docs target body hbody htarget _ ih =>
    rw [Scope.checkAt_followed hbody htarget] at h
    obtain ⟨turn, hcomes, hturn⟩ :=
      ih (.definition (Entries.mem_of_find? hbody)) (fun _ _ => rfl) h
    exact ⟨turn, .head (.inl ⟨_, .followed hbody htarget⟩) hcomes, hturn⟩
  | case3 followable pending value docs target body hbody hnot =>
    rw [Scope.checkAt_circular hbody hnot] at h
    simp [Trace.Meets, Trace.problem] at h
  | case4 followable pending value =>
    rw [Scope.checkAt_noThunk] at h
    obtain rfl : fault = .noThunk := by simpa [Trace.Meets] using h
    exact ⟨_, .refl, hnode, rfl, by cases value <;> rfl⟩
  | case5 followable pending value thunk body hbody _ ih =>
    have hfound := hforce.find?.symm.trans hbody
    have hcycle := hschema _ hnode _ (List.mem_singleton_self _)
    rw [Scope.checkAt_forced hbody, Trace.meets_append] at h
    obtain ⟨turn, hcomes, hturn⟩ :=
      ih (hnode.forced hfound) (hforce.forced hfound hcycle) (by simpa using h)
    exact ⟨turn, .head (.inl ⟨_, .forced hbody⟩) hcomes, hturn⟩
  | case6 followable pending value thunk hnone =>
    have hfind : Entries.find? thunk thunks = none := hforce.find?.symm.trans hnone
    rw [Scope.checkAt_unforced hnone] at h
    obtain rfl : fault = .noThunk := by simpa [Trace.Meets, hfind] using h
    exact ⟨_, .refl, hnode, by simp [Node.fault?, hfind], by cases value <;> rfl⟩
  | case7 followable pending value docs how members ih =>
    rw [Scope.checkAt_combined, meets_combine_iff] at h
    obtain ⟨_, _, _, heq, hearlier, hmeets⟩ := h
    obtain ⟨before, rest, rfl, rfl, hrest⟩ := List.map_eq_append_iff.mp heq
    obtain ⟨member, after, rfl, rfl, rfl⟩ := List.map_eq_cons_iff.mp hrest
    have hmember : member ∈ before ++ member :: after := by simp
    obtain ⟨turn, hcomes, hturn⟩ :=
      ih member hmember (hnode.child hmember) (hforce.member hmember) hmeets
    have htries := fun hhow => List.forall_mem_map.mp (hearlier hhow)
    exact ⟨turn, .head (.inr (.member htries)) hcomes, hturn⟩
  | case8 followable pending value node href hnone hsome hcombined ih =>
    rw [Scope.checkAt_own (node.handsOn_eq_false href hnone hsome hcombined), Trace.meets_append] at h
    rcases h with hown | hparts
    · exact ⟨_, .refl, hnode, fault?_of_meets_ownTrace hown,
        @pattern?_of_meets_ownTrace _ ⟨followable, pending, node, value⟩ _ hown⟩
    · obtain ⟨part, hpart, hmeets⟩ := Trace.meets_flatMap.mp hparts
      obtain ⟨turn, hcomes, hturn⟩ := ih part hpart (hnode.next (.part hpart)) (fun _ _ => rfl)
        (Trace.meets_under.mp hmeets)
      exact ⟨turn, .head (.inl ⟨_, .part hpart⟩) hcomes, hturn⟩

/-- A check meets no fault but those that nodes of the schema are to blame for. -/
theorem fault?_of_meets_checkAt (hschema : schema.LazilyContractive thunks) {fault : Fault}
    (followable : List String) (pending : Thunks) (node : Node) (value : Json)
    (hnode : schema.Contains thunks node)
    (hforce : (schema.scope thunks strictness).Forceable [] pending node)
    (h : ((schema.scope thunks strictness).checkAt followable pending node value).Meets fault) :
    ∃ holder, schema.Contains thunks holder ∧ holder.fault? thunks = some fault := by
  obtain ⟨turn, -, hcontains, hfault, -⟩ :=
    exists_comes_of_meets hschema followable pending node value hnode hforce h
  exact ⟨turn.node, hcontains, hfault⟩

/-- Without bodies no deferred node leads anywhere. -/
theorem lazilyContractive_nil : schema.LazilyContractive [] := by
  intro node _ link _ hcycle
  obtain ⟨next, ⟨body, hbody, -⟩, -⟩ := Relation.TransGen.head'_iff.mp hcycle
  cases link <;> simp [Link.body?, Definitions.resolve?] at hbody

/-- Where all nodes are of known kinds and none is deferred, a check ends with no fault but that of a
pattern in the schema. -/
theorem exists_pattern_of_check_eq_error (hknown : ∀ node, schema.Contains [] node → node.Known [])
    {value : Json} {fault : Fault}
    (h : (schema.check [] strictness value).result = .error fault) :
    ∃ node pattern, schema.Contains [] node ∧ node.pattern? = some pattern ∧
      Pattern.fault? pattern = some fault := by
  obtain ⟨node, hnode, hblame⟩ := fault?_of_meets_checkAt lazilyContractive_nil _ _ _ _ .root
    (fun _ _ => rfl) (Trace.meets_of_result_eq_error h)
  obtain ⟨pattern, hpattern, hrefused⟩ := (hknown node hnode).exists_pattern hblame
  exact ⟨node, pattern, hnode, hpattern, hrefused⟩

end Schema

end JsonSchema
