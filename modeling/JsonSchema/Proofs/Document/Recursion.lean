import JsonSchema.Proofs.Document.Rendering
import Mathlib.Data.Finset.Card
import Mathlib.Data.Prod.Lex

/-!
# Writing as a recursion

`step` is one call of the recursion that writes a node, as it goes along: a body is forced from the table
whenever its deferred node is not known, and only the names of the bodies that are being written keep one
from being forced inside itself. `run` lets calls make calls, and the search for a free name go on, down to
some depth, and gives `none` where that is not deep enough: the recursion ends where some depth is enough.

Whatever the bodies in the table come to, the recursion ends, with what `writeNode` gives. What makes it end
is that each call leaves fewer bodies that are not being written, or as many and a smaller node.
-/

namespace JsonSchema

namespace Document

/-- A call of the recursion. -/
structure Call where
  active : Active
  node : Node

/-- A call comes to another one: for a node inside, or for a body that is not being written, which is
written under some name from then on. -/
inductive Call.Makes (thunks : Thunks) : Call → Call → Prop
  | inside {active : Active} {node child : Node} (h : child ∈ node.children) :
      Makes thunks ⟨active, node⟩ ⟨active, child⟩
  | forced {active : Active} {thunk name : String} {body : Noted Node}
      (hactive : active.lookup (some thunk) = none)
      (hbody : Entries.find? thunk thunks = some body) :
      Makes thunks ⟨active, .deferred (some thunk)⟩ ⟨(some thunk, name) :: active, body.value⟩

section WellFounded

variable {thunks : Thunks}

/-- The bodies that are not being written. -/
def Call.remaining (thunks : Thunks) (call : Call) : Finset String :=
  (Entries.names thunks).toFinset.filter fun thunk => call.active.lookup (some thunk) = none

/-- The number of bodies that are not being written, and the size of the node. -/
noncomputable def Call.measure (thunks : Thunks) (call : Call) : Nat ×ₗ Nat :=
  toLex ((call.remaining thunks).card, sizeOf call.node)

/-- A body that is being written is not left. -/
theorem Call.remaining_forced_ssubset {active : Active} {thunk name : String} {body : Noted Node}
    {node : Node} (hactive : active.lookup (some thunk) = none)
    (hbody : Entries.find? thunk thunks = some body) :
    Call.remaining thunks ⟨(some thunk, name) :: active, body.value⟩ ⊂
      Call.remaining thunks ⟨active, node⟩ := by
  have hname : thunk ∈ Entries.names thunks :=
    List.mem_map.mpr ⟨_, Entries.mem_of_find? hbody, rfl⟩
  rw [Finset.ssubset_iff_of_subset]
  · exact ⟨thunk, by simp [Call.remaining, hname, hactive], by simp [Call.remaining]⟩
  · intro other hother
    simp only [Call.remaining, Finset.mem_filter] at hother ⊢
    obtain ⟨hname, hlookup⟩ := hother
    rw [List.lookup_cons] at hlookup
    split at hlookup
    · cases hlookup
    · exact ⟨hname, hlookup⟩

/-- Every call is made by one of a greater measure. -/
theorem Call.Makes.measure_lt {call next : Call} (h : Call.Makes thunks call next) :
    next.measure thunks < call.measure thunks := by
  cases h with
  | inside h => exact Prod.Lex.toLex_lt_toLex.mpr (.inr ⟨rfl, Node.sizeOf_lt_of_mem_children h⟩)
  | forced hactive hbody =>
    exact Prod.Lex.toLex_lt_toLex.mpr
      (.inl (Finset.card_lt_card (Call.remaining_forced_ssubset hactive hbody)))

/-- No sequence of calls that come to each other is endless. -/
theorem Call.wellFounded_makes (thunks : Thunks) :
    WellFounded fun next call => Call.Makes thunks call next :=
  Subrelation.wf Makes.measure_lt (InvImage.wf (Call.measure thunks) wellFounded_lt)

end WellFounded

/-- A step of writing that has no result where it is not deep enough. -/
abbrev Bounded := ExceptT Fault (StateT Lifting Option)

/-- A step that is deep enough. -/
def Writing.bounded {α : Type} (writing : Writing α) : Bounded α := fun state => some (writing state)

/-- The first name from a number on that is not reserved, searched for in a loop of some length. -/
def seek (reserved : List String) : Nat → Nat → Option String
  | 0, _ => none
  | depth + 1, index =>
    if reserved.contains (lazyName index) then seek reserved depth (index + 1)
    else some (lazyName index)

/-- Reserves a name for the body of a deferred node, searched for in a loop of some length. -/
def seekName (depth : Nat) : Bounded String := fun state =>
  (seek state.reserved depth 0).map fun name =>
    (.ok name, { state with reserved := name :: state.reserved })

/-- Forces the body of a deferred node that is not known, and writes it under a fresh name. -/
def force (thunks : Thunks) (depth : Nat) (recurse : Call → Bounded Json) (active : Active)
    (thunk : Option String) : Bounded Json := do
  let name ← seekName depth
  match thunk with
  | none => throw .noThunk
  | some thunk =>
    match Entries.find? thunk thunks with
    | none => throw .noThunk
    | some body =>
      modify fun state => { state with notes := state.notes ++ body.notes }
      let document ← recurse ⟨(some thunk, name) :: active, body.value⟩
      (settle thunk name document).bounded

/-- One call, where `recurse` does the calls that it makes. -/
def step (thunks : Thunks) (depth : Nat) (recurse : Call → Bounded Json) (call : Call) :
    Bounded Json :=
  match call.node with
  | .verbatim document => return document
  | .deferred thunk => do
    match knownName call.active thunk (← get) with
    | some name =>
      modify fun state => { state with reentered := name :: state.reentered }
      return lazyReference name
    | none => force thunks depth recurse call.active thunk
  | .unknown => throw .unknownNode
  | node => do
    let parts ← node.children.mapM fun child => recurse ⟨call.active, child⟩
    return .object (compose node parts)

/-- Writing a node as a recursion, with calls inside each other and loops down to some depth. -/
def run (thunks : Thunks) : Nat → Call → Bounded Json
  | 0 => fun _ _ => none
  | depth + 1 => step thunks depth (run thunks depth)

/-- Writing a schema as a recursion: its root, the bodies of its definitions in order, and after those the
bodies that were lifted on the way. -/
def runSchema (thunks : Thunks) (schema : Schema) (depth : Nat) : Bounded Json := do
  modify fun state => { reserved := Entries.names schema.definitions, notes := state.notes }
  let root ← run thunks depth ⟨[], schema.root⟩
  let bodies ← (schema.definitions.map Prod.snd).mapM fun body => run thunks depth ⟨[], body⟩
  let state ← get
  return attach root
    (Entries.ofList ((Entries.names schema.definitions).zip bodies ++ state.definitions))

/-- A step of bounded depth ends from every state: from some depth on, every depth gives the result. -/
def Ends {α : Type} (bounded : Nat → Bounded α) (writing : Writing α) : Prop :=
  ∀ state, ∃ depth, ∀ more, depth ≤ more → bounded more state = some (writing state)

section Ends

variable {α β : Type} {state : Lifting}

/-- A step goes on with the value and the state of the step before it, if that one ends well. -/
theorem bind_of_eq_ok {first : Bounded α} {next : α → Bounded β} {value : α} {between : Lifting}
    (h : first state = some (.ok value, between)) : (first >>= next) state = next value between := by
  change (first state).bind _ = _
  rw [h]
  rfl

/-- A step after one that ends in a fault is not taken. -/
theorem bind_of_eq_error {first : Bounded α} {next : α → Bounded β} {fault : Fault}
    {between : Lifting} (h : first state = some (.error fault, between)) :
    (first >>= next) state = some (.error fault, between) := by
  change (first state).bind _ = _
  rw [h]
  rfl

/-- A step that ends where no depth is needed. -/
theorem Ends.bounded (writing : Writing α) : Ends (fun _ => writing.bounded) writing :=
  fun _ => ⟨0, fun _ _ => rfl⟩

/-- A step after another one ends where both do. -/
theorem Ends.bind {first : Nat → Bounded α} {next : Nat → α → Bounded β} {writing : Writing α}
    {other : α → Writing β} (hfirst : Ends first writing)
    (hnext : ∀ value, Ends (fun depth => next depth value) (other value)) :
    Ends (fun depth => first depth >>= next depth) (writing.andThen other) := by
  intro state
  obtain ⟨depth, hdepth⟩ := hfirst state
  rcases hresult : writing state with ⟨fault | value, between⟩
  · refine ⟨depth, fun more hmore => ?_⟩
    rw [Writing.andThen, hresult]
    exact bind_of_eq_error ((hdepth more hmore).trans (congrArg some hresult))
  · obtain ⟨further, hfurther⟩ := hnext value between
    refine ⟨max depth further, fun more hmore => ?_⟩
    have hmost := (hdepth more (le_of_max_le_left hmore)).trans (congrArg some hresult)
    rw [andThen_of_eq_ok hresult]
    exact (bind_of_eq_ok hmost).trans (hfurther more (le_of_max_le_right hmore))

/-- The search for a free name ends at the fresh one where the loop may go through all names that are
tried. -/
theorem seek_eq_freshName {reserved : List String} {fuel depth index : Nat} (hdepth : fuel < depth)
    (hfree : freshName reserved fuel index ∉ reserved) :
    seek reserved depth index = some (freshName reserved fuel index) := by
  induction fuel generalizing depth index with
  | zero =>
    obtain ⟨depth, rfl⟩ := Nat.exists_eq_add_of_lt hdepth
    rw [freshName] at hfree
    simp [seek, freshName, hfree]
  | succ fuel ih =>
    obtain ⟨depth, rfl⟩ := Nat.exists_eq_succ_of_ne_zero (Nat.ne_of_gt (Nat.zero_lt_of_lt hdepth))
    rw [freshName] at hfree ⊢
    rw [seek]
    split at hfree
    · rename_i hreserved
      rw [if_pos hreserved, if_pos hreserved]
      exact ih (Nat.lt_of_succ_lt_succ hdepth) hfree
    · rename_i hreserved
      rw [if_neg hreserved, if_neg hreserved]

/-- A free name is found. -/
theorem ends_seekName : Ends seekName reserveName := by
  intro state
  refine ⟨state.reserved.length + 1, fun more hmore => ?_⟩
  rw [seekName, seek_eq_freshName hmore (freshName_not_mem state.reserved)]
  rfl

/-- Nodes in a row are written where each of them is. -/
theorem ends_mapM {active : Active} {pending : Thunks} {nodes : List Node}
    {bounded : Nat → Node → Bounded Json}
    (h : ∀ node ∈ nodes, Ends (fun depth => bounded depth node) (writeNode active pending node)) :
    Ends (fun depth => nodes.mapM (bounded depth)) (writeNodes active pending nodes) := by
  induction nodes with
  | nil =>
    rw [writeNodes_nil]
    exact .bounded (.give [])
  | cons node rest ih =>
    simp only [List.mapM_cons, writeNodes_cons]
    refine (h node List.mem_cons_self).bind fun part => ?_
    refine (ih fun other hother => h other (List.mem_cons_of_mem _ hother)).bind fun others => ?_
    exact .bounded (.give (part :: others))

/-- A call ends where its step does, with calls inside it that are as deep. -/
theorem Ends.of_step {thunks : Thunks} {call : Call} {writing : Writing Json}
    (h : Ends (fun depth => step thunks depth (run thunks depth) call) writing) :
    Ends (fun depth => run thunks depth call) writing := by
  intro state
  obtain ⟨depth, hdepth⟩ := h state
  refine ⟨depth + 1, fun more hmore => ?_⟩
  obtain ⟨less, rfl⟩ := Nat.exists_eq_add_of_le' (Nat.le_of_add_left_le hmore)
  exact hdepth less (Nat.le_of_succ_le_succ hmore)

end Ends

section Step

variable {thunks : Thunks} {depth : Nat} {recurse : Call → Bounded Json} {active : Active}
  {node : Node} {thunk : Option String} {state : Lifting}

/-- A deferred node that is known is referred to. -/
theorem step_known {name : String} (h : knownName active thunk state = some name) :
    step thunks depth recurse ⟨active, .deferred thunk⟩ state =
      some (.ok (lazyReference name), { state with reentered := name :: state.reentered }) := by
  change (match knownName active thunk state with | some name => _ | none => _ : Bounded Json) state = _
  rw [h]
  rfl

/-- A deferred node that is not known has its body forced. -/
theorem step_forced (h : knownName active thunk state = none) :
    step thunks depth recurse ⟨active, .deferred thunk⟩ state =
      force thunks depth recurse active thunk state := by
  change (match knownName active thunk state with | some name => _ | none => _ : Bounded Json) state = _
  rw [h]

/-- A node is written after the nodes inside. -/
theorem step_composed (hcomposes : node.composes) :
    step thunks depth recurse ⟨active, node⟩ = do
      let parts ← node.children.mapM fun child => recurse ⟨active, child⟩
      return .object (compose node parts) := by
  cases node <;> first | rfl | cases hcomposes

/-- Steps in a row are the same where each of them is. -/
theorem mapM_congr {α β : Type} {items : List α} {step step' : α → Bounded β}
    (h : ∀ item ∈ items, step item = step' item) : items.mapM step = items.mapM step' := by
  induction items with
  | nil => rfl
  | cons item rest ih =>
    rw [List.mapM_cons, List.mapM_cons, h item List.mem_cons_self,
      ih fun other hother => h other (List.mem_cons_of_mem _ hother)]

/-- A call does nothing with other calls than those that it makes. -/
theorem step_congr {recurse' : Call → Bounded Json} {call : Call}
    (h : ∀ next, Call.Makes thunks call next → recurse next = recurse' next) :
    step thunks depth recurse call = step thunks depth recurse' call := by
  obtain ⟨active, node⟩ := call
  by_cases hcomposes : node.composes
  · rw [step_composed hcomposes, step_composed hcomposes]
    exact congrArg (· >>= _) (mapM_congr fun child hchild => h _ (.inside hchild))
  · cases node with
    | deferred thunk =>
      funext state
      cases hname : knownName active thunk state with
      | some name => rw [step_known hname, step_known hname]
      | none =>
        rw [step_forced hname, step_forced hname]
        have hactive := (Option.or_eq_none_iff.mp hname).1
        refine congrArg (fun next : String → Bounded Json => (seekName depth >>= next) state)
          (funext fun name => ?_)
        cases thunk with
        | none => rfl
        | some thunk =>
          cases hbody : Entries.find? thunk thunks with
          | none => simp only [hbody]
          | some body => simp only [hbody, h _ (.forced hactive hbody)]
    | verbatim document => rfl
    | unknown => rfl
    | _ => exact absurd rfl hcomposes

end Step

section Ending

variable {thunks pending : Thunks} {active : Active} {node : Node}

/-- A composed node is written where the calls for the nodes inside end. -/
theorem ends_composed (hcomposes : node.composes)
    (h : ∀ child ∈ node.children,
      Ends (fun depth => run thunks depth ⟨active, child⟩) (writeNode active pending child)) :
    Ends (fun depth => step thunks depth (run thunks depth) ⟨active, node⟩)
      (writeNode active pending node) := by
  simp only [step_composed hcomposes, writeNode_composed hcomposes]
  exact (ends_mapM h).bind fun parts =>
    Ends.bounded (.give (Json.object (compose node parts)))

/-- The body of a deferred node is written under a fresh name where the call for it ends. -/
theorem ends_force {thunk : String} {body : Noted Node}
    (hbody : Entries.find? thunk thunks = some body)
    (h : ∀ name, Ends (fun depth => run thunks depth ⟨(some thunk, name) :: active, body.value⟩)
      (writeNode ((some thunk, name) :: active) (Thunks.without pending thunk) body.value)) :
    Ends (fun depth => force thunks depth (run thunks depth) active (some thunk))
      (reserveName.andThen fun name =>
        (Writing.change fun state => { state with notes := state.notes ++ body.notes }).andThen
          fun () =>
            (writeNode ((some thunk, name) :: active) (Thunks.without pending thunk)
              body.value).andThen (settle thunk name)) := by
  simp only [force, hbody]
  refine ends_seekName.bind fun name => (Ends.bounded (.change _)).bind fun () => ?_
  exact (h name).bind fun document => .bounded (settle thunk name document)

/-- A deferred node without a body is a fault. -/
theorem ends_force_missing {thunk : Option String}
    (hbody : ∀ name, thunk = some name → Entries.find? name thunks = none) :
    Ends (fun depth => force thunks depth (run thunks depth) active thunk)
      (reserveName.andThen fun _ => .stop .noThunk) := by
  refine ends_seekName.bind fun name => ?_
  cases thunk with
  | none => exact .bounded (.stop .noThunk)
  | some thunk =>
    simp only [hbody thunk rfl]
    exact .bounded (.stop .noThunk)

/-- A deferred node is written where the call for its body ends, if the body is not being written. -/
theorem ends_deferred {thunk : Option String}
    (htable : ∀ thunk, active.lookup (some thunk) = none →
      Entries.find? thunk pending = Entries.find? thunk thunks)
    (h : ∀ given name body, thunk = some given → active.lookup (some given) = none →
      Entries.find? given thunks = some body →
        Ends (fun depth => run thunks depth ⟨(some given, name) :: active, body.value⟩)
          (writeNode ((some given, name) :: active) (Thunks.without pending given) body.value)) :
    Ends (fun depth => step thunks depth (run thunks depth) ⟨active, .deferred thunk⟩)
      (writeNode active pending (.deferred thunk)) := by
  intro state
  cases hname : knownName active thunk state with
  | some name =>
    rw [writeNode_known hname]
    exact ⟨0, fun more _ => step_known hname⟩
  | none =>
    have hactive := (Option.or_eq_none_iff.mp hname).1
    simp only [step_forced hname]
    by_cases hsome : ∃ name body, thunk = some name ∧ Entries.find? name thunks = some body
    · obtain ⟨thunk, body, rfl, hbody⟩ := hsome
      rw [writeNode_deferred hname ((htable thunk hactive).trans hbody)]
      exact ends_force hbody (fun name => h thunk name body rfl hactive hbody) state
    · have hnone : ∀ name, thunk = some name → Entries.find? name thunks = none :=
        fun name heq => Option.eq_none_iff_forall_ne_some.mpr fun body hbody =>
          hsome ⟨name, body, heq, hbody⟩
      rw [writeNode_missing hname fun name heq =>
        (htable name (heq ▸ hactive)).trans (hnone name heq)]
      exact ends_force_missing hnone state

/-- Every call ends, with what is written for its node. -/
theorem ends_run (thunks : Thunks) (call : Call) (pending : Thunks)
    (htable : ∀ thunk, call.active.lookup (some thunk) = none →
      Entries.find? thunk pending = Entries.find? thunk thunks) :
    Ends (fun depth => run thunks depth call) (writeNode call.active pending call.node) := by
  induction call using (Call.wellFounded_makes thunks).induction generalizing pending with
  | h call ih =>
    obtain ⟨active, node⟩ := call
    refine .of_step ?_
    by_cases hcomposes : node.composes
    · exact ends_composed hcomposes fun child hchild => ih _ (.inside hchild) pending htable
    · cases node with
      | deferred thunk =>
        refine ends_deferred htable fun given name body hgiven hactive hbody => ?_
        subst hgiven
        exact ih _ (.forced hactive hbody) _ (table_without htable)
      | verbatim document =>
        rw [writeNode]
        exact .bounded (.give document)
      | unknown =>
        rw [writeNode]
        exact .bounded (.stop .unknownNode)
      | _ => exact absurd rfl hcomposes

/-- A schema is written as its root is and then the bodies of its definitions. -/
theorem writeSchema_eq (schema : Schema) :
    writeSchema thunks schema =
      (Writing.change fun state =>
          { reserved := Entries.names schema.definitions, notes := state.notes }).andThen fun () =>
        (writeNode [] thunks schema.root).andThen fun root =>
          (writeNodes [] thunks (schema.definitions.map Prod.snd)).andThen fun bodies state =>
            (.ok (attach root
              (Entries.ofList ((Entries.names schema.definitions).zip bodies ++ state.definitions))),
              state) := by
  funext state
  rw [writeSchema, writeDefinitions_eq]
  exact congrArg (fun next => (writeNode [] thunks schema.root).andThen next _)
    (funext fun root => andThen_assoc _ _ _)

end Ending

end Document

namespace Schema

open Document

/-- Writing a schema ends, whatever its deferred nodes come to: no sequence of calls is endless, a call
does nothing with other calls than those that it makes, and every call ends with what is written for its
node, as the run for the whole schema does. Where all kinds of nodes are known and every thunk has a
body, it ends with a document. -/
theorem write_ends (schema : Schema) (thunks : Thunks) :
    (WellFounded fun next call => Call.Makes thunks call next) ∧
      (∀ depth recurse recurse' call,
        (∀ next, Call.Makes thunks call next → recurse next = recurse' next) →
          step thunks depth recurse call = step thunks depth recurse' call) ∧
      (∀ call, Ends (fun depth => run thunks depth call) (writeNode call.active thunks call.node)) ∧
      Ends (runSchema thunks schema) (writeSchema thunks schema) ∧
      ((∀ node, schema.Contains thunks node → node.Known thunks) →
        ∃ document, (write thunks schema).value = .ok document) := by
  refine ⟨Call.wellFounded_makes thunks, fun _ _ _ _ => step_congr,
    fun call => ends_run thunks call thunks fun _ _ => rfl, ?whole, exists_write_eq_ok⟩
  case whole =>
    rw [writeSchema_eq]
    refine (Ends.bounded (.change _)).bind fun () => ?_
    refine (ends_run thunks ⟨[], schema.root⟩ thunks fun _ _ => rfl).bind fun root => ?_
    refine (ends_mapM fun body _ => ends_run thunks ⟨[], body⟩ thunks fun _ _ => rfl).bind
      fun bodies => ?_
    exact .bounded _

/-- A body that is its own deferred node, and two bodies that hold each other. -/
def mirrors : Thunks := [("mirror", ⟨.deferred (some "mirror"), []⟩),
  ("ping", ⟨.array {} (some (.deferred (some "pong"))) {}, []⟩),
  ("pong", ⟨.array {} (some (.deferred (some "ping"))) {}, []⟩)]

/-- A schema that comes to all of them, from the root and from a definition. -/
def mirrored : Schema where
  root := .deferred (some "mirror")
  definitions := [("game", .deferred (some "ping"))]

/-- A schema whose deferred nodes come back to themselves is written all the same. -/
theorem write_ends_mirrored : (∀ node, mirrored.Contains mirrors node → node.Known mirrors) ∧
    ∃ document, (write mirrors mirrored).value = .ok document := by
  have hmem : ∀ node, mirrored.Contains mirrors node → node ∈ [.deferred (some "mirror"),
      .deferred (some "ping"), .deferred (some "pong"),
      .array {} (some (.deferred (some "pong"))) {}, .array {} (some (.deferred (some "ping"))) {}] :=
    fun node hnode => hnode.mem_of_closed (by simp [mirrored]) (by simp [mirrored])
      (by simp [mirrors]) (by simp [Node.children])
  have hknown : ∀ node, mirrored.Contains mirrors node → node.Known mirrors := by
    intro node hnode
    have hcases := hmem node hnode
    simp only [List.mem_cons, List.not_mem_nil, or_false] at hcases
    rcases hcases with rfl | rfl | rfl | rfl | rfl <;> simp [Node.Known, mirrors]
  obtain ⟨-, -, -, -, hwritten⟩ := write_ends mirrored mirrors
  exact ⟨hknown, hwritten hknown⟩

-- One of the bodies that hold each other stands in the other one.
example : (runSchema mirrors mirrored 6 {}).map Prod.fst = some (.ok (.object
    [("$ref", .string "#/definitions/lazy0"), ("definitions", .object [
      ("game", lazyReference "lazy1"), ("lazy0", lazyReference "lazy0"),
      ("lazy1", .object [("type", .string "array"), ("items", .object
        [("type", .string "array"), ("items", lazyReference "lazy1")])])])])) := by
  cbv

end Schema

end JsonSchema
