import JsonSchema.Proofs.Validation.Faults
import Mathlib.Data.Finset.Card
import Mathlib.Data.List.Infix
import Mathlib.Data.Prod.Lex

/-!
# Checks as a recursion

`Scope.step` is one call of a check as it goes along. A guard that is handed from call to call keeps the
references that are being resolved, each with the place in the value that it is resolved for; a reference
that is met again at the same place is circular. The guard can also be left out, and then references are
followed whatever was followed before. `Scope.run` lets calls make calls down to some depth, and gives
`none` where that is not deep enough: the recursion ends where some depth is enough.

With its guard the recursion ends for every schema without deferred nodes, and gives the trace of
`Scope.check`. What makes it end is that each call has a smaller value, or the same value and fewer
references to resolve at its place, or these alike and a smaller node. As deeper runs give what a run gives,
the trace can be read off one run that is deep enough.
-/

namespace JsonSchema

namespace Check

/-- Where a part of a value is found: the segments that lead to it, the last one first. Parts inside
each other are at different places. -/
abbrev Path := List String

/-- The references that are being resolved, with the places that they are resolved for. -/
abbrev Guard := List (String × Path)

/-- A call of the recursion. -/
structure Call where
  guard : Guard
  path : Path
  node : Node
  value : Json

/-- A call comes to another one: for a part of the value, for a member of a combination or for the body
of a reference, which the guard keeps until the body is checked. -/
inductive Call.Makes (definitions : Definitions) : Call → Call → Prop
  | part {guard : Guard} {path : Path} {node : Node} {value : Json} {part : Part}
      (h : part ∈ parts node value) : Makes definitions ⟨guard, path, node, value⟩
        ⟨guard, part.segment :: path, part.node, part.value⟩
  | member {guard : Guard} {path : Path} {docs : Documentation} {how : Combination}
      {members : List Node} {member : Node} {value : Json} (h : member ∈ members) :
      Makes definitions ⟨guard, path, .combined docs how members, value⟩ ⟨guard, path, member, value⟩
  | followed {guard : Guard} {path : Path} {docs : Documentation} {target : String} {body : Node}
      {value : Json} (hbody : definitions.resolve? target = some body)
      (hnew : (target, path) ∉ guard) :
      Makes definitions ⟨guard, path, .reference docs target, value⟩
        ⟨(target, path) :: guard, path, body, value⟩

/-- What is done for each call. -/
abbrev Recursion := Path → Node → Json → StateT Guard Option Trace

/-- What is done for a call gives a trace, and leaves the guard as it was. -/
def Recursion.Gives (recursion : Recursion) (call : Call) (trace : Trace) : Prop :=
  recursion call.path call.node call.value call.guard = some (trace, call.guard)

/-- The references in definitions. -/
def referencesOf (definitions : Definitions) : List String :=
  definitions.flatMap fun (_, body) => body.references

/-- The references that a call can come to and that are not being resolved at its place. -/
def Call.remaining (definitions : Definitions) (call : Call) : Finset String :=
  (call.node.references ++ referencesOf definitions).toFinset.filter
    fun target => (target, call.path) ∉ call.guard

/-- The size of the value, the number of references to resolve at its place, and the size of the node. -/
noncomputable def Call.measure (definitions : Definitions) (call : Call) : Nat ×ₗ Nat ×ₗ Nat :=
  toLex (sizeOf call.value, toLex ((call.remaining definitions).card, sizeOf call.node))

/-- A member of a combination leaves no more references to resolve. -/
theorem Call.remaining_member_subset {definitions : Definitions} {guard : Guard} {path : Path}
    {docs : Documentation} {how : Combination} {members : List Node} {member : Node} {value : Json}
    (h : member ∈ members) :
    Call.remaining definitions ⟨guard, path, member, value⟩ ⊆
      Call.remaining definitions ⟨guard, path, .combined docs how members, value⟩ := by
  refine Finset.filter_subset_filter _ fun target htarget => ?_
  rw [List.mem_toFinset, List.mem_append] at htarget ⊢
  exact htarget.imp_left
    (@Node.mem_references_of_mem_children (.combined docs how members) member target h)

/-- A reference that is being resolved is not left to resolve. -/
theorem Call.remaining_followed_ssubset {definitions : Definitions} {guard : Guard} {path : Path}
    {docs : Documentation} {target : String} {body : Node} {value : Json}
    (hbody : definitions.resolve? target = some body) (hnew : (target, path) ∉ guard) :
    Call.remaining definitions ⟨(target, path) :: guard, path, body, value⟩ ⊂
      Call.remaining definitions ⟨guard, path, .reference docs target, value⟩ := by
  rw [Finset.ssubset_iff_of_subset]
  · refine ⟨target, ?_, ?_⟩
    · simp [Call.remaining, Node.references, hnew]
    · simp [Call.remaining]
  · intro other hother
    simp only [Call.remaining, Finset.mem_filter, List.mem_toFinset, List.mem_append, List.mem_cons,
      not_or] at hother ⊢
    refine ⟨.inr ?_, hother.2.2⟩
    rcases hother.1 with hinside | hdefined
    · exact List.mem_flatMap.mpr ⟨_, Entries.mem_of_find? hbody, hinside⟩
    · exact hdefined

/-- Every call is made by one of a greater measure. -/
theorem Call.Makes.measure_lt {definitions : Definitions} {call next : Call}
    (h : Makes definitions call next) : next.measure definitions < call.measure definitions := by
  cases h with
  | part h => exact Prod.Lex.toLex_lt_toLex.mpr (.inl (sizeOf_part_lt h))
  | member h =>
    have hsize := List.sizeOf_lt_of_mem h
    refine Prod.Lex.toLex_lt_toLex.mpr (.inr ⟨rfl, Prod.Lex.toLex_lt_toLex.mpr ?_⟩)
    rcases Nat.lt_or_eq_of_le (Finset.card_le_card (Call.remaining_member_subset h)) with hlt | heq
    · exact .inl hlt
    · refine .inr ⟨heq, ?_⟩
      simp only [Node.combined.sizeOf_spec]
      omega
  | followed hbody hnew =>
    refine Prod.Lex.toLex_lt_toLex.mpr (.inr ⟨rfl, Prod.Lex.toLex_lt_toLex.mpr (.inl ?_)⟩)
    exact Finset.card_lt_card (Call.remaining_followed_ssubset hbody hnew)

/-- No sequence of calls that come to each other is endless. -/
theorem Call.wellFounded_makes (definitions : Definitions) :
    WellFounded fun next call => Call.Makes definitions call next :=
  Subrelation.wf Makes.measure_lt (InvImage.wf (Call.measure definitions) wellFounded_lt)

end Check

open Check in
/-- One call, with or without a guard, where `recurse` does the calls that it makes. -/
def Scope.step (scope : Scope) (guarded : Bool) (recurse : Recursion) : Recursion :=
  fun path node value => match node with
  | .reference _ target =>
    match scope.definitions.resolve? target with
    | none => pure (unresolvedTrace scope target)
    | some body =>
      if guarded then do
        let guard ← get
        if guard.contains (target, path) then
          return [Trace.problem (.misfit (.circular target))]
        set ((target, path) :: guard)
        let trace ← recurse path body value
        modify fun guard => guard.filter (· ≠ (target, path))
        return trace
      else recurse path body value
  | .deferred none => return [.fault .noThunk]
  | .deferred (some thunk) =>
    match Entries.find? thunk scope.thunks with
    | none => return [.fault .noThunk]
    | some body => do
      let trace ← recurse path body.value value
      return body.notes.map .note ++ trace
  | .combined _ .anyOf members => do
    -- Members after the first that accepts are not run.
    let (trace, accepted) ← members.foldlM (fun (seen : Trace × Bool) member =>
      if seen.2 then return seen
      else do
        let trace ← recurse path member value
        return (seen.1 ++ trace.silent, trace.accepts)) ([], false)
    return trace ++ Trace.problemIf (!accepted) .tooFewMatches
  | .combined _ how members => do
    let traces ← members.mapM fun member => recurse path member value
    return combine how (traces.map fun trace () => trace)
  | node => do
    let traces ← (parts node value).mapM fun part => do
      let trace ← recurse (part.segment :: path) part.node part.value
      return trace.under part.segment
    return ownTrace scope.strictness node value ++ traces.flatten

/-- The check of a value as a recursion, with calls inside each other down to some depth. -/
def Scope.run (scope : Scope) (guarded : Bool) : Nat → Check.Recursion
  | 0 => fun _ _ _ => failure
  | depth + 1 => scope.step guarded (scope.run guarded depth)

/-- The recursion ends for a call: from some depth on, every depth gives the trace. -/
def Scope.Ends (scope : Scope) (guarded : Bool) (call : Check.Call) (trace : Trace) : Prop :=
  ∃ depth, ∀ more, depth ≤ more → (scope.run guarded more).Gives call trace


section Steps

variable {α β : Type} {guard : Check.Guard}

/-- A step goes on with the result and the guard of the step before it. -/
theorem bind_of_eq_some {first : StateT Check.Guard Option α} {next : α → StateT Check.Guard Option β}
    {a : α} {between : Check.Guard} (h : first guard = some (a, between)) :
    (first >>= next) guard = next a between := by
  simp only [bind, StateT.bind, h, Option.bind_some]

/-- Steps in a row that each leave the guard as it is give their results in a row. -/
theorem mapM_eq_some {items : List α} {step : α → StateT Check.Guard Option β} {result : α → β}
    (h : ∀ item ∈ items, step item guard = some (result item, guard)) :
    items.mapM step guard = some (items.map result, guard) := by
  induction items with
  | nil => rfl
  | cons item rest ih =>
    have hrest := ih fun other hother => h other (List.mem_cons_of_mem _ hother)
    rw [List.mapM_cons, bind_of_eq_some (h item List.mem_cons_self), bind_of_eq_some hrest]
    rfl

/-- A member is asked whether it accepts a value, unless another one did. -/
def Check.ask (step : Node → StateT Check.Guard Option Trace) (seen : Trace × Bool) (member : Node) :
    StateT Check.Guard Option (Trace × Bool) :=
  if seen.2 then return seen
  else do
    let trace ← step member
    return (seen.1 ++ trace.silent, trace.accepts)

/-- Where a member accepted, the others are not asked. -/
theorem Check.foldlM_ask_accepted (step : Node → StateT Check.Guard Option Trace) (members : List Node)
    (trace : Trace) :
    members.foldlM (Check.ask step) (trace, true) guard = some ((trace, true), guard) := by
  induction members with
  | nil => rfl
  | cons member rest ih => exact ih

/-- Members that leave the guard as it is are asked up to the first that accepts. -/
theorem Check.foldlM_ask {members : List Node} {step : Node → StateT Check.Guard Option Trace}
    {result : Node → Trace} (h : ∀ member ∈ members, step member guard = some (result member, guard))
    (before : Trace) :
    ∃ seen : Trace × Bool,
      members.foldlM (Check.ask step) (before, false) guard = some (seen, guard) ∧
        seen.1 ++ Trace.problemIf (!seen.2) .tooFewMatches =
          before ++ Check.anyTrace (members.map fun member () => result member) := by
  induction members generalizing before with
  | nil => exact ⟨(before, false), rfl, rfl⟩
  | cons member rest ih =>
    have hmember : Check.ask step (before, false) member guard =
        some ((before ++ (result member).silent, (result member).accepts), guard) := by
      change (step member >>= _) guard = _
      rw [bind_of_eq_some (h member List.mem_cons_self)]
      rfl
    rw [List.foldlM_cons, bind_of_eq_some hmember]
    cases haccepts : (result member).accepts with
    | true =>
      refine ⟨_, Check.foldlM_ask_accepted step rest _, ?_⟩
      simp [Check.anyTrace, haccepts, Trace.problemIf]
    | false =>
      obtain ⟨seen, hseen, htrace⟩ := ih
        (fun other hother => h other (List.mem_cons_of_mem _ hother))
        (before ++ (result member).silent)
      exact ⟨seen, hseen, by simp [htrace, Check.anyTrace, haccepts]⟩

/-- Wherever one of two ways to do something gives a result, the other one gives it too. -/
def Check.Within (first second : StateT Check.Guard Option α) : Prop :=
  ∀ guard found, first guard = some found → second guard = some found

namespace Check.Within

variable {first second : StateT Check.Guard Option α}

/-- What is done in one way only gives its own results. -/
protected theorem refl (first : StateT Check.Guard Option α) : Within first first :=
  fun _ _ => id

/-- Something and what follows it, each with a way that gives the same. -/
theorem bind {next more : α → StateT Check.Guard Option β} (h : Within first second)
    (hnext : ∀ a, Within (next a) (more a)) : Within (first >>= next) (second >>= more) := by
  intro guard found hfound
  obtain ⟨⟨a, between⟩, hfirst, hrest⟩ := Option.bind_eq_some_iff.mp hfound
  rw [bind_of_eq_some (h guard _ hfirst)]
  exact hnext a between found hrest

/-- Something for each of some items, in two ways. -/
theorem mapM {first second : α → StateT Check.Guard Option β} (h : ∀ a, Within (first a) (second a))
    (items : List α) : Within (items.mapM first) (items.mapM second) := by
  induction items with
  | nil => exact .refl _
  | cons item rest ih =>
    rw [List.mapM_cons, List.mapM_cons]
    exact (h item).bind fun _ => ih.bind fun _ => .refl _

/-- Members are asked up to the first that accepts, in two ways. -/
theorem foldlM_ask {first second : Node → StateT Check.Guard Option Trace}
    (h : ∀ member, Within (first member) (second member)) (members : List Node)
    (seen : Trace × Bool) : Within (members.foldlM (ask first) seen) (members.foldlM (ask second) seen) := by
  induction members generalizing seen with
  | nil => exact .refl _
  | cons member rest ih =>
    rw [List.foldlM_cons, List.foldlM_cons]
    refine Within.bind ?_ ih
    obtain ⟨trace, accepted⟩ := seen
    cases accepted with
    | true => exact .refl _
    | false => exact (h member).bind fun _ => .refl _

end Check.Within

end Steps

namespace Scope

variable {scope : Scope} {guarded : Bool} {recurse : Check.Recursion} {path : Check.Path}
  {guard : Check.Guard} {value : Json}

section Step

/-- A reference that is not resolved is accepted or reported, but not followed. -/
theorem step_unresolved {docs : Documentation} {target : String}
    (h : scope.definitions.resolve? target = none) :
    (scope.step guarded recurse).Gives ⟨guard, path, .reference docs target, value⟩
      (Check.unresolvedTrace scope target) := by
  rw [Check.Recursion.Gives, step, h]
  rfl

/-- Without a guard a reference is followed. -/
theorem step_unguarded {docs : Documentation} {target : String} {body : Node} {trace : Trace}
    (h : scope.definitions.resolve? target = some body)
    (hbody : recurse.Gives ⟨guard, path, body, value⟩ trace) :
    (scope.step false recurse).Gives ⟨guard, path, .reference docs target, value⟩ trace := by
  rw [Check.Recursion.Gives, step, h]
  exact hbody

/-- With a guard a reference that is being resolved at the same place is circular. -/
theorem step_circular {docs : Documentation} {target : String} {body : Node}
    (h : scope.definitions.resolve? target = some body) (hguard : (target, path) ∈ guard) :
    (scope.step true recurse).Gives ⟨guard, path, .reference docs target, value⟩
      [Trace.problem (.misfit (.circular target))] := by
  rw [Check.Recursion.Gives, step, h]
  change (if guard.contains (target, path) then _ else _ : StateT Check.Guard Option Trace) guard = _
  rw [if_pos (List.contains_iff_mem.mpr hguard)]
  rfl

/-- With a guard a reference that is not being resolved is followed, and kept until its body is
checked. -/
theorem step_followed {docs : Documentation} {target : String} {body : Node} {trace : Trace}
    (h : scope.definitions.resolve? target = some body) (hguard : (target, path) ∉ guard)
    (hbody : recurse.Gives ⟨(target, path) :: guard, path, body, value⟩ trace) :
    (scope.step true recurse).Gives ⟨guard, path, .reference docs target, value⟩ trace := by
  have hdiscard : ((target, path) :: guard).filter (· ≠ (target, path)) = guard := by
    rw [List.filter_cons_of_neg (by simp), List.filter_eq_self]
    intro key hkey
    have hne : key ≠ (target, path) := fun heq => hguard (heq ▸ hkey)
    simpa using hne
  rw [Check.Recursion.Gives, step, h]
  change (if guard.contains (target, path) then _ else _ : StateT Check.Guard Option Trace) guard = _
  rw [if_neg (by simpa using hguard)]
  have hset : (set ((target, path) :: guard) : StateT Check.Guard Option PUnit) guard =
      some (⟨⟩, (target, path) :: guard) := rfl
  rw [bind_of_eq_some hset, bind_of_eq_some hbody]
  exact congrArg (fun guard => some (trace, guard)) hdiscard

/-- A deferred node without a thunk is a fault. -/
theorem step_noThunk :
    (scope.step guarded recurse).Gives ⟨guard, path, .deferred none, value⟩ [.fault .noThunk] :=
  rfl

/-- A deferred node whose thunk has no body is a fault. -/
theorem step_unforced {thunk : String} (h : Entries.find? thunk scope.thunks = none) :
    (scope.step guarded recurse).Gives ⟨guard, path, .deferred (some thunk), value⟩
      [.fault .noThunk] := by
  rw [Check.Recursion.Gives, step, h]
  rfl

/-- A deferred node is checked as its body. -/
theorem step_forced {thunk : String} {body : Noted Node} {trace : Trace}
    (h : Entries.find? thunk scope.thunks = some body)
    (hbody : recurse.Gives ⟨guard, path, body.value, value⟩ trace) :
    (scope.step guarded recurse).Gives ⟨guard, path, .deferred (some thunk), value⟩
      (body.notes.map .note ++ trace) := by
  rw [Check.Recursion.Gives, step, h]
  exact bind_of_eq_some hbody

/-- A combination combines what its members give. -/
theorem step_combined {docs : Documentation} {how : Combination} {members : List Node}
    {trace : Node → Trace}
    (h : ∀ member ∈ members, recurse.Gives ⟨guard, path, member, value⟩ (trace member)) :
    (scope.step guarded recurse).Gives ⟨guard, path, .combined docs how members, value⟩
      (Check.combine how (members.map fun member () => trace member)) := by
  have hmembers : ∀ member ∈ members, recurse path member value guard = some (trace member, guard) := h
  cases how with
  | anyOf =>
    obtain ⟨seen, hseen, htrace⟩ := Check.foldlM_ask hmembers []
    rw [Check.Recursion.Gives, step]
    change (members.foldlM (Check.ask fun member => recurse path member value) ([], false) >>=
      _) guard = _
    rw [bind_of_eq_some hseen]
    exact congrArg (fun trace => some (trace, guard)) htrace
  | oneOf =>
    rw [Check.Recursion.Gives, step, bind_of_eq_some (mapM_eq_some hmembers), List.map_map]
    · rfl
    · simp
  | allOf =>
    rw [Check.Recursion.Gives, step, bind_of_eq_some (mapM_eq_some hmembers), List.map_map]
    · rfl
    · simp

/-- The step of any other node adds what its parts give to what it asks of the value itself. -/
theorem step_eq_own {node : Node} (hown : node.handsOn = false) :
    scope.step guarded recurse path node value = do
      let traces ← (Check.parts node value).mapM fun part => do
        let trace ← recurse (part.segment :: path) part.node part.value
        return trace.under part.segment
      return Check.ownTrace scope.strictness node value ++ traces.flatten := by
  rw [step]
  all_goals
    intros
    subst_vars
    simp [Node.handsOn] at hown

/-- Any other node asks something of the value itself and of its parts. -/
theorem step_own {node : Node} (hown : node.handsOn = false) {trace : Check.Part → Trace}
    (h : ∀ part ∈ Check.parts node value,
      recurse.Gives ⟨guard, part.segment :: path, part.node, part.value⟩ (trace part)) :
    (scope.step guarded recurse).Gives ⟨guard, path, node, value⟩
      (Check.ownTrace scope.strictness node value ++
        (Check.parts node value).flatMap fun part => (trace part).under part.segment) := by
  have hparts : ∀ part ∈ Check.parts node value, (do
      let trace ← recurse (part.segment :: path) part.node part.value
      return trace.under part.segment) guard = some ((trace part).under part.segment, guard) :=
    fun part hpart => bind_of_eq_some (h part hpart)
  rw [Check.Recursion.Gives, step_eq_own hown, bind_of_eq_some (mapM_eq_some hparts)]
  rfl

/-- Calls that give the same wherever they gave something let a call give what it gave. -/
theorem step_within {other : Check.Recursion}
    (h : ∀ path node value, Check.Within (recurse path node value) (other path node value))
    (path : Check.Path) (node : Node) (value : Json) :
    Check.Within (scope.step guarded recurse path node value)
      (scope.step guarded other path node value) := by
  by_cases hown : node.handsOn = false
  · rw [step_eq_own hown, step_eq_own hown]
    refine Check.Within.bind (Check.Within.mapM (fun part => ?_) (Check.parts node value))
      fun _ => .refl _
    exact (h (part.segment :: path) part.node part.value).bind fun _ => .refl _
  · cases node with
    | reference docs target =>
      rw [step, step]
      cases hbody : scope.definitions.resolve? target with
      | none => exact .refl _
      | some body =>
        cases guarded with
        | false => exact h path body value
        | true =>
          refine Check.Within.bind (.refl _) fun guard => ?_
          change Check.Within (if _ then _ else _) (if _ then _ else _)
          split
          · exact .refl _
          · exact Check.Within.bind (.refl _) fun _ => (h path body value).bind fun _ => .refl _
    | deferred thunk =>
      cases thunk with
      | none => exact .refl _
      | some thunk =>
        rw [step, step]
        cases hbody : Entries.find? thunk scope.thunks with
        | none => exact .refl _
        | some body => exact (h path body.value value).bind fun _ => .refl _
    | combined docs how members =>
      cases how with
      | anyOf =>
        have hmembers := Check.Within.foldlM_ask (fun member => h path member value) members ([], false)
        exact hmembers.bind fun _ => .refl _
      | _ =>
        have hmembers := Check.Within.mapM (fun member => h path member value) members
        exact hmembers.bind fun _ => .refl _
    | _ => exact absurd rfl hown

/-- A deeper run gives what a run gives. -/
theorem run_within (scope : Scope) (guarded : Bool) {depth more : Nat} (h : depth ≤ more)
    (path : Check.Path) (node : Node) (value : Json) :
    Check.Within (scope.run guarded depth path node value) (scope.run guarded more path node value) := by
  induction depth generalizing more path node value with
  | zero => exact fun _ _ hfound => nomatch hfound
  | succ depth ih =>
    obtain ⟨less, rfl⟩ := Nat.exists_eq_add_of_le' (Nat.le_of_add_left_le h)
    exact step_within (ih (Nat.le_of_succ_le_succ h)) path node value

end Step

section Ends

variable {call : Check.Call} {trace : Trace}

/-- Calls that each end are given their traces by one depth. -/
theorem exists_depth {α : Type} {items : List α} {calls : α → Check.Call} {traces : α → Trace}
    (h : ∀ item ∈ items, scope.Ends guarded (calls item) (traces item)) :
    ∃ depth, ∀ more, depth ≤ more →
      ∀ item ∈ items, (scope.run guarded more).Gives (calls item) (traces item) := by
  induction items with
  | nil => exact ⟨0, by simp⟩
  | cons item rest ih =>
    obtain ⟨first, hfirst⟩ := h item List.mem_cons_self
    obtain ⟨others, hothers⟩ := ih fun other hother => h other (List.mem_cons_of_mem _ hother)
    refine ⟨max first others, fun more hmore => List.forall_mem_cons.mpr ⟨?_, ?_⟩⟩
    · exact hfirst more (le_of_max_le_left hmore)
    · exact hothers more (le_of_max_le_right hmore)

/-- A call ends where its step gives a trace when the calls that it makes are deep enough. -/
theorem Ends.of_depth (depth : Nat)
    (h : ∀ less, depth ≤ less → (scope.step guarded (scope.run guarded less)).Gives call trace) :
    scope.Ends guarded call trace := by
  refine ⟨depth + 1, fun more hmore => ?_⟩
  obtain ⟨less, rfl⟩ := Nat.exists_eq_add_of_le' (Nat.le_of_add_left_le hmore)
  exact h less (Nat.le_of_succ_le_succ hmore)

/-- A call that makes no calls ends. -/
theorem Ends.of_step
    (hstep : ∀ recurse : Check.Recursion, (scope.step guarded recurse).Gives call trace) :
    scope.Ends guarded call trace :=
  .of_depth 0 fun _ _ => hstep _

/-- A call ends where the one call that it makes ends. -/
theorem Ends.of_call {next : Check.Call} {nextTrace : Trace} (h : scope.Ends guarded next nextTrace)
    (hstep : ∀ recurse : Check.Recursion, recurse.Gives next nextTrace →
      (scope.step guarded recurse).Gives call trace) :
    scope.Ends guarded call trace := by
  obtain ⟨depth, hdepth⟩ := h
  exact .of_depth depth fun less hless => hstep _ (hdepth less hless)

/-- A call ends where the calls that it makes end. -/
theorem Ends.of_calls {α : Type} (items : List α) {calls : α → Check.Call} {traces : α → Trace}
    (h : ∀ item ∈ items, scope.Ends guarded (calls item) (traces item))
    (hstep : ∀ recurse : Check.Recursion,
      (∀ item ∈ items, recurse.Gives (calls item) (traces item)) →
        (scope.step guarded recurse).Gives call trace) :
    scope.Ends guarded call trace := by
  obtain ⟨depth, hdepth⟩ := exists_depth h
  exact .of_depth depth fun less hless => hstep _ (hdepth less hless)

/-- A call ends with one trace. -/
theorem Ends.unique {other : Trace} (h : scope.Ends guarded call trace)
    (hother : scope.Ends guarded call other) : trace = other := by
  obtain ⟨first, hfirst⟩ := h
  obtain ⟨second, hsecond⟩ := hother
  have htrace := hfirst (max first second) (le_max_left _ _)
  have hagain := hsecond (max first second) (le_max_right _ _)
  exact congrArg Prod.fst (Option.some_inj.mp (htrace.symm.trans hagain))

end Ends

/-- Where no deferred node has a body every call ends. -/
theorem exists_ends (hthunks : scope.thunks = []) (call : Check.Call) :
    ∃ trace, scope.Ends true call trace := by
  induction call using (Check.Call.wellFounded_makes scope.definitions).induction with
  | _ call ih =>
    obtain ⟨guard, path, node, value⟩ := call
    by_cases hown : node.handsOn = false
    · have hparts : ∀ part ∈ Check.parts node value, ∃ trace,
          scope.Ends true ⟨guard, part.segment :: path, part.node, part.value⟩ trace :=
        fun part hpart => ih _ (.part hpart)
      choose! trace htrace using hparts
      exact ⟨_, .of_calls _ htrace fun _ => step_own hown⟩
    · cases node with
      | reference docs target =>
        cases hbody : scope.definitions.resolve? target with
        | none => exact ⟨_, .of_step fun _ => step_unresolved hbody⟩
        | some body =>
          by_cases hguard : (target, path) ∈ guard
          · exact ⟨_, .of_step fun _ => step_circular hbody hguard⟩
          · obtain ⟨trace, htrace⟩ := ih _ (.followed hbody hguard)
            exact ⟨trace, .of_call htrace fun _ => step_followed hbody hguard⟩
      | deferred thunk =>
        cases thunk with
        | none => exact ⟨_, .of_step fun _ => step_noThunk⟩
        | some thunk => exact ⟨_, .of_step fun _ => step_unforced (by rw [hthunks]; rfl)⟩
      | combined docs how members =>
        have hmembers : ∀ member ∈ members, ∃ trace,
            scope.Ends true ⟨guard, path, member, value⟩ trace :=
          fun member hmember => ih _ (.member hmember)
        choose! trace htrace using hmembers
        exact ⟨_, .of_calls _ htrace fun _ => step_combined⟩
      | _ => exact absurd rfl hown

end Scope

namespace Schema

variable {schema : Schema} {thunks : Thunks} {strictness : Strictness}

/-- Where deferred nodes do not force each other for ever at one place, the recursion with a guard ends
with the trace of the check. -/
theorem ends_checkAt (hschema : schema.LazilyContractive thunks) (followable : List String)
    (pending : Thunks) (node : Node) (value : Json) (path : Check.Path) (guard : Check.Guard)
    (hnode : schema.Contains thunks node)
    (hforce : (schema.scope thunks strictness).Forceable [] pending node)
    (hguard : ∀ target ∈ (schema.scope thunks strictness).references,
      target ∈ followable ↔ (target, path) ∉ guard)
    (hpaths : ∀ key ∈ guard, key.2 <:+ path) :
    (schema.scope thunks strictness).Ends true ⟨guard, path, node, value⟩
      ((schema.scope thunks strictness).checkAt followable pending node value) := by
  induction followable, pending, node, value using
    Scope.checkAt.induct (schema.scope thunks strictness) generalizing path guard with
  | case1 followable pending value docs target hnone =>
    rw [Scope.checkAt_unresolved hnone]
    exact .of_step fun _ => Scope.step_unresolved hnone
  | case2 followable pending value docs target body hbody htarget _ ih =>
    have hreference : target ∈ (schema.scope thunks strictness).references :=
      hnode.mem_references (List.mem_singleton_self target)
    have hnew := (hguard target hreference).mp htarget
    rw [Scope.checkAt_followed hbody htarget]
    refine .of_call (ih _ _ (.definition (Entries.mem_of_find? hbody)) (fun _ _ => rfl)
      (fun other hother => ?_) ?_) fun _ => Scope.step_followed hbody hnew
    · simp [Check.except, hguard other hother, and_comm]
    · exact List.forall_mem_cons.mpr ⟨List.suffix_rfl, hpaths⟩
  | case3 followable pending value docs target body hbody hnot =>
    have hreference : target ∈ (schema.scope thunks strictness).references :=
      hnode.mem_references (List.mem_singleton_self target)
    have hmem : (target, path) ∈ guard := by
      by_contra hnew
      exact hnot ((hguard target hreference).mpr hnew)
    rw [Scope.checkAt_circular hbody hnot]
    exact .of_step fun _ => Scope.step_circular hbody hmem
  | case4 followable pending value =>
    rw [Scope.checkAt_noThunk]
    exact .of_step fun _ => Scope.step_noThunk
  | case5 followable pending value thunk body hbody _ ih =>
    have hfound := hforce.find?.symm.trans hbody
    have hcycle := hschema _ hnode _ (List.mem_singleton_self _)
    rw [Scope.checkAt_forced hbody]
    exact .of_call (ih _ _ (hnode.forced hfound) (hforce.forced hfound hcycle) hguard hpaths)
      fun _ => Scope.step_forced hfound
  | case6 followable pending value thunk hnone =>
    have hfind : Entries.find? thunk thunks = none := hforce.find?.symm.trans hnone
    rw [Scope.checkAt_unforced hnone, if_neg (by simp [hfind])]
    exact .of_step fun _ => Scope.step_unforced hfind
  | case7 followable pending value docs how members ih =>
    rw [Scope.checkAt_combined]
    exact .of_calls members (fun member hmember =>
      ih member hmember _ _ (hnode.child hmember) (hforce.member hmember) hguard hpaths)
      fun _ => Scope.step_combined
  | case8 followable pending value node href hnone hsome hcombined ih =>
    have hown := node.handsOn_eq_false href hnone hsome hcombined
    rw [Scope.checkAt_own hown]
    refine .of_calls (Check.parts node value) (fun part hpart => ih part hpart _ _
      (hnode.next (.part hpart)) (fun _ _ => rfl)
      (fun target htarget => iff_of_true htarget fun hmem => ?_)
      fun key hkey => (hpaths key hkey).trans (List.suffix_cons _ _)) fun _ => Scope.step_own hown
    have hlength := (hpaths _ hmem).length_le
    rw [List.length_cons] at hlength
    omega

/-- Where no deferred node has a body the call of the root ends with the trace of the check. -/
theorem ends_check (schema : Schema) (strictness : Strictness) (value : Json) :
    (schema.scope [] strictness).Ends true ⟨[], [], schema.root, value⟩
      (schema.check [] strictness value) := by
  refine ends_checkAt (fun node _ link _ hcycle => ?_) _ _ _ _ _ _ .root (fun _ _ => rfl)
    (fun _ htarget => iff_of_true htarget List.not_mem_nil) (by simp)
  obtain ⟨last, ⟨body, hbody, -⟩, -⟩ := Relation.TransGen.head'_iff.mp hcycle
  cases link <;> simp [Link.body?, Definitions.resolve?] at hbody

/-- What the trace of a run shows, where the run is deep enough, the trace of the check shows. -/
theorem view_check_of_run {α : Type} {view : Trace → α} {shown : α} {value : Json} (depth : Nat)
    (h : ((schema.scope [] strictness).run true depth [] schema.root value []).map
      (fun found => view found.1) = some shown) :
    view (schema.check [] strictness value) = shown := by
  obtain ⟨⟨trace, guard⟩, hrun, rfl⟩ := Option.map_eq_some_iff.mp h
  obtain ⟨enough, hcheck⟩ := schema.ends_check strictness value
  have hdeep := Scope.run_within _ true (le_max_left depth enough) [] schema.root value [] _ hrun
  have hagain := hcheck (max depth enough) (le_max_right _ _)
  exact congrArg (fun found => view found.1) (Option.some_inj.mp (hagain.symm.trans hdeep))

/-- The recursion of a check ends for all definitions. No sequence of calls is endless; where no deferred
node has a body every call ends, also with references already being resolved; and the call of the root
ends with the trace of the check. -/
theorem run_ends (schema : Schema) (strictness : Strictness) :
    (WellFounded fun next call => Check.Call.Makes schema.definitions call next) ∧
      (∀ call, ∃ trace, (schema.scope [] strictness).Ends true call trace) ∧
      ∀ value, (schema.scope [] strictness).Ends true ⟨[], [], schema.root, value⟩
        (schema.check [] strictness value) :=
  ⟨Check.Call.wellFounded_makes _, Scope.exists_ends rfl, schema.ends_check strictness⟩

end Schema

end JsonSchema
