import JsonSchema.Proofs.Validation.Faults
import JsonSchema.Proofs.Validation.Recursion
import Mathlib.Data.List.Basic

/-!
# Stricter checks

Checking more strictly adds problems to those that are reported anyway, and takes none away. The added
ones can stand anywhere, and one inside the member of a combination can turn a member that accepts into
one that rejects. So two checks of one value are compared event by event: what happens in the lax check
happens in the strict one too. A member that accepts ends the lax check of an `anyOf` early, and the
strict check then only has more members to go through, where it may come to the fault of a pattern. Only
`oneOf` counts against members that accept, so it is left out.
-/

namespace JsonSchema

/-- One choice is at most as strict as another where the other one has all of its options. -/
instance : LE Strictness where
  le lax strict := lax.unresolvedFails ≤ strict.unresolvedFails ∧
    lax.countsProperties ≤ strict.countsProperties

namespace Trace

/-- Whatever happens in one trace happens in another one too, in the same order. Notes do not count. -/
def Within (lax strict : Trace) : Prop := lax.bare.Sublist strict.bare

variable {lax strict lax' strict' : Trace}

/-- Every trace is within itself. -/
theorem Within.refl (trace : Trace) : trace.Within trace := List.Sublist.refl _

/-- Traces in a row are within others in a row. -/
theorem Within.append (h : lax.Within strict) (h' : lax'.Within strict') :
    (lax ++ lax').Within (strict ++ strict') := by
  simpa [Within] using List.Sublist.append h h'

/-- A segment in front of both changes nothing. -/
theorem Within.under (h : lax.Within strict) (segment : String) :
    (lax.under segment).Within (strict.under segment) := by
  rw [Within, bare_under, bare_under]
  exact List.Sublist.map (Event.under segment) h

/-- Neither does silence. -/
theorem Within.silent (h : lax.Within strict) : lax.silent.Within strict.silent := by
  rw [Within, bare_silent, bare_silent]
  exact List.Sublist.filter Event.isSilent h

/-- Traces in a row are within others where each one is. -/
theorem Within.flatMap {α : Type} {items : List α} {lax strict : α → Trace}
    (h : ∀ item ∈ items, (lax item).Within (strict item)) :
    Within (items.flatMap lax) (items.flatMap strict) := by
  induction items with
  | nil => exact .refl _
  | cons item rest ih =>
    rw [List.flatMap_cons, List.flatMap_cons]
    exact (h item List.mem_cons_self).append
      (ih fun other hother => h other (List.mem_cons_of_mem _ hother))

/-- Violations stay violations, in the same order. -/
theorem Within.violations (h : lax.Within strict) : lax.violations.Sublist strict.violations := by
  rw [← violations_bare lax, ← violations_bare strict]
  exact List.Sublist.filterMap Event.violation? h

/-- A fault of the lax check is met in the strict one. -/
theorem Within.meets {fault : Fault} (h : lax.Within strict) (hmeets : lax.Meets fault) :
    strict.Meets fault :=
  List.mem_of_mem_filter (List.Sublist.subset h (List.mem_filter.mpr ⟨hmeets, rfl⟩))

/-- What the strict check accepts the lax one accepts. -/
theorem Within.accepts (h : lax.Within strict) (haccepts : strict.accepts = true) :
    lax.accepts = true := by
  rw [accepts_iff] at haccepts ⊢
  exact List.sublist_nil.mp (haccepts ▸ h.violations)

/-- Where the strict check ends with violations the lax one ends with some of them. -/
theorem Within.result (h : lax.Within strict) {found : List Violation}
    (hresult : strict.result = .ok found) :
    ∃ fewer, lax.result = .ok fewer ∧ fewer.Sublist found := by
  obtain ⟨hnone, rfl⟩ := result_eq_ok_iff.mp hresult
  exact ⟨_, result_eq_ok fun fault hmeets => hnone fault (h.meets hmeets), h.violations⟩

end Trace

namespace Check

variable {lax strict : Strictness}

/-- A count of properties is only asked for in addition. -/
theorem within_ownTrace (h : lax ≤ strict) (node : Node) (value : Json) :
    (ownTrace lax node value).Within (ownTrace strict node value) := by
  cases node with
  | object docs properties count =>
    cases value with
    | object members =>
      refine (Trace.Within.refl _).append ?_
      cases hlax : lax.countsProperties with
      | false => exact List.nil_sublist _
      | true =>
        rw [h.2 hlax]
        exact .refl _
    | _ => exact .refl _
  | _ => cases value <;> exact .refl _

/-- A reference that is not resolved is only a problem in addition. -/
theorem within_unresolvedTrace {first second : Scope} (h : first.strictness ≤ second.strictness)
    (target : String) : (unresolvedTrace first target).Within (unresolvedTrace second target) := by
  unfold unresolvedTrace
  cases hlax : first.strictness.unresolvedFails with
  | false => exact List.nil_sublist _
  | true =>
    rw [h.1 hlax]
    exact .refl _

/-- An `anyOf` or `allOf` finds more where its members do. -/
theorem within_combine {how : Combination} (hhow : how ≠ .oneOf) {members : List Node}
    {lax strict : Node → Trace} (h : ∀ member ∈ members, (lax member).Within (strict member)) :
    (combine how (members.map fun member () => lax member)).Within
      (combine how (members.map fun member () => strict member)) := by
  cases how with
  | oneOf => exact absurd rfl hhow
  | allOf =>
    simp only [combine, allTrace, List.flatMap_map]
    refine .flatMap fun member hmember => (h member hmember).silent.append ?_
    cases hstrict : (strict member).accepts with
    | true =>
      rw [(h member hmember).accepts hstrict]
      exact .refl _
    | false => cases (lax member).accepts <;> simp [Trace.Within, Trace.problemIf]
  | anyOf =>
    change (anyTrace _).Within (anyTrace _)
    induction members with
    | nil => exact .refl _
    | cons member rest ih =>
      have hrest := ih fun other hother => h other (List.mem_cons_of_mem _ hother)
      have hmember := h member List.mem_cons_self
      refine hmember.silent.append ?_
      cases hstrict : (strict member).accepts with
      | true =>
        rw [hmember.accepts hstrict]
        exact .refl _
      | false =>
        -- The lax check may be done here, but the strict one goes on.
        cases (lax member).accepts with
        | true => exact List.nil_sublist _
        | false => exact hrest

end Check

namespace Schema

variable {schema : Schema} {lax strict : Strictness}

/-- Whatever happens in a check happens in a stricter one, whatever was followed before. -/
theorem within_checkAt (hknown : ∀ node, schema.Contains [] node → node.Known [])
    (hone : ∀ docs members, ¬ schema.Contains [] (.combined docs .oneOf members))
    (h : lax ≤ strict) (followable : List String) (pending : Thunks) (node : Node) (value : Json)
    (hnode : schema.Contains [] node) :
    ((schema.scope [] lax).checkAt followable pending node value).Within
      ((schema.scope [] strict).checkAt followable pending node value) := by
  -- No flag has a say in what is followed, so both checks use up the same account.
  induction followable, pending, node, value using Scope.checkAt.induct (schema.scope [] lax) with
  | case1 followable pending value docs target hnone =>
    have hstrict : (schema.scope [] strict).definitions.resolve? target = none := hnone
    rw [Scope.checkAt_unresolved hnone, Scope.checkAt_unresolved hstrict]
    exact Check.within_unresolvedTrace h target
  | case2 followable pending value docs target body hbody htarget _ ih =>
    have hstrict : (schema.scope [] strict).definitions.resolve? target = some body := hbody
    rw [Scope.checkAt_followed hbody htarget, Scope.checkAt_followed hstrict htarget]
    exact ih (.definition (Entries.mem_of_find? hbody))
  | case3 followable pending value docs target body hbody hnot =>
    have hstrict : (schema.scope [] strict).definitions.resolve? target = some body := hbody
    rw [Scope.checkAt_circular hbody hnot, Scope.checkAt_circular hstrict hnot]
    exact .refl _
  | case4 => exact absurd (hknown _ hnode) (by simp [Node.Known])
  | case5 => exact absurd (hknown _ hnode) (by simp [Node.Known])
  | case6 => exact absurd (hknown _ hnode) (by simp [Node.Known])
  | case7 followable pending value docs how members ih =>
    rw [Scope.checkAt_combined, Scope.checkAt_combined]
    exact Check.within_combine (fun hhow => hone docs members (hhow ▸ hnode))
      fun member hmember => ih member hmember (hnode.child hmember)
  | case8 followable pending value node href hnone hsome hcombined ih =>
    have hown := node.handsOn_eq_false href hnone hsome hcombined
    rw [Scope.checkAt_own hown, Scope.checkAt_own hown]
    exact (Check.within_ownTrace h node value).append
      (.flatMap fun part hpart => (ih part hpart (hnode.next (.part hpart))).under part.segment)

/-- A stricter check reports all that a check reports, in the same order, and maybe more, unless it ends
with the fault of a pattern in the schema. -/
theorem check_sublist_of_le (schema : Schema)
    (hknown : ∀ node, schema.Contains [] node → node.Known [])
    (hone : ∀ docs members, ¬ schema.Contains [] (.combined docs .oneOf members))
    (lax strict : Strictness) (h : lax ≤ strict) (value : Json) :
    (∃ fewer found, (schema.check [] lax value).result = .ok fewer ∧
        (schema.check [] strict value).result = .ok found ∧ fewer.Sublist found) ∨
      ∃ node pattern fault, schema.Contains [] node ∧ node.pattern? = some pattern ∧
        Pattern.fault? pattern = some fault ∧
        (schema.check [] strict value).result = .error fault := by
  cases hstrict : (schema.check [] strict value).result with
  | ok found =>
    obtain ⟨fewer, hlax, hsublist⟩ := (within_checkAt hknown hone h _ _ _ value .root).result hstrict
    exact .inl ⟨fewer, found, hlax, rfl, hsublist⟩
  | error fault =>
    obtain ⟨node, pattern, hnode, hpattern, hrefused⟩ :=
      exists_pattern_of_check_eq_error hknown hstrict
    exact .inr ⟨node, pattern, fault, hnode, hpattern, hrefused, rfl⟩

/-- A pair of a choice, whose members an object with one property only gets through laxly, and a
reference to a definition that refers to itself. -/
def tangled : Schema where
  root := .tuple {} [.combined {} .anyOf [.object {} [] ⟨none, some 0⟩, .reference {} "loop",
    .object {} [⟨"a", .reference {} "missing", true⟩] {}], .reference {} "loop"] none {}
  definitions := [("loop", .reference {} "loop")]

/-- A value whose first part has one property. -/
def tangle : Json := .array [.object [("a", .null)], .null]

/-- The strict check of a tangle adds a violation before the circle that both checks report. -/
theorem check_sublist_of_le_tangled :
    (tangled.check [] {} tangle).result = .ok [⟨["1"], .misfit (.circular "loop")⟩] ∧
    (tangled.check [] ⟨true, true⟩ tangle).result =
      .ok [⟨["0"], .tooFewMatches⟩, ⟨["1"], .misfit (.circular "loop")⟩] ∧
    ((∃ fewer found, (tangled.check [] {} tangle).result = .ok fewer ∧
        (tangled.check [] ⟨true, true⟩ tangle).result = .ok found ∧ fewer.Sublist found) ∨
      ∃ node pattern fault, tangled.Contains [] node ∧ node.pattern? = some pattern ∧
        Pattern.fault? pattern = some fault ∧
        (tangled.check [] ⟨true, true⟩ tangle).result = .error fault) := by
  have hmem : ∀ node, tangled.Contains [] node → node ∈ [tangled.root,
      .combined {} .anyOf [.object {} [] ⟨none, some 0⟩, .reference {} "loop",
        .object {} [⟨"a", .reference {} "missing", true⟩] {}],
      .object {} [] ⟨none, some 0⟩, .object {} [⟨"a", .reference {} "missing", true⟩] {},
      .reference {} "missing", .reference {} "loop"] :=
    fun node hnode => hnode.mem_of_closed (by simp) (by simp [tangled]) (by simp)
      (by simp [tangled, Node.children])
  refine ⟨view_check_of_run 4 (by decide +kernel), view_check_of_run 4 (by decide +kernel),
    check_sublist_of_le tangled (fun node hnode => ?_) (fun docs members hnode => ?_) {} ⟨true, true⟩
      ⟨by decide, by decide⟩ _⟩
  · have hcases := hmem node hnode
    simp only [List.mem_cons, List.not_mem_nil, or_false] at hcases
    rcases hcases with rfl | rfl | rfl | rfl | rfl | rfl <;> trivial
  · simpa [tangled] using hmem _ hnode

/-- A choice whose first member lets every object through unless properties are counted, and whose second
member asks a property for a pattern with options that clash. -/
def veiled : Schema where
  root := .combined {} .anyOf [.object {} [] ⟨none, some 0⟩,
    .object {} [⟨"a", .string {} { pattern := some "(?a)(?u)" }, false⟩] {}]

/-- A stricter check may end with a fault where a lax one finds nothing. -/
theorem check_veiled_eq_error :
    (∀ node, veiled.Contains [] node → node.Known []) ∧
    (∀ docs members, ¬ veiled.Contains [] (.combined docs .oneOf members)) ∧
    (∀ node pattern, veiled.Contains [] node → node.pattern? = some pattern →
      Pattern.fault? pattern ≠ some .repetitionLimit) ∧
    ({} : Strictness) ≤ ⟨false, true⟩ ∧
    (veiled.check [] {} (.object [("a", .string "")])).result = .ok [] ∧
    (veiled.check [] ⟨false, true⟩ (.object [("a", .string "")])).result = .error .repertoireClash := by
  have hmem : ∀ node, veiled.Contains [] node → node ∈ [veiled.root, .object {} [] ⟨none, some 0⟩,
      .object {} [⟨"a", .string {} { pattern := some "(?a)(?u)" }, false⟩] {},
      .string {} { pattern := some "(?a)(?u)" }] :=
    fun node hnode => hnode.mem_of_closed (by simp) (by simp [veiled]) (by simp)
      (by simp [veiled, Node.children])
  simp only [List.mem_cons, List.not_mem_nil, or_false] at hmem
  refine ⟨fun node hnode => ?_, fun docs members hnode => ?_, fun node pattern hnode hpattern => ?_,
    ⟨by decide, by decide⟩, view_check_of_run 3 (by decide +kernel),
    view_check_of_run 3 (by decide +kernel)⟩
  · rcases hmem node hnode with rfl | rfl | rfl | rfl <;> trivial
  · simpa [veiled] using hmem _ hnode
  · rcases hmem node hnode with rfl | rfl | rfl | rfl
    · cases hpattern
    · cases hpattern
    · cases hpattern
    · obtain rfl := Option.some.inj hpattern
      have hclash : Pattern.fault? "(?a)(?u)" = some .repertoireClash := by decide +kernel
      simp [hclash]

end Schema

end JsonSchema
