import JsonSchema.Proofs.Document.Meaning
import JsonSchema.Proofs.Validation.Recursion
import JsonSchema.Proofs.Validation.Traces
import JsonSchema.Schema.Assembly
import Mathlib.Data.List.Basic
import Mathlib.Data.List.TakeWhile

/-!
# Schemas that refer to themselves

A recursive schema is a reference to the definition that it adds, whatever the definitions of its body are.
The body is built from a reference as well, for which a name that starts with a number sign counts as a
path. Without a slash such a path is read as the name again. With one it is not: then the reference in the
body speaks of another name, and is left to what the body defines.

A reference that resolves is followed wherever it is met, or reported as circular. No check says of it
that it is unresolved.
-/

namespace JsonSchema

/-- An event says that a reference was not resolved. -/
def Event.Misses (target : String) : Event → Prop
  | .violation found => found.problem = .misfit (.unresolved target)
  | .note (.undefined other _) => other = target
  | .note (.unchecked other) => other = target
  | _ => False

namespace Check

variable {target : String}

/-- What is asked of a value itself says nothing of references. -/
theorem Own.not_misses {pattern? : Option String} {limits : List Int} {event : Event}
    (h : Own pattern? limits event) : ¬ event.Misses target := by
  cases h with
  | problem hfound =>
    rintro rfl
    exact hfound
  | complaint hpattern hread => simp [Event.Misses, Trace.problem]
  | badPattern pattern wording => exact id
  | fault met => exact id

/-- Under a segment an event says the same of references. -/
theorem misses_under {segment : String} {event : Event} :
    (event.under segment).Misses target ↔ event.Misses target := by
  cases event <;> exact Iff.rfl

end Check

open Check

/-- A reference that is said to be unresolved in a check has no definition, unless the building of a
deferred node notes it. -/
theorem Scope.resolve?_eq_none_of_misses (scope : Scope) {target : String}
    (hthunks : ∀ entry ∈ scope.thunks, ∀ made ∈ entry.2.notes, ¬ (Event.note made).Misses target)
    (followable : List String) (pending : Thunks) (hpending : pending ⊆ scope.thunks)
    (node : Node) (value : Json) {event : Event}
    (hevent : event ∈ scope.checkAt followable pending node value) (hmisses : event.Misses target) :
    scope.definitions.resolve? target = none := by
  induction followable, pending, node, value using Scope.checkAt.induct scope generalizing event with
  | case1 followable pending value docs other hnone =>
    rw [checkAt_unresolved hnone, unresolvedTrace] at hevent
    have hother : other = target := by
      rcases List.mem_cons.mp hevent with rfl | hevent
      · exact hmisses
      · split at hevent
        · obtain rfl := List.mem_singleton.mp hevent
          simpa [Event.Misses, Trace.problem] using hmisses
        · obtain rfl := List.mem_singleton.mp hevent
          exact hmisses
    exact hother ▸ hnone
  | case2 followable pending value docs other body hbody htarget _ ih =>
    rw [checkAt_followed hbody htarget] at hevent
    exact ih (List.Subset.refl _) hevent hmisses
  | case3 followable pending value docs other body hbody hnot =>
    rw [checkAt_circular hbody hnot] at hevent
    obtain rfl := List.mem_singleton.mp hevent
    simp [Event.Misses, Trace.problem] at hmisses
  | case4 followable pending value =>
    rw [checkAt_noThunk] at hevent
    obtain rfl := List.mem_singleton.mp hevent
    exact hmisses.elim
  | case5 followable pending value thunk body hbody _ ih =>
    rw [checkAt_forced hbody] at hevent
    rcases List.mem_append.mp hevent with hnote | hevent
    · obtain ⟨made, hmade, rfl⟩ := List.mem_map.mp hnote
      exact absurd hmisses (hthunks _ (hpending (Entries.mem_of_find? hbody)) made hmade)
    · exact ih (fun entry hentry => hpending (List.mem_filter.mp hentry).1) hevent hmisses
  | case6 followable pending value thunk hnone =>
    rw [checkAt_unforced hnone] at hevent
    obtain rfl := List.mem_singleton.mp hevent
    exact hmisses.elim
  | case7 followable pending value docs how members ih =>
    rw [checkAt_combined] at hevent
    rcases mem_combine hevent with ⟨member, hmember, hevent⟩ | hown
    · obtain ⟨node, hnode, rfl⟩ := List.mem_map.mp hmember
      exact ih node hnode hpending (List.mem_filter.mp hevent).1 hmisses
    · exact absurd hmisses hown.not_misses
  | case8 followable pending value node href hnone hsome hcombined ih =>
    rw [checkAt_own (node.handsOn_eq_false href hnone hsome hcombined)] at hevent
    rcases List.mem_append.mp hevent with hown | hparts
    · exact absurd hmisses (own_ownTrace _ _ _ _ hown).not_misses
    · obtain ⟨part, hpart, hunder⟩ := List.mem_flatMap.mp hparts
      obtain ⟨inner, hinner, rfl⟩ := List.mem_map.mp hunder
      exact ih part hpart (List.Subset.refl _) hinner (misses_under.mp hmisses)

namespace Definitions

/-- A reference string leads to a body: it resolves to it, a check of a reference with it is a check of the
body or reports a circle, and no check says of it that it is unresolved. -/
structure LeadsTo (definitions : Definitions) (target : String) (body : Node) : Prop where
  resolves : definitions.resolve? target = some body
  followed : ∀ (scope : Scope) followable pending docs value, scope.definitions = definitions →
    scope.checkAt followable pending (.reference docs target) value =
      if target ∈ followable then scope.checkAt (except followable target) scope.thunks body value
      else [Trace.problem (.misfit (.circular target))]
  found : ∀ thunks strictness (root : Node) value,
    (∀ entry ∈ thunks, ∀ made ∈ entry.2.notes, ¬ (Event.note made).Misses target) →
    ∀ event ∈ root.check definitions thunks strictness value, ¬ event.Misses target

variable {definitions : Definitions} {target : String} {body : Node}

/-- A reference string leads to the body that it resolves to. -/
theorem leadsTo_of_resolve? (h : definitions.resolve? target = some body) :
    definitions.LeadsTo target body where
  resolves := h
  followed := by
    rintro scope followable pending docs value rfl
    split
    · exact Scope.checkAt_followed h ‹_›
    · exact Scope.checkAt_circular h ‹_›
  found thunks strictness root value hthunks event hevent hmisses := by
    have hnone := (Scope.ofNode definitions thunks strictness root).resolve?_eq_none_of_misses hthunks
      _ _ (List.Subset.refl _) root value hevent hmisses
    exact absurd (h.symm.trans hnone) (by simp)

/-- A name that is taken for a path with more than one segment. -/
def IsPath (name : String) : Prop := name.toList.head? = some '#' ∧ '/' ∈ name.toList

/-- Whether a name is a path is decided by its characters. -/
instance (name : String) : Decidable (IsPath name) := inferInstanceAs (Decidable (_ ∧ _))

/-- The last segment of a text without slashes is the text. -/
theorem lastSegment_of_not_mem {text : List Char} (h : '/' ∉ text) : lastSegment text = text := by
  have hall : ∀ c ∈ text.reverse, decide (c ≠ '/') = true := fun c hc =>
    decide_eq_true fun heq => h (heq ▸ List.mem_reverse.mp hc)
  rw [lastSegment, List.takeWhile_eq_self_iff.mpr hall, List.reverse_reverse]

/-- The last segment has no slash. -/
theorem not_mem_lastSegment (text : List Char) : '/' ∉ lastSegment text := fun h => by
  simpa using List.mem_takeWhile_imp (List.mem_reverse.mp h)

/-- A path is read as itself exactly where it has no slash. -/
theorem nameOf_eq_self_iff (name : String) : nameOf name = name ↔ '/' ∉ name.toList := by
  unfold nameOf
  split
  · rename_i rest hrest
    obtain ⟨start, hstart, hprefix⟩ := List.exists_of_findSome?_eq_some hrest
    obtain hchars : start.toList ++ rest = name.toList := List.isPrefixOf?_eq_some_iff_append_eq.mp hprefix
    have hslash : '/' ∈ start.toList := by
      rcases List.mem_pair.mp hstart with rfl | rfl <;> decide
    refine iff_of_false (fun heq => ?_) (not_not.mpr (hchars ▸ List.mem_append_left _ hslash))
    have hlength := congrArg List.length hchars
    rw [← heq, String.toList_ofList, List.length_append] at hlength
    exact absurd (List.length_pos_of_mem hslash) (by omega)
  · constructor
    · intro heq
      rw [← heq, String.toList_ofList]
      exact not_mem_lastSegment _
    · intro h
      rw [lastSegment_of_not_mem h, String.ofList_toList]

/-- A name that leads back to itself is found last of all that is put together. -/
theorem resolve?_merge_concat (definitions : Definitions) (name target : String) (body : Node) :
    (merge [definitions, [(name, body)]]).resolve? target =
      if name = nameOf target then some body else (merge [definitions]).resolve? target := by
  simp only [resolve?, merge, Entries.find?_ofList, List.flatten_cons, List.flatten_nil, List.append_nil,
    List.reverse_append, List.reverse_singleton, List.singleton_append, Entries.find?_cons]

end Definitions

namespace Schema

open Definitions

/-- The root of a recursive schema leads to the body that was built, and so does the reference that the
body was built from, unless the name counts as a path with more than one segment. In that case the
reference is resolved as in the definitions that the body came with. -/
theorem leadsTo_recursive (name : String) (build : Schema → Noted Schema) :
    let body := (build (reference {} name)).value
    let schema := (recursive name build).value
    ∃ target, reference {} name = ⟨.reference {} target, []⟩ ∧
      schema.root = .reference {} (referenceTo name) ∧
      schema.definitions.LeadsTo (referenceTo name) body.root ∧
      (¬ IsPath name → schema.definitions.LeadsTo target body.root) ∧
      (IsPath name →
        schema.definitions.resolve? target = (merge [body.definitions]).resolve? target) := by
  intro body schema
  have hresolve : ∀ target, schema.definitions.resolve? target =
      if name = nameOf target then some body.root else (merge [body.definitions]).resolve? target :=
    fun target => resolve?_merge_concat body.definitions name target body.root
  have hleads : ∀ target, nameOf target = name → schema.definitions.LeadsTo target body.root :=
    fun target htarget => leadsTo_of_resolve? (by rw [hresolve, if_pos htarget.symm])
  refine ⟨if name.toList.head? = some '#' then name else referenceTo name, rfl, rfl,
    hleads _ (nameOf_referenceTo name), fun hpath => hleads _ ?_, fun ⟨hsign, hslash⟩ => ?_⟩
  · split
    · exact (nameOf_eq_self_iff name).mpr fun hslash => hpath ⟨‹_›, hslash⟩
    · exact nameOf_referenceTo name
  · have hother : name ≠ nameOf name := fun heq => (nameOf_eq_self_iff name).mp heq.symm hslash
    rw [if_pos hsign, hresolve, if_neg hother]

/-- Arrays of what is given. -/
def nest (self : Schema) : Noted Schema := array {} (some self) {}

/-- Arrays of what is given, with a definition of their own. -/
def nestBeside (name : String) (self : Schema) : Noted Schema :=
  ⟨⟨.array {} (some self.root) {}, [(name, .null {})]⟩, []⟩

/-- A name with a number sign is read as itself, and the definition of the same name that the body came
with is replaced. -/
theorem leadsTo_recursive_nested : ¬ IsPath "#nest" ∧
    (recursive "#nest" (nestBeside "#nest")).value.definitions.LeadsTo "#nest"
      (.array {} (some (.reference {} "#nest")) {}) ∧
    ((recursive "#nest" (nestBeside "#nest")).value.check [] {} (.array [.array [], .null])).result =
      .ok [⟨["1"], .misfit (.kind .array .null)⟩] := by
  have hpath : ¬ IsPath "#nest" := by decide
  obtain ⟨target, htarget, -, -, hleads, -⟩ := leadsTo_recursive "#nest" (nestBeside "#nest")
  obtain rfl : "#nest" = target := by
    simpa [reference] using htarget
  exact ⟨hpath, hleads hpath, view_check_of_run 4 (by decide +kernel)⟩

/-- A name that is a path is not the name that the reference in the body speaks of: the reference is not
resolved, and what stands under it is accepted without a check. -/
theorem not_resolves_recursive_path :
    (¬ ∀ name build target, reference {} name = ⟨.reference {} target, []⟩ →
      (recursive name build).value.definitions.resolve? target =
        some (build (reference {} name)).value.root) ∧
    ((recursive "#/definitions/x" nest).value.check [] {} (.array [.number (.int 5)])).result = .ok [] ∧
    ((recursive "#/definitions/x" nest).value.check [] {} (.array [.number (.int 5)])).notes =
      [.undefined "#/definitions/x" 1, .unchecked "#/definitions/x"] := by
  refine ⟨fun h => ?_, view_check_of_run 3 (by decide +kernel),
    view_check_of_run 3 (by decide +kernel)⟩
  have hnone : (recursive "#/definitions/x" nest).value.definitions.resolve? "#/definitions/x" = none := by
    decide +kernel
  exact absurd ((h "#/definitions/x" nest "#/definitions/x" rfl).symm.trans hnone) (by simp)

end Schema

end JsonSchema
