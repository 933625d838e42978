import JsonSchema.Proofs.Validation.Faults
import JsonSchema.Proofs.Validation.Inlining
import JsonSchema.Proofs.Validation.Recursion
import JsonSchema.Proofs.Validation.Reordering
import Mathlib.Data.List.Forall2

/-!
# Schemas with their parts in another order

The members of a combination are counted, definitions are looked up by their names, and each declared
property is checked for itself. So a check finds the same when members and definitions stand in another
order, wherever in the schema and with circular references too, and it finds the same in another order
when declared properties do. What was followed before does not tell the orders apart, because each member
is tried with the same references left to follow.

An `anyOf` tries its members only up to the first that accepts the value. A pattern that ends a check with
a fault may stand in a member that is tried in one order only, so both checks have to end without a fault
for their findings to be compared. They do if no pattern of the schema is at fault.
-/

namespace JsonSchema

section Arranging

variable {α β : Type} {moving : Bool} {first second third rest others : List α}

/-- Lists of the same entries, and in the same order too unless entries may move. -/
def Arranged (moving : Bool) (first second : List α) : Prop :=
  first.Perm second ∧ (moving = false → first = second)

/-- Equal lists are arranged either way. -/
theorem Arranged.of_eq (h : first = second) : Arranged moving first second :=
  ⟨.of_eq h, fun _ => h⟩

/-- Arrangements can be made one after the other. -/
theorem Arranged.trans (h : Arranged moving first second) (h' : Arranged moving second third) :
    Arranged moving first third :=
  ⟨h.1.trans h'.1, fun hmoving => (h.2 hmoving).trans (h'.2 hmoving)⟩

/-- Lists in a row are arranged one by one. -/
theorem Arranged.append (h : Arranged moving first second) (h' : Arranged moving rest others) :
    Arranged moving (first ++ rest) (second ++ others) :=
  ⟨h.1.append h'.1, fun hmoving => by rw [h.2 hmoving, h'.2 hmoving]⟩

/-- The images of the items are arranged as the items. -/
theorem Arranged.map (h : Arranged moving first second) (f : α → β) :
    Arranged moving (first.map f) (second.map f) :=
  ⟨h.1.map f, fun hmoving => by rw [h.2 hmoving]⟩

/-- So are the items that are kept. -/
theorem Arranged.filter (h : Arranged moving first second) (keep : α → Bool) :
    Arranged moving (first.filter keep) (second.filter keep) :=
  ⟨h.1.filter keep, fun hmoving => by rw [h.2 hmoving]⟩

/-- So are the images that there are. -/
theorem Arranged.filterMap (h : Arranged moving first second) (f : α → Option β) :
    Arranged moving (first.filterMap f) (second.filterMap f) :=
  ⟨h.1.filterMap f, fun hmoving => by rw [h.2 hmoving]⟩

/-- So are the rows that the items become. -/
theorem Arranged.flatMap (h : Arranged moving first second) (f : α → List β) :
    Arranged moving (first.flatMap f) (second.flatMap f) :=
  ⟨h.1.flatMap_right f, fun hmoving => by rw [h.2 hmoving]⟩

/-- Related entries that give arranged lists give arranged lists in a row. -/
theorem Arranged.flatMap_of_forall₂ {γ : Type} {items : List α} {images : List β} {f : α → List γ}
    {g : β → List γ}
    (h : List.Forall₂ (fun item image => Arranged moving (f item) (g image)) items images) :
    Arranged moving (items.flatMap f) (images.flatMap g) := by
  induction h with
  | nil => exact .of_eq rfl
  | cons hhead _ ih =>
    rw [List.flatMap_cons, List.flatMap_cons]
    exact hhead.append ih

end Arranging

/-- A node with the members of its combination in another order, or with its declared properties if these
may move. -/
inductive Node.Swapped (moving : Bool) : Node → Node → Prop
  | same (node : Node) : Swapped moving node node
  | members {docs : Documentation} {how : Combination} {members others : List Node}
      (h : members.Perm others) :
      Swapped moving (.combined docs how members) (.combined docs how others)
  | properties {docs : Documentation} {properties others : List (Property Node)} {count : Bounds Int}
      (hmoving : moving = true) (h : properties.Perm others) :
      Swapped moving (.object docs properties count) (.object docs others count)

/-- A node with the members of combinations anywhere in it in another order, or with declared properties if
these may move. -/
inductive Node.Reordered (moving : Bool) : Node → Node → Prop
  | inside {node node' : Node} {nodes : List Node}
      (hinside : List.Forall₂ (Reordered moving) node.children nodes)
      (h : Swapped moving (node.withChildren nodes) node') : Reordered moving node node'

/-- A schema with the members of combinations in another order, in the root and in the bodies of the
definitions, or with declared properties if these may move, and with the definitions in another order. -/
structure Schema.Reordered (moving : Bool) (schema schema' : Schema) : Prop where
  root : schema.root.Reordered moving schema'.root
  definitions : ∃ middle : Definitions, List.Forall₂ (fun entry other => entry.1 = other.1 ∧
    entry.2.Reordered moving other.2) schema.definitions middle ∧ middle.Perm schema'.definitions

namespace Node

variable {moving : Bool} {node node' : Node}

/-- The nodes inside a node with its parts in another order are the same ones. -/
theorem Swapped.children (h : node.Swapped moving node') : node.children.Perm node'.children := by
  cases h with
  | same => exact .refl _
  | members h => exact h
  | properties _ h => exact h.map _

/-- The nodes inside a reordered node are reordered nodes of those inside the node. -/
theorem Reordered.children (h : node.Reordered moving node') :
    ∃ nodes, List.Forall₂ (Reordered moving) node.children nodes ∧ nodes.Perm node'.children := by
  cases h with
  | @inside _ _ nodes hinside h =>
    refine ⟨nodes, hinside, ?_⟩
    simpa [children_withChildren hinside.length_eq.symm] using h.children

/-- A node is reordered where nothing moves. -/
theorem Reordered.refl (node : Node) : node.Reordered moving node := by
  induction node using Node.induction_children with
  | step node ih =>
    refine .inside (List.forall₂_same.mpr ih) ?_
    rw [withChildren_children]
    exact .same node

/-- Whether a node is a reference or a deferred node. -/
def isLink : Node → Bool
  | .reference .. | .deferred _ => true
  | _ => false

/-- References and deferred nodes stay as they are, and come from nothing else. -/
theorem Reordered.eq_of_isLink (h : node.Reordered moving node')
    (hlink : node.isLink = true ∨ node'.isLink = true) : node' = node := by
  cases h with
  | @inside _ _ nodes _ h =>
    generalize hmiddle : node.withChildren nodes = middle at h
    cases h with
    | same =>
      subst hmiddle
      cases node with
      | reference | deferred => rfl
      | _ => simp [withChildren, isLink] at hlink
    | members | properties =>
      cases node <;> cases hmiddle
      simp [isLink] at hlink

/-- A combination stays a combination of its kind, whose members are reordered and moved. -/
theorem Reordered.combined {docs : Documentation} {how : Combination} {members : List Node}
    (h : (Node.combined docs how members).Reordered moving node') :
    ∃ middle others, node' = .combined docs how others ∧
      List.Forall₂ (Reordered moving) members middle ∧ middle.Perm others := by
  cases h with
  | @inside _ _ nodes hinside h =>
    cases h with
    | same => exact ⟨nodes, nodes, rfl, hinside, .refl _⟩
    | members h => exact ⟨nodes, _, rfl, hinside, h⟩

/-- A node with its parts in another order asks for the same pattern and is of a known kind alike. -/
theorem Reordered.kind (h : node.Reordered moving node') :
    node'.handsOn = node.handsOn ∧ node'.pattern? = node.pattern? ∧
      ∀ thunks, node.Known thunks → node'.Known thunks := by
  cases h with
  | @inside _ _ nodes _ h =>
    generalize hmiddle : node.withChildren nodes = middle at h
    cases h with
    | same => subst hmiddle; cases node <;> exact ⟨rfl, rfl, fun _ hknown => hknown⟩
    | members | properties =>
      cases node <;> cases hmiddle
      exact ⟨rfl, rfl, fun _ hknown => hknown⟩

/-- The same references stand in related nodes, if a node and a related one are references alike and the
nodes inside are related, in whatever order and number. -/
theorem mem_references_congr {related : Node → Node → Prop} {target : String}
    (hreference : ∀ node node', related node node' →
      ∀ docs, node' = .reference docs target ↔ node = .reference docs target)
    (hchildren : ∀ node node', related node node' → ∃ nodes,
      List.Forall₂ related node.children nodes ∧ ∀ child, child ∈ nodes ↔ child ∈ node'.children)
    (h : related node node') : target ∈ node'.references ↔ target ∈ node.references := by
  induction node using Node.induction_children generalizing node' with
  | step node ih =>
    rw [mem_references_iff, mem_references_iff]
    obtain ⟨nodes, hinside, hsame⟩ := hchildren node node' h
    refine or_congr (exists_congr (hreference node node' h)) ⟨?_, ?_⟩
    · rintro ⟨child', hchild', htarget⟩
      obtain ⟨child, hchild, hrelated⟩ := exists_of_mem_right hinside ((hsame child').mpr hchild')
      exact ⟨child, hchild, (ih child hchild hrelated).mp htarget⟩
    · rintro ⟨child, hchild, htarget⟩
      obtain ⟨child', hchild', hrelated⟩ := exists_of_mem_left hinside hchild
      exact ⟨child', (hsame child').mp hchild', (ih child hchild hrelated).mpr htarget⟩

/-- The same references stand in a reordered node. -/
theorem Reordered.mem_references {target : String} (h : node.Reordered moving node') :
    target ∈ node'.references ↔ target ∈ node.references := by
  refine mem_references_congr (fun node node' h docs => ⟨?_, ?_⟩) (fun node node' h => ?_) h
  · rintro rfl
    exact (h.eq_of_isLink (.inr rfl)).symm
  · rintro rfl
    exact h.eq_of_isLink (.inl rfl)
  · obtain ⟨nodes, hinside, hperm⟩ := h.children
    exact ⟨nodes, hinside, fun child => hperm.mem_iff⟩

end Node

/-- A trace meets no fault. -/
def Trace.Clean (trace : Trace) : Prop := ∀ fault, ¬ trace.Meets fault

/-- The end of a trace without faults has none. -/
theorem Trace.Clean.right {first second : Trace} (h : (first ++ second).Clean) : second.Clean :=
  fun fault hmeets => h fault (Trace.meets_append.mpr (.inr hmeets))

namespace Check

variable {how : Combination} {members middle others : List Member}

/-- A member that is tried meets no fault in a combination that meets none. -/
theorem clean_of_tried {before after : List Member} {member : Member}
    (h : (combine how (before ++ member :: after)).Clean)
    (hbefore : how = .anyOf → ∀ earlier ∈ before, earlier.accepts = false) : (member ()).Clean :=
  fun fault hmeets => h fault (meets_combine_iff.mpr ⟨_, _, _, rfl, hbefore, hmeets⟩)

/-- All members meet no fault in a combination that meets none, if they are all tried. -/
theorem clean_of_mem (h : (combine how members).Clean)
    (hreject : how = .anyOf → ∀ member ∈ members, member.accepts = false) {member : Member}
    (hmember : member ∈ members) : (member ()).Clean := by
  obtain ⟨before, after, rfl⟩ := List.append_of_mem hmember
  exact clean_of_tried h fun hhow earlier hearlier =>
    hreject hhow earlier (List.mem_append_left _ hearlier)

/-- The first member that accepts meets no fault in a combination that meets none. -/
theorem exists_clean_accepting (h : (combine how members).Clean)
    (haccepts : ∃ member ∈ members, member.accepts = true) :
    ∃ member ∈ members, member.accepts = true ∧ (member ()).Clean := by
  obtain ⟨first, hfirst⟩ := Option.isSome_iff_exists.mp (List.find?_isSome.mpr haccepts)
  obtain ⟨haccepted, before, after, rfl, hbefore⟩ := List.find?_eq_some_iff_append.mp hfirst
  refine ⟨first, by simp, haccepted, clean_of_tried h fun _ earlier hearlier => ?_⟩
  simpa using hbefore earlier hearlier

/-- An `anyOf` that no member accepts for reports that. -/
theorem violations_anyTrace_of_reject (h : ∀ member ∈ members, member.accepts = false) :
    (anyTrace members).violations = [⟨[], .tooFewMatches⟩] := by
  induction members with
  | nil => rfl
  | cons member rest ih =>
    obtain ⟨hmember, hrest⟩ := List.forall_mem_cons.mp h
    simp [anyTrace, hmember, ih hrest]

/-- An `anyOf` reports whether some member accepts. -/
theorem violations_anyTrace_congr (h : (∃ member ∈ members, member.accepts = true) ↔
    ∃ member ∈ others, member.accepts = true) :
    (anyTrace members).violations = (anyTrace others).violations := by
  by_cases haccepts : ∃ member ∈ members, member.accepts = true
  · rw [violations_anyTrace.mpr haccepts, violations_anyTrace.mpr (h.mp haccepts)]
  · have hothers := mt h.mpr haccepts
    simp only [not_exists, not_and, Bool.not_eq_true] at haccepts hothers
    rw [violations_anyTrace_of_reject haccepts, violations_anyTrace_of_reject hothers]

/-- An `allOf` reports each member that rejects. -/
theorem violations_allTrace_eq (members : List Member) : (allTrace members).violations =
    List.replicate (members.countP fun member => !member.accepts) ⟨[], .tooFewMatches⟩ := by
  induction members with
  | nil => rfl
  | cons member rest ih =>
    rw [allTrace, List.flatMap_cons, Trace.violations_append, ← allTrace, ih]
    cases haccepts : (member ()).accepts <;> simp [haccepts, List.replicate_succ]

/-- A `oneOf` reports whether no member accepts or too many do. -/
theorem violations_oneTrace_congr (h : members.countP Member.accepts = others.countP Member.accepts) :
    (oneTrace members).violations = (oneTrace others).violations := by
  have hcount : ∀ members : List Member, (members.map fun member => member ()).countP Trace.accepts =
      members.countP Member.accepts := fun members => List.countP_map
  simp [oneTrace, hcount, h, Trace.violations_flatMap, List.flatMap_eq_nil_iff.mpr]

/-- Combinations without faults report the same where their members accept alike, in whatever order they
are. -/
theorem violations_combine_congr
    (h : List.Forall₂ (fun member other : Member => (member ()).Clean → (other ()).Clean →
      member.accepts = other.accepts) members middle) (hperm : middle.Perm others)
    (hclean : (combine how members).Clean) (hclean' : (combine how others).Clean) :
    (combine how members).violations = (combine how others).violations := by
  by_cases hany : how = .anyOf
  · subst hany
    -- Not all members are tried, but the first that accepts is, and all are where none accepts.
    refine violations_anyTrace_congr ⟨fun haccepts => ?_, fun haccepts => ?_⟩
    · by_contra hreject
      simp only [not_exists, not_and, Bool.not_eq_true] at hreject
      obtain ⟨member, hmember, hmemberAccepts, hmemberClean⟩ := exists_clean_accepting hclean haccepts
      obtain ⟨other, hother, halike⟩ := exists_of_mem_left h hmember
      have hother := hperm.mem_iff.mp hother
      have heq := halike hmemberClean (clean_of_mem hclean' (fun _ => hreject) hother)
      simp [hmemberAccepts, hreject other hother] at heq
    · by_contra hreject
      simp only [not_exists, not_and, Bool.not_eq_true] at hreject
      obtain ⟨other, hother, hotherAccepts, hotherClean⟩ := exists_clean_accepting hclean' haccepts
      obtain ⟨member, hmember, halike⟩ := exists_of_mem_right h (hperm.mem_iff.mpr hother)
      have heq := halike (clean_of_mem hclean (fun _ => hreject) hmember) hotherClean
      simp [hotherAccepts, hreject member hmember] at heq
  · have hmap : List.Forall₂ (· = ·) (members.map Member.accepts) (middle.map Member.accepts) := by
      refine List.forall₂_map_left_iff.mpr (List.forall₂_map_right_iff.mpr ?_)
      refine (forall₂_mem h).imp fun member other ⟨hmember, hother, halike⟩ => ?_
      exact halike (clean_of_mem hclean (absurd · hany) hmember)
        (clean_of_mem hclean' (absurd · hany) (hperm.mem_iff.mp hother))
    rw [List.forall₂_eq_eq_eq] at hmap
    have hcount : ∀ asked : Bool → Bool, members.countP (fun member => asked member.accepts) =
        others.countP fun member => asked member.accepts := fun asked => by
      simpa [List.countP_map, Function.comp_def, hperm.countP_eq] using congrArg (·.countP asked) hmap
    cases how with
    | oneOf => exact violations_oneTrace_congr (hcount id)
    | anyOf => exact absurd rfl hany
    | allOf =>
      change (allTrace members).violations = (allTrace others).violations
      rw [violations_allTrace_eq, violations_allTrace_eq, hcount]


/-- A node whose properties move asks the same of a value and of its parts, in another order. -/
theorem arranged_own {moving : Bool} {node node' : Node} (h : node.Swapped moving node')
    (hown : node.handsOn = false) (strictness : Strictness) (value : Json) :
    Arranged moving (ownTrace strictness node value).violations
        (ownTrace strictness node' value).violations ∧
      Arranged moving (parts node value) (parts node' value) := by
  cases h with
  | same => exact ⟨.of_eq rfl, .of_eq rfl⟩
  | members => cases hown
  | @properties docs properties others count hmoving hperm =>
    have hproperties : Arranged moving properties others := ⟨hperm, by simp [hmoving]⟩
    cases value with
    | object members =>
      refine ⟨?_, hproperties.filterMap _⟩
      simp only [ownTrace, missingTrace, Trace.violations_append]
      exact (((hproperties.filter _).map _).filterMap _).append (.of_eq rfl)
    | _ => exact ⟨.of_eq rfl, .of_eq rfl⟩

end Check

open Check

/-- Scopes in which references are resolved to reordered bodies, and to which the same references are
known. -/
structure Scope.Reordered (moving : Bool) (scope scope' : Scope) : Prop where
  resolves : ∀ target, Option.Rel (Node.Reordered moving) (scope.definitions.resolve? target)
    (scope'.definitions.resolve? target)
  thunks : scope'.thunks = scope.thunks
  strictness : scope'.strictness = scope.strictness
  references : ∀ target, target ∈ scope'.references ↔ target ∈ scope.references

section Scopes

variable {moving : Bool} {scope scope' : Scope} {target : String}

/-- A reference without a definition has none in the other scope. -/
theorem Scope.Reordered.resolves_none (h : scope.Reordered moving scope')
    (hnone : scope.definitions.resolve? target = none) : scope'.definitions.resolve? target = none :=
  eq_none_of_rel (hnone ▸ h.resolves target)

/-- A reference with a definition has a reordered one in the other scope. -/
theorem Scope.Reordered.exists_body {body : Node} (h : scope.Reordered moving scope')
    (hbody : scope.definitions.resolve? target = some body) :
    ∃ body', scope'.definitions.resolve? target = some body' ∧ body.Reordered moving body' :=
  exists_of_rel_some (hbody ▸ h.resolves target)

/-- Where the members of a combination find the same in another order, so does the combination. -/
theorem Scope.arranged_combined {followable followable' : List String} {pending : Thunks}
    {docs : Documentation} {how : Combination} {members : List Node} {node' : Node} {value : Json}
    (hnode : (Node.combined docs how members).Reordered moving node')
    (hclean : (scope.checkAt followable pending (.combined docs how members) value).Clean)
    (hclean' : (scope'.checkAt followable' pending node' value).Clean)
    (hmembers : ∀ member ∈ members, ∀ member', member.Reordered moving member' →
      (scope.checkAt followable pending member value).Clean →
      (scope'.checkAt followable' pending member' value).Clean →
      Arranged moving (scope.checkAt followable pending member value).violations
        (scope'.checkAt followable' pending member' value).violations) :
    Arranged moving (scope.checkAt followable pending (.combined docs how members) value).violations
      (scope'.checkAt followable' pending node' value).violations := by
  obtain ⟨middle, others, rfl, hinside, hperm⟩ := hnode.combined
  rw [Scope.checkAt_combined] at hclean ⊢
  rw [Scope.checkAt_combined] at hclean' ⊢
  refine .of_eq (violations_combine_congr ?_ (hperm.map _) hclean hclean')
  refine List.forall₂_map_left_iff.mpr (List.forall₂_map_right_iff.mpr ?_)
  refine (forall₂_mem hinside).imp fun member other hrelated hmemberClean hotherClean => ?_
  obtain ⟨hmember, -, hreordered⟩ := hrelated
  exact (hmembers member hmember other hreordered hmemberClean hotherClean).1.isEmpty_eq

/-- The parts of a value are met without a fault where the value is. -/
theorem Scope.clean_part {followable : List String} {pending : Thunks} {node : Node} {value : Json}
    (hown : node.handsOn = false) (hclean : (scope.checkAt followable pending node value).Clean)
    {part : Part} (hpart : part ∈ parts node value) : (scope.check part.node part.value).Clean := by
  rw [Scope.checkAt_own hown] at hclean
  exact fun fault hmeets => hclean.right fault
    (Trace.meets_flatMap.mpr ⟨part, hpart, Trace.meets_under.mpr hmeets⟩)

/-- Where the parts of a value find the same in another order, so does the value. -/
theorem Scope.Reordered.arranged_parts (hscope : scope.Reordered moving scope')
    {followable followable' : List String} {pending : Thunks} {node node' : Node} {value : Json}
    (hown : node.handsOn = false) (hnode : node.Reordered moving node')
    (hclean : (scope.checkAt followable pending node value).Clean)
    (hclean' : (scope'.checkAt followable' pending node' value).Clean)
    (hparts : ∀ part ∈ parts node value, ∀ node', part.node.Reordered moving node' →
      (scope.check part.node part.value).Clean → (scope'.check node' part.value).Clean →
      Arranged moving (scope.check part.node part.value).violations
        (scope'.check node' part.value).violations) :
    Arranged moving (scope.checkAt followable pending node value).violations
      (scope'.checkAt followable' pending node' value).violations := by
  have hown' : node'.handsOn = false := hnode.kind.1.trans hown
  rw [Scope.checkAt_own hown, Scope.checkAt_own hown', hscope.strictness, Trace.violations_append,
    Trace.violations_append, Trace.violations_flatMap, Trace.violations_flatMap]
  cases hnode with
  | @inside _ _ nodes hinside hswapped =>
    obtain ⟨harranged, hmoved⟩ := arranged_own hswapped (by rwa [Node.handsOn_withChildren])
      scope.strictness value
    rw [ownTrace_withChildren hinside.length_eq.symm] at harranged
    refine harranged.append (.trans (.flatMap_of_forall₂ ?_) (hmoved.flatMap _))
    refine (forall₂_mem (forall₂_parts_withChildren hinside value)).imp fun part part' hrelated => ?_
    obtain ⟨hpart, hpart', halong⟩ := hrelated
    rw [Trace.violations_under, Trace.violations_under, ← halong.segment, ← halong.value]
    exact .map (hparts part hpart part'.node halong.node (Scope.clean_part hown hclean hpart)
      (halong.value ▸ Scope.clean_part hown' hclean' (hmoved.1.mem_iff.mp hpart'))) _

/-- Checks against reordered nodes that end without a fault find the same, in another order if properties
move. -/
theorem Scope.Reordered.arranged_checkAt (hscope : scope.Reordered moving scope')
    (followable followable' : List String) (pending : Thunks) (node node' : Node) (value : Json)
    (hfollowable : ∀ target, target ∈ followable' ↔ target ∈ followable)
    (hnode : node.Reordered moving node') (hclean : (scope.checkAt followable pending node value).Clean)
    (hclean' : (scope'.checkAt followable' pending node' value).Clean) :
    Arranged moving (scope.checkAt followable pending node value).violations
      (scope'.checkAt followable' pending node' value).violations := by
  induction followable, pending, node, value using Scope.checkAt.induct scope
      generalizing followable' node' with
  | case1 followable pending value docs target hnone =>
    obtain rfl := hnode.eq_of_isLink (.inl rfl)
    rw [Scope.checkAt_unresolved hnone, Scope.checkAt_unresolved (hscope.resolves_none hnone)]
    refine .of_eq ?_
    simp only [unresolvedTrace, hscope.strictness]
    rfl
  | case2 followable pending value docs target body hbody htarget _ ih =>
    obtain rfl := hnode.eq_of_isLink (.inl rfl)
    obtain ⟨body', hbody', hreordered⟩ := hscope.exists_body hbody
    have htarget' := (hfollowable target).mpr htarget
    rw [Scope.checkAt_followed hbody htarget] at hclean ⊢
    rw [Scope.checkAt_followed hbody' htarget', hscope.thunks] at hclean' ⊢
    exact ih _ _ (fun other => by simp [except, hfollowable other]) hreordered hclean hclean'
  | case3 followable pending value docs target body hbody hnot =>
    obtain rfl := hnode.eq_of_isLink (.inl rfl)
    obtain ⟨body', hbody', -⟩ := hscope.exists_body hbody
    rw [Scope.checkAt_circular hbody hnot,
      Scope.checkAt_circular hbody' fun htarget => hnot ((hfollowable target).mp htarget)]
    exact .of_eq rfl
  | case4 followable pending value =>
    obtain rfl := hnode.eq_of_isLink (.inl rfl)
    rw [Scope.checkAt_noThunk, Scope.checkAt_noThunk]
    exact .of_eq rfl
  | case5 followable pending value thunk body hbody _ ih =>
    obtain rfl := hnode.eq_of_isLink (.inl rfl)
    rw [Scope.checkAt_forced hbody] at hclean ⊢
    rw [Scope.checkAt_forced hbody] at hclean' ⊢
    rw [Trace.violations_append, Trace.violations_append]
    exact .append (.of_eq rfl) (ih _ _ hfollowable (.refl _) hclean.right hclean'.right)
  | case6 followable pending value thunk hnone =>
    obtain rfl := hnode.eq_of_isLink (.inl rfl)
    rw [Scope.checkAt_unforced hnone, Scope.checkAt_unforced hnone]
    exact .of_eq rfl
  | case7 followable pending value docs how members ih =>
    exact Scope.arranged_combined hnode hclean hclean' fun member hmember member' =>
      ih member hmember _ member' hfollowable
  | case8 followable pending value node href hnone hsome hcombined ih =>
    refine hscope.arranged_parts (node.handsOn_eq_false href hnone hsome hcombined) hnode hclean hclean'
      fun part hpart node' hnode' => ?_
    rw [Scope.check, Scope.check, hscope.thunks]
    exact ih part hpart _ node' hscope.references hnode'

end Scopes

namespace Schema

variable {moving : Bool} {schema schema' : Schema}

/-- Reordered schemas give scopes in which references are resolved to reordered bodies. -/
theorem Reordered.scope (h : schema.Reordered moving schema')
    (hnames : (Entries.names schema.definitions).Nodup) (thunks : Thunks) (strictness : Strictness) :
    (schema.scope thunks strictness).Reordered moving (schema'.scope thunks strictness) := by
  obtain ⟨middle, hbodies, hperm⟩ := h.definitions
  have hmiddle : Entries.names schema.definitions = Entries.names middle := by
    rw [Entries.names, Entries.names, ← List.forall₂_eq_eq_eq]
    exact List.forall₂_map_left_iff.mpr (List.forall₂_map_right_iff.mpr (hbodies.imp fun _ _ h => h.1))
  exact {
    resolves := fun target => by
      have hrel := Entries.rel_find? hbodies (Definitions.nameOf target)
      rwa [← Entries.find?_perm hperm.symm (hmiddle ▸ hnames)] at hrel
    thunks := rfl
    strictness := rfl
    references := fun target => by
      have hlisted : target ∈ schema'.definitions.flatMap (fun entry => entry.2.references) ↔
          target ∈ schema.definitions.flatMap fun entry => entry.2.references := by
        rw [List.mem_flatMap, List.mem_flatMap]
        constructor
        · rintro ⟨other, hother, htarget⟩
          obtain ⟨entry, hentry, -, hreordered⟩ :=
            exists_of_mem_right hbodies (hperm.mem_iff.mpr hother)
          exact ⟨entry, hentry, hreordered.mem_references.mp htarget⟩
        · rintro ⟨entry, hentry, htarget⟩
          obtain ⟨other, hother, -, hreordered⟩ := exists_of_mem_left hbodies hentry
          exact ⟨other, hperm.mem_iff.mp hother, hreordered.mem_references.mpr htarget⟩
      simp only [Schema.scope, Scope.ofNode, Scope.reachable, List.mem_eraseDups, List.mem_append,
        h.root.mem_references, hlisted] }

/-- Every node of a reordered schema is a reordered node of the schema. -/
theorem Reordered.exists_of_contains (h : schema.Reordered moving schema') {thunks : Thunks} {node' : Node}
    (hnode : schema'.Contains thunks node') :
    ∃ node, schema.Contains thunks node ∧ node.Reordered moving node' := by
  obtain ⟨middle, hbodies, hperm⟩ := h.definitions
  induction hnode with
  | root => exact ⟨_, .root, h.root⟩
  | definition hmem =>
    obtain ⟨entry, hentry, -, hreordered⟩ := exists_of_mem_right hbodies (hperm.mem_iff.mpr hmem)
    exact ⟨_, .definition hentry, hreordered⟩
  | child _ hchild ih =>
    obtain ⟨node, hnode, hreordered⟩ := ih
    obtain ⟨nodes, hinside, hperm⟩ := hreordered.children
    obtain ⟨child, hmem, hreordered⟩ := exists_of_mem_right hinside (hperm.mem_iff.mpr hchild)
    exact ⟨child, hnode.child hmem, hreordered⟩
  | forced _ hbody ih =>
    obtain ⟨node, hnode, hreordered⟩ := ih
    obtain rfl := hreordered.eq_of_isLink (.inr rfl)
    exact ⟨_, hnode.forced hbody, .refl _⟩

/-- Checks against schemas that are reordered find the same where both end without a fault, in another
order if properties move. Where all nodes are of known kinds, none is deferred and no pattern is at fault,
both do. -/
theorem check_reordered (moving : Bool) (h : schema.Reordered moving schema')
    (hnames : (Entries.names schema.definitions).Nodup)
    (hknown : ∀ node, schema.Contains [] node → node.Known []) (strictness : Strictness) (value : Json) :
    (∀ found found', (schema.check [] strictness value).result = .ok found →
      (schema'.check [] strictness value).result = .ok found' →
        found.Perm found' ∧ (moving = false → found = found')) ∧
    ((∀ node pattern, schema.Contains [] node → node.pattern? = some pattern →
        Pattern.fault? pattern = none) →
      ∃ found found', (schema.check [] strictness value).result = .ok found ∧
        (schema'.check [] strictness value).result = .ok found') := by
  have hscope := h.scope hnames [] strictness
  constructor
  · intro found found' hfound hfound'
    obtain ⟨hclean, rfl⟩ := Trace.result_eq_ok_iff.mp hfound
    obtain ⟨hclean', rfl⟩ := Trace.result_eq_ok_iff.mp hfound'
    exact hscope.arranged_checkAt _ _ _ _ _ value hscope.references h.root hclean hclean'
  · intro hpatterns
    have hends : ∀ schema : Schema, (∀ node, schema.Contains [] node → node.Known []) →
        (∀ node pattern, schema.Contains [] node → node.pattern? = some pattern →
          Pattern.fault? pattern = none) →
        ∃ found, (schema.check [] strictness value).result = .ok found := by
      intro schema hknown hpatterns
      cases hresult : (schema.check [] strictness value).result with
      | ok found => exact ⟨found, rfl⟩
      | error fault =>
        obtain ⟨node, pattern, hnode, hpattern, hfault⟩ :=
          exists_pattern_of_check_eq_error hknown hresult
        cases (hpatterns node pattern hnode hpattern).symm.trans hfault
    obtain ⟨found, hfound⟩ := hends schema hknown hpatterns
    obtain ⟨found', hfound'⟩ := hends schema'
      (fun node' hnode' => by
        obtain ⟨node, hnode, hreordered⟩ := h.exists_of_contains hnode'
        exact hreordered.kind.2.2 [] (hknown node hnode))
      (fun node' pattern hnode' hpattern => by
        obtain ⟨node, hnode, hreordered⟩ := h.exists_of_contains hnode'
        exact hpatterns node pattern hnode (hreordered.kind.2.1 ▸ hpattern))
    exact ⟨found, found', hfound, hfound'⟩

/-- An object with a property whose definition refers to itself beside another definition. -/
def knotted : Schema where
  root := .object {} [⟨"knot", .reference {} "#/definitions/loop", true⟩,
    ⟨"end", .combined {} .oneOf [.string {} {}, .null {}], false⟩] {}
  definitions := [("loop", .combined {} .anyOf
      [.reference {} "#/definitions/loop", .reference {} "#/definitions/count"]),
    ("count", .integer {} {})]

/-- The object with all its parts in another order. -/
def reknotted : Schema where
  root := .object {} [⟨"end", .combined {} .oneOf [.null {}, .string {} {}], false⟩,
    ⟨"knot", .reference {} "#/definitions/loop", true⟩] {}
  definitions := [("count", .integer {} {}),
    ("loop", .combined {} .anyOf
      [.reference {} "#/definitions/count", .reference {} "#/definitions/loop"])]

/-- The knotted object and the reordered one get the same violations up to their order. -/
theorem check_reordered_knotted : knotted.Reordered true reknotted ∧
    ∃ found found',
      (knotted.check [] {} (.object [("knot", .null), ("end", .bool true)])).result = .ok found ∧
      (reknotted.check [] {} (.object [("knot", .null), ("end", .bool true)])).result = .ok found' ∧
      found.Perm found' := by
  have hreordered : knotted.Reordered true reknotted := by
    have hcombined : ∀ how (first second : Node),
        (Node.combined {} how [first, second]).Reordered true (.combined {} how [second, first]) :=
      fun how first second => .inside (.cons (.refl _) (.cons (.refl _) .nil)) (.members (.swap ..))
    exact {
      root := .inside (.cons (.refl _) (.cons (hcombined ..) .nil)) (.properties rfl (.swap ..))
      definitions := ⟨[("loop", .combined {} .anyOf
          [.reference {} "#/definitions/count", .reference {} "#/definitions/loop"]),
          ("count", .integer {} {})],
        .cons ⟨rfl, hcombined ..⟩ (.cons ⟨rfl, .refl _⟩ .nil), .swap ..⟩ }
  have hmem : ∀ node, knotted.Contains [] node → node ∈ [knotted.root,
      .reference {} "#/definitions/loop", .combined {} .oneOf [.string {} {}, .null {}], .string {} {},
      .null {}, .combined {} .anyOf
        [.reference {} "#/definitions/loop", .reference {} "#/definitions/count"],
      .reference {} "#/definitions/count", .integer {} {}] :=
    fun node hnode => hnode.mem_of_closed (by simp) (by simp [knotted]) (by simp)
      (by simp [knotted, Node.children])
  have hknown : ∀ node, knotted.Contains [] node → node.Known [] := by
    intro node hnode
    have hcases := hmem node hnode
    simp only [List.mem_cons, List.not_mem_nil, or_false] at hcases
    rcases hcases with rfl | rfl | rfl | rfl | rfl | rfl | rfl | rfl <;> trivial
  have hpatterns : ∀ node pattern, knotted.Contains [] node → node.pattern? = some pattern →
      Pattern.fault? pattern = none := by
    intro node pattern hnode hpattern
    have hcases := hmem node hnode
    simp only [List.mem_cons, List.not_mem_nil, or_false] at hcases
    rcases hcases with rfl | rfl | rfl | rfl | rfl | rfl | rfl | rfl <;> cases hpattern
  obtain ⟨harranged, hends⟩ := check_reordered true hreordered (by decide) hknown {}
    (.object [("knot", .null), ("end", .bool true)])
  obtain ⟨found, found', hfound, hfound'⟩ := hends hpatterns
  exact ⟨hreordered, found, found', hfound, hfound', (harranged found found' hfound hfound').1⟩

/-- A choice whose first member asks for a pattern with options that clash. -/
def clashing : Schema where
  root := .combined {} .anyOf [.string {} { pattern := some "(?a)(?u)" }, .string {} {}]

/-- The choice with its members in the other order. -/
def reclashing : Schema where
  root := .combined {} .anyOf [.string {} {}, .string {} { pattern := some "(?a)(?u)" }]

/-- A check may end with a fault in one order of the members and find nothing in the other. -/
theorem check_clashing_eq_error : clashing.Reordered false reclashing ∧
    (∀ node, clashing.Contains [] node → node.Known []) ∧
    (∀ node pattern, clashing.Contains [] node → node.pattern? = some pattern →
      Pattern.fault? pattern ≠ some .repetitionLimit) ∧
    (clashing.check [] {} (.string "")).result = .error .repertoireClash ∧
    (reclashing.check [] {} (.string "")).result = .ok [] := by
  have hmem : ∀ node, clashing.Contains [] node → node ∈ [clashing.root,
      .string {} { pattern := some "(?a)(?u)" }, .string {} {}] :=
    fun node hnode => hnode.mem_of_closed (by simp) (by simp [clashing]) (by simp)
      (by simp [clashing, Node.children])
  refine ⟨⟨.inside (.cons (.refl _) (.cons (.refl _) .nil)) (.members (.swap ..)),
    ⟨[], .nil, .nil⟩⟩, fun node hnode => ?_, fun node pattern hnode hpattern => ?_,
    view_check_of_run 2 (by decide +kernel), view_check_of_run 2 (by decide +kernel)⟩
  · have hcases := hmem node hnode
    simp only [List.mem_cons, List.not_mem_nil, or_false] at hcases
    rcases hcases with rfl | rfl | rfl <;> trivial
  · have hcases := hmem node hnode
    simp only [List.mem_cons, List.not_mem_nil, or_false] at hcases
    rcases hcases with rfl | rfl | rfl
    · cases hpattern
    · obtain rfl := Option.some.inj hpattern
      have hclash : Pattern.fault? "(?a)(?u)" = some .repertoireClash := by decide +kernel
      simp [hclash]
    · cases hpattern

end Schema

end JsonSchema
