import Mathlib.Data.List.Basic
import Mathlib.Logic.Relation
import JsonSchema.Proofs.Document.Gathering

/-!
# What a document leaves behind that is kept verbatim

A document whose attributes turn out to be malformed is kept verbatim, after what it defines itself was
hoisted. Nearly all attributes are looked at before the parts are read, so nothing of the parts is left
behind. Only the bounds on how many properties or items there may be are looked at afterwards: where one of
them is malformed, the definitions in the parts were hoisted before, and stand in the place of others of the
same names.
-/

namespace JsonSchema

namespace Document

open Attribute Shape

/-- The keywords of the bounds that are looked at after the parts of a document were read. -/
def countKeywords : List String := ["minProperties", "maxProperties", "minItems", "maxItems"]

/-- A document is kept verbatim because of a bound on how many properties or items there may be. -/
def Miscounts (members : Entries Json) : Prop :=
  ∃ keyword ∈ countKeywords, (ofMembers members).outcome = .mismatch (.malformed keyword .integer)

section Falling

variable {members : Entries Json} {reason : Mismatch}

/-- A step in a row that fails is the first, or it follows one that ends well. -/
theorem exists_of_bind_eq_error {α β : Type} {first : Except Mismatch α} {next : α → Except Mismatch β}
    (h : (do next (← first)) = .error reason) :
    first = .error reason ∨ ∃ a, first = .ok a ∧ next a = .error reason := by
  cases first with
  | error other =>
    cases h
    exact .inl rfl
  | ok a => exact .inr ⟨a, rfl, h⟩

/-- A malformed integer is reported by its keyword. -/
theorem eq_malformed_of_integer {keyword : String}
    (h : Attribute.integer members keyword = .error reason) : reason = .malformed keyword .integer := by
  unfold Attribute.integer Attribute.optional at h
  split at h
  · cases h
  · cases h
  · split at h <;> cases h
    rfl

/-- A malformed bound is reported by its keyword. -/
theorem exists_of_bounds_eq_error {least greatest : String}
    (h : bounds members least greatest = .error reason) :
    ∃ keyword ∈ [least, greatest], reason = .malformed keyword .integer := by
  unfold bounds at h
  rcases exists_of_bind_eq_error h with hleast | ⟨_, -, hrest⟩
  · exact ⟨least, List.mem_cons_self, eq_malformed_of_integer hleast⟩
  · rcases exists_of_bind_eq_error hrest with hgreatest | ⟨_, -, hreturn⟩
    · exact ⟨greatest, by simp, eq_malformed_of_integer hgreatest⟩
    · cases hreturn

/-- No part is read of a document with schemas inside that falls back, unless for its last check. -/
theorem parts_branch_eq_nil {α β : Type} {first : Except Mismatch α} {parts : List Json}
    {last : Except Mismatch β} {put : α → β → List Node → Node}
    (houtcome : ∀ assemble, (branch first parts last put).outcome ≠ .node assemble)
    (hlast : ∀ reason, (branch first parts last put).outcome = .mismatch reason → last ≠ .error reason) :
    (branch first parts last put).parts = [] := by
  cases first with
  | error reason => rfl
  | ok a =>
    cases last with
    | error reason => exact absurd rfl (hlast reason rfl)
    | ok b => exact absurd rfl (houtcome (put a b))

/-- No part is read of a document that falls back, unless because of the bounds of a count. -/
theorem parts_eq_nil_of_outcome (houtcome : ∀ assemble, (ofMembers members).outcome ≠ .node assemble)
    (hcounts : ¬ Miscounts members) : (ofMembers members).parts = [] := by
  have hbounds : ∀ {least greatest}, least ∈ countKeywords → greatest ∈ countKeywords → ∀ reason,
      (ofMembers members).outcome = .mismatch reason → bounds members least greatest ≠ .error reason := by
    intro least greatest hleast hgreatest reason hreason herror
    obtain ⟨keyword, hkeyword, rfl⟩ := exists_of_bounds_eq_error herror
    rcases List.mem_pair.mp hkeyword with rfl | rfl
    · exact hcounts ⟨_, hleast, hreason⟩
    · exact hcounts ⟨_, hgreatest, hreason⟩
  have hlaid := laidOut members
  generalize layout members = place, ofMembers members = shape at hlaid houtcome hbounds
  cases hlaid with
  | plain h =>
    obtain ⟨result, rfl, -⟩ := h
    rfl
  | unrecognised => rfl
  | combined h => exact parts_branch_eq_nil houtcome fun _ _ h => by cases h
  | object => exact parts_branch_eq_nil houtcome (hbounds (by decide) (by decide))
  | array h => exact parts_branch_eq_nil houtcome (hbounds (by decide) (by decide))
  | tuple h => exact parts_branch_eq_nil houtcome (hbounds (by decide) (by decide))

/-- Notes change no definitions. -/
theorem follow_keep (reasons : List Mismatch) (definitions : Definitions) :
    (follow (reasons.map .keep) definitions).value = definitions := by
  induction reasons with
  | nil => rfl
  | cons reason rest ih => exact ih

/-- A document that is kept verbatim has no node of its own. -/
theorem outcome_ne_node (h : nodeOf (.object members) = .verbatim (.object members))
    (assemble : List Node → Node) : (ofMembers members).outcome ≠ .node assemble := by
  intro houtcome
  have hnode : nodeOf (.object members) = assemble ((ofMembers members).parts.map nodeOf) :=
    nodeOf_object (by rw [← houtcome])
  have hcomposes := recognises_ofMembers members assemble houtcome ((ofMembers members).parts.map nodeOf)
  rw [← hnode, h] at hcomposes
  cases hcomposes

end Falling

/-- The steps of a document that is visited are taken in a row when the whole is read. -/
theorem steps_infix_of_visits {document inner : Json} (h : Visits document inner) :
    (parse inner).steps <:+: (parse document).steps := by
  induction h using Relation.ReflTransGen.head_induction_on with
  | refl => exact List.infix_rfl
  | @head document next hinside _ ih =>
    refine ih.trans ?_
    have hflat : ∀ {α : Type} {items : List α} {item : α} (steps : α → List Step), item ∈ items →
        steps item <:+: items.flatMap steps := fun steps hmem =>
      List.flatMap_def ▸ List.infix_of_mem_flatten (List.mem_map_of_mem hmem)
    cases hinside with
    | @body members bodies entry hdefined hentry =>
      obtain ⟨reasons, hsteps⟩ := exists_steps_eq members
      have hhoisted : hoisted members = bodies.flatMap (fun entry => (parse entry.2).steps) ++
          [.hoist (Entries.ofList (bodies.map fun entry => (entry.1, nodeOf entry.2)))] := by
        simp [hoisted, hdefined, hoisting, List.flatMap_map, Function.comp_def, nodeOf]
      have hbody := hflat (fun entry : String × Json => (parse entry.2).steps) hentry
      rw [hsteps, hhoisted, List.append_assoc, List.append_assoc]
      exact hbody.trans (List.prefix_append _ _).isInfix
    | @part members part hpart =>
      obtain ⟨reasons, hsteps⟩ := exists_steps_eq members
      rw [hsteps]
      exact (hflat (fun part => (parse part).steps) hpart).trans (List.infix_append _ _ _)

/-- What a document leaves behind that is kept verbatim, wherever it is inside the document that is read: but
for a malformed bound on how many properties or items there may be, what its own definitions hoist and
nothing else. With such a bound the definitions in its parts are added, and they change nothing exactly where
the last of each name is there already. -/
theorem follow_of_verbatim {document : Json} {members : Entries Json}
    (hvisits : Visits document (.object members))
    (hverbatim : nodeOf (.object members) = .verbatim (.object members)) :
    (∃ before after, (parse document).steps = before ++ (parse (.object members)).steps ++ after ∧
      (¬ Miscounts members → (read document).value.definitions =
        (follow (before ++ hoisted members ++ after) []).value)) ∧
    (¬ Miscounts members → ∀ definitions,
      (follow (parse (.object members)).steps definitions).value =
        (follow (hoisted members) definitions).value) ∧
    ∀ definitions, (Entries.names definitions).Nodup →
      (follow (parse (.object members)).steps definitions).value =
        Entries.putAll (follow (hoisted members) definitions).value (partHoists members) ∧
      ((follow (parse (.object members)).steps definitions).value =
          (follow (hoisted members) definitions).value ↔
        ∀ name body, Entries.find? name (partHoists members).reverse = some body →
          Entries.find? name (follow (hoisted members) definitions).value = some body) := by
  have hfollow : ¬ Miscounts members → ∀ definitions,
      (follow (parse (.object members)).steps definitions).value =
        (follow (hoisted members) definitions).value := by
    intro hcounts definitions
    obtain ⟨reasons, hsteps⟩ := exists_steps_eq members
    rw [hsteps, parts_eq_nil_of_outcome (outcome_ne_node hverbatim) hcounts, List.flatMap_nil,
      List.append_nil, follow_append, follow_keep]
  refine ⟨?_, hfollow, fun definitions hnames => ?_⟩
  · obtain ⟨before, after, hsteps⟩ := steps_infix_of_visits hvisits
    refine ⟨before, after, hsteps.symm, fun hcounts => ?_⟩
    change (follow (parse document).steps []).value = _
    rw [← hsteps, follow_append, follow_append, follow_append, follow_append, hfollow hcounts]
  · have hown : (follow (hoisted members) definitions).value =
        Entries.putAll definitions (ownHoists members) := by
      rw [follow_value _ hnames, hoists_hoisted]
    have hall : (follow (parse (.object members)).steps definitions).value =
        Entries.putAll (follow (hoisted members) definitions).value (partHoists members) := by
      rw [follow_value _ hnames, hoists_parse_object, Entries.putAll_append, hown]
    refine ⟨hall, ?_⟩
    rw [hall]
    exact Entries.putAll_eq_self_iff (hown ▸ Entries.nodup_names_putAll hnames)

/-- An object with a definition and with another one of the same name in its property. -/
def overlaid (keyword : String) (value : Json) : Entries Json :=
  [("type", .string "object"), ("definitions", .object [("a", .object [("type", .string "integer")])]),
    ("properties", .object [("p", .object [("type", .string "null"),
      ("definitions", .object [("a", .object [("type", .string "string")])])])]),
    (keyword, value)]

/-- An array of such objects. -/
def overlaidItems (keyword : String) (value : Json) : Json :=
  .object [("type", .string "array"), ("items", .object (overlaid keyword value))]

/-- Where the title of the objects in an array is malformed, their own definition stays. -/
theorem follow_of_verbatim_overlaid :
    Visits (overlaidItems "title" (.bool true)) (.object (overlaid "title" (.bool true))) ∧
    nodeOf (.object (overlaid "title" (.bool true))) =
      .verbatim (.object (overlaid "title" (.bool true))) ∧
    ¬ Miscounts (overlaid "title" (.bool true)) ∧
    (∀ definitions, (follow (parse (.object (overlaid "title" (.bool true)))).steps definitions).value =
      (follow (hoisted (overlaid "title" (.bool true))) definitions).value) ∧
    (read (overlaidItems "title" (.bool true))).value.definitions = [("a", .integer {} {})] := by
  have hvisits : Visits (overlaidItems "title" (.bool true)) (.object (overlaid "title" (.bool true))) :=
    .single (.part (List.mem_singleton_self _))
  -- The reader is defined by well-founded recursion, which `rfl` does not unfold on its own.
  have hverbatim : nodeOf (.object (overlaid "title" (.bool true))) =
      .verbatim (.object (overlaid "title" (.bool true))) := by with_unfolding_all rfl
  have hcounts : ¬ Miscounts (overlaid "title" (.bool true)) := by
    have houtcome : (ofMembers (overlaid "title" (.bool true))).outcome =
        .mismatch (.malformed "title" .string) := rfl
    rintro ⟨keyword, -, h⟩
    rw [houtcome] at h
    cases h
  exact ⟨hvisits, hverbatim, hcounts, (follow_of_verbatim hvisits hverbatim).2.1 hcounts,
    by with_unfolding_all rfl⟩

/-- Where the least number of properties of such an object is malformed, it is kept verbatim and the
definition in its property takes the place of its own. -/
theorem not_follow_of_verbatim :
    (¬ ∀ document members, Visits document (.object members) →
      nodeOf (.object members) = .verbatim (.object members) → ∀ definitions,
        (follow (parse (.object members)).steps definitions).value =
          (follow (hoisted members) definitions).value) ∧
    (read (.object (overlaid "minProperties" (.string "x")))).value =
      ⟨.verbatim (.object (overlaid "minProperties" (.string "x"))), [("a", .string {} {})]⟩ := by
  have hread : (read (.object (overlaid "minProperties" (.string "x")))).value =
      ⟨.verbatim (.object (overlaid "minProperties" (.string "x"))), [("a", .string {} {})]⟩ := by
    with_unfolding_all rfl
  refine ⟨fun h => ?_, hread⟩
  have hown : (follow (hoisted (overlaid "minProperties" (.string "x"))) []).value =
      [("a", .integer {} {})] := by with_unfolding_all rfl
  have hall := h _ _ .refl (congrArg Schema.root hread) []
  have hdefinitions : [("a", Node.string {} {})] = [("a", Node.integer {} {})] :=
    (congrArg Schema.definitions hread).symm.trans (hall.trans hown)
  simp at hdefinitions

end Document

end JsonSchema
