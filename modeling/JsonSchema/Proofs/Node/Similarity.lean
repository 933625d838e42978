import JsonSchema.Proofs.Entries
import JsonSchema.Proofs.Node.Agreement
import JsonSchema.Proofs.Node.Contents
import Mathlib.Data.List.Perm.Basic
import Mathlib.Data.List.Perm.Subperm

/-!
# What equal nodes share

Equal nodes have equal nodes inside, one by one, and so the same references. Equal definitions have the
same names, with equal bodies under each.
-/

namespace JsonSchema

/-- Rows of equal nodes are equal one by one. -/
theorem forall₂_of_sameNodes {first second : List Node} (h : sameNodes first second = true) :
    List.Forall₂ (fun a b => a.same b = true) first second := by
  induction first generalizing second with
  | nil =>
    cases second with
    | nil => exact .nil
    | cons b others => simp [sameNodes] at h
  | cons a rest ih =>
    cases second with
    | nil => simp [sameNodes] at h
    | cons b others =>
      rw [sameNodes, Bool.and_eq_true] at h
      exact .cons h.1 (ih h.2)

/-- Equal properties have the same names and equal schemas. -/
theorem forall₂_of_sameProperties {first second : List (Property Node)}
    (h : sameProperties first second = true) :
    first.map (·.name) = second.map (·.name) ∧
      List.Forall₂ (fun a b => a.same b = true) (first.map (·.schema)) (second.map (·.schema)) := by
  induction first generalizing second with
  | nil =>
    cases second with
    | nil => exact ⟨rfl, .nil⟩
    | cons b others => simp [sameProperties] at h
  | cons a rest ih =>
    obtain ⟨name, schema, required⟩ := a
    cases second with
    | nil => simp [sameProperties] at h
    | cons b others =>
      obtain ⟨name', schema', required'⟩ := b
      simp only [sameProperties, Bool.and_eq_true, beq_iff_eq] at h
      obtain ⟨hnames, hrest⟩ := ih h.2
      exact ⟨congrArg₂ List.cons h.1.1.1 hnames, .cons h.1.1.2 hrest⟩

/-- Nodes that may be absent are equal where both are there, and equal, or none is. -/
theorem forall₂_of_sameOptionalNode {first second : Option Node}
    (h : sameOptionalNode first second = true) :
    List.Forall₂ (fun a b => a.same b = true) first.toList second.toList := by
  cases first <;> cases second <;> simp_all [sameOptionalNode]

namespace Node

/-- Equal nodes have equal nodes inside, one by one. -/
theorem forall₂_children_of_same {node other : Node} (h : node.same other = true) :
    List.Forall₂ (fun a b => a.same b = true) node.children other.children := by
  cases node <;> cases other <;>
    simp only [same, Bool.and_eq_true, Bool.false_eq_true] at h
  case object.object => exact (forall₂_of_sameProperties h.1.2).2
  case array.array => exact forall₂_of_sameOptionalNode h.1.2
  case tuple.tuple =>
    exact List.rel_append (forall₂_of_sameNodes h.1.1.2) (forall₂_of_sameOptionalNode h.1.2)
  case combined.combined => exact forall₂_of_sameNodes h.2
  all_goals exact .nil

/-- The references of a node are references of an equal one. -/
theorem mem_references_of_same {node other : Node} {target : String} (h : node.same other = true)
    (htarget : target ∈ other.references) : target ∈ node.references := by
  induction other using Node.induction_children generalizing node with
  | step other ih =>
    rcases mem_references_iff.mp htarget with ⟨docs, rfl⟩ | ⟨child, hchild, htarget⟩
    · cases node with
      | reference docs' target' =>
        obtain rfl : target' = target := by simp_all [same]
        exact List.mem_singleton_self _
      | _ => simp [same] at h
    · obtain ⟨child', hchild', hsame⟩ :=
        exists_of_mem_right (forall₂_children_of_same h) hchild
      exact mem_references_iff.mpr (.inr ⟨child', hchild', ih child hchild hsame htarget⟩)

end Node

namespace Definitions

variable {first second : Definitions}

/-- What is found among definitions is found equal among equal ones. -/
theorem exists_find?_of_same (h : first.same second = true) {name : String} {body : Node}
    (hbody : Entries.find? name first = some body) :
    ∃ other, Entries.find? name second = some other ∧ body.same other = true := by
  rw [same, Bool.and_eq_true, List.all_eq_true] at h
  exact (Option.any_eq_true _ _).mp (h.2 _ (Entries.mem_of_find? hbody))

/-- Equal definitions, the first ones of different names, have the same names. -/
theorem perm_names_of_same (hnames : (Entries.names first).Nodup) (h : first.same second = true) :
    (Entries.names first).Perm (Entries.names second) := by
  have hsubset : Entries.names first ⊆ Entries.names second := fun name hname => by
    obtain ⟨body, hbody⟩ := Entries.exists_find?_of_mem_names hname
    obtain ⟨other, hother, -⟩ := exists_find?_of_same h hbody
    exact Entries.mem_names_of_find? hother
  rw [same, Bool.and_eq_true, beq_iff_eq] at h
  exact (hnames.subperm hsubset).perm_of_length_le (by simp [Entries.names, h.1])

/-- A definition is found equal among equal ones, those of different names. -/
theorem exists_of_mem_same (hnames : (Entries.names first).Nodup) (h : first.same second = true)
    {name : String} {body : Node} (hbody : (name, body) ∈ second) :
    ∃ other, Entries.find? name first = some other ∧ other.same body = true := by
  have hperm := perm_names_of_same hnames h
  have hname : name ∈ Entries.names first := hperm.mem_iff.mpr (List.mem_map_of_mem hbody)
  obtain ⟨other, hother⟩ := Entries.exists_find?_of_mem_names hname
  obtain ⟨found, hfound, hsame⟩ := exists_find?_of_same h hother
  rw [Entries.find?_of_mem (hperm.nodup_iff.mp hnames) hbody] at hfound
  exact ⟨other, hother, Option.some.inj hfound ▸ hsame⟩

/-- Definitions of the same different names are equal where those of the one are found equal. -/
theorem same_of_find? (hnames : (Entries.names first).Nodup) (hothers : (Entries.names second).Nodup)
    (hsubset : Entries.names second ⊆ Entries.names first)
    (h : ∀ name body, Entries.find? name first = some body →
      ∃ other, Entries.find? name second = some other ∧ body.same other = true) :
    first.same second = true := by
  have hincluded : Entries.names first ⊆ Entries.names second := fun name hname => by
    obtain ⟨body, hbody⟩ := Entries.exists_find?_of_mem_names hname
    obtain ⟨other, hother, -⟩ := h name body hbody
    exact Entries.mem_names_of_find? hother
  have hlength : first.length = second.length := by
    simpa [Entries.names] using Nat.le_antisymm (hnames.subperm hincluded).length_le
      (hothers.subperm hsubset).length_le
  rw [same, Bool.and_eq_true, beq_iff_eq, List.all_eq_true]
  refine ⟨hlength, fun entry hentry => ?_⟩
  obtain ⟨other, hother, hsame⟩ := h entry.1 entry.2 (Entries.find?_of_mem hnames hentry)
  exact (Option.any_eq_true _ _).mpr ⟨other, hother, hsame⟩

end Definitions

end JsonSchema
