import JsonSchema.Proofs.Document.Represent
import JsonSchema.Proofs.Document.WellFormed

/-!
# Nodes that are read back unchanged

A node without deferred nodes has one document, its form, which writing gives whatever is known while it
is written. A settled node is one that reading its form gives again, exactly: it is composed of settled
nodes, or it is a document that is kept verbatim. The steps of reading the form are those of the documents
that are kept in the node.
-/

namespace JsonSchema

namespace Document

/-- The document of a node in which no node is deferred. -/
def form (node : Node) : Json :=
  match node with
  | .verbatim document => document
  | node => .object (compose node (node.children.attach.map fun ⟨child, h⟩ =>
    have := Node.sizeOf_lt_of_mem_children h
    form child))
termination_by sizeOf node

/-- The steps of reading the documents that are kept in a node. -/
def keptSteps (node : Node) : List Step :=
  match node with
  | .verbatim document => (parse document).steps
  | node => node.children.attach.flatMap fun ⟨child, h⟩ =>
    have := Node.sizeOf_lt_of_mem_children h
    keptSteps child
termination_by sizeOf node

/-- A document that is kept verbatim is its own form. -/
@[simp] theorem form_verbatim (document : Json) : form (.verbatim document) = document := by
  rw [form]

/-- Its steps are those of reading it. -/
@[simp] theorem keptSteps_verbatim (document : Json) :
    keptSteps (.verbatim document) = (parse document).steps := by
  rw [keptSteps]

/-- The form of a node is composed of the forms of the nodes inside. -/
theorem form_composed {node : Node} (h : node.composes) :
    form node = .object (compose node (node.children.map form)) := by
  rw [form]
  · simp
  · rintro document rfl
    cases h

/-- The documents kept in a node are those kept in the nodes inside. -/
theorem keptSteps_composed {node : Node} (h : node.composes) :
    keptSteps node = node.children.flatMap keptSteps := by
  rw [keptSteps]
  · simp [List.flatMap_subtype]
  · rintro document rfl
    cases h

end Document

open Document

/-- A node that reading its form gives again. -/
inductive Node.Settled : Node → Prop
  | composed {node : Node} (hcomposes : node.composes) (htyped : node.Typed)
      (hexamples : ∀ item ∈ node.docs.examples, item.WellFormed)
      (hself : recompose node node.children = node)
      (hfits : Fits node (node.children.map form))
      (hreadable : readable node (node.children.map form) = node.children.map form)
      (hchildren : ∀ child ∈ node.children, Settled child) : Settled node
  | verbatim {document : Json} (hdocument : document.WellFormed)
      (hnode : (parse document).node = .verbatim document) : Settled (.verbatim document)

namespace Document

variable {node : Node}

/-- The form of a settled node is read as the node, in the steps of the documents kept in it. -/
theorem parse_form (h : node.Settled) : parse (form node) = ⟨node, keptSteps node⟩ := by
  induction h with
  | @composed node hcomposes htyped _ hself hfits hreadable _ ih =>
    have hnodes : node.children.map (fun child => (parse (form child)).node) = node.children := by
      conv_rhs => rw [← List.map_id node.children]
      exact List.map_congr_left fun child hchild => by simp [ih child hchild]
    have hsteps : node.children.flatMap (fun child => (parse (form child)).steps) =
        node.children.flatMap keptSteps :=
      List.flatMap_congr fun child hchild => by rw [ih child hchild]
    rw [form_composed hcomposes, parse_compose hcomposes htyped hfits, hreadable,
      keptSteps_composed hcomposes]
    simp only [List.map_map, List.flatMap_map, Function.comp_def, hnodes, hsteps, hself]
  | @verbatim document _ hnode =>
    rw [form_verbatim, keptSteps_verbatim, ← hnode]

/-- The form of a settled node is well formed. -/
theorem wellFormed_form (h : node.Settled) : (form node).WellFormed := by
  induction h with
  | composed hcomposes _ hexamples _ _ _ _ ih =>
    rw [form_composed hcomposes]
    exact wellFormed_compose hexamples (List.forall_mem_map.mpr ih)
  | verbatim hdocument _ => rwa [form_verbatim]

/-- The forms of nodes in a row are written where the form of each one is. -/
theorem writeNodes_forms {active : Active} {pending : Thunks} {state : Lifting} {nodes : List Node}
    (h : ∀ node ∈ nodes, writeNode active pending node state = (.ok (form node), state)) :
    writeNodes active pending nodes state = (.ok (nodes.map form), state) := by
  induction nodes with
  | nil => exact writeNodes_nil_eq_ok.mpr ⟨rfl, rfl⟩
  | cons node rest ih =>
    exact writeNodes_cons_eq_ok.mpr ⟨form node, rest.map form, state, h node List.mem_cons_self,
      ih fun other hother => h other (List.mem_cons_of_mem _ hother), rfl⟩

/-- The form of a settled node is written, without a change of what is known. -/
theorem writeNode_form (h : node.Settled) (active : Active) (pending : Thunks) (state : Lifting) :
    writeNode active pending node state = (.ok (form node), state) := by
  induction h with
  | composed hcomposes _ _ _ _ _ _ ih =>
    rw [form_composed hcomposes]
    exact (writeNode_eq_ok hcomposes).mpr ⟨_, writeNodes_forms ih, rfl⟩
  | verbatim =>
    rw [writeNode, form_verbatim]
    rfl

end Document

end JsonSchema
