import JsonSchema.Proofs.Node.Rebuilding
import Mathlib.Data.List.Basic

/-!
# Other targets in references

`Node.retarget` puts another target into every reference in a node, wherever it stands. All that the nodes
say otherwise stays as it is, and so does the way in which they stand inside each other.
-/

namespace JsonSchema

namespace Node

/-- The node with other targets in its references. -/
def retarget (f : String → String) (node : Node) : Node :=
  match node with
  | .reference docs target => .reference docs (f target)
  | node => node.withChildren (node.children.attach.map fun ⟨child, h⟩ =>
    have := sizeOf_lt_of_mem_children h
    child.retarget f)
termination_by sizeOf node

variable {f : String → String} {node : Node}

/-- A reference gets its new target. -/
@[simp] theorem retarget_reference (docs : Documentation) (target : String) :
    (Node.reference docs target).retarget f = .reference docs (f target) := by
  rw [retarget]

/-- A node that is no reference keeps all but the nodes inside it. -/
theorem retarget_eq_withChildren (h : ∀ docs target, node ≠ .reference docs target) :
    node.retarget f = node.withChildren (node.children.map (retarget f)) := by
  rw [retarget]
  · exact congrArg node.withChildren (List.attach_map_val (l := node.children) (f := retarget f))
  · exact h

/-- The nodes inside are those that were there, with other targets. -/
theorem children_retarget : (node.retarget f).children = node.children.map (retarget f) := by
  by_cases h : ∃ docs target, node = .reference docs target
  · obtain ⟨docs, target, rfl⟩ := h
    rw [retarget_reference]
    rfl
  · rw [retarget_eq_withChildren fun docs target heq => h ⟨docs, target, heq⟩]
    exact children_withChildren (List.length_map _)

/-- Each property gets other targets in its schema. -/
theorem retarget_object (docs : Documentation) (properties : List (Property Node)) (count : Bounds Int) :
    (Node.object docs properties count).retarget f =
      .object docs (properties.map fun property =>
        { property with schema := property.schema.retarget f }) count := by
  rw [retarget_eq_withChildren (by simp), withChildren, children, List.map_map, List.zipWith_map_right,
    List.zipWith_self]
  rfl

/-- The schema of the items gets other targets. -/
theorem retarget_array (docs : Documentation) (items : Option Node) (length : Bounds Int) :
    (Node.array docs items length).retarget f = .array docs (items.map (retarget f)) length := by
  rw [retarget_eq_withChildren (by simp)]
  cases items <;> rfl

/-- The schemas of the items and the one of the others get other targets. -/
theorem retarget_tuple (docs : Documentation) (items : List Node) (additional : Option Node)
    (length : Bounds Int) : (Node.tuple docs items additional length).retarget f =
      .tuple docs (items.map (retarget f)) (additional.map (retarget f)) length := by
  rw [retarget_eq_withChildren (by simp), withChildren, children, List.map_append,
    List.take_left' (List.length_map _), List.drop_left' (List.length_map _)]
  cases additional <;> rfl

/-- A node whose references keep their targets stays as it is. -/
theorem retarget_eq_self (h : ∀ target ∈ node.references, f target = target) :
    node.retarget f = node := by
  induction node using Node.induction_children with
  | step node ih =>
    by_cases href : ∃ docs target, node = .reference docs target
    · obtain ⟨docs, target, rfl⟩ := href
      rw [retarget_reference, h target (List.mem_singleton_self _)]
    · have hinside : node.children.map (retarget f) = node.children := by
        calc node.children.map (retarget f) = node.children.map id := by
              apply List.map_congr_left
              intro child hchild
              exact ih child hchild fun target htarget =>
                h target (mem_references_of_mem_children hchild htarget)
          _ = node.children := List.map_id _
      rw [retarget_eq_withChildren fun docs target heq => href ⟨docs, target, heq⟩, hinside,
        withChildren_children]

end Node

/-- The link with another target. -/
def Link.retarget (f : String → String) : Link → Link
  | .reference target => .reference (f target)
  | .deferred thunk => .deferred thunk

/-- The links of nodes are those of each one in a row. -/
theorem listLinks_eq_flatMap (nodes : List Node) : listLinks nodes = nodes.flatMap Node.links := by
  induction nodes with
  | nil => rfl
  | cons node rest ih => rw [listLinks, ih, List.flatMap_cons]

/-- What is met before a property or an item is entered has other targets, too. -/
theorem Node.links_retarget {f : String → String} {node : Node} :
    (node.retarget f).links = node.links.map (Link.retarget f) := by
  induction node using Node.induction_children with
  | step node ih =>
    cases node with
    | reference docs target =>
      rw [retarget_reference]
      rfl
    | deferred thunk =>
      rw [retarget_eq_withChildren (by simp)]
      cases thunk <;> rfl
    | combined docs how members =>
      rw [retarget_eq_withChildren (by simp)]
      change listLinks (members.map (retarget f)) = (listLinks members).map (Link.retarget f)
      rw [listLinks_eq_flatMap, listLinks_eq_flatMap, List.flatMap_map, List.map_flatMap]
      exact List.flatMap_congr ih
    | _ =>
      rw [retarget_eq_withChildren (by simp)]
      rfl

end JsonSchema
