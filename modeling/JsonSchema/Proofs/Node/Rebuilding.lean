import JsonSchema.Proofs.Node.Contents

/-!
# Nodes with other nodes inside

`Node.withChildren` keeps all that a node says itself and puts other nodes in the places of those inside
it. The nodes inside are then the ones put there, and putting those back that were there before changes
nothing.
-/

namespace JsonSchema

namespace Node

/-- A node with other nodes in the places of those inside it. -/
def withChildren : Node → List Node → Node
  | .object docs properties count, nodes =>
    .object docs (properties.zipWith (fun property node => { property with schema := node }) nodes)
      count
  | .array docs _ length, nodes => .array docs nodes.head? length
  | .tuple docs items _ length, nodes =>
    .tuple docs (nodes.take items.length) (nodes.drop items.length).head? length
  | .combined docs how _, nodes => .combined docs how nodes
  | node, _ => node

/-- As many nodes as an optional one are an optional one. -/
theorem toList_head?_of_length {α : Type} {items : List α} {other : Option α}
    (h : items.length = other.toList.length) : items.head?.toList = items := by
  cases other with
  | none =>
    obtain rfl := List.eq_nil_of_length_eq_zero h
    rfl
  | some other =>
    obtain ⟨item, rfl⟩ := List.length_eq_one_iff.mp h
    rfl

/-- The nodes that are put into a node are inside it. -/
theorem children_withChildren {node : Node} {nodes : List Node}
    (hlength : nodes.length = node.children.length) : (node.withChildren nodes).children = nodes := by
  cases node with
  | object docs properties count =>
    have hnodes : nodes.length ≤ properties.length := by
      simpa [children] using Nat.le_of_eq hlength
    simp only [withChildren, children, List.map_zipWith]
    rw [← List.map_uncurry_zip_eq_zipWith]
    exact List.map_snd_zip hnodes
  | array docs items length => exact toList_head?_of_length hlength
  | tuple docs items additional length =>
    have hrest : (nodes.drop items.length).length = additional.toList.length := by
      simp [hlength, children]
    rw [withChildren, children, toList_head?_of_length hrest, List.take_append_drop]
  | combined docs how members => rfl
  | _ =>
    obtain rfl := List.eq_nil_of_length_eq_zero hlength
    rfl

/-- A node is as before where the nodes inside it are put back. -/
theorem withChildren_children (node : Node) : node.withChildren node.children = node := by
  cases node with
  | object docs properties count =>
    have hproperties : properties.zipWith
        (fun property node => { property with schema := node }) (properties.map (·.schema)) =
          properties := by
      induction properties with
      | nil => rfl
      | cons property rest ih => simp [ih]
    rw [children, withChildren, hproperties]
  | array docs items length => cases items <;> rfl
  | tuple docs items additional length =>
    rw [children, withChildren, List.take_left' rfl, List.drop_left' rfl]
    cases additional <;> rfl
  | _ => rfl

end Node

end JsonSchema
