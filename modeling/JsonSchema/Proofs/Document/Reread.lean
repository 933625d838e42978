import JsonSchema.Proofs.Document.RoundTrip
import JsonSchema.Proofs.Document.Settled
import JsonSchema.Proofs.Node.Rebuilding

/-!
# Nodes that come from documents

Whatever a well-formed document says, the node that it is read as is settled. What the keywords ask for
is what makes a node settled: a schema that may be absent is not null, the items of an array are not an
array, and properties stand under different names. So the form of the node is read as the node again,
although it need not be the document that was read.
-/

namespace JsonSchema

/-- The format of a string is the one that is read from its label. -/
def Node.Formatted : Node → Prop
  | .string _ rules => (rules.format.map fun format => Format.ofLabel format.label) = rules.format
  | _ => True

namespace Document

/-- The node of a part. -/
abbrev nodeOf (part : Json) : Node := (parse part).node

/-- A part that is no object is kept, so its node has it as its form. -/
theorem form_nodeOf_of_not_object {part : Json} (h : ∀ members, part ≠ .object members) :
    form (nodeOf part) = part := by
  rw [nodeOf, parse_of_not_object h, form_verbatim]

/-- The form of a node that an object is read as is an object. -/
theorem form_nodeOf_object (members : Entries Json) :
    ∃ others, form (nodeOf (.object members)) = .object others := by
  rcases node_parse (.object members) with hverbatim | hcomposes
  · exact ⟨members, by rw [nodeOf, hverbatim, form_verbatim]⟩
  · exact ⟨_, form_composed hcomposes⟩

/-- The form of the node of a part is null where the part is. -/
theorem form_nodeOf_eq_null {part : Json} : form (nodeOf part) = .null ↔ part = .null := by
  cases part with
  | object members =>
    obtain ⟨others, hform⟩ := form_nodeOf_object members
    simp [hform]
  | _ => rw [form_nodeOf_of_not_object (by simp)]

/-- The form of the node of a part is an array where the part is. -/
theorem form_nodeOf_eq_array {part : Json} {values : List Json} :
    form (nodeOf part) = .array values ↔ part = .array values := by
  cases part with
  | object members =>
    obtain ⟨others, hform⟩ := form_nodeOf_object members
    simp [hform]
  | _ => rw [form_nodeOf_of_not_object (by simp)]

/-- Parts that are not null are read where a schema may be absent. -/
theorem present_head?_of_ne_null {part : Option Json} (h : part ≠ some .null) :
    present (part.toList.map fun part => form (nodeOf part)).head? =
      part.toList.map fun part => form (nodeOf part) := by
  cases part with
  | none => rfl
  | some part =>
    have hform : form (nodeOf part) ≠ .null := fun hnull =>
      h (congrArg _ (form_nodeOf_eq_null.mp hnull))
    cases hpart : form (nodeOf part) with
    | null => exact absurd hpart hform
    | _ => simp [hpart, present]

/-- What is put together from the nodes of parts asks of them what makes a node settled. -/
structure Restores (parts : List Json) (node : Node) : Prop where
  composes : node.composes
  typed : node.Typed
  examples : ∀ item ∈ node.docs.examples, item.WellFormed
  children : node.children = parts.map nodeOf
  formatted : node.Formatted
  array : ∀ docs items length, node = .array docs items length → ∀ values, .array values ∉ parts
  readable : readable node (parts.map fun part => form (nodeOf part)) =
    parts.map fun part => form (nodeOf part)

/-- A node is put together again from the nodes inside it where its format is read from its label. -/
theorem recompose_children {node : Node} (h : node.Formatted) :
    recompose node node.children = node := by
  have hnode := node.withChildren_children
  cases node with
  | string docs rules =>
    rw [Node.Formatted] at h
    rw [recompose, h]
  | _ => exact hnode

/-- What is put together from the nodes of parts is settled where those are. -/
theorem Restores.settled {parts : List Json} {node : Node} (h : Restores parts node)
    (hparts : ∀ part ∈ parts, (nodeOf part).Settled) : node.Settled := by
  have hforms : node.children.map form = parts.map fun part => form (nodeOf part) := by
    rw [h.children, List.map_map]
    rfl
  refine .composed h.composes h.typed h.examples (recompose_children h.formatted) ?_
    (by rw [hforms, h.readable]) fun child hchild => ?_
  · rw [hforms]
    refine ⟨by simp [h.children], fun docs items length heq values hvalues => ?_⟩
    obtain ⟨part, hpart, hform⟩ := List.mem_map.mp hvalues
    exact h.array docs items length heq values (form_nodeOf_eq_array.mp hform ▸ hpart)
  · rw [h.children] at hchild
    obtain ⟨part, hpart, rfl⟩ := List.mem_map.mp hchild
    exact hparts part hpart

section Shapes

open Shape

/-- Whether what a shape puts together from the nodes of its parts makes a settled node. -/
def Keeps (shape : Shape) : Prop :=
  ∀ assemble, shape.outcome = .node assemble → Restores shape.parts (assemble (shape.parts.map nodeOf))

/-- A document without schemas inside keeps its node where that has none inside. -/
theorem keeps_leaf {result : Except Mismatch Node}
    (h : ∀ node, result = .ok node → Restores [] node) : Keeps (leaf result) := by
  intro assemble hassemble
  obtain ⟨node, hnode, rfl⟩ := exists_of_outcome_leaf hassemble
  exact h node hnode

/-- A document with schemas inside keeps its node where its first and last checks lead to that. -/
theorem keeps_branch {α β : Type} {first : Except Mismatch α} {parts : List Json}
    {last : Except Mismatch β} {assemble : α → β → List Node → Node}
    (h : ∀ a b, first = .ok a → last = .ok b → Restores parts (assemble a b (parts.map nodeOf))) :
    Keeps (branch first parts last assemble) := by
  intro put hput
  obtain ⟨a, b, ha, hb, hparts, rfl⟩ := exists_of_outcome_branch hput
  rw [hparts]
  exact h a b ha hb

variable {members : Entries Json} (hmembers : ∀ entry ∈ members, entry.2.WellFormed)
include hmembers

/-- The properties of an object are put together again. -/
theorem keeps_object : Keeps (object members) := by
  refine keeps_branch fun checked count hchecked _ => ?_
  obtain ⟨required, -, hrest⟩ := exists_of_bind_eq_ok hchecked
  obtain ⟨docs, hdocs, hpure⟩ := exists_of_bind_eq_ok hrest
  cases hpure
  obtain ⟨hnames, -⟩ := wellFormed_declared hmembers
  have hproperties : ∀ entries : Entries Json,
      (properties (Entries.names entries) required ((entries.map Prod.snd).map nodeOf)).map
        (·.schema) = (entries.map Prod.snd).map nodeOf ∧
      (properties (Entries.names entries) required ((entries.map Prod.snd).map nodeOf)).map
        (·.name) = Entries.names entries := by
    intro entries
    induction entries with
    | nil => exact ⟨rfl, rfl⟩
    | cons entry rest ih =>
      exact ⟨congrArg (nodeOf entry.2 :: ·) ih.1, congrArg (entry.1 :: ·) ih.2⟩
  exact {
    composes := rfl
    typed := by
      rw [Node.Typed, (hproperties _).2]
      exact hnames
    examples := Attribute.wellFormed_examples hmembers hdocs
    children := (hproperties _).1
    formatted := trivial
    array := fun _ _ _ harray => by cases harray
    readable := rfl }

/-- The items of an array are put together again, if they are no array. -/
theorem keeps_array (htuple : isTuple members = false) : Keeps (array members) := by
  refine keeps_branch fun docs length hdocs _ => ?_
  have hnull : schema? members "items" ≠ some .null := by
    unfold schema?
    split <;> simp_all
  exact {
    composes := rfl
    typed := trivial
    examples := Attribute.wellFormed_examples hmembers hdocs
    children := by
      cases schema? members "items" <;> rfl
    formatted := trivial
    array := fun _ _ _ _ values hvalues => by
      have hitems := Option.mem_toList.mp hvalues
      unfold schema? at hitems
      split at hitems <;> simp_all [isTuple]
    readable := present_head?_of_ne_null hnull }

/-- The items of a tuple and the schema of its other items are put together again. -/
theorem keeps_tuple : Keeps (tuple members) := by
  refine keeps_branch fun docs length hchecked _ => ?_
  obtain ⟨-, -, hdocs⟩ := exists_of_bind_eq_ok hchecked
  have hnull : schema? members "additionalItems" ≠ some .null := by
    unfold schema?
    split <;> simp_all
  have htake : ∀ {α : Type} (f : Json → α), ((placed members ++
      (schema? members "additionalItems").toList).map f).take (placed members).length =
        (placed members).map f := fun f => by simp
  have hdrop : ∀ {α : Type} (f : Json → α), ((placed members ++
      (schema? members "additionalItems").toList).map f).drop (placed members).length =
        (schema? members "additionalItems").toList.map f := fun f => by simp
  exact {
    composes := rfl
    typed := trivial
    examples := Attribute.wellFormed_examples hmembers hdocs
    children := by
      rw [Node.children, htake, hdrop, List.map_append]
      cases schema? members "additionalItems" <;> rfl
    formatted := trivial
    array := fun _ _ _ harray => by cases harray
    readable := by
      have hlength : (((placed members ++ (schema? members "additionalItems").toList).map
          nodeOf).take (placed members).length).length = (placed members).length := by simp
      rw [readable, hlength, htake, hdrop, present_head?_of_ne_null hnull, List.map_append] }

/-- A node without nodes inside is put together from no parts. -/
theorem restores_leaf {node : Node} {docs : Documentation} (hcomposes : node.composes)
    (htyped : node.Typed) (hformatted : node.Formatted) (hchildren : node.children = [])
    (hdocs : Attribute.docs members = .ok docs) (hnode : node.docs = docs) : Restores [] node := by
  subst hnode
  exact {
    composes := hcomposes
    typed := htyped
    examples := Attribute.wellFormed_examples hmembers hdocs
    children := hchildren
    formatted := hformatted
    array := fun _ _ _ _ _ => List.not_mem_nil
    readable := by cases node <;> simp [readable, present] }

/-- A document with a type keeps its node. -/
theorem keeps_ofType : Keeps (ofType members) := by
  unfold ofType
  split
  · exact keeps_object hmembers
  · cases htuple : isTuple members with
    | true => exact keeps_tuple hmembers
    | false => exact keeps_array hmembers htuple
  · refine keeps_leaf fun node hnode => ?_
    obtain ⟨format, -, hnode⟩ := exists_of_bind_eq_ok hnode
    obtain ⟨enum, -, hnode⟩ := exists_of_bind_eq_ok hnode
    obtain ⟨length, -, hnode⟩ := exists_of_bind_eq_ok hnode
    obtain ⟨pattern, -, hnode⟩ := exists_of_bind_eq_ok hnode
    obtain ⟨docs, hdocs, hnode⟩ := exists_of_bind_eq_ok hnode
    cases hnode
    have hformat : Node.Formatted
        (.string docs ⟨enum, length, pattern, format.map Format.ofLabel⟩) := by
      simp [Node.Formatted, Function.comp_def, Format.label_ofLabel]
    exact restores_leaf hmembers rfl trivial hformat rfl hdocs rfl
  · refine keeps_leaf fun node hnode => ?_
    obtain ⟨enum, -, hnode⟩ := exists_of_bind_eq_ok hnode
    obtain ⟨range, -, hnode⟩ := exists_of_bind_eq_ok hnode
    obtain ⟨docs, hdocs, hnode⟩ := exists_of_bind_eq_ok hnode
    cases hnode
    exact restores_leaf hmembers rfl ⟨enum, range, rfl⟩ trivial rfl hdocs rfl
  · refine keeps_leaf fun node hnode => ?_
    obtain ⟨enum, -, hnode⟩ := exists_of_bind_eq_ok hnode
    obtain ⟨least, -, hnode⟩ := exists_of_bind_eq_ok hnode
    obtain ⟨greatest, -, hnode⟩ := exists_of_bind_eq_ok hnode
    obtain ⟨docs, hdocs, hnode⟩ := exists_of_bind_eq_ok hnode
    cases hnode
    exact restores_leaf hmembers rfl trivial trivial rfl hdocs rfl
  · refine keeps_leaf fun node hnode => ?_
    obtain ⟨enum, -, hnode⟩ := exists_of_bind_eq_ok hnode
    obtain ⟨docs, hdocs, hnode⟩ := exists_of_bind_eq_ok hnode
    cases hnode
    exact restores_leaf hmembers rfl trivial trivial rfl hdocs rfl
  · refine keeps_leaf fun node hnode => ?_
    obtain ⟨docs, hdocs, hnode⟩ := exists_of_bind_eq_ok hnode
    cases hnode
    exact restores_leaf hmembers rfl trivial trivial rfl hdocs rfl
  · exact fun _ h => nomatch h

/-- Every document keeps the node that is put together from its parts. -/
theorem keeps_ofMembers : Keeps (ofMembers members) := by
  unfold ofMembers
  split
  · refine keeps_leaf fun node hnode => ?_
    split at hnode
    · obtain ⟨docs, hdocs, hnode⟩ := exists_of_bind_eq_ok hnode
      cases hnode
      exact restores_leaf hmembers rfl trivial trivial rfl hdocs rfl
    · cases hnode
  · split
    · refine keeps_branch fun docs _ hchecked _ => ?_
      obtain ⟨-, -, hdocs⟩ := exists_of_bind_eq_ok hchecked
      exact {
        composes := rfl
        typed := trivial
        examples := Attribute.wellFormed_examples hmembers hdocs
        children := rfl
        formatted := trivial
        array := fun _ _ _ harray => by cases harray
        readable := rfl }
    · exact keeps_ofType hmembers

end Shapes

/-- A document that is not kept verbatim is put together by its shape. -/
theorem exists_assemble {members : Entries Json} (hcomposes : (nodeOf (.object members)).composes) :
    ∃ assemble, (Shape.ofMembers members).outcome = .node assemble ∧
      nodeOf (.object members) = assemble ((Shape.ofMembers members).parts.map nodeOf) := by
  rw [nodeOf, parse_object] at hcomposes ⊢
  cases houtcome : (Shape.ofMembers members).outcome with
  | node assemble => exact ⟨assemble, rfl, by simp [conclude, houtcome, Function.comp_def]⟩
  | _ => simp [conclude, houtcome, Node.composes] at hcomposes

/-- A document that is not kept verbatim is put together from the nodes of its parts. -/
theorem restores_nodeOf {members : Entries Json} (hmembers : ∀ entry ∈ members, entry.2.WellFormed)
    (hcomposes : (nodeOf (.object members)).composes) :
    Restores (Shape.ofMembers members).parts (nodeOf (.object members)) := by
  obtain ⟨assemble, houtcome, hnode⟩ := exists_assemble hcomposes
  rw [hnode]
  exact keeps_ofMembers hmembers assemble houtcome

/-- A well-formed document is read as a settled node. -/
theorem settled_nodeOf {document : Json} (h : document.WellFormed) : (nodeOf document).Settled := by
  induction document, h using induction_wellFormed with
  | kept document h hobject =>
    rw [nodeOf, parse_of_not_object hobject]
    exact .verbatim h (by rw [parse_of_not_object hobject])
  | object members h _ ihparts =>
    rcases node_parse (.object members) with hverbatim | hcomposes
    · rw [nodeOf, hverbatim]
      exact .verbatim h hverbatim
    · exact (restores_nodeOf (Json.wellFormed_object.mp h).2 hcomposes).settled
        fun part hpart => (ihparts part hpart).2

end Document

end JsonSchema
