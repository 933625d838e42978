import JsonSchema.Proofs.Document.Normalizing
import JsonSchema.Proofs.Document.Proper
import JsonSchema.Proofs.Node.Retargeting
import JsonSchema.Proofs.Node.Similarity

/-!
# Forms that come apart again

The form of a node holds the forms of the nodes inside it. These are the parts that are read of it unless
two properties have one name, a null document stands where a schema may be absent, or an array makes a
tuple of an array. A node without these defects is parted, and so is every node that a settled one is equal
to. What is hoisted when the form of a parted node is read comes from the documents that are kept in it,
whatever its references speak of.
-/

namespace JsonSchema

open Document

namespace Node

/-- What is read of the form of the node are the forms of the nodes inside it. -/
def Parted : Node → Prop
  | .object _ properties _ => (properties.map (·.name)).Nodup
  | .array _ (some items) _ => items ≠ .verbatim .null ∧ ∀ values, items ≠ .verbatim (.array values)
  | .tuple _ _ (some additional) _ => additional ≠ .verbatim .null
  | .deferred _ | .unknown => False
  | _ => True

variable {node other : Node}

/-- Only a null document is equal to a null document. -/
theorem eq_verbatim_null_of_same (h : node.same (.verbatim .null) = true) : node = .verbatim .null := by
  cases node with
  | verbatim document => cases document <;> simp_all [same, Json.same, Json.number?]
  | _ => simp [same] at h

/-- Only an array that is kept is equal to an array that is kept. -/
theorem exists_of_same_array {values : List Json} (h : node.same (.verbatim (.array values)) = true) :
    ∃ others, node = .verbatim (.array others) := by
  cases node with
  | verbatim document => cases document <;> simp_all [same, Json.same, Json.number?]
  | _ => simp [same] at h

/-- A node that a settled one is equal to is parted. -/
theorem Settled.parted_of_same (h : node.Settled) (hsame : node.same other = true) : other.Parted := by
  have hproper := h.proper
  have hinside := forall₂_children_of_same hsame
  cases other with
  | object docs properties count =>
    cases node with
    | object docs' properties' count' =>
      simp only [same, Bool.and_eq_true] at hsame
      have hnames := (forall₂_of_sameProperties hsame.1.2).1
      rwa [Parted, ← hnames]
    | _ => simp [same] at hsame
  | array docs items length =>
    cases items with
    | none => trivial
    | some items =>
      cases node with
      | array docs' items' length' =>
        cases items' with
        | none => cases hinside
        | some items' =>
          obtain ⟨hitems, -⟩ := List.forall₂_cons.mp hinside
          refine ⟨?_, ?_⟩
          · rintro rfl
            exact hproper.1 (eq_verbatim_null_of_same hitems)
          · rintro values rfl
            obtain ⟨others, rfl⟩ := exists_of_same_array hitems
            exact hproper.2 others rfl
      | _ => simp [same] at hsame
  | tuple docs items additional length =>
    cases additional with
    | none => trivial
    | some additional =>
      cases node with
      | tuple docs' items' additional' length' =>
        simp only [same, Bool.and_eq_true] at hsame
        cases additional' with
        | none => simp [sameOptionalNode] at hsame
        | some additional' =>
          rintro rfl
          rw [sameOptionalNode] at hsame
          exact hproper (eq_verbatim_null_of_same hsame.1.2)
      | _ => simp [same] at hsame
  | deferred thunk =>
    cases node with
    | deferred thunk' => exact hproper
    | _ => simp [same] at hsame
  | unknown =>
    cases node with
    | unknown => exact hproper
    | _ => simp [same] at hsame
  | _ => trivial

/-- A parted node is composed, or it is a document that is kept. -/
theorem Parted.cases (h : node.Parted) : node.composes ∨ ∃ document, node = .verbatim document := by
  cases node with
  | verbatim document => exact .inr ⟨document, rfl⟩
  | deferred | unknown => cases h
  | _ => exact .inl rfl

/-- A parted node is typed, unless it asks for integers with numbers that are none. -/
theorem Parted.typed (h : node.Parted) : node.Typed ∨ ∃ docs rules, node = .integer docs rules := by
  cases node with
  | object => exact .inl h
  | integer docs rules => exact .inr ⟨docs, rules, rfl⟩
  | _ => exact .inl trivial

section Retargeting

variable {f : String → String}

/-- A node with other targets is composed like the node. -/
theorem composes_retarget : (node.retarget f).composes = node.composes := by
  cases node with
  | reference docs target => rw [retarget_reference]; rfl
  | _ => rw [retarget_eq_withChildren (by simp)]; rfl

/-- A node that is not composed holds no references. -/
theorem retarget_of_not_composes (h : ¬ node.composes) : node.retarget f = node := by
  cases node with
  | deferred | verbatim | unknown => rw [retarget_eq_withChildren (by simp)]; rfl
  | _ => exact absurd rfl h

/-- Only a document that is kept stays one. -/
theorem eq_verbatim_of_retarget {document : Json} (h : node.retarget f = .verbatim document) :
    node = .verbatim document := by
  by_cases hcomposes : node.composes
  · rw [← composes_retarget (f := f), h] at hcomposes
    cases hcomposes
  · rwa [retarget_of_not_composes hcomposes] at h

/-- A node with other targets carries the same documentation. -/
theorem docs_retarget : (node.retarget f).docs = node.docs := by
  cases node with
  | reference docs target => rw [retarget_reference]; rfl
  | _ => rw [retarget_eq_withChildren (by simp)]; rfl

/-- A typed node stays typed where its references get other targets. -/
theorem Typed.retarget (h : node.Typed) : (node.retarget f).Typed := by
  cases node with
  | reference docs target => rw [retarget_reference]; trivial
  | object docs properties count =>
    rw [retarget_object, Typed, List.map_map]
    exact h
  | _ => rw [retarget_eq_withChildren (by simp)]; exact h

/-- A parted node stays parted where its references get other targets. -/
theorem Parted.retarget (h : node.Parted) : (node.retarget f).Parted := by
  cases node with
  | reference docs target => rw [retarget_reference]; trivial
  | object docs properties count =>
    rw [retarget_object, Parted, List.map_map]
    exact h
  | array docs items length =>
    rw [retarget_array]
    cases items with
    | none => trivial
    | some items => exact ⟨fun heq => h.1 (eq_verbatim_of_retarget heq),
        fun values heq => h.2 values (eq_verbatim_of_retarget heq)⟩
  | tuple docs items additional length =>
    rw [retarget_tuple]
    cases additional with
    | none => trivial
    | some additional => exact fun heq => h (eq_verbatim_of_retarget heq)
  | combined docs how members =>
    rw [retarget_eq_withChildren (by simp)]
    trivial
  | _ => rwa [retarget_eq_withChildren (by simp)]

end Retargeting

end Node

namespace Document

variable {node : Node}

/-- A node whose form is no object is a document that is kept. -/
theorem eq_verbatim_form (h : ∀ members, form node ≠ .object members) : node = .verbatim (form node) := by
  by_cases hverbatim : ∃ document, node = .verbatim document
  · obtain ⟨document, rfl⟩ := hverbatim
    rw [form_verbatim]
  · refine absurd ?_ (h (compose node (node.children.map form)))
    rw [form]
    · simp
    · exact fun document heq => hverbatim ⟨document, heq⟩

/-- The forms of the nodes inside a parted node fit it. -/
theorem fits_forms (h : node.Parted) : Fits node (node.children.map form) := by
  refine ⟨List.length_map _, ?_⟩
  rintro docs items length rfl values hvalues
  obtain ⟨items, hitems, hform⟩ := List.mem_map.mp hvalues
  obtain rfl := Option.mem_toList.mp hitems
  have hkept : items = .verbatim (form items) := eq_verbatim_form (by simp [hform])
  exact h.2 values (hform ▸ hkept)

/-- The forms of the nodes inside a parted node are read. -/
theorem readable_forms (h : node.Parted) :
    readable node (node.children.map form) = node.children.map form := by
  have hpresent : ∀ child : Node, child ≠ .verbatim .null →
      present (some (form child)) = [form child] := by
    intro child hchild
    cases hform : form child with
    | null => exact absurd (hform ▸ eq_verbatim_form (by simp [hform])) hchild
    | _ => rfl
  cases node with
  | array docs items length =>
    cases items with
    | none => rfl
    | some items => exact hpresent items h.1
  | tuple docs items additional length =>
    cases additional with
    | none => simp [readable, Node.children, present, List.take_of_length_le]
    | some additional => simp [readable, Node.children, hpresent additional h]
  | _ => rfl

/-- The form of a parted node is read as the node put together from the nodes that are read inside it,
with their steps. -/
theorem parse_form_parted (h : node.Parted) (hcomposes : node.composes) (htyped : node.Typed) :
    parse (form node) = ⟨recompose node (node.children.map fun child => nodeOf (form child)),
      node.children.flatMap fun child => (parse (form child)).steps⟩ := by
  rw [form_composed hcomposes, parse_compose hcomposes htyped (fits_forms h), readable_forms h,
    List.map_map, List.flatMap_map]
  rfl

/-- The parts that are read of the form of a parted node are the forms of the nodes inside it. -/
theorem parts_form (h : node.Parted) (hcomposes : node.composes) :
    (Shape.ofMembers (compose node (node.children.map form))).parts = node.children.map form := by
  rcases h.typed with htyped | ⟨docs, rules, rfl⟩
  · rw [shape_compose hcomposes htyped (fits_forms h)]
    exact readable_forms h
  · rw [compose, shape_typedMembers, Shape.ofType, type_typedMembers]
    · rfl
    all_goals simp [numberAttributes, enumAttribute]

/-- A composed document hoists what its parts hoist. -/
theorem hoists_parse_compose (node : Node) (parts : List Json) :
    hoists (parse (.object (compose node parts))).steps = partHoists (compose node parts) := by
  rw [hoists_parse_object, ownHoists, defined, find?_definitions_compose, List.nil_append]

/-- The documents kept in a node stay where its references get other targets. -/
theorem keptSteps_retarget (f : String → String) (node : Node) :
    keptSteps (node.retarget f) = keptSteps node := by
  induction node using Node.induction_children with
  | step node ih =>
    by_cases hcomposes : node.composes
    · rw [keptSteps_composed hcomposes, keptSteps_composed (Node.composes_retarget.trans hcomposes),
        Node.children_retarget, List.flatMap_map]
      exact List.flatMap_congr ih
    · rw [Node.retarget_of_not_composes hcomposes]

section Schemas

variable {schema : Schema} (hparted : ∀ node, schema.Contains [] node → node.Parted)
include hparted

/-- What is hoisted when the form of a node is read comes from the documents that are kept in the node. -/
theorem hoists_parse_form (hnode : schema.Contains [] node) :
    hoists (parse (form node)).steps = hoists (keptSteps node) := by
  induction node using Node.induction_children with
  | step node ih =>
    rcases (hparted node hnode).cases with hcomposes | ⟨document, rfl⟩
    · rw [form_composed hcomposes, hoists_parse_compose, partHoists,
        parts_form (hparted node hnode) hcomposes, keptSteps_composed hcomposes, hoists_flatMap,
        List.flatMap_map]
      exact List.flatMap_congr fun child hchild => ih child hchild (hnode.child hchild)
    · rw [form_verbatim, keptSteps_verbatim]

/-- The form of a node is written, without a change of what is known. -/
theorem writeNode_form_parted (hnode : schema.Contains [] node) (active : Active) (pending : Thunks)
    (state : Lifting) : writeNode active pending node state = (.ok (form node), state) := by
  induction node using Node.induction_children with
  | step node ih =>
    rcases (hparted node hnode).cases with hcomposes | ⟨document, rfl⟩
    · rw [form_composed hcomposes]
      exact (writeNode_eq_ok hcomposes).mpr ⟨_, writeNodes_forms fun child hchild =>
        ih child hchild (hnode.child hchild), rfl⟩
    · rw [writeNode, form_verbatim]
      rfl

/-- The form of the schema is written. -/
theorem write_parted (hnames : (Entries.names schema.definitions).Nodup) :
    (write [] schema).value = .ok (schemaForm schema) :=
  write_forms (fun _ hnode state =>
    writeNode_form_parted hparted (contains_of_mem_nodes hnode) [] [] state) hnames

section Root

variable (hcomposes : schema.root.composes) (hdefinitions : schema.definitions ≠ [])
include hcomposes hdefinitions

/-- From the form of the schema the definitions are hoisted after what the documents kept in their bodies
hoist, and before what those kept in the root do. -/
theorem hoists_parse_schemaForm_parted (hnames : (Entries.names schema.definitions).Nodup) :
    hoists (parse (schemaForm schema)).steps =
      (schema.definitions.flatMap fun entry => hoists (keptSteps entry.2)) ++
        (schema.definitions.map fun entry => (entry.1, nodeOf (form entry.2))) ++
          hoists (keptSteps schema.root) := by
  have hbodies : ((forms schema.definitions).flatMap fun entry => hoists (parse entry.2).steps) =
      schema.definitions.flatMap fun entry => hoists (keptSteps entry.2) := by
    rw [forms, List.flatMap_map]
    exact List.flatMap_congr fun entry hentry =>
      hoists_parse_form hparted (.definition hentry)
  have hnodes : Entries.ofList ((forms schema.definitions).map fun entry => (entry.1, nodeOf entry.2)) =
      schema.definitions.map fun entry => (entry.1, nodeOf (form entry.2)) := by
    rw [forms, List.map_map]
    exact Entries.ofList_of_nodup (by simpa [Entries.names, Function.comp_def] using hnames)
  have hparts : partHoists (compose schema.root (schema.root.children.map form)) =
      hoists (keptSteps schema.root) := by
    rw [← hoists_parse_compose, ← form_composed hcomposes]
    exact hoists_parse_form hparted .root
  rw [schemaForm_eq_put (form_composed hcomposes) hdefinitions, hoists_parse_put, hbodies, hnodes, hparts]

/-- Under a name the form of the schema defines what the documents kept in the root hoist last, or else
what the form of the definition is read as, or else what the documents kept in bodies hoist last. -/
theorem find?_read_schemaForm (hnames : (Entries.names schema.definitions).Nodup) (name : String) :
    Entries.find? name (read (schemaForm schema)).value.definitions =
      ((Entries.find? name (hoists (keptSteps schema.root)).reverse).or
        ((Entries.find? name schema.definitions).map fun body => nodeOf (form body))).or
        (Entries.find? name
          (schema.definitions.flatMap fun entry => hoists (keptSteps entry.2)).reverse) := by
  have hnodes : Entries.find? name
      (schema.definitions.map fun entry => (entry.1, nodeOf (form entry.2))).reverse =
        (Entries.find? name schema.definitions).map fun body => nodeOf (form body) := by
    rw [Entries.find?_perm (List.reverse_perm _) (by simpa [Entries.names, Function.comp_def] using hnames)]
    exact Entries.find?_map (fun body => nodeOf (form body)) name schema.definitions
  rw [definitions_eq_ofList, hoists_parse_schemaForm_parted hparted hcomposes hdefinitions hnames,
    Entries.find?_ofList, List.reverse_append, List.reverse_append, Entries.find?_append,
    Entries.find?_append, hnodes, Option.or_assoc]

omit hparted in
/-- The root is read from the form of the schema as from its own form, if one of the two is read as an equal
node. -/
theorem nodeOf_schemaForm_of_same (h : (nodeOf (form schema.root)).same schema.root = true ∨
    (nodeOf (schemaForm schema)).same schema.root = true) :
    nodeOf (schemaForm schema) = nodeOf (form schema.root) := by
  have hnot : ∀ document, (Node.verbatim document).same schema.root ≠ true := by
    intro document hsame
    cases hroot : schema.root <;> simp_all [Node.same, Node.composes]
  rw [schemaForm_eq_put (form_composed hcomposes) hdefinitions] at h ⊢
  rw [form_composed hcomposes] at h ⊢
  rcases nodeOf_put (forms schema.definitions)
    (compose schema.root (schema.root.children.map form)) with hnode | ⟨hverbatim, hnode⟩
  · exact hnode
  · rw [hverbatim, hnode] at h
    rcases h with h | h
    · exact absurd h (hnot _)
    · exact absurd h (hnot _)

end Root

end Schemas

/-- Only the forms of nodes are written where none of them is deferred, without a change of what is
known. -/
theorem eq_forms_of_writeNodes {active : Active} {pending : Thunks} {state final : Lifting}
    {nodes : List Node} {parts : List Json}
    (hnodes : ∀ node ∈ nodes, ∀ state document final,
      writeNode active pending node state = (.ok document, final) → document = form node ∧ final = state)
    (h : writeNodes active pending nodes state = (.ok parts, final)) :
    parts = nodes.map form ∧ final = state := by
  induction nodes generalizing state parts with
  | nil => exact writeNodes_nil_eq_ok.mp h
  | cons node rest ih =>
    obtain ⟨hnode, hrest⟩ := List.forall_mem_cons.mp hnodes
    obtain ⟨part, others, between, hpart, hothers, rfl⟩ := writeNodes_cons_eq_ok.mp h
    obtain ⟨rfl, rfl⟩ := hnode _ _ _ hpart
    obtain ⟨rfl, rfl⟩ := ih hrest hothers
    exact ⟨rfl, rfl⟩

section Lazy

variable {schema : Schema}
  (hpresent : ∀ node, schema.Contains [] node → ∀ thunk, node ≠ .deferred thunk)
include hpresent

/-- Only the form of a node is written where no node is deferred. -/
theorem eq_form_of_writeNode (hnode : schema.Contains [] node) {active : Active} {pending : Thunks}
    {state final : Lifting} {document : Json}
    (h : writeNode active pending node state = (.ok document, final)) :
    document = form node ∧ final = state := by
  induction node using Node.induction_children generalizing state document final with
  | step node ih =>
    by_cases hcomposes : node.composes
    · obtain ⟨parts, hparts, rfl⟩ := (writeNode_eq_ok hcomposes).mp h
      obtain ⟨rfl, rfl⟩ := eq_forms_of_writeNodes
        (fun child hchild _ _ _ => ih child hchild (hnode.child hchild)) hparts
      exact ⟨(form_composed hcomposes).symm, rfl⟩
    · cases node with
      | verbatim document =>
        rw [writeNode] at h
        cases h
        exact ⟨(form_verbatim _).symm, rfl⟩
      | deferred thunk => exact absurd rfl (hpresent _ hnode thunk)
      | unknown =>
        rw [writeNode] at h
        cases h
      | _ => exact absurd rfl hcomposes

/-- Only the form of the schema is written where no node is deferred. -/
theorem eq_schemaForm_of_write (hnames : (Entries.names schema.definitions).Nodup) {document : Json}
    (h : (write [] schema).value = .ok document) : document = schemaForm schema := by
  obtain ⟨root, bodies, final, hrun, rfl⟩ := write_eq_ok.mp h
  obtain ⟨hparts, rfl⟩ := eq_forms_of_writeNodes (fun node hnode _ _ _ =>
    eq_form_of_writeNode hpresent (contains_of_mem_nodes hnode)) hrun
  obtain ⟨rfl, rfl⟩ := List.cons.inj hparts
  rw [schemaForm, zip_forms, List.append_nil,
    Entries.ofList_of_nodup ((names_forms _).symm ▸ hnames)]

end Lazy

end Document

end JsonSchema
