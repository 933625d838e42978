import JsonSchema.Proofs.Document.Layout

/-!
# Documents are read part by part

The nodes inside the root of a document that is not kept verbatim are the roots that the parts of the
document are read as, each for itself. Nothing else of a part matters: with another object in its place
the root has another node there and is the same in all else, whether that object is well formed or not.
Members that are no keywords do not matter at all.
-/

namespace JsonSchema

/-- A node with other nodes inside is kept verbatim only where it was. -/
theorem Node.withChildren_eq_verbatim {node : Node} {nodes : List Node} {document : Json}
    (h : node.withChildren nodes = .verbatim document) : node = .verbatim document := by
  cases node <;> first | exact h | cases h

namespace Document

open Attribute Shape

/-- Each node inside a node is the root that the part of a document at its place is read as. -/
def Mirrors (members : Entries Json) : Node → Prop
  | .object _ properties _ =>
    (properties.map fun property => (property.name, property.schema)) =
      (declared members).map fun (name, part) => (name, (read part).value.root)
  | .array _ items _ => items = (schema? members "items").map fun part => (read part).value.root
  | .tuple _ items additional _ =>
    items = ((placed members).map fun part => (read part).value.root) ∧
      additional = (schema? members "additionalItems").map fun part => (read part).value.root
  | .combined _ how schemas => ∃ parts, value? members how.keyword = some (.array parts) ∧
      schemas = parts.map fun part => (read part).value.root
  | _ => True

variable {members : Entries Json}

/-- The nodes inside the node of a document are those of its parts, each of the part at its place. -/
theorem mirrors_nodeOf (hcomposes : (nodeOf (.object members)).composes) :
    Mirrors members (nodeOf (.object members)) ∧
      (nodeOf (.object members)).children = (ofMembers members).parts.map nodeOf := by
  obtain ⟨assemble, houtcome, hnode⟩ := exists_assemble hcomposes
  have hlaid := laidOut members
  rw [hnode]
  generalize layout members = place, ofMembers members = shape at hlaid houtcome ⊢
  cases hlaid with
  | plain h =>
    obtain ⟨result, rfl, hplain⟩ := h
    obtain ⟨node, hread, rfl⟩ := exists_of_outcome_leaf houtcome
    have hkind := hplain node hread
    cases node <;> first | exact ⟨trivial, rfl⟩ | cases hkind
  | unrecognised => cases houtcome
  | @combined how schemas h =>
    obtain ⟨docs, _, hchecked, -, hparts, rfl⟩ := exists_of_outcome_branch houtcome
    obtain ⟨_, harray, -⟩ := exists_of_bind_eq_ok hchecked
    rw [combined, hparts]
    cases schemas with
    | array parts => exact ⟨⟨parts, h, rfl⟩, rfl⟩
    | _ => cases harray
  | object =>
    obtain ⟨⟨required, docs⟩, count, -, -, hparts, rfl⟩ := exists_of_outcome_branch houtcome
    have hproperties : properties (Entries.names (declared members)) required
        (((declared members).map Prod.snd).map nodeOf) = (declared members).map fun entry =>
          ⟨entry.1, nodeOf entry.2, required.contains entry.1⟩ := by
      rw [properties, Entries.names, List.map_map, List.zip_map', List.map_map]
      rfl
    rw [object, hparts, Mirrors, Node.children, hproperties]
    simp [read_value]
  | array h =>
    obtain ⟨docs, length, -, -, hparts, rfl⟩ := exists_of_outcome_branch houtcome
    rw [array, hparts]
    cases hitems : schema? members "items" <;> simp [Mirrors, Node.children, hitems, read_value]
  | tuple h =>
    obtain ⟨docs, length, -, -, hparts, rfl⟩ := exists_of_outcome_branch houtcome
    rw [tuple, hparts]
    cases hadditional : schema? members "additionalItems" <;>
      simp [Mirrors, Node.children, hadditional, read_value, List.take_of_length_le]

/-- The root of a document that is not kept verbatim has the roots inside that its parts are read as. With
other objects in the places of objects it has their roots there and is the same in all else, so it is not
kept verbatim for what a part says, and other members than its keywords do not change it. -/
theorem root_read_object (members : Entries Json)
    (hroot : ∀ document, (read (.object members)).value.root ≠ .verbatim document) :
    Mirrors members (read (.object members)).value.root ∧
    (read (.object members)).value.root.children =
      ((ofMembers members).parts.map fun part => (read part).value.root) ∧
    (∀ parts others, List.Forall₂ Replaces (ofMembers members).parts parts →
      (∀ keyword ∈ keywords, value? others keyword = value? (withParts members parts) keyword) →
        (read (.object others)).value.root = (read (.object members)).value.root.withChildren
            (parts.map fun part => (read part).value.root) ∧
          ∀ document, (read (.object others)).value.root ≠ .verbatim document) ∧
    ∀ others, (∀ keyword ∈ keywords, value? others keyword = value? members keyword) →
      (read (.object others)).value.root = (read (.object members)).value.root := by
  simp only [read_value] at hroot ⊢
  have hcomposes := (node_parse (.object members)).resolve_left (hroot _)
  obtain ⟨assemble, houtcome, hnode⟩ := exists_assemble hcomposes
  obtain ⟨hmirrors, hchildren⟩ := mirrors_nodeOf hcomposes
  refine ⟨hmirrors, hchildren, fun parts others hparts hkeywords => ?_, fun others hkeywords => ?_⟩
  · have hshape : ofMembers others = ⟨parts, .node assemble⟩ :=
      (ofMembers_congr_of_keywords hkeywords).trans (ofMembers_withParts houtcome hparts)
    have hother : nodeOf (.object others) =
        (nodeOf (.object members)).withChildren (parts.map nodeOf) := by
      rw [nodeOf_object hshape, hnode]
      exact assemble_eq_withChildren houtcome (by simp) (by simp [hparts.length_eq])
    exact ⟨hother, fun document hverbatim =>
      hroot document (Node.withChildren_eq_verbatim (hother.symm.trans hverbatim))⟩
  · have hshape : ofMembers others = ⟨(ofMembers members).parts, .node assemble⟩ := by
      rw [ofMembers_congr_of_keywords hkeywords, ← houtcome]
    exact (nodeOf_object hshape).trans hnode.symm

/-- Pairs of null and of what is no object. -/
def pairs : Entries Json :=
  [("type", .string "array"), ("items", .array [.object [("type", .string "null")], .bool true])]

/-- The same pairs with a malformed document in the place of null, and with a member that is no keyword. -/
def malformedPairs : Entries Json :=
  [("note", .null), ("type", .string "array"),
    ("items", .array [.object [("type", .string "string"), ("minLength", .bool true)], .bool true])]

/-- A malformed text is kept verbatim in the place of the null, and the note is not looked at. -/
theorem root_read_object_pairs : Mirrors pairs (read (.object pairs)).value.root ∧
    (read (.object malformedPairs)).value.root = (read (.object pairs)).value.root.withChildren
      [(read (.object [("type", .string "string"), ("minLength", .bool true)])).value.root,
        (read (.bool true)).value.root] ∧
    (read (.object (pairs ++ [("note", .null)]))).value.root = (read (.object pairs)).value.root := by
  have hshape : ofMembers pairs = ⟨[.object [("type", .string "null")], .bool true],
      .node fun nodes => .tuple {} (nodes.take 2) (nodes.drop 2).head? {}⟩ := rfl
  have hroot : ∀ document, (read (.object pairs)).value.root ≠ .verbatim document := by
    intro document
    change nodeOf (.object pairs) ≠ _
    rw [nodeOf_object hshape]
    simp
  have hnote : ∀ keyword ∈ keywords, keyword ≠ "note" := fun keyword hkeyword =>
    ne_of_mem_of_not_mem hkeyword (by decide)
  have hparts : List.Forall₂ Replaces (ofMembers pairs).parts
      [.object [("type", .string "string"), ("minLength", .bool true)], .bool true] := by
    rw [hshape]
    exact .cons (.inr ⟨⟨_, rfl⟩, _, rfl⟩) (.cons (.inl rfl) .nil)
  obtain ⟨hmirrors, -, hreplaced, hunchanged⟩ := root_read_object pairs hroot
  refine ⟨hmirrors, (hreplaced _ malformedPairs hparts fun keyword hkeyword => ?_).1,
    hunchanged _ fun keyword hkeyword => ?_⟩
  · have hwith : malformedPairs = ("note", .null) :: withParts pairs
        [.object [("type", .string "string"), ("minLength", .bool true)], .bool true] := rfl
    rw [hwith, value?, Entries.find?_cons, if_neg (hnote keyword hkeyword).symm]
    rfl
  · simp [value?, (hnote keyword hkeyword).symm]

end Document

end JsonSchema
