import JsonSchema.Proofs.Document.Reread

/-!
# Where the parts of a document stand

The schemas inside a document stand under keywords that depend on its layout: those of properties under
their names, the items of an array under one keyword, those of a tuple in a list with the other items
under a keyword of their own, and the members of a combination in a list. Other documents can be put in
their places. As long as objects take the places of objects only, the shape of the document stays what it
was but for its parts, and the node that is put together differs in the nodes inside only.
-/

namespace JsonSchema

namespace Entries

variable {α : Type}

/-- Entries with another value for a name, wherever they have one. -/
def revise (name : String) (value : Option α) (entries : Entries α) : Entries α :=
  entries.map fun (key, old) => (key, if key = name then value.getD old else old)

/-- Only under the name is another value found. -/
theorem find?_revise (key name : String) (value : Option α) (entries : Entries α) :
    find? key (revise name value entries) =
      (find? key entries).map fun old => if key = name then value.getD old else old := by
  induction entries with
  | nil => rfl
  | cons entry rest ih =>
    obtain ⟨first, old⟩ := entry
    by_cases hkey : first = key
    · subst hkey
      simp [revise]
    · simpa [revise, hkey] using ih

end Entries

namespace Document

open Attribute Shape

/-- Where the parts of a document stand. -/
inductive Layout where
  | plain
  | combined (how : Combination)
  | object
  | array
  | tuple

/-- The layout of a document with a type. -/
def layoutOfType (members : Entries Json) : Layout :=
  match value? members "type" with
  | some (.string "object") => .object
  | some (.string "array") => if isTuple members then .tuple else .array
  | _ => .plain

/-- The layout of a document: a reference before a combination before a type. -/
def layout (members : Entries Json) : Layout :=
  if (value? members "$ref").isSome then .plain
  else
    match [Combination.oneOf, .anyOf, .allOf].find? fun how => (value? members how.keyword).isSome with
    | some how => .combined how
    | none => layoutOfType members

/-- A document with other documents in the places of its parts. -/
def withParts (members : Entries Json) (parts : List Json) : Entries Json :=
  match layout members with
  | .plain => members
  | .combined how => Entries.revise how.keyword (some (.array parts)) members
  | .object =>
    Entries.revise "properties" (some (.object ((Entries.names (declared members)).zip parts))) members
  | .array => Entries.revise "items" parts.head? members
  | .tuple =>
    Entries.revise "additionalItems" (parts.drop (placed members).length).head?
      (Entries.revise "items" (some (.array (parts.take (placed members).length))) members)

/-- A document takes the place of another if both are the same or both are objects. -/
def Replaces (part other : Json) : Prop :=
  part = other ∨ (∃ members, part = .object members) ∧ ∃ members, other = .object members

/-- What takes the place of a document that is not null is not null. -/
theorem Replaces.ne_null {part other : Json} (h : Replaces part other) (hpart : part ≠ .null) :
    other ≠ .null := by
  rcases h with rfl | ⟨-, members, rfl⟩
  · exact hpart
  · simp

/-- What takes the place of a document that is no array is no array. -/
theorem Replaces.not_array {part other : Json} (h : Replaces part other)
    (hpart : ∀ values, part ≠ .array values) : ∀ values, other ≠ .array values := by
  rcases h with rfl | ⟨-, members, rfl⟩
  · exact hpart
  · simp

section Layouts

variable {members : Entries Json}

/-- A combination is found under the first keyword of one. -/
theorem findSome?_combination (members : Entries Json) (hows : List Combination) :
    (hows.findSome? fun how => (value? members how.keyword).map fun schemas => (how, schemas)) =
      (hows.find? fun how => (value? members how.keyword).isSome).bind fun how =>
        (value? members how.keyword).map fun schemas => (how, schemas) := by
  induction hows with
  | nil => rfl
  | cons how rest ih => cases h : value? members how.keyword <;> simp [h, ih]

/-- A layout goes with a shape: what is known of the keywords of a document and of its shape. -/
inductive LaidOut (members : Entries Json) : Layout → Shape → Prop
  | plain {shape : Shape} (h : Plain shape) : LaidOut members .plain shape
  | unrecognised : LaidOut members .plain { outcome := .unrecognised }
  | combined {how : Combination} {schemas : Json} (h : value? members how.keyword = some schemas) :
      LaidOut members (.combined how) (combined members how schemas)
  | object : LaidOut members .object (object members)
  | array (h : isTuple members = false) : LaidOut members .array (array members)
  | tuple (h : isTuple members = true) : LaidOut members .tuple (tuple members)

/-- The shape of a document with a type goes with its layout. -/
theorem laidOut_ofType (members : Entries Json) :
    LaidOut members (layoutOfType members) (ofType members) := by
  unfold ofType
  split <;> rename_i htype
  · rw [layoutOfType, htype]
    exact .object
  · rw [layoutOfType, htype]
    cases htuple : isTuple members with
    | true => exact .tuple htuple
    | false => exact .array htuple
  · rw [layoutOfType, htype]
    exact .plain (plain_string members)
  · rw [layoutOfType, htype]
    exact .plain (plain_integer members)
  · rw [layoutOfType, htype]
    exact .plain (plain_number members)
  · rw [layoutOfType, htype]
    exact .plain (plain_boolean members)
  · rw [layoutOfType, htype]
    exact .plain (plain_null members)
  · have hlayout : layoutOfType members = .plain := by
      unfold layoutOfType
      split <;> simp_all
    rw [hlayout]
    exact .unrecognised

/-- The shape of a document goes with its layout. -/
theorem laidOut (members : Entries Json) : LaidOut members (layout members) (ofMembers members) := by
  unfold layout ofMembers
  rw [findSome?_combination]
  cases href : value? members "$ref" with
  | some target => exact .plain (plain_reference members target)
  | none =>
    cases hfind : [Combination.oneOf, .anyOf, .allOf].find? fun how =>
        (value? members how.keyword).isSome with
    | none => exact laidOut_ofType members
    | some how =>
      have hsome := List.find?_some hfind
      obtain ⟨schemas, hschemas⟩ := Option.isSome_iff_exists.mp hsome
      rw [Option.bind_some, hschemas]
      exact .combined hschemas

/-- The node of a document is put together from the nodes of its parts where its shape says how. -/
theorem nodeOf_object {parts : List Json} {assemble : List Node → Node}
    (h : ofMembers members = ⟨parts, .node assemble⟩) :
    nodeOf (.object members) = assemble (parts.map nodeOf) := by
  rw [nodeOf, parse_object, h]
  simp [conclude, Function.comp_def]

/-- Properties with other schemas are put together from their names and the marks that they have. -/
theorem properties_eq_zipWith {names required : List String} {nodes others : List Node}
    (hnodes : nodes.length = names.length) (hothers : others.length = names.length) :
    properties names required others = (properties names required nodes).zipWith
      (fun property node => { property with schema := node }) others := by
  induction names generalizing nodes others with
  | nil => rfl
  | cons name names ih =>
    obtain ⟨node, nodes, rfl⟩ := List.exists_cons_of_length_eq_add_one hnodes
    obtain ⟨other, others, rfl⟩ := List.exists_cons_of_length_eq_add_one hothers
    exact congrArg (_ :: ·) (ih (Nat.succ.inj hnodes) (Nat.succ.inj hothers))

/-- A node is put together from other nodes as the same node with these inside. -/
theorem assemble_eq_withChildren {assemble : List Node → Node}
    (houtcome : (ofMembers members).outcome = .node assemble) {nodes others : List Node}
    (hnodes : nodes.length = (ofMembers members).parts.length)
    (hothers : others.length = (ofMembers members).parts.length) :
    assemble others = (assemble nodes).withChildren others := by
  have hlaid := laidOut members
  generalize layout members = place, ofMembers members = shape at hlaid houtcome hnodes hothers
  cases hlaid with
  | plain h =>
    obtain ⟨result, rfl, hplain⟩ := h
    obtain ⟨node, hnode, rfl⟩ := exists_of_outcome_leaf houtcome
    have hkind := hplain node hnode
    cases node <;> first | rfl | cases hkind
  | unrecognised => cases houtcome
  | combined h =>
    obtain ⟨docs, _, -, -, -, rfl⟩ := exists_of_outcome_branch houtcome
    rfl
  | object =>
    obtain ⟨⟨required, docs⟩, count, -, -, hparts, rfl⟩ := exists_of_outcome_branch houtcome
    have hlength : (object members).parts.length = (Entries.names (declared members)).length := by
      rw [object, hparts, Entries.names, List.length_map, List.length_map]
    exact congrArg (Node.object docs · count)
      (properties_eq_zipWith (hnodes.trans hlength) (hothers.trans hlength))
  | array h =>
    obtain ⟨docs, length, -, -, -, rfl⟩ := exists_of_outcome_branch houtcome
    rfl
  | tuple h =>
    obtain ⟨docs, length, -, -, hparts, rfl⟩ := exists_of_outcome_branch houtcome
    have hplaced : (nodes.take (placed members).length).length = (placed members).length := by
      rw [List.length_take_of_le]
      rw [hnodes, tuple, hparts, List.length_append]
      exact Nat.le_add_right _ _
    simp only [Node.withChildren, hplaced]

/-- The keywords that the parts of documents stand under. -/
def partKeywords : List String := ["properties", "items", "additionalItems", "oneOf", "anyOf", "allOf"]

/-- The keyword of a combination is one of those that lead to parts. -/
theorem keyword_mem_partKeywords (how : Combination) : how.keyword ∈ partKeywords := by
  cases how <;> decide

/-- A revised value is found under its own name, and the others as before. -/
@[simp] theorem value?_revise (keyword name : String) (value : Option Json) :
    value? (Entries.revise name value members) keyword =
      (value? members keyword).map fun old => if keyword = name then value.getD old else old :=
  Entries.find?_revise keyword name value members

/-- Only keywords of parts have other values in a document with other parts. -/
theorem value?_withParts {keyword : String} (h : keyword ∉ partKeywords) (parts : List Json) :
    value? (withParts members parts) keyword = value? members keyword := by
  unfold withParts
  cases layout members with
  | combined how => 
    have hne : keyword ≠ how.keyword := (ne_of_mem_of_not_mem (keyword_mem_partKeywords how) h).symm
    simp [hne]
  | _ => 
    simp [partKeywords] at h
    simp [h]

/-- A document with other parts has the same keywords. -/
theorem isSome_value?_withParts (keyword : String) (parts : List Json) :
    (value? (withParts members parts) keyword).isSome = (value? members keyword).isSome := by
  unfold withParts
  cases layout members <;> simp

/-- A document with other parts has the layout that it had, if it is as much a tuple as it was. -/
theorem layout_withParts {parts : List Json}
    (htuple : isTuple (withParts members parts) = isTuple members) :
    layout (withParts members parts) = layout members := by
  have htype : value? (withParts members parts) "type" = value? members "type" :=
    value?_withParts (by decide) parts
  simp only [layout, layoutOfType, isSome_value?_withParts, htype, htuple]

/-- The documentation does not depend on the parts. -/
theorem docs_withParts (parts : List Json) : docs (withParts members parts) = docs members := by
  simp (disch := decide) only [docs, text, Attribute.optional, value?_withParts]

/-- The bounds do not depend on the parts. -/
theorem bounds_withParts {least greatest : String} (hleast : least ∉ partKeywords)
    (hgreatest : greatest ∉ partKeywords) (parts : List Json) :
    bounds (withParts members parts) least greatest = bounds members least greatest := by
  simp only [bounds, Attribute.integer, Attribute.optional, value?_withParts hleast,
    value?_withParts hgreatest]

variable {assemble : List Node → Node} {parts : List Json}

/-- What a document with schemas inside puts together depends on its checks only. -/
theorem branch_of_outcome {α β : Type} {first : Except Mismatch α} {old : List Json}
    {last : Except Mismatch β} {put : α → β → List Node → Node}
    (h : (branch first old last put).outcome = .node assemble) (parts : List Json) :
    branch first parts last put = ⟨parts, .node assemble⟩ := by
  cases first with
  | error reason => cases h
  | ok a =>
    cases last with
    | error reason => cases h
    | ok b =>
      cases h
      rfl

/-- A combination of other documents is put together as it was. -/
theorem combined_withParts {how : Combination} {schemas other : Json}
    (hlayout : layout members = .combined how) (hschemas : value? members how.keyword = some schemas)
    (hother : value? (withParts members parts) how.keyword = some other)
    (houtcome : (combined members how schemas).outcome = .node assemble) :
    combined (withParts members parts) how other = ⟨parts, .node assemble⟩ := by
  have hvalue : other = .array parts := by
    rw [withParts, hlayout, value?_revise, hschemas] at hother
    simpa using hother.symm
  obtain ⟨docs, _, hchecked, -, -, rfl⟩ := exists_of_outcome_branch houtcome
  obtain ⟨_, -, hdocs⟩ := exists_of_bind_eq_ok hchecked
  rw [hvalue, combined, docs_withParts, hdocs]
  rfl

/-- An object with other documents for its properties is put together as it was. -/
theorem object_withParts (hlayout : layout members = .object)
    (houtcome : (object members).outcome = .node assemble)
    (hlength : parts.length = (declared members).length) :
    object (withParts members parts) = ⟨parts, .node assemble⟩ := by
  have hvalue : value? (withParts members parts) "properties" = (value? members "properties").map
      fun _ => .object ((Entries.names (declared members)).zip parts) := by
    rw [withParts, hlayout, value?_revise]
    rfl
  have hdeclared : declared (withParts members parts) =
      (Entries.names (declared members)).zip parts := by
    rw [declared, hvalue]
    cases hproperties : value? members "properties" with
    | none => simp [declared, hproperties, membersOf, Entries.names]
    | some properties => rfl
  have hrequired : required (withParts members parts) = required members := by
    obtain ⟨_, _, hchecked, -, -, -⟩ := exists_of_outcome_branch houtcome
    obtain ⟨names, hnames, -⟩ := exists_of_bind_eq_ok hchecked
    unfold required at hnames ⊢
    rw [hvalue, value?_withParts (by decide)]
    split at hnames
    · rename_i hobject
      cases hproperties : value? members "properties" with
      | none => rfl
      | some properties =>
        obtain rfl : properties = _ := by simpa [hproperties] using hobject
        rfl
    · cases hnames
  have hnames : Entries.names ((Entries.names (declared members)).zip parts) =
      Entries.names (declared members) := List.map_fst_zip (by simp [Entries.names, hlength])
  rw [object, docs_withParts, bounds_withParts (by decide) (by decide), hrequired, hdeclared, hnames,
    List.map_snd_zip (by simp [Entries.names, hlength])]
  exact branch_of_outcome houtcome parts

/-- A document that is not null stands where a schema may be absent. -/
theorem present_of_ne_null {part : Json} (h : part ≠ .null) : present (some part) = [part] := by
  cases part <;> first | rfl | exact absurd rfl h

/-- A part takes the place of a document that stands where a schema may be absent, and no part does where
that is null. -/
theorem exists_replaces {part : Json} (hparts : List.Forall₂ Replaces (present (some part)) parts) :
    (part = .null ∧ parts = []) ∨ part ≠ .null ∧ ∃ other, parts = [other] ∧ Replaces part other := by
  by_cases hnull : part = .null
  · subst hnull
    exact .inl ⟨rfl, List.forall₂_nil_left_iff.mp hparts⟩
  · rw [present_of_ne_null hnull] at hparts
    cases hparts with
    | cons hother hrest =>
      obtain rfl := List.forall₂_nil_left_iff.mp hrest
      exact .inr ⟨hnull, _, rfl, hother⟩

/-- What takes the place of a schema that may be absent is read where that was. -/
theorem present_map_head? {part : Option Json} (hparts : List.Forall₂ Replaces (present part) parts) :
    present (part.map fun old => parts.head?.getD old) = parts := by
  cases part with
  | none =>
    obtain rfl := List.forall₂_nil_left_iff.mp hparts
    rfl
  | some part =>
    rcases exists_replaces hparts with ⟨rfl, rfl⟩ | ⟨hnull, other, rfl, hother⟩
    · rfl
    · exact present_of_ne_null (hother.ne_null hnull)

/-- The document of the items of an array is the first part, if there is one. -/
theorem items_withParts_of_array (hlayout : layout members = .array) :
    value? (withParts members parts) "items" =
      (value? members "items").map fun old => parts.head?.getD old := by
  simp [withParts, hlayout]

/-- The documents of the items of a tuple are the first parts. -/
theorem items_withParts_of_tuple (hlayout : layout members = .tuple) :
    value? (withParts members parts) "items" =
      (value? members "items").map fun _ => .array (parts.take (placed members).length) := by
  simp [withParts, hlayout, Function.comp_def]

/-- An array with another document for its items is put together as it was. -/
theorem array_withParts (hlayout : layout members = .array)
    (houtcome : (array members).outcome = .node assemble)
    (hparts : List.Forall₂ Replaces (schema? members "items").toList parts) :
    array (withParts members parts) = ⟨parts, .node assemble⟩ := by
  rw [toList_schema? rfl] at hparts
  rw [array, docs_withParts, bounds_withParts (by decide) (by decide),
    toList_schema? (items_withParts_of_array hlayout), present_map_head? hparts]
  exact branch_of_outcome houtcome parts

/-- A tuple with other documents for its items is put together as it was. -/
theorem tuple_withParts (hlayout : layout members = .tuple)
    (houtcome : (tuple members).outcome = .node assemble)
    (hparts : List.Forall₂ Replaces
      (placed members ++ (schema? members "additionalItems").toList) parts) :
    tuple (withParts members parts) = ⟨parts, .node assemble⟩ := by
  have hitems := @items_withParts_of_tuple members parts hlayout
  have hadditional : value? (withParts members parts) "additionalItems" =
      (value? members "additionalItems").map
        fun old => (parts.drop (placed members).length).head?.getD old := by
    rw [withParts, hlayout]
    simp
  have hrest := List.forall₂_drop (placed members).length hparts
  rw [List.drop_left' rfl, toList_schema? rfl] at hrest
  have hplaced : placed (withParts members parts) = parts.take (placed members).length := by
    rw [placed, hitems]
    cases hvalue : value? members "items" with
    | none => simp [placed, hvalue, itemsOf]
    | some items => rfl
  have hcount : (parts.take (placed members).length).length = (placed members).length := by
    rw [List.length_take_of_le]
    rw [← hparts.length_eq, List.length_append]
    exact Nat.le_add_right _ _
  have harray : arrayOr ((value? (withParts members parts) "items").getD (.array [])) .tupleItems =
      arrayOr ((value? members "items").getD (.array [])) .tupleItems := by
    obtain ⟨_, _, hchecked, -, -, -⟩ := exists_of_outcome_branch houtcome
    obtain ⟨_, hfirst, -⟩ := exists_of_bind_eq_ok hchecked
    rw [hfirst, hitems]
    cases value? members "items" <;> rfl
  rw [tuple, docs_withParts, bounds_withParts (by decide) (by decide), toList_schema? hadditional,
    present_map_head? hrest, hplaced, hcount, List.take_append_drop, harray]
  exact branch_of_outcome houtcome parts

/-- The items of an array are not told apart by their places where they have one schema, or none. -/
theorem isTuple_eq_false_iff : isTuple members = false ↔
    (∀ values, value? members "items" ≠ some (.array values)) ∧
      (value? members "additionalItems").isSome = false := by
  rw [isTuple, Bool.or_eq_false_iff]
  refine and_congr_left fun _ => ?_
  split
  · rename_i values hvalues
    simp [hvalues]
  · rename_i hitems
    simpa using fun values => hitems values

/-- A document with other parts is as much a tuple as it was, if objects take the places of objects
only. -/
theorem isTuple_withParts (houtcome : (ofMembers members).outcome = .node assemble)
    (hparts : List.Forall₂ Replaces (ofMembers members).parts parts) :
    isTuple (withParts members parts) = isTuple members := by
  have hlaid := laidOut members
  have hadditional := @isSome_value?_withParts members "additionalItems" parts
  generalize hlayout : layout members = place, ofMembers members = shape at hlaid houtcome hparts
  cases hlaid with
  | plain | unrecognised => rw [withParts, hlayout]
  | @combined how =>
    have hne : "items" ≠ how.keyword := by cases how <;> decide
    have hitems : value? (withParts members parts) "items" = value? members "items" := by
      simp [withParts, hlayout, hne]
    rw [isTuple, isTuple, hitems, hadditional]
  | object =>
    have hitems : value? (withParts members parts) "items" = value? members "items" := by
      simp [withParts, hlayout]
    rw [isTuple, isTuple, hitems, hadditional]
  | array htuple =>
    obtain ⟨_, _, -, -, hshape, -⟩ := exists_of_outcome_branch houtcome
    rw [array, hshape, toList_schema? rfl] at hparts
    rw [htuple]
    obtain ⟨hitems, hnone⟩ := isTuple_eq_false_iff.mp htuple
    refine isTuple_eq_false_iff.mpr ⟨fun values hvalues => ?_, hadditional.trans hnone⟩
    rw [items_withParts_of_array hlayout] at hvalues
    obtain ⟨old, hold, hvalues⟩ := Option.map_eq_some_iff.mp hvalues
    rw [hold] at hparts hitems
    rcases exists_replaces hparts with ⟨rfl, rfl⟩ | ⟨-, other, rfl, hother⟩
    · cases hvalues
    · exact hother.not_array (fun values heq => hitems values (congrArg some heq)) values hvalues
  | tuple htuple =>
    rw [htuple]
    rw [isTuple] at htuple
    rw [isTuple, items_withParts_of_tuple hlayout, hadditional]
    cases hvalue : value? members "items" with
    | none => simpa [hvalue] using htuple
    | some items => rfl

/-- The shape of a document that gives a node has other parts where the document has, if objects take the
places of objects only. -/
theorem ofMembers_withParts (houtcome : (ofMembers members).outcome = .node assemble)
    (hparts : List.Forall₂ Replaces (ofMembers members).parts parts) :
    ofMembers (withParts members parts) = ⟨parts, .node assemble⟩ := by
  have hlaid := laidOut members
  have hagain := laidOut (withParts members parts)
  rw [layout_withParts (isTuple_withParts houtcome hparts)] at hagain
  generalize hlayout : layout members = place, hshape : ofMembers members = shape
    at hlaid houtcome hparts hagain
  cases hlaid with
  | plain h =>
    obtain ⟨result, rfl, -⟩ := h
    obtain rfl := List.forall₂_nil_left_iff.mp hparts
    have hwith : withParts members [] = members := by rw [withParts, hlayout]
    rw [hwith, hshape, ← houtcome]
    rfl
  | unrecognised => cases houtcome
  | combined hschemas =>
    generalize ofMembers (withParts members parts) = other at hagain ⊢
    cases hagain with
    | combined hother => exact combined_withParts hlayout hschemas hother houtcome
  | object =>
    generalize ofMembers (withParts members parts) = other at hagain ⊢
    cases hagain
    obtain ⟨_, _, -, -, hold, -⟩ := exists_of_outcome_branch houtcome
    refine object_withParts hlayout houtcome ?_
    rw [← hparts.length_eq, object, hold, List.length_map]
  | array =>
    generalize ofMembers (withParts members parts) = other at hagain ⊢
    cases hagain
    obtain ⟨_, _, -, -, hold, -⟩ := exists_of_outcome_branch houtcome
    rw [array, hold] at hparts
    exact array_withParts hlayout houtcome hparts
  | tuple =>
    generalize ofMembers (withParts members parts) = other at hagain ⊢
    cases hagain
    obtain ⟨_, _, -, -, hold, -⟩ := exists_of_outcome_branch houtcome
    rw [tuple, hold] at hparts
    exact tuple_withParts hlayout houtcome hparts

end Layouts

end Document

end JsonSchema
