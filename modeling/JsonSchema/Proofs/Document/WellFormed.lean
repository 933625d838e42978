import JsonSchema.Proofs.Document.Compose
import JsonSchema.Proofs.Node.Agreement

/-!
# Documents without repeated names

No object of a well-formed document has two members of one name, so neither has any document inside it
that is read: the parts of its shape, the bodies that it defines and the examples of its documentation.
What is composed for a node is well formed where the documents of the nodes inside are.
-/

namespace JsonSchema

namespace Json

/-- Well-formed members are well formed one by one. -/
theorem membersWellFormed_iff {members : Entries Json} :
    MembersWellFormed members ↔ ∀ entry ∈ members, entry.2.WellFormed := by
  induction members with
  | nil => simp [MembersWellFormed]
  | cons entry rest ih => simp [MembersWellFormed, ih]

/-- No members are well-formed. -/
@[simp] theorem membersWellFormed_nil : MembersWellFormed [] := by
  simp [MembersWellFormed]

/-- Members are well-formed exactly if the first one and the others are. -/
@[simp] theorem membersWellFormed_cons {name : String} {value : Json} {rest : Entries Json} :
    MembersWellFormed ((name, value) :: rest) ↔ value.WellFormed ∧ MembersWellFormed rest := by
  rw [MembersWellFormed]

/-- Members in two rows are well-formed exactly if those of each row are. -/
@[simp] theorem membersWellFormed_append {first second : Entries Json} :
    MembersWellFormed (first ++ second) ↔ MembersWellFormed first ∧ MembersWellFormed second := by
  simp only [membersWellFormed_iff, List.forall_mem_append]

/-- An array is well-formed exactly if its items are. -/
@[simp] theorem wellFormed_array {items : List Json} :
    (Json.array items).WellFormed ↔ ∀ item ∈ items, item.WellFormed := by
  rw [WellFormed, allWellFormed_iff]

/-- An object is well-formed exactly if its names differ and its values are well-formed. -/
@[simp] theorem wellFormed_object {members : Entries Json} :
    (Json.object members).WellFormed ↔
      (Entries.names members).Nodup ∧ ∀ entry ∈ members, entry.2.WellFormed := by
  rw [WellFormed, membersWellFormed_iff]

/-- Objects are equal where equal values are put under one name. -/
theorem same_object_put {members : Entries Json} {name : String} {first second : Json}
    (hwell : (Json.object members).WellFormed) (hsame : first.same second = true) :
    (Json.object (Entries.put name first members)).same (.object (Entries.put name second members)) =
      true := by
  obtain ⟨hnames, hvalues⟩ := wellFormed_object.mp hwell
  refine same_object (Entries.length_put ..) (Entries.nodup_names_put hnames) fun key value hvalue => ?_
  rw [Entries.find?_put] at hvalue ⊢
  by_cases hkey : name = key
  · rw [if_pos hkey, Option.some_inj] at hvalue
    exact ⟨second, if_pos hkey, hvalue ▸ hsame⟩
  · rw [if_neg hkey] at hvalue
    exact ⟨value, by rwa [if_neg hkey], same_self (hvalues _ (Entries.mem_of_find? hvalue))⟩

/-- A well-formed value put into a well-formed object leaves it well formed. -/
theorem wellFormed_put {members : Entries Json} {name : String} {value : Json}
    (hwell : (Json.object members).WellFormed) (hvalue : value.WellFormed) :
    (Json.object (Entries.put name value members)).WellFormed := by
  obtain ⟨hnames, hvalues⟩ := wellFormed_object.mp hwell
  refine wellFormed_object.mpr ⟨Entries.nodup_names_put hnames, fun entry hentry => ?_⟩
  rcases Entries.mem_of_mem_put hentry with rfl | hmem
  · exact hvalue
  · exact hvalues entry hmem

/-- Every text is well-formed. -/
@[simp] theorem wellFormed_string (value : String) : (Json.string value).WellFormed := by
  simp [WellFormed]

/-- Every number is well-formed. -/
@[simp] theorem wellFormed_number (value : Number) : (Json.number value).WellFormed := by
  simp [WellFormed]

/-- Both truth values are well-formed. -/
@[simp] theorem wellFormed_bool (value : Bool) : (Json.bool value).WellFormed := by
  simp [WellFormed]

/-- Null is well-formed. -/
@[simp] theorem wellFormed_null : Json.null.WellFormed := by
  simp [WellFormed]

end Json

/-- The items of a well-formed array are well formed. -/
theorem Shape.wellFormed_of_mem_itemsOf {value part : Json} (hvalue : value.WellFormed)
    (h : part ∈ itemsOf value) : part.WellFormed := by
  cases value with
  | array items => exact Json.wellFormed_array.mp hvalue part h
  | _ => simp [itemsOf] at h

/-- The members of a well-formed object have different names and are well formed. -/
theorem Shape.wellFormed_membersOf {value : Json} (hvalue : value.WellFormed) :
    (Entries.names (membersOf value)).Nodup ∧
      ∀ entry ∈ membersOf value, entry.2.WellFormed := by
  cases value with
  | object members => exact Json.wellFormed_object.mp hvalue
  | _ => simp [membersOf, Entries.names]

section Reading

variable {members : Entries Json} (hmembers : ∀ entry ∈ members, entry.2.WellFormed)
include hmembers

/-- The value of a keyword is well formed. -/
theorem Attribute.wellFormed_value? {keyword : String} {value : Json}
    (h : value? members keyword = some value) : value.WellFormed :=
  hmembers _ (Entries.mem_of_find? h)

/-- The value of a keyword is well formed, or the one in place of an absent value is. -/
theorem Attribute.wellFormed_getD {keyword : String} {absent : Json} (habsent : absent.WellFormed) :
    ((value? members keyword).getD absent).WellFormed := by
  cases h : value? members keyword with
  | none => exact habsent
  | some value => exact wellFormed_value? hmembers h

/-- The examples in the documentation are well formed. -/
theorem Attribute.wellFormed_examples {docs : Documentation} (h : Attribute.docs members = .ok docs) :
    ∀ item ∈ docs.examples, item.WellFormed := by
  have hwell : ((value? members "examples").getD (.array [])).WellFormed :=
    wellFormed_getD hmembers (by simp)
  unfold Attribute.docs at h
  split at h
  · rename_i examples hexamples
    rw [hexamples, Json.wellFormed_array] at hwell
    cases htitle : text members "title" <;> rw [htitle] at h
    · cases h
    · cases hdescription : text members "description" <;> rw [hdescription] at h <;> cases h
      exact hwell
  · cases h

namespace Shape

/-- The properties that an object declares have different names and well-formed documents. -/
theorem wellFormed_declared : (Entries.names (declared members)).Nodup ∧
    ∀ entry ∈ declared members, entry.2.WellFormed :=
  wellFormed_membersOf (Attribute.wellFormed_getD hmembers (by simp [Entries.names]))

/-- The schema of a keyword is well formed. -/
theorem wellFormed_schema? {keyword : String} {schema : Json}
    (h : schema? members keyword = some schema) : schema.WellFormed := by
  unfold schema? at h
  split at h
  · cases h
  · cases h
  · rename_i hfound
    cases h
    exact Attribute.wellFormed_value? hmembers hfound

/-- The parts of a document with a type are well formed. -/
theorem wellFormed_part_ofType {part : Json} (h : part ∈ (ofType members).parts) :
    part.WellFormed := by
  unfold ofType at h
  split at h
  · obtain ⟨entry, hentry, rfl⟩ := List.mem_map.mp (mem_of_mem_branch h)
    exact (wellFormed_declared hmembers).2 entry hentry
  · split at h
    · rcases List.mem_append.mp (mem_of_mem_branch h) with hplaced | hother
      · exact wellFormed_of_mem_itemsOf (Attribute.wellFormed_getD hmembers (by simp)) hplaced
      · exact wellFormed_schema? hmembers (Option.mem_toList.mp hother)
    · exact wellFormed_schema? hmembers (Option.mem_toList.mp (mem_of_mem_branch h))
  all_goals simp [string, integer, number, boolean, null, leaf] at h

/-- The parts of a document are well formed. -/
theorem wellFormed_part {part : Json} (h : part ∈ (ofMembers members).parts) :
    part.WellFormed := by
  unfold ofMembers at h
  split at h
  · simp [reference, leaf] at h
  · split at h
    · rename_i how schemas hfound
      obtain ⟨kind, _, hkind⟩ := List.exists_of_findSome?_eq_some hfound
      obtain ⟨value, hvalue, heq⟩ := Option.map_eq_some_iff.mp hkind
      cases heq
      exact wellFormed_of_mem_itemsOf (Attribute.wellFormed_value? hmembers hvalue)
        (mem_of_mem_branch h)
    · exact wellFormed_part_ofType hmembers h

end Shape

/-- The bodies that a document defines have different names and are well formed. -/
theorem Document.wellFormed_defined {bodies : Entries Json} (h : defined members = some bodies) :
    (Entries.names bodies).Nodup ∧ ∀ entry ∈ bodies, entry.2.WellFormed := by
  unfold defined at h
  split at h
  · rename_i hfound
    cases h
    exact Json.wellFormed_object.mp (hmembers _ (Entries.mem_of_find? hfound))
  · cases h

end Reading

namespace Document

/-- What holds of a well-formed document whenever it holds of the bodies that it defines and of its parts
holds of every one. -/
@[elab_as_elim]
theorem induction_wellFormed {motive : (document : Json) → document.WellFormed → Prop}
    (kept : ∀ document h, (∀ members, document ≠ .object members) → motive document h)
    (object : ∀ members (h : (Json.object members).WellFormed),
      (∀ bodies, defined members = some bodies → ∀ entry ∈ bodies, ∃ hentry, motive entry.2 hentry) →
      (∀ part ∈ (Shape.ofMembers members).parts, ∃ hpart, motive part hpart) →
        motive (.object members) h)
    (document : Json) (h : document.WellFormed) : motive document h := by
  cases document with
  | object members =>
    have hmembers := (Json.wellFormed_object.mp h).2
    refine object members h (fun bodies hbodies entry hentry => ?_) fun part hpart => ?_
    · have := sizeOf_lt_of_mem_defined hbodies hentry
      exact ⟨(wellFormed_defined hmembers hbodies).2 entry hentry,
        induction_wellFormed kept object _ _⟩
    · have := Shape.sizeOf_part_lt hpart
      exact ⟨Shape.wellFormed_part hmembers hpart, induction_wellFormed kept object _ _⟩
  | _ => exact kept _ _ (by simp)
termination_by sizeOf document
decreasing_by
  all_goals
    subst_vars
    simp only [Json.object.sizeOf_spec]
    omega

/-- At most the one keyword of an optional attribute is there. -/
theorem names_entry_sublist (keyword : String) (value : Option Json) :
    (Entries.names (entry keyword value)).Sublist [keyword] := by
  cases value <;> simp [entry, Entries.names]

/-- The examples stand under one keyword. -/
theorem names_exampleAttributes_sublist (docs : Documentation) :
    (Entries.names (exampleAttributes docs)).Sublist ["examples"] := by
  unfold exampleAttributes
  split <;> simp [Entries.names]

/-- The title and the description stand under their keywords. -/
theorem names_headAttributes_sublist (docs : Documentation) :
    (Entries.names (headAttributes docs)).Sublist ["title", "description"] := by
  rw [headAttributes, Entries.names_append]
  exact (names_entry_sublist "title" _).append (names_entry_sublist "description" _)

/-- Bounds stand under their two keywords. -/
theorem names_boundAttributes_sublist (least greatest : String) (bounds : Bounds Int) :
    (Entries.names (boundAttributes least greatest bounds)).Sublist [least, greatest] := by
  rw [boundAttributes, Entries.names_append]
  exact (names_entry_sublist least _).append (names_entry_sublist greatest _)

/-- The keywords of a document with a type have different names where those of its attributes do and
are none of the documentation. -/
theorem nodup_names_typedMembers {docs : Documentation} {name : String} {attributes : Entries Json}
    (keywords : List String) (h : (Entries.names attributes).Sublist keywords)
    (hkeywords : ("type" :: ["title", "description"] ++ keywords ++ ["examples"]).Nodup) :
    (Entries.names (typedMembers docs name attributes)).Nodup := by
  refine List.Nodup.sublist ?_ hkeywords
  simp only [typedMembers, Entries.names_append]
  exact (((names_headAttributes_sublist docs).cons_cons "type").append h).append
    (names_exampleAttributes_sublist docs)

/-- The keywords after a reference or a combination have different names. -/
theorem nodup_names_cons {docs : Documentation} {keyword : String} {value : Json}
    (hkeyword : [keyword, "title", "description", "examples"].Nodup) :
    (Entries.names ((keyword, value) :: headAttributes docs ++ exampleAttributes docs)).Nodup := by
  refine List.Nodup.sublist ?_ hkeyword
  simp only [Entries.names_append]
  exact ((names_headAttributes_sublist docs).cons_cons keyword).append
    (names_exampleAttributes_sublist docs)

/-- The keywords of a composed document are different. -/
theorem nodup_names_compose (node : Node) (parts : List Json) :
    (Entries.names (compose node parts)).Nodup := by
  have hbounds := names_boundAttributes_sublist
  have hentry := names_entry_sublist
  cases node with
  | object docs properties count =>
    have hrequired : (Entries.names (if (requiredNames properties).isEmpty then []
        else [("required", Json.array ((requiredNames properties).map .string))])).Sublist
          ["required"] := by
      split <;> simp [Entries.names]
    refine nodup_names_typedMembers ("properties" :: ["required"] ++
      ["minProperties", "maxProperties"]) ?_ (by decide)
    simp only [objectAttributes, Entries.names_append]
    exact (hrequired.cons_cons "properties").append (hbounds _ _ count)
  | array docs items length =>
    refine nodup_names_typedMembers (["items"] ++ ["minItems", "maxItems"]) ?_ (by decide)
    rw [Entries.names_append]
    exact (hentry _ _).append (hbounds _ _ length)
  | tuple docs items additional length =>
    refine nodup_names_typedMembers
      ("items" :: (["additionalItems"] ++ ["minItems", "maxItems"])) ?_ (by decide)
    refine List.Sublist.cons_cons "items" ?_
    rw [← Entries.names, Entries.names_append]
    exact (hentry _ _).append (hbounds _ _ length)
  | string docs rules =>
    refine nodup_names_typedMembers
      (["enum"] ++ ["minLength", "maxLength"] ++ ["pattern"] ++ ["format"]) ?_ (by decide)
    simp only [stringAttributes, Entries.names_append]
    exact (((hentry _ _).append (hbounds _ _ _)).append (hentry _ _)).append (hentry _ _)
  | integer docs rules | number docs rules =>
    refine nodup_names_typedMembers (["enum"] ++ ["minimum"] ++ ["maximum"]) ?_ (by decide)
    simp only [numberAttributes, Entries.names_append]
    exact ((hentry _ _).append (hentry _ _)).append (hentry _ _)
  | boolean docs enum => exact nodup_names_typedMembers ["enum"] (hentry "enum" _) (by decide)
  | null docs => exact nodup_names_typedMembers [] (List.Sublist.refl _) (by decide)
  | reference docs target => exact nodup_names_cons (by decide)
  | combined docs how members => exact nodup_names_cons (by cases how <;> decide)
  | _ => exact List.nodup_nil

/-- An attribute is well-formed exactly if its value is, if it has one. -/
@[simp] theorem membersWellFormed_entry {keyword : String} {value : Option Json} :
    Json.MembersWellFormed (entry keyword value) ↔ ∀ found, value = some found → found.WellFormed := by
  cases value <;> simp [entry, Json.MembersWellFormed]

/-- Bounds are written as numbers. -/
@[simp] theorem membersWellFormed_boundAttributes {least greatest : String} {bounds : Bounds Int} :
    Json.MembersWellFormed (boundAttributes least greatest bounds) := by
  simp [boundAttributes, integerJson]

/-- Titles and descriptions are written as texts. -/
@[simp] theorem membersWellFormed_headAttributes {docs : Documentation} :
    Json.MembersWellFormed (headAttributes docs) := by
  simp [headAttributes]

/-- Examples are written as they are. -/
@[simp] theorem membersWellFormed_exampleAttributes {docs : Documentation} :
    Json.MembersWellFormed (exampleAttributes docs) ↔ ∀ item ∈ docs.examples, item.WellFormed := by
  cases h : docs.examples <;> simp [exampleAttributes, h]

/-- Listed values are written in an array, each by itself. -/
@[simp] theorem membersWellFormed_enumAttribute {α : Type} {f : α → Json} {enum : Option (List α)}
    (h : ∀ value, (f value).WellFormed) : Json.MembersWellFormed (enumAttribute f enum) := by
  cases enum <;> simp [enumAttribute, h]

/-- What is composed of well-formed documents is well formed. -/
theorem wellFormed_compose {node : Node} {parts : List Json}
    (hexamples : ∀ item ∈ node.docs.examples, item.WellFormed)
    (hparts : ∀ part ∈ parts, part.WellFormed) : (Json.object (compose node parts)).WellFormed := by
  rw [Json.WellFormed]
  refine ⟨nodup_names_compose node parts, ?_⟩
  cases node with
  | object docs properties count =>
    have hwritten : (Json.object (Entries.ofList
        ((properties.map (·.name)).zip parts))).WellFormed := by
      exact Json.wellFormed_object.mpr ⟨Entries.nodup_names_ofList _, fun entry hentry =>
        hparts _ (List.of_mem_zip (Entries.mem_of_mem_ofList hentry)).2⟩
    simp only [Node.docs] at hexamples
    cases hrequired : requiredNames properties <;>
      simpa [compose, typedMembers, objectAttributes, hrequired] using
        And.intro hwritten hexamples
  | array docs items length =>
    have hitems : ∀ part, parts.head? = some part → part.WellFormed :=
      fun part hpart => hparts part (List.mem_of_mem_head? hpart)
    simp_all [compose, typedMembers, Node.docs]
  | tuple docs items additional length =>
    have hitems : ∀ part ∈ parts.take items.length, part.WellFormed :=
      fun part hpart => hparts part (List.mem_of_mem_take hpart)
    have hother : ∀ part, (parts.drop items.length).head? = some part → part.WellFormed :=
      fun part hpart => hparts part (List.mem_of_mem_drop (List.mem_of_mem_head? hpart))
    simp only [Node.docs] at hexamples
    rw [List.head?_drop] at hother
    simpa [compose, typedMembers] using ⟨hitems, hother, hexamples⟩
  | _ => simp_all [compose, typedMembers, stringAttributes, numberAttributes, Node.docs]

end Document

end JsonSchema
