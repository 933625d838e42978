import JsonSchema.Proofs.Document.Hoisting
import JsonSchema.Proofs.Document.Rendering
import JsonSchema.Proofs.Validation.Reordering

/-!
# Normalizing documents

A document is normalized by reading it and writing what was read. Whatever a well-formed document says,
what it is read as consists of settled nodes, so the new document is made of their forms and has all
definitions at its root. It is read as the same root, and its definitions are hoisted first from the
documents kept in their bodies, then all at once, and then from the documents kept in the root.

Only these last ones can change the definitions: a name that they define may have been defined again
after them when the document was first read. Where none was, normalizing again gives an equal document,
and every value is checked alike.
-/

namespace JsonSchema

open Document

/-- A schema of settled nodes, with definitions of different names. -/
structure Schema.Settled (schema : Schema) : Prop where
  root : schema.root.Settled
  bodies : ∀ entry ∈ schema.definitions, entry.2.Settled
  names : (Entries.names schema.definitions).Nodup

namespace Document

/-- The documents of definitions. -/
def forms (definitions : Definitions) : Entries Json :=
  definitions.map fun entry => (entry.1, form entry.2)

/-- The forms of definitions have the names of the definitions. -/
@[simp] theorem names_forms (definitions : Definitions) :
    Entries.names (forms definitions) = Entries.names definitions := by
  simp [forms, Entries.names, Function.comp_def]

/-- The document of a schema in which no node is deferred. -/
def schemaForm (schema : Schema) : Json := attach (form schema.root) (forms schema.definitions)

/-- The document that is written for what a document is read as. -/
def normalize (document : Json) : Except Fault Json := (write [] (read document).value).value

/-- The documents of the definitions are the forms of their bodies, under their names. -/
theorem zip_forms (definitions : Definitions) :
    (Entries.names definitions).zip ((definitions.map Prod.snd).map form) = forms definitions := by
  rw [List.map_map, Entries.names, List.zip_map', forms]
  rfl

/-- The form of a schema is what is written for it where the form of each node is. -/
theorem write_forms {schema : Schema}
    (h : ∀ node ∈ schema.root :: schema.definitions.map Prod.snd, ∀ state,
      writeNode [] [] node state = (.ok (form node), state))
    (hnames : (Entries.names schema.definitions).Nodup) :
    (write [] schema).value = .ok (schemaForm schema) := by
  refine write_eq_ok.mpr ⟨form schema.root, (schema.definitions.map Prod.snd).map form, _,
    writeNodes_forms fun node hnode => h node hnode _, ?_⟩
  rw [schemaForm, zip_forms, List.append_nil, Entries.ofList_of_nodup ((names_forms _).symm ▸ hnames)]

/-- The form of a settled schema is what is written for it. -/
theorem write_settled {schema : Schema} (h : schema.Settled) :
    (write [] schema).value = .ok (schemaForm schema) := by
  refine write_forms (fun node hnode state => writeNode_form ?_ [] [] state) h.names
  rcases List.mem_cons.mp hnode with rfl | hbody
  · exact h.root
  · obtain ⟨entry, hentry, rfl⟩ := List.mem_map.mp hbody
    exact h.bodies entry hentry

/-- A well-formed document is read as a settled schema. -/
theorem settled_read {document : Json} (h : document.WellFormed) : (read document).value.Settled where
  root := settled_nodeOf h
  bodies := by
    rw [definitions_eq_ofList]
    exact fun entry hentry => (hoists_parse h entry (Entries.mem_of_mem_ofList hentry)).1
  names := by
    rw [definitions_eq_ofList]
    exact Entries.nodup_names_ofList _

/-- A well-formed document can be normalized. -/
theorem normalize_eq_ok {document : Json} (h : document.WellFormed) :
    normalize document = .ok (schemaForm (read document).value) :=
  write_settled (settled_read h)

/-- Where a document has definitions, the form of its root is an object. -/
theorem exists_form_root {document : Json} (h : (read document).value.definitions ≠ []) :
    ∃ members, form (read document).value.root = .object members := by
  cases document with
  | object members => exact form_nodeOf_object members
  | _ => exact absurd (by rw [definitions_eq_ofList, parse_of_not_object (by simp)]; rfl) h

/-- Definitions that are put into a document are hoisted between what their bodies hoist and what the parts
of the document do. -/
theorem hoists_parse_put (bodies members : Entries Json) :
    hoists (parse (.object (Entries.put "definitions" (.object bodies) members))).steps =
      (bodies.flatMap fun entry => hoists (parse entry.2).steps) ++
        Entries.ofList (bodies.map fun entry => (entry.1, nodeOf entry.2)) ++ partHoists members := by
  have hdefined : defined (Entries.put "definitions" (.object bodies) members) = some bodies := by
    simp [defined]
  rw [hoists_parse_object, ownHoists, hdefined, partHoists, ofMembers_put, ← partHoists]

/-- Settled bodies that are put into a document are hoisted as they are, after what the documents kept in
them hoist. -/
theorem hoists_parse_put_settled {definitions : Definitions}
    (hbodies : ∀ entry ∈ definitions, entry.2.Settled) (hnames : (Entries.names definitions).Nodup)
    (members : Entries Json) :
    hoists (parse (.object (Entries.put "definitions" (.object (forms definitions)) members))).steps =
      (definitions.flatMap fun entry => hoists (keptSteps entry.2)) ++ definitions ++
        partHoists members := by
  have hsteps : ((forms definitions).flatMap fun entry => hoists (parse entry.2).steps) =
      definitions.flatMap fun entry => hoists (keptSteps entry.2) := by
    rw [forms, List.flatMap_map]
    exact List.flatMap_congr fun entry hentry => by rw [parse_form (hbodies entry hentry)]
  have hnodes : ((forms definitions).map fun entry => (entry.1, nodeOf entry.2)) = definitions := by
    rw [forms, List.map_map]
    conv_rhs => rw [← List.map_id definitions]
    exact List.map_congr_left fun entry hentry => by
      simp [nodeOf, parse_form (hbodies entry hentry)]
  rw [hoists_parse_put, hsteps, hnodes, Entries.ofList_of_nodup hnames]

/-- Definitions that are put into a document do not change its node, unless it is kept verbatim. -/
theorem nodeOf_put (definitions members : Entries Json) :
    nodeOf (.object (Entries.put "definitions" (.object definitions) members)) =
        nodeOf (.object members) ∨
      nodeOf (.object members) = .verbatim (.object members) ∧
        nodeOf (.object (Entries.put "definitions" (.object definitions) members)) =
          .verbatim (.object (Entries.put "definitions" (.object definitions) members)) := by
  rw [nodeOf, nodeOf, parse_object, parse_object, ofMembers_put]
  exact (node_conclude_congr _ _ _ _).imp_right And.symm

/-- The form of a schema whose root has an object as its form is that object with the definitions put
into it. -/
theorem schemaForm_eq_put {schema : Schema} {members : Entries Json}
    (hform : form schema.root = .object members) (hdefinitions : schema.definitions ≠ []) :
    schemaForm schema =
      .object (Entries.put "definitions" (.object (forms schema.definitions)) members) := by
  simp [schemaForm, hform, attach, forms, hdefinitions]

/-- The documents of the definitions of a settled schema are well formed. -/
theorem wellFormed_forms {schema : Schema} (hschema : schema.Settled) :
    (Json.object (forms schema.definitions)).WellFormed := by
  refine Json.wellFormed_object.mpr ⟨(names_forms _).symm ▸ hschema.names, fun entry hentry => ?_⟩
  obtain ⟨definition, hdefinition, rfl⟩ := List.mem_map.mp hentry
  exact wellFormed_form (hschema.bodies definition hdefinition)

section Schemas

variable {schema : Schema} (hschema : schema.Settled)
  (hobject : schema.definitions ≠ [] → ∃ members, form schema.root = .object members)
include hschema hobject

/-- The definitions of a settled schema are hoisted from its form after what the documents kept in their
bodies hoist, and before what documents kept in the root do. -/
theorem hoists_parse_schemaForm : ∃ rest, rest <:+ hoists (keptSteps schema.root) ∧
    (schema.root.composes → rest = hoists (keptSteps schema.root)) ∧
    hoists (parse (schemaForm schema)).steps =
      (schema.definitions.flatMap fun entry => hoists (keptSteps entry.2)) ++ schema.definitions ++
        rest := by
  by_cases hempty : schema.definitions = []
  · refine ⟨_, List.suffix_rfl, fun _ => rfl, ?_⟩
    simp [schemaForm, hempty, forms, attach, parse_form hschema.root]
  · obtain ⟨members, hform⟩ := hobject hempty
    have hparse := parse_form hschema.root
    have hkept : hoists (keptSteps schema.root) = ownHoists members ++ partHoists members := by
      rw [← hoists_parse_object, ← hform, hparse]
    refine ⟨partHoists members, hkept ▸ List.suffix_append _ _, fun hcomposes => ?_, ?_⟩
    · rw [form_composed hcomposes, Json.object.injEq] at hform
      rw [hkept, ownHoists, defined, ← hform, find?_definitions_compose, List.nil_append]
    · rw [schemaForm_eq_put hform hempty, hoists_parse_put_settled hschema.bodies hschema.names]

/-- The root of a settled schema is read from its form, unless it is kept verbatim. -/
theorem nodeOf_schemaForm : nodeOf (schemaForm schema) = schema.root ∨
    schema.root = .verbatim (form schema.root) ∧
      nodeOf (schemaForm schema) = .verbatim (schemaForm schema) := by
  have hroot : nodeOf (form schema.root) = schema.root := by rw [nodeOf, parse_form hschema.root]
  by_cases hempty : schema.definitions = []
  · simp [schemaForm, hempty, forms, attach, hroot]
  · obtain ⟨members, hform⟩ := hobject hempty
    rw [schemaForm_eq_put hform hempty]
    rw [hform] at hroot ⊢
    rcases nodeOf_put (forms schema.definitions) members with hnode | ⟨hverbatim, hnode⟩
    · exact .inl (hnode.trans hroot)
    · exact .inr ⟨hroot.symm.trans hverbatim, hnode⟩

/-- A root that is not kept verbatim is read again from the form of its schema. -/
theorem nodeOf_schemaForm_of_composes
    (hcomposes : schema.root.composes ∨ (nodeOf (schemaForm schema)).composes) :
    nodeOf (schemaForm schema) = schema.root := by
  rcases nodeOf_schemaForm hschema hobject with hroot | ⟨hverbatim, hnode⟩
  · exact hroot
  · rw [hnode] at hcomposes
    rcases hcomposes with hroot | hagain
    · rw [hverbatim] at hroot
      cases hroot
    · cases hagain

end Schemas

/-- A document that carries definitions is well formed where they and the document are. -/
theorem wellFormed_attach {root : Json} {definitions : Entries Json} (hroot : root.WellFormed)
    (hdefinitions : (Json.object definitions).WellFormed) : (attach root definitions).WellFormed := by
  unfold attach
  split
  · exact hroot
  · split
    · exact Json.wellFormed_put hroot hdefinitions
    · simpa [Entries.names] using And.intro hroot (Json.wellFormed_object.mp hdefinitions)

/-- The form of a settled schema is well formed. -/
theorem wellFormed_schemaForm {schema : Schema} (hschema : schema.Settled) :
    (schemaForm schema).WellFormed :=
  wellFormed_attach (wellFormed_form hschema.root) (wellFormed_forms hschema)

/-- The form of a schema is equal where the definitions are, also where the root is the whole form that
is kept. -/
theorem same_schemaForm {schema schema' : Schema} (hschema : schema.Settled)
    (hobject : schema.definitions ≠ [] → ∃ members, form schema.root = .object members)
    (hroot : schema'.root = schema.root ∨ schema'.root = .verbatim (schemaForm schema))
    (hlength : schema'.definitions.length = schema.definitions.length)
    (hsame : (Json.object (forms schema'.definitions)).same (.object (forms schema.definitions)) =
      true) :
    (schemaForm schema').same (schemaForm schema) = true := by
  by_cases hempty : schema.definitions = []
  · have hempty' : schema'.definitions = [] := List.eq_nil_of_length_eq_zero (by simp [hlength, hempty])
    have hform : schemaForm schema = form schema.root := by simp [schemaForm, hempty, forms, attach]
    have hform' : schemaForm schema' = form schema'.root := by
      simp [schemaForm, hempty', forms, attach]
    have heq : schemaForm schema' = schemaForm schema := by
      rcases hroot with hroot | hroot <;> simp [hform, hform', hroot]
    rw [heq]
    exact Json.same_self (wellFormed_schemaForm hschema)
  · obtain ⟨members, hform⟩ := hobject hempty
    have hempty' : schema'.definitions ≠ [] := fun hnil =>
      hempty (List.eq_nil_of_length_eq_zero (by simp [← hlength, hnil]))
    have hput := schemaForm_eq_put hform hempty
    have hput' : schemaForm schema' =
        .object (Entries.put "definitions" (.object (forms schema'.definitions)) members) := by
      rcases hroot with hroot | hroot
      · exact schemaForm_eq_put (hroot ▸ hform) hempty'
      · rw [schemaForm_eq_put (by rw [hroot, form_verbatim, hput]) hempty', Entries.put_put]
    have hwell : (Json.object members).WellFormed := hform ▸ wellFormed_form hschema.root
    rw [hput, hput']
    exact Json.same_object_put hwell hsame

/-- Definitions are equal where the forms of schemas are that carry them. -/
theorem same_forms_of_same {schema schema' : Schema} {members members' : Entries Json}
    (hform : form schema.root = .object members) (hdefinitions : schema.definitions ≠ [])
    (hform' : form schema'.root = .object members') (hdefinitions' : schema'.definitions ≠ [])
    (h : (schemaForm schema').same (schemaForm schema) = true) :
    (Json.object (forms schema'.definitions)).same (.object (forms schema.definitions)) = true := by
  rw [schemaForm_eq_put hform hdefinitions, schemaForm_eq_put hform' hdefinitions'] at h
  obtain ⟨other, hother, hsame⟩ := Json.exists_of_same_object h
    ((Entries.find?_put "definitions" "definitions" _ _).trans (if_pos rfl))
  obtain rfl : Json.object (forms schema.definitions) = other := by simpa using hother
  exact hsame

/-- What the documents kept in the node of a document define last has the same document as what the
document is read to define: no name that they define has another body somewhere after them. -/
def Undisputed (document : Json) : Prop :=
  ∀ name body, Entries.find? name (hoists (keptSteps (nodeOf document))).reverse = some body →
    ∃ other, Entries.find? name (read document).value.definitions = some other ∧
      (form body).same (form other) = true

/-- A name that is hoisted while a document is read is defined by it. -/
theorem find?_ne_none_of_hoists {document : Json} {name : String} {body : Node}
    (hmem : (name, body) ∈ hoists (parse document).steps) :
    Entries.find? name (read document).value.definitions ≠ none := by
  rw [definitions_eq_ofList, Entries.find?_ofList, Ne, Entries.find?_eq_none_iff, Entries.names,
    List.map_reverse, List.mem_reverse, not_not]
  exact List.mem_map_of_mem hmem

/-- A document that is kept verbatim defines what it hoists last. -/
theorem find?_of_verbatim {document : Json} (h : nodeOf document = .verbatim document) (name : String) :
    Entries.find? name (hoists (keptSteps (nodeOf document))).reverse =
      Entries.find? name (read document).value.definitions := by
  rw [definitions_eq_ofList, Entries.find?_ofList, h, keptSteps_verbatim]

section Again

variable {document : Json} (h : document.WellFormed)
include h

/-- A definition that is found has a well-formed document, which is equal to itself. -/
theorem same_form_of_find? {name : String} {body : Node}
    (hbody : Entries.find? name (read document).value.definitions = some body) :
    (form body).same (form body) = true :=
  Json.same_self (wellFormed_form ((settled_read h).bodies _ (Entries.mem_of_find? hbody)))

/-- Reading the form of what was read finds what documents kept in the root define last, and otherwise
what was defined before. -/
theorem exists_find?_again : ∃ rest, rest <:+ hoists (keptSteps (nodeOf document)) ∧
    ((nodeOf document).composes → rest = hoists (keptSteps (nodeOf document))) ∧
    ∀ name, Entries.find? name (read (schemaForm (read document).value)).value.definitions =
      (Entries.find? name rest.reverse).or
        (Entries.find? name (read document).value.definitions) := by
  have hschema := settled_read h
  obtain ⟨rest, hsuffix, hcomposes, hhoists⟩ := hoists_parse_schemaForm hschema exists_form_root
  refine ⟨rest, hsuffix, hcomposes, fun name => ?_⟩
  have hreverse := Entries.find?_perm (List.reverse_perm _) hschema.names name
  rw [definitions_eq_ofList (schemaForm _), hhoists, Entries.find?_ofList, List.reverse_append,
    List.reverse_append, Entries.find?_append, Entries.find?_append, hreverse]
  cases hfind : Entries.find? name (read document).value.definitions with
  | some body => simp
  | none =>
    -- What the bodies keep was hoisted before, so it has a definition.
    have hbodies : Entries.find? name ((read document).value.definitions.flatMap fun entry =>
        hoists (keptSteps entry.2)).reverse = none := by
      by_contra hne
      obtain ⟨body, hbody⟩ := Option.ne_none_iff_exists'.mp hne
      obtain ⟨entry, hentry, hkept⟩ :=
        List.mem_flatMap.mp (List.mem_reverse.mp (Entries.mem_of_find? hbody))
      rw [definitions_eq_ofList] at hentry
      obtain ⟨-, hsubset⟩ := hoists_parse h entry (Entries.mem_of_mem_ofList hentry)
      exact find?_ne_none_of_hoists (hsubset hkept) hfind
    rw [hbodies]
    simp

/-- Reading the form of what was read gives as many definitions. -/
theorem length_definitions_again :
    (read (schemaForm (read document).value)).value.definitions.length =
      (read document).value.definitions.length := by
  have hagain := settled_read (wellFormed_schemaForm (settled_read h))
  obtain ⟨rest, hsuffix, -, hfind⟩ := exists_find?_again h
  refine Entries.length_eq_of_find? hagain.names (settled_read h).names fun name => ?_
  rw [hfind, Option.or_eq_none_iff, and_iff_right_iff_imp]
  intro hnone
  by_contra hne
  obtain ⟨body, hbody⟩ := Option.ne_none_iff_exists'.mp hne
  have hkept := hsuffix.subset (List.mem_reverse.mp (Entries.mem_of_find? hbody))
  exact find?_ne_none_of_hoists (hoists_keptSteps_subset h hkept) hnone

/-- A document that hoists no name twice has the same definitions when the form of what was read is
read. -/
theorem definitions_again (hnames : (Entries.names (hoists (parse document).steps)).Nodup) :
    (read (schemaForm (read document).value)).value.definitions.Perm
      (read document).value.definitions := by
  have hagain := settled_read (wellFormed_schemaForm (settled_read h))
  obtain ⟨rest, hsuffix, -, hfind⟩ := exists_find?_again h
  refine Entries.perm_of_find?_eq hagain.names (settled_read h).names fun name => ?_
  rw [hfind]
  cases hlast : Entries.find? name rest.reverse with
  | none => rfl
  | some body =>
    have hkept := hsuffix.subset (List.mem_reverse.mp (Entries.mem_of_find? hlast))
    rw [definitions_eq_ofList, Entries.ofList_of_nodup hnames,
      Entries.find?_of_mem hnames (hoists_keptSteps_subset h hkept), Option.some_or]

/-- Normalizing an undisputed document again gives an equal document. -/
theorem same_again (hundisputed : Undisputed document) :
    (schemaForm (read (schemaForm (read document).value)).value).same
      (schemaForm (read document).value) = true := by
  have hschema := settled_read h
  have hagain := settled_read (wellFormed_schemaForm hschema)
  have hlength := length_definitions_again h
  obtain ⟨rest, ⟨before, hrest⟩, -, hfind⟩ := exists_find?_again h
  refine same_schemaForm hschema exists_form_root
    ((nodeOf_schemaForm hschema exists_form_root).imp_right And.right) hlength
    (Json.same_object (by simpa [forms] using hlength) ((names_forms _).symm ▸ hagain.names) ?_)
  intro name value hvalue
  rw [forms, Entries.find?_map, Option.map_eq_some_iff] at hvalue
  obtain ⟨body, hbody, rfl⟩ := hvalue
  suffices hother : ∃ other, Entries.find? name (read document).value.definitions = some other ∧
      (form body).same (form other) = true by
    obtain ⟨other, hother, hsame⟩ := hother
    exact ⟨form other, by rw [forms, Entries.find?_map, hother]; rfl, hsame⟩
  rw [hfind] at hbody
  cases hlast : Entries.find? name rest.reverse with
  | some found =>
    obtain rfl : found = body := by simpa [hlast] using hbody
    refine hundisputed name found ?_
    rw [← hrest, List.reverse_append, Entries.find?_append, hlast, Option.some_or]
  | none =>
    rw [hlast, Option.none_or] at hbody
    exact ⟨body, hbody, same_form_of_find? h hbody⟩

/-- A document is undisputed where normalizing it again gives an equal document. -/
theorem undisputed_of_same (hsame : (schemaForm (read (schemaForm (read document).value)).value).same
    (schemaForm (read document).value) = true) : Undisputed document := by
  intro name body hlast
  rcases node_parse document with hverbatim | hcomposes
  · rw [find?_of_verbatim hverbatim] at hlast
    exact ⟨body, hlast, same_form_of_find? h hlast⟩
  · obtain ⟨rest, -, hrest, hfind⟩ := exists_find?_again h
    have hbody : Entries.find? name (read (schemaForm (read document).value)).value.definitions =
        some body := by rw [hfind, hrest hcomposes, hlast, Option.some_or]
    have hkept := List.mem_reverse.mp (Entries.mem_of_find? hlast)
    have hne : (read document).value.definitions ≠ [] := fun hnil =>
      find?_ne_none_of_hoists (hoists_keptSteps_subset h hkept) (by simp [hnil])
    have hne' : (read (schemaForm (read document).value)).value.definitions ≠ [] := fun hnil => by
      simp [hnil] at hbody
    obtain ⟨members, hform⟩ := exists_form_root hne
    have hroot : nodeOf (schemaForm (read document).value) = nodeOf document :=
      nodeOf_schemaForm_of_composes (settled_read h) exists_form_root (.inl hcomposes)
    have hform' : form (read (schemaForm (read document).value)).value.root = .object members :=
      (congrArg form hroot).trans hform
    have hvalue : Entries.find? name
        (forms (read (schemaForm (read document).value)).value.definitions) = some (form body) := by
      rw [forms, Entries.find?_map, hbody, Option.map_some]
    obtain ⟨value, hother, hequal⟩ :=
      Json.exists_of_same_object (same_forms_of_same hform hne hform' hne' hsame) hvalue
    rw [forms, Entries.find?_map, Option.map_eq_some_iff] at hother
    obtain ⟨other, hother, rfl⟩ := hother
    exact ⟨other, hother, hequal⟩

/-- A normalized document is undisputed. -/
theorem undisputed_schemaForm : Undisputed (schemaForm (read document).value) := by
  have hschema := settled_read h
  have hwell := wellFormed_schemaForm hschema
  intro name body hlast
  suffices hbody : Entries.find? name (read (schemaForm (read document).value)).value.definitions =
      some body from ⟨body, hbody, same_form_of_find? hwell hbody⟩
  rcases node_parse (schemaForm (read document).value) with hverbatim | hcomposes
  · rwa [find?_of_verbatim hverbatim] at hlast
  · have hroot : nodeOf (schemaForm (read document).value) = nodeOf document :=
      nodeOf_schemaForm_of_composes hschema exists_form_root (.inr hcomposes)
    obtain ⟨rest, -, hrest, hfind⟩ := exists_find?_again h
    rw [hroot, ← hrest (hroot ▸ hcomposes)] at hlast
    rw [hfind, hlast, Option.some_or]

end Again

/-- Normalizing never fails, and it changes nothing more the third time. It changes nothing the second
time exactly where no document that is kept in the root defines a name that has another body after it. -/
theorem normalize_settles (document : Json) (h : document.WellFormed) :
    ∃ first second third, normalize document = .ok first ∧ normalize first = .ok second ∧
      normalize second = .ok third ∧ third.same second = true ∧
      (second.same first = true ↔ Undisputed document) := by
  have hfirst := wellFormed_schemaForm (settled_read h)
  have hsecond := wellFormed_schemaForm (settled_read hfirst)
  exact ⟨_, _, _, normalize_eq_ok h, normalize_eq_ok hfirst, normalize_eq_ok hsecond,
    same_again hfirst (undisputed_schemaForm h), undisputed_of_same h, same_again h⟩

/-- A document that defines a name for a type. -/
def defining (name type : String) : Entries Json :=
  [("definitions", .object [(name, .object [("type", .string type)])])]

/-- A property that is kept verbatim and defines `a`, and one after it that defines another name, or the
same again. -/
def fragments (name : String) : Json :=
  .object [("type", .string "object"), ("properties", .object
    [("v", .object (defining "a" "string")), ("w", .object (("type", .string "null") ::
      defining name "integer"))])]

/-- The fragments are well-formed whatever the name is. -/
theorem wellFormed_fragments (name : String) : (fragments name).WellFormed := by
  simp [fragments, defining, Entries.names]

/-- A document that only defines a name is kept verbatim. -/
theorem parse_defining : parse (.object (defining "a" "string")) =
    ⟨.verbatim (.object (defining "a" "string")), [.hoist [("a", .string {} {})]]⟩ := by
  have hstring : parse (.object [("type", .string "string")]) = ⟨.string {} {}, []⟩ := by
    rw [parse_object]
    rfl
  have hhoisted : hoisted (defining "a" "string") =
      hoisting [("a", parse (.object [("type", .string "string")]))] := rfl
  rw [parse_object, hhoisted, hstring]
  rfl

/-- The part of the first property is kept, and the definitions of both are hoisted in order. -/
theorem parse_fragments (name : String) : parse (fragments name) =
    ⟨.object {} [⟨"v", .verbatim (.object (defining "a" "string")), false⟩, ⟨"w", .null {}, false⟩] {},
      [.hoist [("a", .string {} {})], .hoist [(name, .integer {} {})]]⟩ := by
  have hinteger : parse (.object [("type", .string "integer")]) = ⟨.integer {} {}, []⟩ := by
    rw [parse_object]
    rfl
  have hsecond : parse (.object (("type", .string "null") :: defining name "integer")) =
      ⟨.null {}, [.hoist [(name, .integer {} {})]]⟩ := by
    have hhoisted : hoisted (("type", .string "null") :: defining name "integer") =
        hoisting [(name, parse (.object [("type", .string "integer")]))] := rfl
    rw [parse_object, hhoisted, hinteger]
    rfl
  have hshape : Shape.ofMembers [("type", .string "object"), ("properties", .object
      [("v", .object (defining "a" "string")), ("w", .object (("type", .string "null") ::
        defining name "integer"))])] =
      ⟨[.object (defining "a" "string"), .object (("type", .string "null") :: defining name "integer")],
        .node fun nodes => .object {} (Shape.properties ["v", "w"] [] nodes) {}⟩ := rfl
  rw [fragments, parse_object, hshape]
  simp [parse_defining, hsecond, conclude, hoisted, defined, Shape.properties]

/-- Fragments that define one name settle in the second form. -/
theorem normalize_settles_fragments : ∃ first second third,
    normalize (fragments "a") = .ok first ∧ normalize first = .ok second ∧
      normalize second = .ok third ∧ third.same second = true ∧
      (second.same first = true ↔ Undisputed (fragments "a")) :=
  normalize_settles (fragments "a") (wellFormed_fragments "a")

/-- The part that is kept redefines a name when the normalized document is normalized. -/
theorem normalize_fragments_not_same : ∃ first second, normalize (fragments "a") = .ok first ∧
    normalize first = .ok second ∧ second.same first = false := by
  have hwell := wellFormed_fragments "a"
  have hfirst := wellFormed_schemaForm (settled_read hwell)
  refine ⟨_, _, normalize_eq_ok hwell, normalize_eq_ok hfirst, Bool.eq_false_iff.mpr fun hsame => ?_⟩
  have hkept : keptSteps (nodeOf (fragments "a")) = [.hoist [("a", .string {} {})]] := by
    have hnull : keptSteps (.null {}) = [] := keptSteps_composed rfl
    rw [nodeOf, parse_fragments, keptSteps_composed rfl]
    simp [Node.children, hnull, parse_defining]
  obtain ⟨other, hother, hequal⟩ := undisputed_of_same hwell hsame "a" (.string {} {})
    (by rw [hkept]; rfl)
  rw [definitions_eq_ofList, parse_fragments] at hother
  obtain rfl : Node.integer {} {} = other := Option.some_inj.mp hother
  rw [form_composed rfl, form_composed rfl] at hequal
  exact absurd hequal (by decide)

/-- Where no name is hoisted twice, the normalized document is read with the same definitions, and every
value is checked alike. -/
theorem check_normalize (document : Json) (h : document.WellFormed)
    (hnames : (Entries.names (hoists (parse document).steps)).Nodup) :
    ∃ normal, normalize document = .ok normal ∧
      (read normal).value.definitions.Perm (read document).value.definitions ∧
      ∀ thunks strictness value, (read normal).value.check thunks strictness value =
        (read document).value.check thunks strictness value := by
  have hschema := settled_read h
  have hperm := definitions_again h hnames
  refine ⟨_, normalize_eq_ok h, hperm, fun thunks strictness value => ?_⟩
  rcases nodeOf_schemaForm hschema exists_form_root with hroot | ⟨hverbatim, hroot⟩
  · exact Schema.check_perm hroot hperm hschema.names thunks strictness value
  · rw [Schema.check_of_verbatim hverbatim, Schema.check_of_verbatim hroot]

/-- Where they define different names, the normal form is checked as the fragments. -/
theorem check_normalize_fragments : ∃ normal, normalize (fragments "b") = .ok normal ∧
    (read normal).value.definitions.Perm (read (fragments "b")).value.definitions ∧
    ∀ thunks strictness value, (read normal).value.check thunks strictness value =
      (read (fragments "b")).value.check thunks strictness value :=
  check_normalize (fragments "b") (wellFormed_fragments "b") (by
    rw [parse_fragments]
    decide)

end Document

end JsonSchema
