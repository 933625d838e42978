import Mathlib.Data.List.Basic
import Mathlib.Data.List.Forall2
import Mathlib.Data.List.Nodup
import Mathlib.Data.Set.Operations
import JsonSchema.Proofs.Document.Parted
import JsonSchema.Proofs.Validation.Renaming

/-!
# Documents of renamed schemas

Where the definitions of a schema are renamed with the references to them, its document is the one of the
schema with other names, and it is read as the renamed schema if the document of the schema is read as the
schema. The documents that the schema keeps as they are stay out of this. What they define is hoisted under
their own names. In the root it has the last word about a name, so it has to keep its name and the names
that it refers to. In the bodies of definitions it only has to be defined under its name.
-/

namespace JsonSchema

open Document Definitions

/-- The documents that a node keeps, as its examples or as a whole, are well formed. -/
structure Node.WellKept (node : Node) : Prop where
  examples : ∀ item ∈ node.docs.examples, item.WellFormed
  verbatim : ∀ document, node = .verbatim document → document.WellFormed

namespace Schema

/-- What makes the names of definitions bound names: no node is deferred, every reference speaks of a
definition, and every cycle of references passes through a property or an item. Names of definitions are
different, and so are those in documents. -/
structure Renamable (schema : Schema) : Prop where
  present : ∀ node, schema.Contains [] node → ∀ thunk, node ≠ .deferred thunk
  named : schema.Named
  contractive : schema.Contractive []
  names : (Entries.names schema.definitions).Nodup
  kept : ∀ node, schema.Contains [] node → node.WellKept

/-- The schema is written, and what is written is read as an equal schema. -/
def RoundTrips (schema : Schema) : Prop :=
  ∃ document, (write [] schema).value = .ok document ∧ (read document).value.same schema = true

/-- The renaming goes together with the documents that the schema keeps as they are. It keeps the names
that documents in the root define, and the names that what is defined there refers to. What documents in
the bodies define are names of definitions still. -/
structure Spares (schema : Schema) (f : String → String) : Prop where
  root : ∀ entry ∈ hoists (keptSteps schema.root),
    f entry.1 = entry.1 ∧ ∀ target ∈ entry.2.references, f (nameOf target) = nameOf target
  bodies : ∀ definition ∈ schema.definitions, ∀ entry ∈ hoists (keptSteps definition.2),
    entry.1 ∈ Entries.names (schema.rename f).definitions

variable {schema : Schema} {f : String → String} {node : Node}

/-- The form of a node that keeps well-formed documents is well formed. -/
theorem wellFormed_form_kept (hkept : ∀ node, schema.Contains [] node → node.WellKept)
    (hnode : schema.Contains [] node) : (form node).WellFormed := by
  induction node using Node.induction_children with
  | step node ih =>
    by_cases hcomposes : node.composes
    · rw [form_composed hcomposes]
      apply wellFormed_compose (hkept node hnode).examples
      exact List.forall_mem_map.mpr fun child hchild => ih child hchild (hnode.child hchild)
    · cases node with
      | verbatim document =>
        rw [form_verbatim]
        exact (hkept _ hnode).verbatim document rfl
      | deferred | unknown =>
        rw [form]
        · simp [compose, Entries.names]
        · simp
      | _ => exact absurd rfl hcomposes

/-- The form of a schema that keeps well-formed documents is well formed. -/
theorem wellFormed_schemaForm_kept (hkept : ∀ node, schema.Contains [] node → node.WellKept)
    (hnames : (Entries.names schema.definitions).Nodup) : (schemaForm schema).WellFormed := by
  apply wellFormed_attach (wellFormed_form_kept hkept .root)
  refine Json.wellFormed_object.mpr ⟨(names_forms _).symm ▸ hnames, fun entry hentry => ?_⟩
  obtain ⟨definition, hdefinition, rfl⟩ := List.mem_map.mp hentry
  exact wellFormed_form_kept hkept (.definition hdefinition)

/-- Every node of a schema that a settled one is equal to has a settled node that is equal to it. -/
theorem Contains.exists_settled {schema' : Schema} (hsettled : schema'.Settled)
    (hsame : schema'.same schema = true) (hnode : schema.Contains [] node) :
    ∃ other : Node, other.Settled ∧ other.same node = true := by
  rw [Schema.same, Bool.and_eq_true] at hsame
  induction hnode with
  | root => exact ⟨schema'.root, hsettled.root, hsame.1⟩
  | definition hmem =>
    obtain ⟨other, hother, hbody⟩ := exists_of_mem_same hsettled.names hsame.2 hmem
    exact ⟨other, hsettled.bodies _ (Entries.mem_of_find? hother), hbody⟩
  | child _ hmem ih =>
    obtain ⟨other, hother, hparent⟩ := ih
    obtain ⟨child, hchild, hsame⟩ :=
      exists_of_mem_right (Node.forall₂_children_of_same hparent) hmem
    exact ⟨child, hother.child hchild, hsame⟩
  | forced _ hbody => cases hbody

/-- References whose names are kept stay as they are. -/
theorem Named.retarget_eq_self (hnamed : schema.Named) (hnode : schema.Contains [] node)
    (h : ∀ target ∈ node.references, f (nameOf target) = nameOf target) :
    node.retarget (renamedTarget f) = node := by
  apply Node.retarget_eq_self
  intro target htarget
  obtain ⟨docs, hreference⟩ := hnode.exists_reference htarget
  obtain ⟨name, -, rfl⟩ := hnamed docs target hreference
  have hname := h _ htarget
  rw [nameOf_referenceTo] at hname
  rw [renamedTarget_referenceTo, hname]

/-- A renaming that keeps the names of all definitions changes nothing. -/
theorem Named.rename_eq_self (hnamed : schema.Named)
    (h : ∀ name ∈ Entries.names schema.definitions, f name = name) : schema.rename f = schema := by
  have hnode : ∀ node, schema.Contains [] node → node.retarget (renamedTarget f) = node := by
    intro node hnode
    apply hnamed.retarget_eq_self hnode
    intro target htarget
    obtain ⟨docs, hreference⟩ := hnode.exists_reference htarget
    obtain ⟨name, hname, rfl⟩ := hnamed docs target hreference
    rw [nameOf_referenceTo, h name hname]
  have hdefinitions : (schema.rename f).definitions = schema.definitions := by
    calc (schema.rename f).definitions = schema.definitions.map id := by
          apply List.map_congr_left
          intro entry hentry
          rw [h _ (List.mem_map_of_mem hentry), hnode _ (.definition hentry)]
          rfl
      _ = schema.definitions := List.map_id _
  calc schema.rename f = ⟨schema.root.retarget (renamedTarget f), (schema.rename f).definitions⟩ := rfl
    _ = schema := by rw [hnode _ .root, hdefinitions]

/-- Where the form of a renamed node's original is read as an equal node, so is the form of the renamed
one. -/
theorem same_nodeOf_retarget (hkept : ∀ node, schema.Contains [] node → node.WellKept)
    (hparted : ∀ node, schema.Contains [] node → node.Parted) (g : String → String)
    (hnode : schema.Contains [] node) (h : (nodeOf (form node)).same node = true) :
    (nodeOf (form (node.retarget g))).same (node.retarget g) = true := by
  induction node using Node.induction_children with
  | step node ih =>
    have hnot := hparted node hnode
    by_cases hcomposes : node.composes
    · rcases hnot.typed with htyped | ⟨docs, rules, rfl⟩
      · have hlength : (node.children.map form).length = node.children.length := List.length_map _
        have hread := children_recompose hcomposes hlength nodeOf
        rw [readable_forms hnot, List.map_map] at hread
        rw [nodeOf, parse_form_parted hnot hcomposes htyped] at h
        have hinside := Node.forall₂_children_of_same h
        rw [Function.comp_def] at hread
        rw [hread, List.forall₂_map_left_iff, List.forall₂_same] at hinside
        have hcomposes' : (node.retarget g).composes := Node.composes_retarget.trans hcomposes
        rw [nodeOf, parse_form_parted hnot.retarget hcomposes' htyped.retarget]
        have hexamples : ∀ item ∈ (node.retarget g).docs.examples, item.WellFormed := by
          rw [Node.docs_retarget]
          exact (hkept node hnode).examples
        apply same_recompose hcomposes' hexamples (List.length_map _)
        intro pair hpair
        rw [Node.children_retarget, List.map_map, List.zip_map'] at hpair
        obtain ⟨child, hchild, rfl⟩ := List.mem_map.mp hpair
        exact ih child hchild (hnode.child hchild) (hinside child hchild)
      · rwa [Node.retarget_eq_withChildren (by simp)]
    · rwa [Node.retarget_of_not_composes hcomposes]

/-- Only an object is equal to an object. -/
theorem exists_of_object_same {members : Entries Json} {document : Json}
    (h : (Json.object members).same document = true) : ∃ others, document = .object others := by
  cases document with
  | object others => exact ⟨others, rfl⟩
  | _ => simp [Json.same, Json.number?] at h

/-- The form of a schema with definitions is an object that carries their forms. -/
theorem exists_schemaForm_eq (hdefinitions : schema.definitions ≠ []) :
    ∃ members, schemaForm schema = .object members ∧
      Entries.find? "definitions" members = some (.object (forms schema.definitions)) := by
  unfold schemaForm attach
  rw [if_neg (by simp [forms, hdefinitions])]
  split
  · exact ⟨_, rfl, by simp⟩
  · exact ⟨_, rfl, by simp⟩

/-- A root that is a document is read as an equal one only if the document defines all that it has to
carry. -/
theorem mem_names_hoists_of_root {document : Json} (hroot : schema.root = .verbatim document)
    (hdefinitions : schema.definitions ≠ [])
    (hsame : (nodeOf (schemaForm schema)).same schema.root = true) {name : String}
    (hname : name ∈ Entries.names schema.definitions) :
    name ∈ Entries.names (hoists (parse document).steps) := by
  rw [hroot] at hsame
  have hverbatim : nodeOf (schemaForm schema) = .verbatim (schemaForm schema) := by
    rcases node_parse (schemaForm schema) with hverbatim | hcomposes
    · exact hverbatim
    · cases hnode : nodeOf (schemaForm schema) <;> simp_all [Node.same, Node.composes]
  obtain ⟨members, hform, hfind⟩ := exists_schemaForm_eq hdefinitions
  rw [hverbatim, Node.same, hform] at hsame
  obtain ⟨others, rfl⟩ := exists_of_object_same hsame
  obtain ⟨defining, hdefining, hbodies⟩ := Json.exists_of_same_object hsame hfind
  obtain ⟨bodies, rfl⟩ := exists_of_object_same hbodies
  obtain ⟨body, hbody⟩ := Entries.exists_find?_of_mem_names ((names_forms _).symm ▸ hname)
  obtain ⟨other, hother, -⟩ := Json.exists_of_same_object hbodies hbody
  have hdefined : defined others = some bodies := by rw [defined, hdefining]
  rw [hoists_parse_object, ownHoists, hdefined]
  simp only [Entries.names_append, List.mem_append, Entries.mem_names_ofList]
  have hmem : name ∈ Entries.names (bodies.map fun entry => (entry.1, nodeOf entry.2)) := by
    simpa [Entries.names, Function.comp_def] using Entries.mem_names_of_find? hother
  exact .inl (.inr hmem)

/-- What the documents kept in the bodies of definitions hoist does not depend on the names. -/
theorem flatMap_keptSteps_rename (schema : Schema) (f : String → String) :
    ((schema.rename f).definitions.flatMap fun entry => hoists (keptSteps entry.2)) =
      schema.definitions.flatMap fun entry => hoists (keptSteps entry.2) := by
  rw [rename, List.flatMap_map]
  exact List.flatMap_congr fun entry _ => by rw [keptSteps_retarget]

/-- The nodes of the renamed schema are parted where those of the schema are. -/
theorem parted_rename (hparted : ∀ node, schema.Contains [] node → node.Parted) :
    ∀ node, (schema.rename f).Contains [] node → node.Parted := by
  intro node' hnode'
  obtain ⟨node, hnode, rfl⟩ := exists_of_contains_rename hnode'
  exact (hparted node hnode).retarget

section RoundTrip

variable (hschema : schema.Renamable)
  (hinjective : Set.InjOn f {name | name ∈ Entries.names schema.definitions})
include hschema hinjective

/-- Renamed definitions have different names. -/
theorem Renamable.names_rename : (Entries.names (schema.rename f).definitions).Nodup := by
  rw [Schema.names_rename]
  exact hschema.names.map_on fun _ hname _ hother heq => hinjective hname hother heq

variable (hspares : schema.Spares f)
  (hparted : ∀ node, schema.Contains [] node → node.Parted)
include hspares hparted

variable (hsame : (read (schemaForm schema)).value.definitions.same schema.definitions = true)
  (hcomposes : schema.root.composes) (hdefinitions : schema.definitions ≠ [])
include hsame hcomposes hdefinitions

/-- What a document kept in the root hoists last is a body of the renamed schema, as it was before. -/
theorem exists_rename_of_root {name : String} {body : Node}
    (hbody : Entries.find? name (hoists (keptSteps schema.root)).reverse = some body) :
    ∃ other, Entries.find? name (schema.rename f).definitions = some other ∧
      body.same other = true := by
  obtain ⟨hname, htargets⟩ :=
    hspares.root _ (List.mem_reverse.mp (Entries.mem_of_find? hbody))
  have hfound : Entries.find? name (read (schemaForm schema)).value.definitions = some body := by
    rw [find?_read_schemaForm hparted hcomposes hdefinitions hschema.names, hbody]
    rfl
  obtain ⟨other, hother, hequal⟩ := exists_find?_of_same hsame hfound
  have hstays : other.retarget (renamedTarget f) = other :=
    hschema.named.retarget_eq_self (.definition (Entries.mem_of_find? hother))
      fun target htarget => htargets target (Node.mem_references_of_same hequal htarget)
  have hrenamed := find?_rename hinjective (Entries.mem_names_of_find? hother)
  rw [hname, hother, Option.map_some, hstays] at hrenamed
  exact ⟨other, hrenamed, hequal⟩

/-- The form of a renamed body is read as an equal node, unless a document kept in the root has the last
word about its name. -/
theorem same_of_find?_rename {name : String} {renamed : Node}
    (hroot : Entries.find? name (hoists (keptSteps schema.root)).reverse = none)
    (hrenamed : Entries.find? name (schema.rename f).definitions = some renamed) :
    (nodeOf (form renamed)).same renamed = true := by
  have hname := Entries.mem_names_of_find? hrenamed
  rw [Schema.names_rename] at hname
  obtain ⟨key, hkey, rfl⟩ := List.mem_map.mp hname
  obtain ⟨body, hbody⟩ := Entries.exists_find?_of_mem_names hkey
  rw [find?_rename hinjective hkey, hbody] at hrenamed
  obtain rfl := Option.some.inj hrenamed
  have hnone : Entries.find? key (hoists (keptSteps schema.root)).reverse = none := by
    cases hkept : Entries.find? key (hoists (keptSteps schema.root)).reverse with
    | none => rfl
    | some found =>
      obtain ⟨hstays, -⟩ :=
        hspares.root _ (List.mem_reverse.mp (Entries.mem_of_find? hkept))
      rw [hstays, hkept] at hroot
      cases hroot
  have hfound : Entries.find? key (read (schemaForm schema)).value.definitions =
      some (nodeOf (form body)) := by
    rw [find?_read_schemaForm hparted hcomposes hdefinitions hschema.names, hnone, hbody]
    rfl
  obtain ⟨other, hother, hequal⟩ := exists_find?_of_same hsame hfound
  obtain rfl := Option.some.inj (hbody.symm.trans hother)
  exact same_nodeOf_retarget hschema.kept hparted _ (.definition (Entries.mem_of_find? hbody)) hequal

omit hspares hsame in
/-- Under a name the form of the renamed schema defines what the documents kept in the root hoist last, or
else what the form of the renamed definition is read as, or else what the documents kept in bodies hoist
last. -/
theorem find?_read_rename (name : String) :
    Entries.find? name (read (schemaForm (schema.rename f))).value.definitions =
      ((Entries.find? name (hoists (keptSteps schema.root)).reverse).or
        ((Entries.find? name (schema.rename f).definitions).map fun body => nodeOf (form body))).or
        (Entries.find? name
          (schema.definitions.flatMap fun entry => hoists (keptSteps entry.2)).reverse) := by
  have hroot : keptSteps (schema.rename f).root = keptSteps schema.root := keptSteps_retarget _ _
  rw [find?_read_schemaForm (parted_rename hparted) (Node.composes_retarget.trans hcomposes)
    (by simpa [rename] using hdefinitions) (hschema.names_rename hinjective), hroot,
    flatMap_keptSteps_rename]

/-- What is read from the document of the renamed schema under a name is equal to its definition of the
name. -/
theorem exists_rename_of_read {name : String} {body : Node}
    (hbody : Entries.find? name (read (schemaForm (schema.rename f))).value.definitions = some body) :
    ∃ other, Entries.find? name (schema.rename f).definitions = some other ∧ body.same other = true := by
  rw [find?_read_rename hschema hinjective hparted hcomposes hdefinitions] at hbody
  cases hroot : Entries.find? name (hoists (keptSteps schema.root)).reverse with
  | some found =>
    obtain rfl : found = body := by simpa [hroot] using hbody
    exact exists_rename_of_root hschema hinjective hspares hparted hsame hcomposes hdefinitions hroot
  | none =>
    cases hown : Entries.find? name (schema.rename f).definitions with
    | some renamed =>
      obtain rfl : nodeOf (form renamed) = body := by simpa [hroot, hown] using hbody
      exact ⟨renamed, rfl, same_of_find?_rename hschema hinjective hspares hparted hsame hcomposes
        hdefinitions hroot hown⟩
    | none =>
      have hkept : Entries.find? name
          (schema.definitions.flatMap fun entry => hoists (keptSteps entry.2)).reverse =
            some body := by simpa [hroot, hown] using hbody
      obtain ⟨definition, hdefinition, hhoisted⟩ :=
        List.mem_flatMap.mp (List.mem_reverse.mp (Entries.mem_of_find? hkept))
      exact absurd (hspares.bodies definition hdefinition _ hhoisted)
        (Entries.find?_eq_none_iff.mp hown)

/-- The definitions that are read from the document of the renamed schema are equal to its own. -/
theorem same_definitions_rename :
    (read (schemaForm (schema.rename f))).value.definitions.same (schema.rename f).definitions =
      true := by
  have hread : (Entries.names (read (schemaForm (schema.rename f))).value.definitions).Nodup :=
    definitions_eq_ofList (schemaForm (schema.rename f)) ▸ Entries.nodup_names_ofList _
  apply same_of_find? hread (hschema.names_rename hinjective)
  · intro name hname
    obtain ⟨body, hbody⟩ := Entries.exists_find?_of_mem_names hname
    have hfound := find?_read_rename hschema hinjective hparted hcomposes hdefinitions name
    rw [hbody] at hfound
    cases hroot : Entries.find? name (hoists (keptSteps schema.root)).reverse with
    | none => exact Entries.mem_names_of_find? (by simpa [hroot] using hfound)
    | some found => exact Entries.mem_names_of_find? (by simpa [hroot] using hfound)
  · intro name body
    exact exists_rename_of_read hschema hinjective hspares hparted hsame hcomposes hdefinitions

end RoundTrip

/-- The nodes of a schema that is read again from its document are parted. -/
theorem RoundTrips.parted (hschema : schema.Renamable) (h : schema.RoundTrips) (node : Node)
    (hnode : schema.Contains [] node) : node.Parted := by
  obtain ⟨document, hwrite, hsame⟩ := h
  obtain rfl := eq_schemaForm_of_write hschema.present hschema.names hwrite
  have hsettled := settled_read (wellFormed_schemaForm_kept hschema.kept hschema.names)
  obtain ⟨other, hother, hequal⟩ := hnode.exists_settled hsettled hsame
  exact hother.parted_of_same hequal

/-- A schema that is read again from its document is read again when its definitions are renamed, if what
its documents define is spared. -/
theorem RoundTrips.rename (hschema : schema.Renamable)
    (hinjective : Set.InjOn f {name | name ∈ Entries.names schema.definitions})
    (hspares : schema.Spares f) (h : schema.RoundTrips) : (schema.rename f).RoundTrips := by
  have hparted := h.parted hschema
  obtain ⟨document, hwrite, hsame⟩ := h
  by_cases hfixed : ∀ name ∈ Entries.names schema.definitions, f name = name
  · rw [hschema.named.rename_eq_self hfixed]
    exact ⟨document, hwrite, hsame⟩
  obtain rfl := eq_schemaForm_of_write hschema.present hschema.names hwrite
  have hdefinitions : schema.definitions ≠ [] := fun hnil => hfixed (by simp [hnil, Entries.names])
  rw [Schema.same, Bool.and_eq_true] at hsame
  obtain ⟨hroot, hbodies⟩ := hsame
  change (nodeOf (schemaForm schema)).same schema.root = true at hroot
  have hcomposes : schema.root.composes := by
    rcases (hparted _ .root).cases with hcomposes | ⟨document, hverbatim⟩
    · exact hcomposes
    · refine absurd (fun name hname => ?_) hfixed
      have hhoisted := mem_names_hoists_of_root hverbatim hdefinitions hroot hname
      obtain ⟨entry, hentry, rfl⟩ := List.mem_map.mp hhoisted
      rw [← keptSteps_verbatim, ← hverbatim] at hentry
      exact (hspares.root entry hentry).1
  refine ⟨_, write_parted (parted_rename hparted) (hschema.names_rename hinjective), ?_⟩
  rw [Schema.same, Bool.and_eq_true]
  constructor
  · rw [nodeOf_schemaForm_of_same hcomposes hdefinitions (.inr hroot)] at hroot
    have hrenamed := same_nodeOf_retarget hschema.kept hparted (renamedTarget f) .root hroot
    change (nodeOf (schemaForm (schema.rename f))).same (schema.rename f).root = true
    rw [nodeOf_schemaForm_of_same (Node.composes_retarget.trans hcomposes)
      (by simpa [Schema.rename] using hdefinitions) (.inl hrenamed)]
    exact hrenamed
  · exact same_definitions_rename hschema hinjective hspares hparted hbodies hcomposes hdefinitions

/-- The names of definitions are bound. Where they are renamed by a renaming that keeps them apart, with all
references to them, every check is as before. If the renaming spares what the documents kept in the schema
define, then the renamed schema is read again from its document if the schema is. -/
theorem check_rename_and_roundTrips (schema : Schema) (hschema : schema.Renamable)
    (f : String → String) (hinjective : Set.InjOn f {name | name ∈ Entries.names schema.definitions}) :
    (∀ strictness value,
      (schema.rename f).check [] strictness value = schema.check [] strictness value) ∧
    (schema.Spares f → schema.RoundTrips → (schema.rename f).RoundTrips) :=
  ⟨check_rename hinjective hschema.named hschema.contractive,
    fun hspares => RoundTrips.rename hschema hinjective hspares⟩

/-- What an identifier is, as a document that is kept defines it. -/
def identifiers : Json :=
  .object [("definitions", .object [("id", .object [("type", .string "integer")])])]

/-- Anything is a folder, as a document that is kept defines it. -/
def boxes : Json := .object [("definitions", .object [("folder", .bool true)])]

/-- Folders and files that refer to each other, beside two documents. -/
def folders : Schema where
  root := .object {} [⟨"top", .reference {} "#/definitions/folder", true⟩,
    ⟨"kept", .verbatim identifiers, false⟩] {}
  definitions := [
    ("folder", .object {} [⟨"files", .array {} (some (.reference {} "#/definitions/file")) {}, true⟩,
      ⟨"box", .verbatim boxes, false⟩] {}),
    ("file", .object {} [⟨"id", .reference {} "#/definitions/id", true⟩,
      ⟨"folder", .combined {} .anyOf [.null {}, .reference {} "#/definitions/folder"], false⟩] {}),
    ("id", .integer {} {})]

/-- Files are called folders, and folders are called by what looks like a path. -/
def relabel : String → String
  | "folder" => "#/$defs/a/b"
  | "file" => "folder"
  | name => name

/-- Under their new names the folders are checked as before, and still come back the same. -/
theorem check_rename_and_roundTrips_folders : folders.Renamable ∧
    Set.InjOn relabel {name | name ∈ Entries.names folders.definitions} ∧
    folders.Spares relabel ∧ folders.RoundTrips ∧
    (∀ strictness value,
      (folders.rename relabel).check [] strictness value = folders.check [] strictness value) ∧
    (folders.rename relabel).RoundTrips := by
  have hmem : ∀ node, folders.Contains [] node → node ∈ [folders.root,
      .reference {} "#/definitions/folder", .verbatim identifiers,
      .object {} [⟨"files", .array {} (some (.reference {} "#/definitions/file")) {}, true⟩,
        ⟨"box", .verbatim boxes, false⟩] {},
      .array {} (some (.reference {} "#/definitions/file")) {}, .reference {} "#/definitions/file",
      .object {} [⟨"id", .reference {} "#/definitions/id", true⟩,
        ⟨"folder", .combined {} .anyOf [.null {}, .reference {} "#/definitions/folder"], false⟩] {},
      .combined {} .anyOf [.null {}, .reference {} "#/definitions/folder"], .null {},
      .reference {} "#/definitions/id", .verbatim boxes, .integer {} {}] := fun node hnode =>
    hnode.mem_of_closed (by simp) (by simp [folders]) (by simp) (by simp [folders, Node.children])
  simp only [List.mem_cons, List.not_mem_nil, or_false] at hmem
  have hrenamable : folders.Renamable := {
    present := fun node hnode thunk heq => by
      subst heq
      simpa [folders] using hmem _ hnode
    named := fun docs target hnode => by
      have htarget := hmem _ hnode
      simp only [folders, Node.reference.injEq, reduceCtorEq, false_or, or_false] at htarget
      rcases htarget with ⟨-, rfl⟩ | ⟨-, rfl⟩ | ⟨-, rfl⟩
      · exact ⟨"folder", by decide, by decide⟩
      · exact ⟨"file", by decide, by decide⟩
      · exact ⟨"id", by decide, by decide⟩
    contractive := contractive_of_links_eq_nil (by simp [folders, Node.links]) (by simp)
    names := by decide
    kept := fun node hnode => by
      rcases hmem node hnode with
        rfl | rfl | rfl | rfl | rfl | rfl | rfl | rfl | rfl | rfl | rfl | rfl <;>
          constructor <;> simp [folders, identifiers, boxes, Node.docs, Entries.names] }
  have hinjective : Set.InjOn relabel {name | name ∈ Entries.names folders.definitions} := by
    intro name hname other hother heq
    have hcases : ∀ key ∈ Entries.names folders.definitions,
        key = "folder" ∨ key = "file" ∨ key = "id" := by decide
    rcases hcases name hname with rfl | rfl | rfl <;> rcases hcases other hother with rfl | rfl | rfl <;>
      first | rfl | exact absurd heq (by decide)
  have hspares : folders.Spares relabel := {
    root := by
      have hhoists : hoists (keptSteps folders.root) = [("id", .integer {} {})] := by with_unfolding_all rfl
      simp [hhoists, relabel, Node.references]
    bodies := by
      have hhoists : (folders.definitions.flatMap fun entry => hoists (keptSteps entry.2)) =
          [("folder", .verbatim (.bool true))] := by with_unfolding_all rfl
      have hnames : "folder" ∈ Entries.names (folders.rename relabel).definitions := by
        rw [Schema.names_rename]
        decide
      intro definition hdefinition entry hentry
      have hhoisted : entry ∈ folders.definitions.flatMap fun entry => hoists (keptSteps entry.2) :=
        List.mem_flatMap.mpr ⟨definition, hdefinition, hentry⟩
      rw [hhoists, List.mem_singleton] at hhoisted
      rwa [hhoisted] }
  have hread : (read (schemaForm folders)).value = folders := by with_unfolding_all rfl
  have hsettled := settled_read (wellFormed_schemaForm_kept hrenamable.kept hrenamable.names)
  have hround : folders.RoundTrips :=
    ⟨schemaForm folders, write_settled (hread ▸ hsettled), by rw [hread]; decide +kernel⟩
  have hrename := check_rename_and_roundTrips folders hrenamable relabel hinjective
  exact ⟨hrenamable, hinjective, hspares, hround, hrename.1, hrename.2 hspares hround⟩

/-- An integer as the only definition, and a document that defines the same under the same name. -/
def keeping : Schema where
  root := .object {} [⟨"p", .verbatim (.object [("definitions",
    .object [("a", .object [("type", .string "integer")])])]), false⟩] {}
  definitions := [("a", .integer {} {})]

/-- A document that is kept goes on to define what it defined, so it adds to the renamed definitions. -/
theorem not_roundTrips_rename_keeping : keeping.Renamable ∧
    Set.InjOn (fun _ => "b") {name | name ∈ Entries.names keeping.definitions} ∧
    keeping.RoundTrips ∧ ¬ (keeping.rename fun _ => "b").RoundTrips := by
  have hmem : ∀ node, keeping.Contains [] node → node ∈ [keeping.root,
      .verbatim (.object [("definitions", .object [("a", .object [("type", .string "integer")])])]),
      .integer {} {}] := fun node hnode =>
    hnode.mem_of_closed (by simp) (by simp [keeping]) (by simp) (by simp [keeping, Node.children])
  simp only [List.mem_cons, List.not_mem_nil, or_false] at hmem
  have hrenamable : keeping.Renamable := {
    present := fun node hnode thunk heq => by
      subst heq
      simpa [keeping] using hmem _ hnode
    named := fun docs target hnode => by simpa [keeping] using hmem _ hnode
    contractive := contractive_of_links_eq_nil (by simp [keeping, Node.links]) (by simp)
    names := by decide
    kept := fun node hnode => by
      rcases hmem node hnode with rfl | rfl | rfl <;>
        constructor <;> simp [keeping, Node.docs, Entries.names] }
  have hinjective : Set.InjOn (fun _ => "b") {name | name ∈ Entries.names keeping.definitions} := by
    intro name hname other hother _
    have hcases : ∀ key ∈ Entries.names keeping.definitions, key = "a" := by decide
    rw [hcases name hname, hcases other hother]
  have hread : (read (schemaForm keeping)).value = keeping := by with_unfolding_all rfl
  have hsettled := settled_read (wellFormed_schemaForm_kept hrenamable.kept hrenamable.names)
  have hround : keeping.RoundTrips :=
    ⟨schemaForm keeping, write_settled (hread ▸ hsettled), by rw [hread]; decide +kernel⟩
  refine ⟨hrenamable, hinjective, hround, ?_⟩
  rintro ⟨document, hwrite, hsame⟩
  have hform : (write [] (keeping.rename fun _ => "b")).value =
      .ok (schemaForm (keeping.rename fun _ => "b")) :=
    write_parted (parted_rename (hround.parted hrenamable)) (hrenamable.names_rename hinjective)
  obtain rfl := Except.ok.inj (hform.symm.trans hwrite)
  have hdiffers : (read (schemaForm (keeping.rename fun _ => "b"))).value.same
      (keeping.rename fun _ => "b") = false := by with_unfolding_all rfl
  rw [hdiffers] at hsame
  cases hsame

end Schema

end JsonSchema
