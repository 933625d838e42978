import JsonSchema.Proofs.Document.Normalizing
import JsonSchema.Proofs.Validation.Faults

/-!
# Required properties of documents

A document lists the names of required properties, and the node that it is read as has a mark on each
property that is declared. So every name that is both listed and declared is asked for in every object,
by the schema of the document and by that of the normalized document. A name that is listed only is not:
there is no property to mark.
-/

namespace JsonSchema

namespace Schema

/-- A check of an object without a property reports that it is missing, unless the check ends with the
fault of a pattern in the schema. -/
def Demands (schema : Schema) (name : String) : Prop :=
  ∀ strictness members, Entries.find? name members = none →
    (∃ violations, (schema.check [] strictness (.object members)).result = .ok violations ∧
        ⟨[], .missingProperty name⟩ ∈ violations) ∨
      ∃ node pattern fault, schema.Contains [] node ∧ node.pattern? = some pattern ∧
        Pattern.fault? pattern = some fault ∧
        (schema.check [] strictness (.object members)).result = .error fault

end Schema

/-- The nodes inside a settled node are settled. -/
theorem Node.Settled.child {node child : Node} (h : node.Settled) (hchild : child ∈ node.children) :
    child.Settled := by
  cases h with
  | composed _ _ _ _ _ _ hchildren => exact hchildren child hchild
  | verbatim => cases hchild

/-- A settled node is of a known kind. -/
theorem Node.Settled.known {node : Node} (h : node.Settled) (thunks : Thunks) : node.Known thunks := by
  cases h with
  | composed hcomposes => cases node <;> trivial
  | verbatim => trivial

/-- All nodes of a settled schema are settled. -/
theorem Schema.Settled.of_contains {schema : Schema} {thunks : Thunks} {node : Node}
    (h : schema.Settled) (hnode : schema.Contains thunks node) : node.Settled := by
  induction hnode with
  | root => exact h.root
  | definition hmem => exact h.bodies _ hmem
  | child _ hmem ih => exact ih.child hmem
  | forced _ _ ih =>
    cases ih with
    | composed hcomposes => cases hcomposes

/-- A property that is marked as required is demanded by a settled schema. -/
theorem Schema.Settled.demands {schema : Schema} (h : schema.Settled) {docs : Documentation}
    {properties : List (Property Node)} {count : Bounds Int}
    (hroot : schema.root = .object docs properties count) {property : Property Node}
    (hproperty : property ∈ properties) (hrequired : property.required = true) :
    schema.Demands property.name := by
  intro strictness members habsent
  cases hresult : (schema.check [] strictness (.object members)).result with
  | error fault =>
    obtain ⟨node, pattern, hnode, hpattern, hrefused⟩ := exists_pattern_of_check_eq_error
      (fun node hnode => (h.of_contains hnode).known []) hresult
    exact .inr ⟨node, pattern, fault, hnode, hpattern, hrefused, rfl⟩
  | ok violations =>
    obtain ⟨-, rfl⟩ := Trace.result_eq_ok_iff.mp hresult
    refine .inl ⟨_, rfl, ?_⟩
    have hmissing : Trace.problem (.missingProperty property.name) ∈
        Check.missingTrace properties members := by
      refine List.mem_map.mpr ⟨property, List.mem_filter.mpr ⟨hproperty, ?_⟩, rfl⟩
      simp [hrequired, habsent]
    have hown : schema.root.handsOn = false := by rw [hroot]; rfl
    have hcheck : (⟨[], .missingProperty property.name⟩ : Violation) ∈
        (Check.ownTrace strictness schema.root (.object members)).violations := by
      rw [hroot]
      exact List.mem_filterMap.mpr ⟨_, List.mem_append_left _ hmissing, rfl⟩
    rw [Schema.check, Node.check, Scope.check_own hown, Trace.violations_append]
    exact List.mem_append_left _ hcheck

namespace Document

open Attribute

/-- A text in a list of texts is among those that are read. -/
theorem mem_of_list?_text {items : List Json} {names : List String} {name : String}
    (h : list? text? (.array items) = some names) (hname : .string name ∈ items) : name ∈ names := by
  induction items generalizing names with
  | nil => cases hname
  | cons item rest ih =>
    simp only [list?, List.mapM_cons] at h
    obtain ⟨text, htext, h⟩ := Option.bind_eq_some_iff.mp h
    obtain ⟨others, hothers, h⟩ := Option.bind_eq_some_iff.mp h
    cases h
    rcases List.mem_cons.mp hname with rfl | hname
    · cases htext
      exact List.mem_cons_self
    · exact List.mem_cons_of_mem _ (ih hothers hname)

section Marks

open Shape

variable {members : Entries Json} {docs : Documentation} {properties : List (Property Node)}
  {count : Bounds Int}

/-- The properties of an object are those that its document declares, with a mark on those that it
requires. -/
theorem properties_of_nodeOf (htype : value? members "type" = some (.string "object"))
    (hnode : nodeOf (.object members) = .object docs properties count) :
    ∃ names, required members = .ok names ∧
      properties = (declared members).map fun entry =>
        ⟨entry.1, nodeOf entry.2, names.contains entry.1⟩ := by
  obtain ⟨assemble, houtcome, hassemble⟩ := exists_assemble (by rw [hnode]; rfl)
  rw [hnode] at hassemble
  revert assemble
  unfold ofMembers
  split
  · intro assemble houtcome hassemble
    obtain ⟨node, hread, rfl⟩ := exists_of_outcome_leaf houtcome
    split at hread
    · obtain ⟨others, -, hread⟩ := exists_of_bind_eq_ok hread
      cases hread
      cases hassemble
    · cases hread
  · split
    · intro assemble houtcome hassemble
      obtain ⟨a, b, -, -, -, rfl⟩ := exists_of_outcome_branch houtcome
      cases hassemble
    · have hshape : ofType members = object members := by
        rw [ofType, htype]
        rfl
      rw [hshape]
      intro assemble houtcome hassemble
      obtain ⟨checked, bounds, hchecked, -, hparts, rfl⟩ := exists_of_outcome_branch houtcome
      obtain ⟨names, hnames, hrest⟩ := exists_of_bind_eq_ok hchecked
      obtain ⟨others, -, hpure⟩ := exists_of_bind_eq_ok hrest
      cases hpure
      rw [show (object members).parts = (declared members).map Prod.snd from hparts] at hassemble
      obtain ⟨-, rfl, -⟩ := Node.object.inj hassemble
      refine ⟨names, hnames, ?_⟩
      rw [Shape.properties, Entries.names, List.map_map, List.zip_map', List.map_map]
      rfl

end Marks

/-- Every name that an object document both requires and declares is demanded by the schema of the
document, and by that of the normalized document. -/
theorem demands_required (members : Entries Json) (h : (Json.object members).WellFormed)
    (htype : value? members "type" = some (.string "object")) {docs : Documentation}
    {properties : List (Property Node)} {count : Bounds Int}
    (hroot : (read (.object members)).value.root = .object docs properties count)
    {listed : List Json} (hlisted : value? members "required" = some (.array listed))
    {declared : Entries Json} (hdeclared : value? members "properties" = some (.object declared)) :
    ∀ name, .string name ∈ listed → (Entries.find? name declared).isSome →
      (read (.object members)).value.Demands name ∧
        ∃ normal, normalize (.object members) = .ok normal ∧ (read normal).value.Demands name := by
  intro name hname hfound
  have hschema := settled_read h
  obtain ⟨names, hnames, rfl⟩ := properties_of_nodeOf htype hroot
  have hmem : name ∈ names := by
    rw [Shape.required, hdeclared, hlisted] at hnames
    simp only [Option.getD_some] at hnames
    split at hnames
    · rename_i hread
      cases hnames
      exact mem_of_list?_text hread hname
    · cases hnames
  obtain ⟨body, hbody⟩ := Option.isSome_iff_exists.mp hfound
  have hproperty : (⟨name, nodeOf body, true⟩ : Property Node) ∈
      (Shape.declared members).map fun entry =>
        ⟨entry.1, nodeOf entry.2, names.contains entry.1⟩ := by
    refine List.mem_map.mpr ⟨(name, body), ?_, by simp [hmem]⟩
    rw [Shape.declared, hdeclared]
    exact Entries.mem_of_find? hbody
  have hagain : (read (schemaForm (read (.object members)).value)).value.root =
      .object docs ((Shape.declared members).map fun entry =>
        ⟨entry.1, nodeOf entry.2, names.contains entry.1⟩) count :=
    (nodeOf_schemaForm_of_composes hschema exists_form_root (.inl (by rw [hroot]; rfl))).trans hroot
  exact ⟨hschema.demands hroot hproperty rfl, _, normalize_eq_ok h,
    (settled_read (wellFormed_schemaForm hschema)).demands hagain hproperty rfl⟩

/-- An object that requires `b` and `c` and declares `a` and `b`. -/
def overlap : Entries Json :=
  [("type", .string "object"),
    ("properties", .object [("a", .object [("type", .string "null")]), ("b", .string "any")]),
    ("required", .array [.string "c", .string "b"])]

/-- The name that is both declared and required stays demanded in the normal form. -/
theorem demands_required_overlap : (read (.object overlap)).value.Demands "b" ∧
    ∃ normal, normalize (.object overlap) = .ok normal ∧ (read normal).value.Demands "b" := by
  have hnull : parse (.object [("type", .string "null")]) = ⟨.null {}, []⟩ := by
    rw [parse_object]
    rfl
  have hroot : (read (.object overlap)).value.root =
      .object {} [⟨"a", .null {}, false⟩, ⟨"b", .verbatim (.string "any"), true⟩] {} := by
    have hshape : Shape.ofMembers overlap =
        ⟨[.object [("type", .string "null")], .string "any"],
          .node fun nodes => .object {} (Shape.properties ["a", "b"] ["c", "b"] nodes) {}⟩ := rfl
    change nodeOf (.object overlap) = _
    rw [nodeOf, parse_object, hshape]
    simp [hnull, parse_of_not_object, conclude, Shape.properties]
  exact demands_required overlap (by simp [overlap, Entries.names]) rfl hroot rfl rfl "b" (by simp) rfl

/-- A name that is required but not declared is not asked for. -/
theorem check_undeclared :
    (Json.object [("type", .string "object"), ("required", .array [.string "a"])]).WellFormed ∧
      (read (.object [("type", .string "object"), ("required", .array [.string "a"])])).value.root =
        .object {} [] {} ∧
      ((read (.object [("type", .string "object"), ("required", .array [.string "a"])])).value.check
        [] {} (.object [])).result = .ok [] := by
  have hparse : parse (.object [("type", .string "object"), ("required", .array [.string "a"])]) =
      ⟨.object {} [] {}, []⟩ := by
    rw [parse_object]
    rfl
  have hread : (read (.object [("type", .string "object"),
      ("required", .array [.string "a"])])).value = ⟨.object {} [] {}, []⟩ := by
    rw [read, readInto, hparse]
    rfl
  rw [hread]
  exact ⟨by simp [Entries.names], rfl, by cbv⟩

end Document

end JsonSchema
