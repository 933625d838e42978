import JsonSchema.Proofs.Document.Attributes
import JsonSchema.Proofs.Node.Contents
import Mathlib.Data.List.Nodup

/-!
# Documents and their parts

The document of a node that is not deferred is composed of the documents of the nodes inside it.
Reading goes the other way: the shape of a composed document has those documents as its parts, and
puts the same node together again from the nodes that they are read as. Only two things are not read
back as they were: a format with the label of a named one is read as that, and a null document
where a schema may be absent is read as an absent one.
-/

namespace JsonSchema

/-- All numbers of the rules are integers. -/
def NumberRules.Integral (rules : NumberRules) : Prop :=
  ∃ (enum : Option (List Int)) (range : Bounds Int),
    rules = ⟨enum.map (·.map .int), ⟨range.least.map .int, range.greatest.map .int⟩⟩

namespace Node

/-- Whether the document of a node is composed of documents of the nodes inside. -/
def composes : Node → Bool
  | .deferred _ | .verbatim _ | .unknown => false
  | _ => true

/-- Whether a node is of a kind that has no nodes inside, and is composed. -/
def plain : Node → Bool
  | .string .. | .integer .. | .number .. | .boolean .. | .null .. | .reference .. => true
  | _ => false

/-- Properties have different names, and what is asked of integers are integers. -/
def Typed : Node → Prop
  | .object _ properties _ => (properties.map (·.name)).Nodup
  | .integer _ rules => rules.Integral
  | _ => True

end Node

namespace Document

/-- The members of a document with a type. -/
def typedMembers (docs : Documentation) (name : String) (attributes : Entries Json) : Entries Json :=
  ("type", .string name) :: headAttributes docs ++ attributes ++ exampleAttributes docs

/-- The members of the document of a node, where the documents of the nodes inside are given. -/
def compose : Node → List Json → Entries Json
  | .object docs properties count, parts =>
    typedMembers docs "object"
      (objectAttributes properties ((properties.map (·.name)).zip parts) count)
  | .array docs _ length, parts =>
    typedMembers docs "array"
      (entry "items" parts.head? ++ boundAttributes "minItems" "maxItems" length)
  | .tuple docs items _ length, parts =>
    typedMembers docs "array" (("items", .array (parts.take items.length)) ::
      (entry "additionalItems" (parts.drop items.length).head? ++
        boundAttributes "minItems" "maxItems" length))
  | .string docs rules, _ => typedMembers docs "string" (stringAttributes rules)
  | .integer docs rules, _ => typedMembers docs "integer" (numberAttributes rules)
  | .number docs rules, _ => typedMembers docs "number" (numberAttributes rules)
  | .boolean docs enum, _ => typedMembers docs "boolean" (enumAttribute .bool enum)
  | .null docs, _ => typedMembers docs "null" []
  | .reference docs target, _ =>
    ("$ref", .string target) :: headAttributes docs ++ exampleAttributes docs
  | .combined docs how _, parts =>
    (how.keyword, .array parts) :: headAttributes docs ++ exampleAttributes docs
  | _, _ => []

/-- A node with other nodes inside, and with its format as it is read from its label. -/
def recompose : Node → List Node → Node
  | .object docs properties count, nodes =>
    .object docs (properties.zipWith (fun property node => { property with schema := node }) nodes)
      count
  | .array docs _ length, nodes => .array docs nodes.head? length
  | .tuple docs items _ length, nodes =>
    .tuple docs (nodes.take items.length) (nodes.drop items.length).head? length
  | .string docs rules, _ =>
    .string docs { rules with format := rules.format.map fun format => .ofLabel format.label }
  | .combined docs how _, nodes => .combined docs how nodes
  | node, _ => node

/-- The document that is read as a schema which may be absent. -/
def present (part : Option Json) : List Json := (part.filter (! · matches .null)).toList

/-- The documents that are read as the parts of a node. -/
def readable : Node → List Json → List Json
  | .array _ _ _, parts => present parts.head?
  | .tuple _ items _ _, parts => parts.take items.length ++ present (parts.drop items.length).head?
  | _, parts => parts

/-- A schema that may be absent is read where it is not null. -/
theorem toList_schema? {members : Entries Json} {keyword : String} {part : Option Json}
    (h : Attribute.value? members keyword = part) :
    (Shape.schema? members keyword).toList = present part := by
  rw [Shape.schema?, h]
  cases part with
  | none => rfl
  | some part => cases part <;> rfl

section Typed

variable {docs : Documentation} {name : String} {attributes : Entries Json}

/-- A keyword that is neither the type nor part of the documentation is an attribute. -/
theorem value?_typedMembers {keyword : String} (htype : "type" ≠ keyword)
    (htitle : "title" ≠ keyword) (hdescription : "description" ≠ keyword)
    (hexamples : "examples" ≠ keyword) :
    Attribute.value? (typedMembers docs name attributes) keyword =
      Entries.find? keyword attributes := by
  simp [Attribute.value?, typedMembers, headAttributes, htype, htitle, hdescription, hexamples]

/-- The documentation is read back from a document with a type. -/
theorem docs_typedMembers (htitle : Entries.find? "title" attributes = none)
    (hdescription : Entries.find? "description" attributes = none)
    (hexamples : Entries.find? "examples" attributes = none) :
    Attribute.docs (typedMembers docs name attributes) = .ok docs := by
  apply Attribute.docs_eq_ok <;>
    simp [Attribute.value?, typedMembers, headAttributes, htitle, hdescription, hexamples]

/-- A document with a type that is neither a reference nor a combination is read by its type. -/
theorem shape_typedMembers (href : Entries.find? "$ref" attributes = none)
    (hone : Entries.find? "oneOf" attributes = none)
    (hany : Entries.find? "anyOf" attributes = none)
    (hall : Entries.find? "allOf" attributes = none) :
    Shape.ofMembers (typedMembers docs name attributes) =
      Shape.ofType (typedMembers docs name attributes) := by
  simp [Shape.ofMembers, value?_typedMembers, Combination.keyword, href, hone, hany, hall]

/-- The members of a typed node tell its type. -/
@[simp] theorem type_typedMembers :
    Attribute.value? (typedMembers docs name attributes) "type" = some (.string name) := rfl

end Typed

/-- Every format is read back as the one of its label. -/
theorem shape_string (docs : Documentation) (rules : StringRules) :
    Shape.string (typedMembers docs "string" (stringAttributes rules)) =
      { outcome := .node (recompose (.string docs rules)) } := by
  have hformat : Attribute.text (typedMembers docs "string" (stringAttributes rules)) "format" =
      .ok (rules.format.map (·.label)) := by
    apply Attribute.text_eq_ok
    simp [value?_typedMembers, stringAttributes, enumAttribute, boundAttributes,
      Function.comp_def]
  have henum : Attribute.enum (typedMembers docs "string" (stringAttributes rules))
      Attribute.text? = .ok rules.enum := by
    apply Attribute.enum_eq_ok .string
    · exact fun _ _ _ _ => rfl
    · simp [value?_typedMembers, stringAttributes, enumAttribute, boundAttributes]
  have hlength : Attribute.bounds (typedMembers docs "string" (stringAttributes rules))
      "minLength" "maxLength" = .ok rules.length := by
    apply Attribute.bounds_eq_ok <;>
      simp [value?_typedMembers, stringAttributes, enumAttribute, boundAttributes]
  have hpattern : Attribute.text (typedMembers docs "string" (stringAttributes rules)) "pattern" =
      .ok rules.pattern := by
    apply Attribute.text_eq_ok
    simp [value?_typedMembers, stringAttributes, enumAttribute, boundAttributes]
  have hdocs : Attribute.docs (typedMembers docs "string" (stringAttributes rules)) = .ok docs := by
    apply docs_typedMembers <;> simp [stringAttributes, enumAttribute, boundAttributes]
  rw [Shape.string, hformat, henum, hlength, hpattern, hdocs]
  simp [Shape.leaf, Shape.outcomeOf, bind, Except.bind, pure, Except.pure, Except.map,
    Option.map_map]
  rfl

/-- The rules of an integer are read back, its numbers being integers. -/
theorem shape_integer (docs : Documentation) {rules : NumberRules} (hrules : rules.Integral) :
    Shape.integer (typedMembers docs "integer" (numberAttributes rules)) =
      { outcome := .node (recompose (.integer docs rules)) } := by
  obtain ⟨enum, range, rfl⟩ := hrules
  generalize hmembers : typedMembers docs "integer" _ = members
  have henum : Attribute.enum members Attribute.integer? = .ok enum := by
    apply Attribute.enum_eq_ok integerJson
    · exact fun _ _ _ _ => rfl
    · simp [← hmembers, value?_typedMembers, numberAttributes, enumAttribute, Function.comp_def]
      rfl
  have hrange : Attribute.bounds members "minimum" "maximum" = .ok range := by
    apply Attribute.bounds_eq_ok
    all_goals
      simp [← hmembers, value?_typedMembers, numberAttributes, enumAttribute, Function.comp_def]
      rfl
  have hdocs : Attribute.docs members = .ok docs := by
    rw [← hmembers]
    apply docs_typedMembers <;> simp [numberAttributes, enumAttribute]
  rw [Shape.integer, henum, hrange, hdocs]
  rfl

/-- The rules of a number are read back. -/
theorem shape_number (docs : Documentation) (rules : NumberRules) :
    Shape.number (typedMembers docs "number" (numberAttributes rules)) =
      { outcome := .node (recompose (.number docs rules)) } := by
  generalize hmembers : typedMembers docs "number" _ = members
  have henum : Attribute.enum members Attribute.number? = .ok rules.enum := by
    apply Attribute.enum_eq_ok .number
    · exact fun _ _ _ _ => rfl
    · simp [← hmembers, value?_typedMembers, numberAttributes, enumAttribute]
  have hleast : Attribute.number members "minimum" = .ok rules.range.least := by
    apply Attribute.number_eq_ok
    simp [← hmembers, value?_typedMembers, numberAttributes, enumAttribute]
  have hgreatest : Attribute.number members "maximum" = .ok rules.range.greatest := by
    apply Attribute.number_eq_ok
    simp [← hmembers, value?_typedMembers, numberAttributes, enumAttribute]
  have hdocs : Attribute.docs members = .ok docs := by
    rw [← hmembers]
    apply docs_typedMembers <;> simp [numberAttributes, enumAttribute]
  rw [Shape.number, henum, hleast, hgreatest, hdocs]
  rfl

/-- The enumeration of a boolean is read back. -/
theorem shape_boolean (docs : Documentation) (enum : Option (List Bool)) :
    Shape.boolean (typedMembers docs "boolean" (enumAttribute .bool enum)) =
      { outcome := .node (recompose (.boolean docs enum)) } := by
  have henum : Attribute.enum (typedMembers docs "boolean" (enumAttribute .bool enum))
      Attribute.boolean? = .ok enum := by
    apply Attribute.enum_eq_ok .bool
    · exact fun _ _ _ _ => rfl
    · simp [value?_typedMembers, enumAttribute]
  have hdocs : Attribute.docs (typedMembers docs "boolean" (enumAttribute .bool enum)) =
      .ok docs := by
    apply docs_typedMembers <;> simp [enumAttribute]
  rw [Shape.boolean, henum, hdocs]
  rfl

/-- The documentation of null is read back. -/
theorem shape_null (docs : Documentation) :
    Shape.null (typedMembers docs "null" []) = { outcome := .node (recompose (.null docs)) } := by
  rw [Shape.null, docs_typedMembers rfl rfl rfl]
  rfl

/-- The documentation after a reference or a combination is read back. -/
theorem docs_cons (docs : Documentation) (keyword : String) (value : Json)
    (htitle : keyword ≠ "title") (hdescription : keyword ≠ "description")
    (hexamples : keyword ≠ "examples") :
    Attribute.docs ((keyword, value) :: headAttributes docs ++ exampleAttributes docs) =
      .ok docs := by
  apply Attribute.docs_eq_ok <;>
    simp [Attribute.value?, headAttributes, htitle, hdescription, hexamples]

/-- The target of a reference is read back. -/
theorem shape_reference (docs : Documentation) (target : String) :
    Shape.ofMembers (("$ref", .string target) :: headAttributes docs ++ exampleAttributes docs) =
      { outcome := .node (recompose (.reference docs target)) } := by
  change Shape.reference _ (.string target) = _
  rw [Shape.reference, docs_cons docs _ _ (by decide) (by decide) (by decide)]
  rfl

/-- The members of a combination are its parts. -/
theorem shape_combined (docs : Documentation) (how : Combination) (members : List Node)
    (parts : List Json) :
    Shape.ofMembers ((how.keyword, .array parts) :: headAttributes docs ++ exampleAttributes docs) =
      ⟨parts, .node (recompose (.combined docs how members))⟩ := by
  have hdocs := docs_cons docs how.keyword (.array parts) (by cases how <;> decide)
    (by cases how <;> decide) (by cases how <;> decide)
  have hshape : Shape.ofMembers
      ((how.keyword, .array parts) :: headAttributes docs ++ exampleAttributes docs) =
      Shape.combined ((how.keyword, .array parts) :: headAttributes docs ++ exampleAttributes docs)
        how (.array parts) := by
    cases how <;>
      simp [Shape.ofMembers, Attribute.value?, Combination.keyword, headAttributes]
  rw [hshape, Shape.combined, hdocs]
  rfl

/-- A property is required where its name is among the required names. -/
theorem contains_requiredNames {properties : List (Property Node)} {property : Property Node}
    (hnames : (properties.map (·.name)).Nodup) (hmem : property ∈ properties) :
    (requiredNames properties).contains property.name = property.required := by
  rw [Bool.eq_iff_iff, List.contains_iff_mem]
  constructor
  · intro h
    obtain ⟨other, hother, hname⟩ := List.mem_map.mp h
    obtain ⟨hother, hrequired⟩ := List.mem_filter.mp hother
    rwa [List.inj_on_of_nodup_map hnames hother hmem hname] at hrequired
  · intro h
    exact List.mem_map.mpr ⟨property, List.mem_filter.mpr ⟨hmem, h⟩, rfl⟩

/-- Properties are put together again from their names, the required names and their nodes. -/
theorem properties_requiredNames {properties : List (Property Node)}
    (hnames : (properties.map (·.name)).Nodup) (nodes : List Node) :
    Shape.properties (properties.map (·.name)) (requiredNames properties) nodes =
      properties.zipWith (fun property node => { property with schema := node }) nodes := by
  rw [Shape.properties, List.zip_map_left, List.map_map, ← List.map_uncurry_zip_eq_zipWith]
  refine List.map_congr_left fun ⟨property, node⟩ hmem => ?_
  have hrequired := contains_requiredNames hnames (List.of_mem_zip hmem).1
  simp only [Function.comp_apply, Prod.map_apply, id_eq, Function.uncurry_apply_pair, hrequired]

/-- The documents of properties of different names stand under their names. -/
theorem value?_properties_compose (docs : Documentation) {properties : List (Property Node)}
    (count : Bounds Int) {parts : List Json} (hnames : (properties.map (·.name)).Nodup)
    (hparts : parts.length = properties.length) :
    Attribute.value? (compose (.object docs properties count) parts) "properties" =
      some (.object ((properties.map (·.name)).zip parts)) := by
  have hlength : (properties.map (·.name)).length = parts.length := by simp [hparts]
  have hzip : Entries.ofList ((properties.map (·.name)).zip parts) =
      (properties.map (·.name)).zip parts :=
    Entries.ofList_of_nodup (by rwa [Entries.names, List.map_fst_zip (Nat.le_of_eq hlength)])
  simp [compose, value?_typedMembers, objectAttributes, hzip]

/-- The documents of properties are the parts of an object. -/
theorem shape_object (docs : Documentation) {properties : List (Property Node)}
    (count : Bounds Int) {parts : List Json} (hnames : (properties.map (·.name)).Nodup)
    (hparts : parts.length = properties.length) :
    Shape.object (compose (.object docs properties count) parts) =
      ⟨parts, .node (recompose (.object docs properties count))⟩ := by
  have hproperties := value?_properties_compose docs count hnames hparts
  generalize hmembers : compose (.object docs properties count) parts = members at hproperties ⊢
  rw [compose] at hmembers
  have hlength : (properties.map (·.name)).length = parts.length := by simp [hparts]
  have hdeclared : Shape.declared members = (properties.map (·.name)).zip parts := by
    rw [Shape.declared, hproperties]
    rfl
  have hrequired : Shape.required members = .ok (requiredNames properties) := by
    have hvalue : (Attribute.value? members "required").getD (.array []) =
        .array ((requiredNames properties).map .string) := by
      rw [← hmembers, value?_typedMembers (by decide) (by decide) (by decide) (by decide)]
      cases h : requiredNames properties <;> simp [objectAttributes, boundAttributes, h]
    have hread : Attribute.list? Attribute.text? (.array ((requiredNames properties).map .string)) =
        some (requiredNames properties) :=
      Attribute.list?_eq_some .string _ fun _ _ => rfl
    simp [Shape.required, hproperties, hvalue, hread]
  have hdocs : Attribute.docs members = .ok docs := by
    rw [← hmembers]
    apply docs_typedMembers <;>
      cases h : requiredNames properties <;> simp [objectAttributes, boundAttributes, h]
  have hcount : Attribute.bounds members "minProperties" "maxProperties" = .ok count := by
    apply Attribute.bounds_eq_ok <;>
      cases h : requiredNames properties <;>
        simp [← hmembers, value?_typedMembers, objectAttributes, boundAttributes, h]
  rw [Shape.object, hrequired, hdocs, hcount, hdeclared, Entries.names,
    List.map_fst_zip (Nat.le_of_eq hlength), List.map_snd_zip (Nat.le_of_eq hlength.symm)]
  simp only [Shape.branch, Shape.outcomeOf, bind, Except.bind, pure, Except.pure, Except.map]
  congr 2
  funext nodes
  rw [properties_requiredNames hnames]
  rfl

/-- The document of the items is the part of an array. -/
theorem shape_array (docs : Documentation) (items : Option Node) (length : Bounds Int)
    {parts : List Json} (hparts : ∀ part ∈ parts.head?, ∀ values, part ≠ .array values) :
    Shape.ofType (compose (.array docs items length) parts) =
      ⟨readable (.array docs items length) parts,
        .node (recompose (.array docs items length))⟩ := by
  generalize hmembers : compose (.array docs items length) parts = members
  rw [compose] at hmembers
  have htype : Attribute.value? members "type" = some (.string "array") := by rw [← hmembers]; rfl
  have hitems : Attribute.value? members "items" = parts.head? := by
    simp [← hmembers, value?_typedMembers, boundAttributes]
  have hadditional : Attribute.value? members "additionalItems" = none := by
    simp [← hmembers, value?_typedMembers, boundAttributes]
  have htuple : Shape.isTuple members = false := by
    rw [Shape.isTuple, hitems, hadditional]
    cases hhead : parts.head? with
    | none => rfl
    | some part =>
      cases part with
      | array values => exact absurd rfl (hparts _ hhead values)
      | _ => rfl
  have hdocs : Attribute.docs members = .ok docs := by
    rw [← hmembers]
    apply docs_typedMembers <;> simp [boundAttributes]
  have hlength : Attribute.bounds members "minItems" "maxItems" = .ok length := by
    apply Attribute.bounds_eq_ok <;> simp [← hmembers, value?_typedMembers, boundAttributes]
  rw [Shape.ofType, htype]
  simp only [htuple, Bool.false_eq_true, ↓reduceIte]
  rw [Shape.array, hdocs, hlength, toList_schema? hitems]
  rfl

/-- The documents of the items, and the one of the others, are the parts of a tuple. -/
theorem shape_tuple (docs : Documentation) (items : List Node) (additional : Option Node)
    (length : Bounds Int) {parts : List Json} (hparts : items.length ≤ parts.length) :
    Shape.ofType (compose (.tuple docs items additional length) parts) =
      ⟨readable (.tuple docs items additional length) parts,
        .node (recompose (.tuple docs items additional length))⟩ := by
  generalize hmembers : compose (.tuple docs items additional length) parts = members
  rw [compose] at hmembers
  have htype : Attribute.value? members "type" = some (.string "array") := by rw [← hmembers]; rfl
  have hitems : Attribute.value? members "items" = some (.array (parts.take items.length)) := by
    simp [← hmembers, value?_typedMembers]
  have hadditional : Attribute.value? members "additionalItems" =
      (parts.drop items.length).head? := by
    simp [← hmembers, value?_typedMembers, boundAttributes]
  have hplaced : Shape.placed members = parts.take items.length := by
    rw [Shape.placed, hitems]
    rfl
  have htuple : Shape.isTuple members = true := by
    rw [Shape.isTuple, hitems]
    rfl
  have hdocs : Attribute.docs members = .ok docs := by
    rw [← hmembers]
    apply docs_typedMembers <;> simp [boundAttributes]
  have hlength : Attribute.bounds members "minItems" "maxItems" = .ok length := by
    apply Attribute.bounds_eq_ok <;> simp [← hmembers, value?_typedMembers, boundAttributes]
  rw [Shape.ofType, htype]
  simp only [htuple, ↓reduceIte]
  rw [Shape.tuple, hitems, hdocs, hlength, hplaced, toList_schema? hadditional,
    List.length_take_of_le hparts]
  rfl

/-- Documents fit a node where there is one for each node inside, and none that would make an array
a tuple. -/
def Fits (node : Node) (parts : List Json) : Prop :=
  parts.length = node.children.length ∧
    ∀ docs items length, node = .array docs items length → ∀ values, .array values ∉ parts

/-- The shape of a composed document puts the node together again from its parts. -/
theorem shape_compose {node : Node} {parts : List Json} (hcomposes : node.composes)
    (htyped : node.Typed) (hfits : Fits node parts) :
    Shape.ofMembers (compose node parts) = ⟨readable node parts, .node (recompose node)⟩ := by
  obtain ⟨hlength, harray⟩ := hfits
  cases node with
  | object docs properties count =>
    have hshape := shape_object docs count htyped (by simpa [Node.children] using hlength)
    refine Eq.trans ?_ hshape
    rw [compose, shape_typedMembers]
    · rfl
    all_goals
      cases h : requiredNames properties <;> simp [objectAttributes, boundAttributes, h]
  | array docs items length =>
    rw [← shape_array docs items length fun part hpart values hvalues =>
        harray docs items length rfl values (hvalues ▸ List.mem_of_mem_head? hpart),
      compose, shape_typedMembers] <;> simp [boundAttributes]
  | tuple docs items additional length =>
    rw [← shape_tuple docs items additional length (by simp [hlength, Node.children]), compose,
      shape_typedMembers] <;> simp [boundAttributes]
  | string docs rules =>
    obtain rfl := List.eq_nil_of_length_eq_zero hlength
    rw [compose, shape_typedMembers, Shape.ofType, type_typedMembers]
    · exact shape_string docs rules
    all_goals simp [stringAttributes, enumAttribute, boundAttributes]
  | integer docs rules =>
    obtain rfl := List.eq_nil_of_length_eq_zero hlength
    rw [compose, shape_typedMembers, Shape.ofType, type_typedMembers]
    · exact shape_integer docs htyped
    all_goals simp [numberAttributes, enumAttribute]
  | number docs rules =>
    obtain rfl := List.eq_nil_of_length_eq_zero hlength
    rw [compose, shape_typedMembers, Shape.ofType, type_typedMembers]
    · exact shape_number docs rules
    all_goals simp [numberAttributes, enumAttribute]
  | boolean docs enum =>
    obtain rfl := List.eq_nil_of_length_eq_zero hlength
    rw [compose, shape_typedMembers, Shape.ofType, type_typedMembers]
    · exact shape_boolean docs enum
    all_goals simp [enumAttribute]
  | null docs =>
    obtain rfl := List.eq_nil_of_length_eq_zero hlength
    rw [compose, shape_typedMembers rfl rfl rfl rfl, Shape.ofType, type_typedMembers]
    exact shape_null docs
  | reference docs target =>
    obtain rfl := List.eq_nil_of_length_eq_zero hlength
    exact shape_reference docs target
  | combined docs how members => exact shape_combined docs how members parts
  | _ => simp [Node.composes] at hcomposes

/-- A composed document has no definitions of its own. -/
theorem find?_definitions_compose (node : Node) (parts : List Json) :
    Entries.find? "definitions" (compose node parts) = none := by
  cases node with
  | object docs properties count =>
    cases h : requiredNames properties <;>
      simp [compose, typedMembers, headAttributes, objectAttributes, boundAttributes, h]
  | combined docs how members => cases how <;> simp [compose, headAttributes, Combination.keyword]
  | _ =>
    simp [compose, typedMembers, headAttributes, stringAttributes, numberAttributes,
      enumAttribute, boundAttributes]

/-- A composed document is read as the node put together from the nodes of its parts, with their
steps. -/
theorem parse_compose {node : Node} {parts : List Json} (hcomposes : node.composes)
    (htyped : node.Typed) (hfits : Fits node parts) :
    parse (.object (compose node parts)) =
      ⟨recompose node ((readable node parts).map fun part => (parse part).node),
        (readable node parts).flatMap fun part => (parse part).steps⟩ := by
  rw [parse_object, shape_compose hcomposes htyped hfits, hoisted, defined,
    find?_definitions_compose]
  simp [conclude, List.flatMap_map, Function.comp_def]

end Document

end JsonSchema
