import JsonSchema.Proofs.Document.Compose
import JsonSchema.Schema.Assembly

/-!
# Reading without hoisting

Where no definitions stand inside a document, the steps of reading it change nothing, so the
definitions that stand beside its root are all that is read. A verbatim document that is read back
as itself is such a document. Attaching definitions to a document changes what is read at its root
only where that root is kept verbatim.
-/

namespace JsonSchema.Document

/-- Steps that hoist no definition. -/
def Quiet (steps : List Step) : Prop := ∀ definitions, .hoist definitions ∈ steps → definitions = []

/-- No steps are quiet. -/
@[simp] theorem quiet_nil : Quiet [] := by simp [Quiet]

/-- Steps in a row are quiet exactly if all of them are. -/
@[simp] theorem quiet_append {first second : List Step} :
    Quiet (first ++ second) ↔ Quiet first ∧ Quiet second := by
  simp only [Quiet, List.mem_append, or_imp, forall_and]

/-- Steps in a row are quiet where each of them is. -/
theorem quiet_flatMap {α : Type} {steps : α → List Step} {items : List α} :
    Quiet (items.flatMap steps) ↔ ∀ item ∈ items, Quiet (steps item) := by
  simp only [Quiet, List.mem_flatMap, forall_exists_index, and_imp]
  exact ⟨fun h item hitem definitions hmem => h definitions item hitem hmem,
    fun h definitions item hitem hmem => h item hitem definitions hmem⟩

/-- Quiet steps leave definitions of different names as they are. -/
theorem follow_of_quiet {steps : List Step} (hsteps : Quiet steps) {definitions : Definitions}
    (hnames : (Entries.names definitions).Nodup) :
    (follow steps definitions).value = definitions := by
  induction steps with
  | nil => rfl
  | cons step rest ih =>
    have hrest := ih fun hoisted hmem => hsteps hoisted (List.mem_cons_of_mem _ hmem)
    cases step with
    | hoist hoisted =>
      obtain rfl := hsteps hoisted List.mem_cons_self
      have hmerge : Definitions.merge [definitions, []] = definitions := by
        simp [Definitions.merge, Entries.ofList_of_nodup hnames]
      change (follow rest (Definitions.merge [definitions, []])).value = _
      rw [hmerge, hrest]
    | keep reason => exact hrest

/-- Steps of which nothing comes hoist nothing. -/
theorem quiet_of_follow {steps : List Step} {definitions : Definitions}
    (h : (follow steps definitions).value = []) : definitions = [] ∧ Quiet steps := by
  induction steps generalizing definitions with
  | nil => exact ⟨h, quiet_nil⟩
  | cons step rest ih =>
    cases step with
    | hoist hoisted =>
      have hfollow : (follow rest (Definitions.merge [definitions, hoisted])).value = [] := h
      obtain ⟨hmerge, hrest⟩ := ih hfollow
      have hflat := Entries.eq_nil_of_ofList hmerge
      obtain ⟨hdefinitions, hhoisted⟩ : definitions = [] ∧ hoisted = [] := by
        simpa using hflat
      refine ⟨hdefinitions, fun other hmem => ?_⟩
      rcases List.mem_cons.mp hmem with heq | hmem
      · cases heq
        exact hhoisted
      · exact hrest other hmem
    | keep reason =>
      have hfollow : (follow rest definitions).value = [] := h
      obtain ⟨hdefinitions, hrest⟩ := ih hfollow
      refine ⟨hdefinitions, fun other hmem => ?_⟩
      rcases List.mem_cons.mp hmem with heq | hmem
      · cases heq
      · exact hrest other hmem

section Shapes

open Shape

/-- Whether the node that a shape puts together is of a known kind. -/
def Recognises (shape : Shape) : Prop :=
  ∀ assemble, shape.outcome = .node assemble → ∀ nodes, (assemble nodes).composes

/-- A step in a row that ends well follows one that does. -/
theorem exists_of_bind_eq_ok {α β : Type} {first : Except Mismatch α} {next : α → Except Mismatch β}
    {b : β} (h : (do next (← first)) = .ok b) : ∃ a, first = .ok a ∧ next a = .ok b := by
  cases first with
  | error reason => cases h
  | ok a => exact ⟨a, rfl, h⟩

/-- A document without schemas inside gives its node, whatever nodes there are for parts. -/
theorem exists_of_outcome_leaf {result : Except Mismatch Node} {assemble : List Node → Node}
    (h : (leaf result).outcome = .node assemble) :
    ∃ node, result = .ok node ∧ assemble = fun _ => node := by
  cases result with
  | error reason => cases h
  | ok node =>
    cases h
    exact ⟨node, rfl, rfl⟩

/-- A document with schemas inside gives a node where its first and last checks end well. -/
theorem exists_of_outcome_branch {α β : Type} {first : Except Mismatch α} {parts : List Json}
    {last : Except Mismatch β} {put : α → β → List Node → Node} {assemble : List Node → Node}
    (h : (branch first parts last put).outcome = .node assemble) :
    ∃ a b, first = .ok a ∧ last = .ok b ∧ (branch first parts last put).parts = parts ∧
      assemble = put a b := by
  cases first with
  | error reason => cases h
  | ok a =>
    cases last with
    | error reason => cases h
    | ok b =>
      cases h
      exact ⟨a, b, rfl, rfl, rfl, rfl⟩

/-- A document without schemas inside gives a plain node, if any. -/
def Plain (shape : Shape) : Prop :=
  ∃ result, shape = leaf result ∧ ∀ node, result = .ok node → node.plain

/-- A document without schemas inside is recognised where its node is plain. -/
theorem Plain.recognises {shape : Shape} (h : Plain shape) : Recognises shape := by
  obtain ⟨result, rfl, hplain⟩ := h
  intro assemble hassemble nodes
  obtain ⟨node, hnode, rfl⟩ := exists_of_outcome_leaf hassemble
  have hkind := hplain node hnode
  cases node <;> first | rfl | cases hkind

/-- A document with schemas inside is recognised where what is put together from them is. -/
theorem recognises_branch {α β : Type} {first : Except Mismatch α} {parts : List Json}
    {last : Except Mismatch β} {assemble : α → β → List Node → Node}
    (h : ∀ a b nodes, (assemble a b nodes).composes) :
    Recognises (branch first parts last assemble) := by
  intro put hput nodes
  obtain ⟨a, b, -, -, -, rfl⟩ := exists_of_outcome_branch hput
  exact h a b nodes

/-- The document of a reference gives a plain node. -/
theorem plain_reference (members : Entries Json) (target : Json) : Plain (reference members target) := by
  refine ⟨_, rfl, fun node h => ?_⟩
  split at h
  · obtain ⟨docs, -, h⟩ := exists_of_bind_eq_ok h
    cases h
    rfl
  · cases h

/-- The document of a string gives a plain node. -/
theorem plain_string (members : Entries Json) : Plain (string members) := by
  refine ⟨_, rfl, fun node h => ?_⟩
  obtain ⟨format, -, h⟩ := exists_of_bind_eq_ok h
  obtain ⟨enum, -, h⟩ := exists_of_bind_eq_ok h
  obtain ⟨length, -, h⟩ := exists_of_bind_eq_ok h
  obtain ⟨pattern, -, h⟩ := exists_of_bind_eq_ok h
  obtain ⟨docs, -, h⟩ := exists_of_bind_eq_ok h
  cases h
  rfl

/-- The document of an integer gives a plain node. -/
theorem plain_integer (members : Entries Json) : Plain (integer members) := by
  refine ⟨_, rfl, fun node h => ?_⟩
  obtain ⟨enum, -, h⟩ := exists_of_bind_eq_ok h
  obtain ⟨range, -, h⟩ := exists_of_bind_eq_ok h
  obtain ⟨docs, -, h⟩ := exists_of_bind_eq_ok h
  cases h
  rfl

/-- The document of a number gives a plain node. -/
theorem plain_number (members : Entries Json) : Plain (number members) := by
  refine ⟨_, rfl, fun node h => ?_⟩
  obtain ⟨enum, -, h⟩ := exists_of_bind_eq_ok h
  obtain ⟨least, -, h⟩ := exists_of_bind_eq_ok h
  obtain ⟨greatest, -, h⟩ := exists_of_bind_eq_ok h
  obtain ⟨docs, -, h⟩ := exists_of_bind_eq_ok h
  cases h
  rfl

/-- The document of a boolean gives a plain node. -/
theorem plain_boolean (members : Entries Json) : Plain (boolean members) := by
  refine ⟨_, rfl, fun node h => ?_⟩
  obtain ⟨enum, -, h⟩ := exists_of_bind_eq_ok h
  obtain ⟨docs, -, h⟩ := exists_of_bind_eq_ok h
  cases h
  rfl

/-- The document of null gives a plain node. -/
theorem plain_null (members : Entries Json) : Plain (null members) := by
  refine ⟨_, rfl, fun node h => ?_⟩
  obtain ⟨docs, -, h⟩ := exists_of_bind_eq_ok h
  cases h
  rfl

/-- A document with a type is recognised. -/
theorem recognises_ofType (members : Entries Json) : Recognises (ofType members) := by
  unfold ofType
  split
  · exact recognises_branch fun _ _ _ => rfl
  · split
    · exact recognises_branch fun _ _ _ => rfl
    · exact recognises_branch fun _ _ _ => rfl
  · exact (plain_string members).recognises
  · exact (plain_integer members).recognises
  · exact (plain_number members).recognises
  · exact (plain_boolean members).recognises
  · exact (plain_null members).recognises
  · exact fun _ h => nomatch h

/-- What is put together from parts is of a known kind. -/
theorem recognises_ofMembers (members : Entries Json) : Recognises (ofMembers members) := by
  unfold ofMembers
  split
  · exact (plain_reference members _).recognises
  · split
    · exact recognises_branch fun _ _ _ => rfl
    · exact recognises_ofType members

/-- The keywords that make up the shape of a document. -/
def keywords : List String :=
  ["type", "title", "description", "examples", "properties", "required", "minProperties",
    "maxProperties", "items", "additionalItems", "minItems", "maxItems", "minLength", "maxLength",
    "pattern", "format", "minimum", "maximum", "enum", "$ref", "oneOf", "anyOf", "allOf"]

/-- The shape of a document depends on its keywords only. -/
theorem ofMembers_congr_of_keywords {first second : Entries Json}
    (h : ∀ keyword ∈ keywords, Attribute.value? first keyword = Attribute.value? second keyword) :
    ofMembers first = ofMembers second := by
  have htext : ∀ keyword ∈ keywords, Attribute.text first keyword = Attribute.text second keyword := by
    intro keyword hkeyword
    simp only [Attribute.text, Attribute.optional, h keyword hkeyword]
  have hbounds : ∀ least ∈ keywords, ∀ greatest ∈ keywords,
      Attribute.bounds first least greatest = Attribute.bounds second least greatest := by
    intro least hleast greatest hgreatest
    simp only [Attribute.bounds, Attribute.integer, Attribute.optional, h least hleast,
      h greatest hgreatest]
  have hdocs : Attribute.docs first = Attribute.docs second := by
    simp (disch := decide) only [Attribute.docs, h, htext]
  have htuple : isTuple first = isTuple second := by
    simp (disch := decide) only [isTuple, h]
  simp (disch := decide) only [ofMembers, reference, combined, ofType, object, tuple, array, string,
    integer, number, boolean, null, placed, schema?, declared, required, Attribute.number,
    Attribute.enum, Attribute.optional, Combination.keyword, List.findSome?_cons,
    List.findSome?_nil, h, htext, hbounds, hdocs, htuple]

/-- The shape of a document does not depend on its definitions. -/
theorem ofMembers_congr {first second : Entries Json}
    (h : ∀ keyword, keyword ≠ "definitions" →
      Attribute.value? first keyword = Attribute.value? second keyword) :
    ofMembers first = ofMembers second :=
  ofMembers_congr_of_keywords fun keyword hkeyword =>
    h keyword (ne_of_mem_of_not_mem hkeyword (by decide))

end Shapes

/-- A document is kept verbatim or read as a node of a known kind. -/
theorem node_conclude {document : Json} {shape : Shape} (h : Recognises shape)
    (parts : List Parsed) :
    (conclude document shape.outcome parts).node = .verbatim document ∨
      (conclude document shape.outcome parts).node.composes := by
  cases houtcome : shape.outcome with
  | node assemble => exact .inr (h assemble houtcome _)
  | mismatch reason => exact .inl rfl
  | unrecognised => exact .inl rfl

/-- What is no object is kept verbatim. -/
theorem parse_of_not_object {document : Json} (h : ∀ members, document ≠ .object members) :
    parse document = ⟨.verbatim document, []⟩ := by
  rw [parse]
  exact h

/-- A document is kept verbatim or read as a node of a known kind. -/
theorem node_parse (document : Json) :
    (parse document).node = .verbatim document ∨ (parse document).node.composes := by
  cases document with
  | object members =>
    rw [parse_object]
    exact node_conclude (recognises_ofMembers members) _
  | _ => exact .inl (by rw [parse_of_not_object (by simp)])

/-- The schema of a document. -/
theorem read_value (document : Json) :
    (read document).value = ⟨(parse document).node, (follow (parse document).steps []).value⟩ := rfl

/-- A document that is read back as itself is kept verbatim and hoists nothing. -/
theorem parse_verbatim {document : Json}
    (h : (read document).value.same (Schema.verbatim document) = true) :
    (parse document).node = .verbatim document ∧ Quiet (parse document).steps := by
  rw [read_value, Schema.same, Bool.and_eq_true] at h
  obtain ⟨hroot, hdefinitions⟩ := h
  constructor
  · rcases node_parse document with hverbatim | hcomposes
    · exact hverbatim
    · cases hnode : (parse document).node <;>
        simp [hnode, Schema.verbatim, Node.same, Node.composes] at hroot hcomposes
  · rw [Definitions.same, Bool.and_eq_true] at hdefinitions
    exact (quiet_of_follow (List.length_eq_zero_iff.mp (beq_iff_eq.mp hdefinitions.1))).2

/-- Steps in a row act one after the other. -/
theorem follow_append (first second : List Step) (definitions : Definitions) :
    (follow (first ++ second) definitions).value =
      (follow second (follow first definitions).value).value := by
  induction first generalizing definitions with
  | nil => rfl
  | cons step rest ih =>
    cases step with
    | hoist hoisted => exact ih (Definitions.merge [definitions, hoisted])
    | keep reason => exact ih definitions

/-- The steps of a document do not depend on what is kept where it is kept verbatim. -/
theorem steps_conclude (first second : Json) (outcome : Outcome) (parts : List Parsed) :
    (conclude first outcome parts).steps = (conclude second outcome parts).steps := by
  cases outcome <;> rfl

/-- The node of a document does not depend on what would be kept, unless it is. -/
theorem node_conclude_congr (first second : Json) (outcome : Outcome) (parts : List Parsed) :
    (conclude first outcome parts).node = (conclude second outcome parts).node ∨
      (conclude first outcome parts).node = .verbatim first ∧
        (conclude second outcome parts).node = .verbatim second := by
  cases outcome with
  | node assemble => exact .inl rfl
  | mismatch reason => exact .inr ⟨rfl, rfl⟩
  | unrecognised => exact .inr ⟨rfl, rfl⟩

section Attach

variable {definitions : Entries Json}

/-- The definitions of an object that carries them are read where nothing else is hoisted. -/
theorem definitions_read_object {members : Entries Json}
    (hmembers : Entries.find? "definitions" members = some (.object definitions))
    (hparts : Quiet (conclude .null (Shape.ofMembers members).outcome
      ((Shape.ofMembers members).parts.map parse)).steps)
    (hbodies : ∀ entry ∈ definitions, Quiet (parse entry.2).steps)
    (hnames : (Entries.names definitions).Nodup) :
    (read (.object members)).value.definitions =
      definitions.map fun (name, body) => (name, (parse body).node) := by
  have hdefined : defined members = some definitions := by rw [defined, hmembers]
  have hread : (Entries.names (definitions.map fun (name, body) =>
      (name, (parse body).node))).Nodup := by
    simpa [Entries.names, Function.comp_def] using hnames
  have hquiet : Quiet ((definitions.map fun (name, body) =>
      (name, parse body)).flatMap fun entry => entry.2.steps) :=
    quiet_flatMap.mpr fun entry hentry => by
      obtain ⟨body, hbody, rfl⟩ := List.mem_map.mp hentry
      exact hbodies body hbody
  have hmerge : Definitions.merge [[], Entries.ofList
      ((definitions.map fun (name, body) => (name, parse body)).map fun entry =>
        (entry.1, entry.2.node))] = definitions.map fun (name, body) => (name, (parse body).node) := by
    rw [List.map_map, Function.comp_def, Entries.ofList_of_nodup hread, Definitions.merge]
    simpa using Entries.ofList_of_nodup hread
  rw [read_value, parse_object]
  simp only [hoisted, hdefined, hoisting]
  rw [follow_append, follow_append, follow_of_quiet hquiet (by simp [Entries.names]),
    steps_conclude _ .null]
  change (follow _ (Definitions.merge [[], _])).value = _
  rw [hmerge, follow_of_quiet hparts hread]

/-- Definitions put among the members of an object do not change its shape. -/
theorem ofMembers_put (members : Entries Json) :
    Shape.ofMembers (Entries.put "definitions" (.object definitions) members) =
      Shape.ofMembers members :=
  ofMembers_congr fun keyword hkeyword => by simp [Attribute.value?, hkeyword.symm]

/-- A document that is wrapped to carry definitions is the only member of a combination. -/
theorem ofMembers_wrapped (root : Json) :
    Shape.ofMembers [("allOf", .array [root]), ("definitions", .object definitions)] =
      ⟨[root], .node (recompose (.combined {} .allOf []))⟩ := by
  rw [← shape_combined]
  exact ofMembers_congr fun keyword hkeyword => by
    simp [Attribute.value?, hkeyword.symm, headAttributes, Combination.keyword]

/-- The definitions that are read are those that stand beside a root without others. -/
theorem definitions_read_attach {root : Json} (hroot : Quiet (parse root).steps)
    (hbodies : ∀ entry ∈ definitions, Quiet (parse entry.2).steps)
    (hnames : (Entries.names definitions).Nodup) :
    (read (attach root definitions)).value.definitions =
      definitions.map fun (name, body) => (name, (parse body).node) := by
  by_cases hempty : definitions = []
  · subst hempty
    exact follow_of_quiet hroot (by simp [Entries.names])
  · unfold attach
    rw [if_neg (by simpa using hempty)]
    split
    · rename_i members
      apply definitions_read_object (by simp) _ hbodies hnames
      rw [parse_object] at hroot
      rw [ofMembers_put, steps_conclude _ (.object members)]
      exact (quiet_append.mp hroot).2
    · apply definitions_read_object (by simp) _ hbodies hnames
      rw [ofMembers_wrapped]
      simpa [conclude] using hroot

/-- The root is read as without definitions beside it, unless it is kept verbatim. -/
theorem root_read_attach (root : Json) (definitions : Entries Json) :
    (read (attach root definitions)).value.root = (parse root).node ∨
      (parse root).node = .verbatim root ∧
        ((∃ document, (read (attach root definitions)).value.root = .verbatim document) ∨
          (read (attach root definitions)).value.root = .combined {} .allOf [.verbatim root]) := by
  rw [read_value]
  by_cases hempty : definitions = []
  · subst hempty
    exact .inl rfl
  · unfold attach
    rw [if_neg (by simpa using hempty)]
    split
    · rename_i members
      rw [parse_object, parse_object, ofMembers_put]
      rcases node_conclude_congr (.object (Entries.put "definitions" (.object definitions) members))
        (.object members) (Shape.ofMembers members).outcome
        ((Shape.ofMembers members).parts.map parse) with hnode | ⟨hnode, hroot⟩
      · exact .inl hnode
      · exact .inr ⟨hroot, .inl ⟨_, hnode⟩⟩
    · rename_i hroot
      have hverbatim : (parse root).node = .verbatim root := by rw [parse_of_not_object hroot]
      refine .inr ⟨hverbatim, .inr ?_⟩
      rw [parse_object, ofMembers_wrapped]
      simp [conclude, recompose, hverbatim]

end Attach

end JsonSchema.Document
