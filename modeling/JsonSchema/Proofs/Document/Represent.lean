import JsonSchema.Proofs.Document.Quiet

/-!
# Documents that represent nodes

A document represents a node where each deferred node in it is either written in place or cut to a
reference to a lifted body. What is written for a node is composed of what is written for the nodes
inside, and it represents the node.
-/

namespace JsonSchema

namespace Document

/-- A document represents a node, where some deferred nodes are known by names of lifted bodies. -/
inductive Represents (thunks : Thunks) (named : String → String → Prop) : Node → Json → Prop
  | composed {node : Node} {parts : List Json} (hcomposes : node.composes)
      (hlength : parts.length = node.children.length)
      (hparts : ∀ pair ∈ node.children.zip parts, Represents thunks named pair.1 pair.2) :
      Represents thunks named node (.object (compose node parts))
  | verbatim (document : Json) : Represents thunks named (.verbatim document) document
  | cut {thunk name : String} (hnamed : named thunk name) :
      Represents thunks named (.deferred (some thunk)) (lazyReference name)
  | inlined {thunk : String} {body : Noted Node} {document : Json}
      (hbody : Entries.find? thunk thunks = some body)
      (h : Represents thunks named body.value document) :
      Represents thunks named (.deferred (some thunk)) document

/-- More names may be known. -/
theorem Represents.mono {thunks : Thunks} {named named' : String → String → Prop} {node : Node}
    {document : Json} (h : Represents thunks named node document)
    (hnamed : ∀ thunk name, named thunk name → named' thunk name) :
    Represents thunks named' node document := by
  induction h with
  | composed hcomposes hlength _ ih => exact .composed hcomposes hlength ih
  | verbatim document => exact .verbatim document
  | cut h => exact .cut (hnamed _ _ h)
  | inlined hbody _ ih => exact .inlined hbody ih

section Writing

variable {active : Active} {pending : Thunks} {state final : Lifting} {α β γ : Type}

/-- A step after another one ends well where both do. -/
theorem andThen_eq_ok {first : Writing α} {next : α → Writing β} {b : β} :
    first.andThen next state = (.ok b, final) ↔
      ∃ a between, first state = (.ok a, between) ∧ next a between = (.ok b, final) := by
  unfold Writing.andThen
  rcases first state with ⟨_ | a, between⟩
  · simp
  · simp

/-- A step goes on from the value and the state that the one before it ends with. -/
theorem andThen_of_eq_ok {first : Writing α} {next : α → Writing β} {a : α}
    {between : Lifting} (h : first state = (.ok a, between)) :
    first.andThen next state = next a between := by
  rw [Writing.andThen, h]

/-- A step that only gives a value goes on with it. -/
@[simp] theorem give_andThen (a : α) (next : α → Writing β) : (Writing.give a).andThen next = next a :=
  rfl

/-- A step is not changed by giving what it gives. -/
theorem andThen_give (first : Writing α) : first.andThen .give = first := by
  funext state
  rcases hfirst : first state with ⟨_ | a, between⟩ <;> simp only [Writing.andThen, hfirst, Writing.give]

/-- Three steps are taken one after the other. -/
theorem andThen_assoc (first : Writing α) (next : α → Writing β) (last : β → Writing γ) :
    (first.andThen next).andThen last = first.andThen fun a => (next a).andThen last := by
  funext state
  rcases hfirst : first state with ⟨_ | a, between⟩ <;> simp only [Writing.andThen, hfirst]

/-- What is done after a step only matters where the step ends well. -/
theorem andThen_congr {first : Writing α} {next other : α → Writing β}
    (h : ∀ state a between, first state = (.ok a, between) → next a between = other a between) :
    first.andThen next = first.andThen other := by
  funext state
  rcases hfirst : first state with ⟨_ | a, between⟩
  · simp only [Writing.andThen, hfirst]
  · rw [andThen_of_eq_ok hfirst, andThen_of_eq_ok hfirst, h state a between hfirst]

/-- What is made of the value of a step is given where the step ends well. -/
theorem andThen_give_eq_ok {first : Writing α} {f : α → β} {b : β} :
    (first.andThen fun a => .give (f a)) state = (.ok b, final) ↔
      ∃ a, first state = (.ok a, final) ∧ b = f a := by
  rw [andThen_eq_ok]
  constructor
  · rintro ⟨a, between, hfirst, hgive⟩
    cases hgive
    exact ⟨a, hfirst, rfl⟩
  · rintro ⟨a, hfirst, rfl⟩
    exact ⟨a, final, hfirst, rfl⟩

/-- No documents are written for no nodes. -/
theorem writeNodes_nil : writeNodes active pending [] = .give [] := by
  rw [writeNodes]

/-- Documents in a row are written one after the other. -/
theorem writeNodes_cons (node : Node) (rest : List Node) :
    writeNodes active pending (node :: rest) =
      (writeNode active pending node).andThen fun part =>
        (writeNodes active pending rest).andThen fun others => .give (part :: others) := by
  rw [writeNodes]

/-- A row of one document is written as the document is. -/
theorem writeNodes_singleton (node : Node) :
    writeNodes active pending [node] =
      (writeNode active pending node).andThen fun part => .give [part] := by
  simp only [writeNodes_cons, writeNodes_nil, give_andThen]

/-- Two rows of documents are written one after the other. -/
theorem writeNodes_append (first second : List Node) :
    writeNodes active pending (first ++ second) =
      (writeNodes active pending first).andThen fun before =>
        (writeNodes active pending second).andThen fun after => .give (before ++ after) := by
  induction first with
  | nil =>
    rw [writeNodes_nil, give_andThen]
    exact (andThen_give _).symm
  | cons node rest ih =>
    simp only [List.cons_append, writeNodes_cons, ih, andThen_assoc, give_andThen]

/-- Documents in a row are written where the first one is and then the others are. -/
theorem writeNodes_cons_eq_ok {node : Node} {rest : List Node} {parts : List Json} :
    writeNodes active pending (node :: rest) state = (.ok parts, final) ↔
      ∃ part others between, writeNode active pending node state = (.ok part, between) ∧
        writeNodes active pending rest between = (.ok others, final) ∧ parts = part :: others := by
  rw [writeNodes_cons, andThen_eq_ok]
  simp only [andThen_give_eq_ok]
  constructor
  · rintro ⟨part, between, hpart, others, hothers, rfl⟩
    exact ⟨part, others, between, hpart, hothers, rfl⟩
  · rintro ⟨part, others, between, hpart, hothers, rfl⟩
    exact ⟨part, between, hpart, others, hothers, rfl⟩

/-- No documents are written for no nodes, and nothing becomes known. -/
theorem writeNodes_nil_eq_ok {parts : List Json} :
    writeNodes active pending [] state = (.ok parts, final) ↔ parts = [] ∧ final = state := by
  rw [writeNodes_nil, Writing.give, Prod.mk.injEq, Except.ok.injEq]
  exact and_congr eq_comm eq_comm

/-- Two rows of documents are written where the first is and then the second is. -/
theorem writeNodes_append_eq_ok {first second : List Node} {parts : List Json} :
    writeNodes active pending (first ++ second) state = (.ok parts, final) ↔
      ∃ before after between, writeNodes active pending first state = (.ok before, between) ∧
        writeNodes active pending second between = (.ok after, final) ∧ parts = before ++ after := by
  rw [writeNodes_append, andThen_eq_ok]
  simp only [andThen_give_eq_ok]
  constructor
  · rintro ⟨before, between, hbefore, after, hafter, rfl⟩
    exact ⟨before, after, between, hbefore, hafter, rfl⟩
  · rintro ⟨before, after, between, hbefore, hafter, rfl⟩
    exact ⟨before, between, hbefore, after, hafter, rfl⟩

/-- A row of one document is written where the document is. -/
theorem writeNodes_singleton_eq_ok {node : Node} {parts : List Json} :
    writeNodes active pending [node] state = (.ok parts, final) ↔
      ∃ part, writeNode active pending node state = (.ok part, final) ∧ parts = [part] := by
  rw [writeNodes_singleton, andThen_give_eq_ok]

/-- One document is written for each node. -/
theorem length_of_writeNodes {nodes : List Node} {parts : List Json}
    (h : writeNodes active pending nodes state = (.ok parts, final)) :
    parts.length = nodes.length := by
  induction nodes generalizing state parts with
  | nil => simp [(writeNodes_nil_eq_ok.mp h).1]
  | cons node rest ih =>
    obtain ⟨part, others, between, -, hothers, rfl⟩ := writeNodes_cons_eq_ok.mp h
    simp [ih hothers]

/-- The documents of properties are those of their schemas under their names. -/
theorem writeProperties_eq (properties : List (Property Node)) :
    writeProperties active pending properties =
      (writeNodes active pending (properties.map (·.schema))).andThen fun parts =>
        .give ((properties.map (·.name)).zip parts) := by
  induction properties with
  | nil =>
    rw [writeProperties, List.map_nil, writeNodes_nil]
    rfl
  | cons property rest ih =>
    rw [writeProperties, ih, List.map_cons, writeNodes_cons]
    simp only [andThen_assoc, give_andThen, List.map_cons, List.zip_cons_cons]

/-- The documents of definitions are those of their bodies under their names. -/
theorem writeDefinitions_eq (definitions : Definitions) :
    writeDefinitions pending definitions =
      (writeNodes [] pending (definitions.map Prod.snd)).andThen fun parts =>
        .give ((Entries.names definitions).zip parts) := by
  induction definitions with
  | nil =>
    rw [writeDefinitions, List.map_nil, writeNodes_nil]
    rfl
  | cons definition rest ih =>
    rw [writeDefinitions, ih, List.map_cons, writeNodes_cons]
    simp only [andThen_assoc, give_andThen, Entries.names, List.map_cons, List.zip_cons_cons]

/-- Definitions are written where their bodies are. -/
theorem writeDefinitions_eq_ok {definitions : Definitions} {written : Entries Json} :
    writeDefinitions pending definitions state = (.ok written, final) ↔
      ∃ parts, writeNodes [] pending (definitions.map Prod.snd) state = (.ok parts, final) ∧
        written = (Entries.names definitions).zip parts := by
  rw [writeDefinitions_eq, andThen_give_eq_ok]

/-- The document of a node is composed of those of the nodes inside. -/
theorem writeNode_composed {node : Node} (hcomposes : node.composes) :
    writeNode active pending node =
      (writeNodes active pending node.children).andThen fun parts =>
        .give (.object (compose node parts)) := by
  cases node with
  | object docs properties count =>
    rw [writeNode, writeProperties_eq, andThen_assoc]
    rfl
  | array docs items length =>
    cases items with
    | none =>
      rw [writeNode, Node.children, Option.toList_none, writeNodes_nil]
      rfl
    | some items =>
      rw [writeNode, Node.children, Option.toList_some, writeNodes_singleton, andThen_assoc]
      rfl
  | tuple docs items additional length =>
    cases additional with
    | none =>
      rw [writeNode, Node.children, Option.toList_none, List.append_nil]
      refine andThen_congr fun state parts between hparts => ?_
      simp [compose, ← length_of_writeNodes hparts, typed, typedMembers, entry]
    | some additional =>
      rw [writeNode, Node.children, Option.toList_some, writeNodes_append, andThen_assoc]
      refine andThen_congr fun state parts between hparts => ?_
      simp only [writeNodes_singleton, andThen_assoc, give_andThen]
      simp [compose, ← length_of_writeNodes hparts, typed, typedMembers, entry]
  | combined docs how members =>
    rw [writeNode]
    rfl
  | deferred thunk => simp [Node.composes] at hcomposes
  | verbatim document => simp [Node.composes] at hcomposes
  | unknown => simp [Node.composes] at hcomposes
  | _ =>
    rw [writeNode]
    change _ = (writeNodes active pending []).andThen _
    rw [writeNodes_nil]
    rfl

/-- The document of a node is written where those of the nodes inside are. -/
theorem writeNode_eq_ok {node : Node} (hcomposes : node.composes) {document : Json} :
    writeNode active pending node state = (.ok document, final) ↔
      ∃ parts, writeNodes active pending node.children state = (.ok parts, final) ∧
        document = .object (compose node parts) := by
  rw [writeNode_composed hcomposes, andThen_give_eq_ok]

end Writing

end Document

/-- The nodes that a node is forced to, itself among them. -/
inductive Node.Forces (thunks : Thunks) : Node → Node → Prop
  | done (node : Node) : Forces thunks node node
  | force {thunk : String} {body : Noted Node} {node : Node}
      (hbody : Entries.find? thunk thunks = some body) (h : Forces thunks body.value node) :
      Forces thunks (.deferred (some thunk)) node

/-- What a node of a schema is forced to is a node of the schema. -/
theorem Node.Forces.contains {schema : Schema} {thunks : Thunks} {node last : Node}
    (h : node.Forces thunks last) (hnode : schema.Contains thunks node) :
    schema.Contains thunks last := by
  induction h with
  | done => exact hnode
  | force hbody _ ih => exact ih (.forced hnode hbody)

/-- What writing asks of a node, so that its document is read as one that represents it. -/
structure Node.Writable (thunks : Thunks) (node : Node) : Prop where
  known : node.Known thunks
  typed : node.Typed
  verbatim : ∀ document, node = .verbatim document →
    (Document.read document).value.same (Schema.verbatim document) = true
  items : ∀ docs items length, node = .array docs (some items) length →
    ∀ values, ¬ items.Forces thunks (.verbatim (.array values))

/-- What is asked of a node so that its document defines nothing: documents that are kept verbatim
define nothing, and neither do the items of one that makes an array a tuple. -/
structure Node.Quiet (thunks : Thunks) (node : Node) : Prop where
  typed : node.Typed
  verbatim : ∀ document, node = .verbatim document →
    (Document.read document).value.same (Schema.verbatim document) = true
  items : ∀ docs items length, node = .array docs (some items) length →
    ∀ values, items.Forces thunks (.verbatim (.array values)) →
      ∀ value ∈ values, Document.Quiet (Document.parse value).steps

/-- A node whose document is read as one that represents it has a document that defines nothing. -/
theorem Node.Writable.quiet {thunks : Thunks} {node : Node} (h : node.Writable thunks) :
    node.Quiet thunks where
  typed := h.typed
  verbatim := h.verbatim
  items := fun docs items length heq values hforces =>
    absurd hforces (h.items docs items length heq values)

namespace Document

variable {thunks : Thunks} {named : String → String → Prop} {node : Node} {document : Json}

/-- Only a document that is kept verbatim is an array. -/
theorem Represents.forces (h : Represents thunks named node document) {values : List Json}
    (hvalues : document = .array values) : node.Forces thunks (.verbatim (.array values)) := by
  induction h with
  | composed => cases hvalues
  | verbatim document =>
    subst hvalues
    exact .done _
  | cut => cases hvalues
  | inlined hbody _ ih => exact .force hbody (ih hvalues)

/-- Documents of the nodes inside fit a node, unless it is an array and the document of its items is
one, too. -/
theorem fits_or_exists {parts : List Json} (hlength : parts.length = node.children.length) :
    Fits node parts ∨ ∃ docs items length values,
      node = .array docs (some items) length ∧ parts = [.array values] := by
  by_cases h : Fits node parts
  · exact .inl h
  · obtain ⟨docs, items, length, rfl, values, hvalues⟩ : ∃ docs items length,
        node = .array docs items length ∧ ∃ values, .array values ∈ parts := by
      simpa [Fits, hlength] using h
    cases items with
    | none =>
      obtain rfl := List.eq_nil_of_length_eq_zero hlength
      cases hvalues
    | some items =>
      obtain ⟨part, rfl⟩ := List.length_eq_one_iff.mp hlength
      obtain rfl := List.mem_singleton.mp hvalues
      exact .inr ⟨docs, items, length, values, rfl, rfl⟩

/-- Documents that represent the nodes inside fit a node. -/
theorem fits_of_represents (hnode : node.Writable thunks) {parts : List Json}
    (hlength : parts.length = node.children.length)
    (hparts : ∀ pair ∈ node.children.zip parts, Represents thunks named pair.1 pair.2) :
    Fits node parts := by
  rcases fits_or_exists hlength with hfits | ⟨docs, items, length, values, rfl, rfl⟩
  · exact hfits
  · exact absurd ((hparts (items, .array values) List.mem_cons_self).forces rfl)
      (hnode.items docs items length rfl values)

/-- What is read of a node are documents of the nodes inside. -/
theorem mem_of_mem_readable {parts : List Json} {part : Json} (h : part ∈ readable node parts) :
    part ∈ parts := by
  have hpresent : ∀ parts : List Json, part ∈ present parts.head? → part ∈ parts :=
    fun parts hmem => List.mem_of_mem_head?
      (Option.eq_some_of_filter_eq_some (Option.mem_toList.mp hmem))
  cases node with
  | array docs items length => exact hpresent parts h
  | tuple docs items additional length =>
    rcases List.mem_append.mp h with hitem | hother
    · exact List.mem_of_mem_take hitem
    · exact List.mem_of_mem_drop (hpresent _ hother)
  | _ => exact h

/-- One document for each item stands beside one of the items. -/
theorem exists_mem_zip {α : Type} {items : List α} {parts : List Json}
    (hlength : parts.length = items.length) {part : Json} (hpart : part ∈ parts) :
    ∃ item ∈ items, (item, part) ∈ items.zip parts := by
  obtain ⟨i, hi, rfl⟩ := List.mem_iff_getElem.mp hpart
  refine ⟨items[i], List.getElem_mem _, ?_⟩
  rw [List.mem_iff_getElem]
  exact ⟨i, by simp [hi, ← hlength], by simp⟩

/-- Documents are mapped to what their nodes are where they are one by one. -/
theorem map_eq_map_of_zip {α : Type} {nodes : List Node} {parts : List Json} {f : Node → α}
    {g : Json → α} (hlength : parts.length = nodes.length)
    (h : ∀ pair ∈ nodes.zip parts, g pair.2 = f pair.1) : parts.map g = nodes.map f := by
  induction nodes generalizing parts with
  | nil =>
    obtain rfl := List.eq_nil_of_length_eq_zero hlength
    rfl
  | cons node rest ih =>
    cases parts with
    | nil => cases hlength
    | cons part others =>
      have hhead := h (node, part) List.mem_cons_self
      have htail := ih (Nat.succ.inj hlength) fun pair hpair =>
        h pair (List.mem_cons_of_mem _ hpair)
      rw [List.map_cons, List.map_cons, hhead, htail]

/-- The reference to a lifted body is read as a reference. -/
theorem parse_lazyReference (name : String) :
    parse (lazyReference name) = ⟨.reference {} (Definitions.referenceTo name), []⟩ :=
  @parse_compose (.reference {} (Definitions.referenceTo name)) [] rfl trivial
    ⟨rfl, fun _ _ _ h => nomatch h⟩

/-- An array whose items are an array is written as a tuple, and read as one. -/
theorem steps_parse_array (docs : Documentation) (items : Node) (length : Bounds Int)
    (values : List Json) :
    (parse (.object (compose (.array docs (some items) length) [.array values]))).steps =
      values.flatMap fun value => (parse value).steps := by
  let tuple := Node.tuple docs (values.map .verbatim) none length
  have hcompose : compose (.array docs (some items) length) [.array values] =
      compose tuple values := by
    simp [tuple, compose, entry]
  have hreadable : readable tuple values = values := by
    simp [tuple, readable, present]
  have hfits : Fits tuple values := by simp [Fits, tuple, Node.children]
  rw [hcompose, @parse_compose tuple values rfl trivial hfits, hreadable]

/-- A document that represents a node of a schema hoists nothing. -/
theorem Represents.quiet_steps {schema : Schema}
    (hschema : ∀ node, schema.Contains thunks node → node.Quiet thunks)
    (h : Represents thunks named node document) (hnode : schema.Contains thunks node) :
    Quiet (parse document).steps := by
  induction h with
  | @composed node parts hcomposes hlength hparts ih =>
    have hquiet := hschema node hnode
    rcases fits_or_exists hlength with hfits | ⟨docs, items, length, values, rfl, rfl⟩
    · rw [parse_compose hcomposes hquiet.typed hfits]
      refine quiet_flatMap.mpr fun part hpart => ?_
      obtain ⟨child, hchild, hpair⟩ := exists_mem_zip hlength (mem_of_mem_readable hpart)
      exact ih _ hpair (.child hnode hchild)
    · rw [steps_parse_array]
      have hforces := (hparts (items, .array values) List.mem_cons_self).forces rfl
      exact quiet_flatMap.mpr (hquiet.items docs items length rfl values hforces)
  | verbatim document => exact (parse_verbatim ((hschema _ hnode).verbatim document rfl)).2
  | cut =>
    rw [parse_lazyReference]
    exact quiet_nil
  | inlined hbody _ ih => exact ih (.forced hnode hbody)

/-- Where all nodes of a schema are read back, the document of none defines anything. -/
theorem quiet_of_writable {schema : Schema}
    (h : ∀ node, schema.Contains thunks node → node.Writable thunks) (node : Node)
    (hnode : schema.Contains thunks node) : node.Quiet thunks :=
  (h node hnode).quiet

/-- A document that represents a node of a schema hoists nothing. -/
theorem quiet_of_represents {schema : Schema}
    (hschema : ∀ node, schema.Contains thunks node → node.Writable thunks)
    (h : Represents thunks named node document) (hnode : schema.Contains thunks node) :
    Quiet (parse document).steps :=
  h.quiet_steps (quiet_of_writable hschema) hnode

end Document

end JsonSchema
