import JsonSchema.Proofs.Document.Represent
import JsonSchema.Proofs.Node.Agreement

/-!
# Reading what was written

A schema without deferred nodes is written without lifting anything, so its document represents it
with no names given. Reading puts every node together again from the nodes inside, and the node that
comes out is equal to the one that was written. The exceptions are documents that mean something
else where they stand: null where a schema may be absent, an array where it makes a tuple of an
array, and a root without keywords of its own that has to carry definitions.
-/

namespace JsonSchema

/-- The label of a format that is read from a label is that label. -/
theorem Format.label_ofLabel (label : String) : (Format.ofLabel label).label = label := by
  unfold Format.ofLabel NamedFormat.ofLabel?
  cases hfind : NamedFormat.all.find? (·.label = label) with
  | none => rfl
  | some format =>
    have hlabel := List.find?_some hfind
    exact of_decide_eq_true hlabel

/-- What storing asks of a node, so that the same node is read back. -/
structure Node.Storable (node : Node) : Prop where
  present : ∀ thunk, node ≠ .deferred thunk
  known : node ≠ .unknown
  typed : node.Typed
  examples : ∀ item ∈ node.docs.examples, item.WellFormed
  verbatim : ∀ document, node = .verbatim document →
    (Document.read document).value.same (Schema.verbatim document) = true
  items : ∀ docs items length, node = .array docs (some items) length →
    items ≠ .verbatim .null ∧ ∀ values, items ≠ .verbatim (.array values)
  additional : ∀ docs items additional length, node = .tuple docs items (some additional) length →
    additional ≠ .verbatim .null

namespace Document

variable {thunks : Thunks} {named : String → String → Prop} {node : Node} {document : Json}

/-- Properties with other schemas are equal where their schemas are. -/
theorem sameProperties_zipWith {properties : List (Property Node)} {nodes : List Node}
    (hlength : nodes.length = properties.length)
    (h : ∀ pair ∈ (properties.map (·.schema)).zip nodes, pair.2.same pair.1 = true) :
    sameProperties (properties.zipWith (fun property node => { property with schema := node }) nodes)
      properties = true := by
  induction properties generalizing nodes with
  | nil => simp [sameProperties]
  | cons property rest ih =>
    obtain ⟨name, schema, required⟩ := property
    cases nodes with
    | nil => cases hlength
    | cons node others =>
      have hhead := h (schema, node) List.mem_cons_self
      have htail := ih (Nat.succ.inj hlength) fun pair hmem =>
        h pair (List.mem_cons_of_mem _ hmem)
      simp [sameProperties, hhead, htail]

/-- A node that may be absent is equal to the one node, or none, that is read for it. -/
theorem sameOptionalNode_head? {nodes : List Node} {other : Option Node}
    (hlength : nodes.length = other.toList.length)
    (h : ∀ pair ∈ other.toList.zip nodes, pair.2.same pair.1 = true) :
    sameOptionalNode nodes.head? other = true := by
  cases other with
  | none =>
    obtain rfl := List.eq_nil_of_length_eq_zero hlength
    simp [sameOptionalNode]
  | some other =>
    obtain ⟨node, rfl⟩ := List.length_eq_one_iff.mp hlength
    simpa [sameOptionalNode] using h (other, node) List.mem_cons_self

/-- A node that is put together from equal nodes is equal. -/
theorem same_recompose {nodes : List Node} (hcomposes : node.composes)
    (hexamples : ∀ item ∈ node.docs.examples, item.WellFormed)
    (hlength : nodes.length = node.children.length)
    (h : ∀ pair ∈ node.children.zip nodes, pair.2.same pair.1 = true) :
    (recompose node nodes).same node = true := by
  have hdocs := Documentation.same_self hexamples
  cases node with
  | object docs properties count =>
    have hproperties := sameProperties_zipWith (by simpa [Node.children] using hlength) h
    simpa [recompose, Node.same, Node.docs, hproperties] using hdocs
  | array docs items length =>
    have hitems := sameOptionalNode_head? hlength h
    simpa [recompose, Node.same, Node.docs, hitems] using hdocs
  | tuple docs items additional length =>
    obtain ⟨first, second, rfl, hfirst⟩ : ∃ first second : List Node, nodes = first ++ second ∧
        first.length = items.length :=
      ⟨_, _, (List.take_append_drop items.length nodes).symm,
        by simp [hlength, Node.children]⟩
    rw [Node.children, List.zip_append hfirst.symm] at h
    have hitems := sameNodes_of_forall hfirst fun pair hmem =>
      h pair (List.mem_append_left _ hmem)
    have hothers : sameOptionalNode second.head? additional = true :=
      sameOptionalNode_head? (by simpa [Node.children, hfirst] using hlength)
        fun pair hmem => h pair (List.mem_append_right _ hmem)
    simpa [recompose, Node.same, Node.docs, ← hfirst, hitems, hothers] using hdocs
  | string docs rules =>
    have hformat : ((rules.format.map fun format => Format.ofLabel format.label).map
        Format.label) = rules.format.map Format.label := by
      simp [Function.comp_def, Format.label_ofLabel]
    simpa [recompose, Node.same, Node.docs, StringRules.same, hformat] using hdocs
  | combined docs how members =>
    have hmembers : sameNodes nodes members = true := sameNodes_of_forall hlength h
    simpa [recompose, Node.same, Node.docs, hmembers] using hdocs
  | deferred thunk => simp [Node.composes] at hcomposes
  | verbatim document => simp [Node.composes] at hcomposes
  | unknown => simp [Node.composes] at hcomposes
  | _ => simpa [recompose, Node.same, Node.docs] using hdocs

/-- Only a node that is kept verbatim or deferred is represented by what is no object. -/
theorem Represents.eq_verbatim (h : Represents thunks named node document)
    (hpresent : ∀ thunk, node ≠ .deferred thunk) (hdocument : ∀ members, document ≠ .object members) :
    node = .verbatim document := by
  cases h with
  | composed => exact absurd rfl (hdocument _)
  | verbatim => rfl
  | cut => exact absurd rfl (hpresent _)
  | inlined => exact absurd rfl (hpresent _)

/-- Documents of nodes are written without a change of what is known where each one is. -/
theorem exists_writeNodes (named : String → String → Prop) {nodes : List Node}
    (h : ∀ node ∈ nodes, ∃ document, Represents thunks named node document ∧
      ∀ active pending state, writeNode active pending node state = (.ok document, state)) :
    ∃ parts : List Json, parts.length = nodes.length ∧
      (∀ pair ∈ nodes.zip parts, Represents thunks named pair.1 pair.2) ∧
        ∀ active pending state, writeNodes active pending nodes state = (.ok parts, state) := by
  induction nodes with
  | nil => exact ⟨[], rfl, by simp, fun _ _ _ => writeNodes_nil_eq_ok.mpr ⟨rfl, rfl⟩⟩
  | cons node rest ih =>
    obtain ⟨part, hpart, hwrite⟩ := h node List.mem_cons_self
    obtain ⟨parts, hlength, hparts, hwrites⟩ := ih fun other hother =>
      h other (List.mem_cons_of_mem _ hother)
    refine ⟨part :: parts, by simp [hlength], ?_, fun active pending state => ?_⟩
    · rintro pair hpair
      rcases List.mem_cons.mp hpair with rfl | hmem
      · exact hpart
      · exact hparts pair hmem
    · exact writeNodes_cons_eq_ok.mpr ⟨part, parts, state, hwrite active pending state,
        hwrites active pending state, rfl⟩

section Storable

variable {schema : Schema} (hnodes : ∀ node, schema.Contains thunks node → node.Storable)
include hnodes

/-- A node that can be stored can be written. -/
theorem writable_of_storable (hnode : schema.Contains thunks node) : node.Writable thunks := by
  have hstorable := hnodes node hnode
  refine ⟨?_, hstorable.typed, hstorable.verbatim, fun docs items length heq values hforces => ?_⟩
  · cases node with
    | deferred thunk => exact absurd rfl (hstorable.present thunk)
    | unknown => exact absurd rfl hstorable.known
    | _ => trivial
  · have hitems : schema.Contains thunks items := .child hnode (by simp [heq, Node.children])
    cases hforces with
    | done => exact (hstorable.items docs _ length heq).2 values rfl
    | force => exact (hnodes _ hitems).present _ rfl

/-- Every document of a node inside is read where none of them is null in place of a schema. -/
theorem readable_eq_self (hnode : schema.Contains thunks node) {parts : List Json}
    (hlength : parts.length = node.children.length)
    (hparts : ∀ pair ∈ node.children.zip parts, Represents thunks named pair.1 pair.2) :
    readable node parts = parts := by
  have hstorable := hnodes node hnode
  have hpresent : ∀ (child : Node) (part : Json), child ∈ node.children →
      Represents thunks named child part → child ≠ .verbatim .null →
        present (some part) = [part] := by
    intro child part hchild hpart hnull
    cases part with
    | null =>
      have hthunk := (hnodes child (.child hnode hchild)).present
      exact absurd (hpart.eq_verbatim hthunk (by simp)) hnull
    | _ => rfl
  cases node with
  | array docs items length =>
    cases items with
    | none =>
      obtain rfl := List.eq_nil_of_length_eq_zero hlength
      rfl
    | some items =>
      obtain ⟨part, rfl⟩ := List.length_eq_one_iff.mp hlength
      exact hpresent items part List.mem_cons_self (hparts _ List.mem_cons_self)
        (hstorable.items docs items length rfl).1
  | tuple docs items additional length =>
    cases additional with
    | none =>
      have hitems : parts.length = items.length := by simpa [Node.children] using hlength
      simp [readable, ← hitems, present]
    | some additional =>
      have hne : parts ≠ [] := by
        rintro rfl
        simp [Node.children] at hlength
      obtain ⟨first, part, rfl⟩ := List.eq_nil_or_concat' parts |>.resolve_left hne
      have hfirst : items.length = first.length := by
        simpa [Node.children] using hlength.symm
      have hpart := hpresent additional part (by simp [Node.children])
        (hparts (additional, part) (by simp [Node.children, List.zip_append hfirst]))
        (hstorable.additional docs items additional length rfl)
      simp [readable, hfirst, hpart]
  | _ => rfl

/-- A document that represents a node is read as an equal node. -/
theorem same_of_represents (h : Represents thunks named node document)
    (hnode : schema.Contains thunks node) : (parse document).node.same node = true := by
  induction h with
  | @composed node parts hcomposes hlength hparts ih =>
    have hwritable := writable_of_storable hnodes hnode
    rw [parse_compose hcomposes hwritable.typed (fits_of_represents hwritable hlength hparts),
      readable_eq_self hnodes hnode hlength hparts]
    apply same_recompose hcomposes (hnodes node hnode).examples (by simpa using hlength)
    intro pair hpair
    rw [List.zip_map_right] at hpair
    obtain ⟨⟨child, part⟩, hmem, rfl⟩ := List.mem_map.mp hpair
    exact ih _ hmem (.child hnode (List.of_mem_zip hmem).1)
  | verbatim document =>
    have hsame := (hnodes _ hnode).verbatim document rfl
    rw [(parse_verbatim hsame).1]
    rw [read_value, (parse_verbatim hsame).1, Schema.same, Bool.and_eq_true] at hsame
    exact hsame.1
  | cut => exact absurd rfl ((hnodes _ hnode).present _)
  | inlined => exact absurd rfl ((hnodes _ hnode).present _)

/-- The document of a node is written without a change of what is known, and represents it. -/
theorem exists_writeNode (named : String → String → Prop) (hnode : schema.Contains thunks node) : ∃ document,
    Represents thunks named node document ∧
      ∀ active pending state, writeNode active pending node state = (.ok document, state) := by
  induction node using Node.induction_children with
  | step node ih =>
    by_cases hcomposes : node.composes
    · obtain ⟨parts, hlength, hparts, hwrites⟩ := exists_writeNodes named fun child hchild =>
        ih child hchild (.child hnode hchild)
      exact ⟨_, .composed hcomposes hlength hparts, fun active pending state =>
        (writeNode_eq_ok hcomposes).mpr ⟨parts, hwrites active pending state, rfl⟩⟩
    · cases node with
      | verbatim document =>
        exact ⟨document, .verbatim document, fun _ _ _ => by rw [writeNode]; rfl⟩
      | deferred thunk => exact absurd rfl ((hnodes _ hnode).present thunk)
      | unknown => exact absurd rfl (hnodes _ hnode).known
      | _ => exact absurd rfl hcomposes

end Storable

end Document

namespace Schema

open Document

/-- A schema without deferred nodes is written, and an equal schema with its definitions in the same
order is read from the document, as it is from every text that the document is read from. -/
theorem read_write_same (schema : Schema) (thunks : Thunks)
    (hnodes : ∀ node, schema.Contains thunks node → node.Storable)
    (hnames : (Entries.names schema.definitions).Nodup)
    (hroot : schema.definitions ≠ [] → ∀ document, schema.root ≠ .verbatim document) :
    ∃ document, (write thunks schema).value = .ok document ∧
      (read document).value.same schema = true ∧
      Entries.names (read document).value.definitions = Entries.names schema.definitions ∧
      ∀ indent, Json.read (document.text (.ofIndent indent)) = .ok document →
        ∃ again, readText (document.text (.ofIndent indent)) = .ok again ∧
          again.value.same schema = true := by
  let named : String → String → Prop := fun _ _ => False
  obtain ⟨root, hrepresents, hwrite⟩ := exists_writeNode hnodes named .root
  obtain ⟨bodies, hlength, hbodies, hwrites⟩ := exists_writeNodes named
    fun node (hnode : node ∈ schema.definitions.map Prod.snd) => by
      obtain ⟨⟨name, body⟩, hmem, rfl⟩ := List.mem_map.mp hnode
      exact exists_writeNode hnodes named (.definition hmem)
  have hzip : Entries.names ((Entries.names schema.definitions).zip bodies) =
      Entries.names schema.definitions := by
    rw [Entries.names, List.map_fst_zip (by simp [Entries.names, hlength])]
  have hentry : ∀ entry ∈ (Entries.names schema.definitions).zip bodies, ∃ body,
      (entry.1, body) ∈ schema.definitions ∧ Represents thunks named body entry.2 :=
    fun entry hentry => by
      obtain ⟨body, hbody, hpair⟩ := Entries.exists_of_mem_zip hlength hentry
      exact ⟨body, hbody, hbodies _ hpair⟩
  have hwritten : (write thunks schema).value =
      .ok (attach root ((Entries.names schema.definitions).zip bodies)) := by
    have hdefinitions : ∀ state, writeDefinitions thunks schema.definitions state =
        (.ok ((Entries.names schema.definitions).zip bodies), state) := fun state =>
      writeDefinitions_eq_ok.mpr ⟨bodies, hwrites [] thunks state, rfl⟩
    simp [write, writeSchema, Writing.andThen, hwrite, hdefinitions,
      Entries.ofList_of_nodup (hzip ▸ hnames)]
  have hdefinitions := definitions_read_attach
    (quiet_of_represents (fun _ => writable_of_storable hnodes) hrepresents .root)
    (fun entry hmem => by
      obtain ⟨body, hbody, hrepresents⟩ := hentry entry hmem
      exact quiet_of_represents (fun _ => writable_of_storable hnodes) hrepresents
        (.definition hbody))
    (hzip ▸ hnames)
  have hsame : (read (attach root ((Entries.names schema.definitions).zip bodies))).value.same
      schema = true := by
    rw [Schema.same, Bool.and_eq_true, hdefinitions]
    constructor
    · have hroot' := same_of_represents hnodes hrepresents .root
      rcases root_read_attach root ((Entries.names schema.definitions).zip bodies) with
        heq | ⟨hverbatim, -⟩
      · rwa [heq]
      · by_cases hempty : schema.definitions = []
        · simpa [hempty, Entries.names, attach, read_value] using hroot'
        · rw [hverbatim] at hroot'
          cases hkind : schema.root with
          | verbatim document => exact absurd hkind (hroot hempty document)
          | _ => simp [hkind, Node.same] at hroot'
    · rw [Definitions.same, Bool.and_eq_true]
      constructor
      · rw [List.length_map] at hlength
        simp [Entries.names, hlength]
      · simp only [List.all_eq_true, List.mem_map]
        rintro _ ⟨⟨name, part⟩, hmem, rfl⟩
        obtain ⟨body, hbody, hrepresents⟩ := hentry (name, part) hmem
        simpa [Entries.find?_of_mem hnames hbody] using
          same_of_represents hnodes hrepresents (.definition hbody)
  refine ⟨_, hwritten, hsame, ?_, fun indent htext => ⟨_, ?_, hsame⟩⟩
  · rw [hdefinitions]
    simpa [Entries.names, Function.comp_def] using hzip
  · rw [readText, htext]
    rfl

/-- Pairs of a name and anything, of which a list is asked for through a reference. -/
def pairs : Schema where
  root := .array {} (some (.reference {} "#/definitions/pair")) { least := some 1 }
  definitions := [("pair", .tuple {} [.string {} { enum := some ["a", "b"] }]
    (some (.verbatim (.bool true))) { greatest := some 2 })]

/-- The pairs come back the same, with their definition. -/
theorem read_write_same_pairs : ∃ document, (write [] pairs).value = .ok document ∧
    (read document).value.same pairs = true := by
  obtain ⟨document, hwrite, hsame, -⟩ := read_write_same pairs []
    (fun node hnode => by
      have hmem : node ∈ [pairs.root, .reference {} "#/definitions/pair",
          .tuple {} [.string {} { enum := some ["a", "b"] }] (some (.verbatim (.bool true)))
            { greatest := some 2 },
          .string {} { enum := some ["a", "b"] }, .verbatim (.bool true)] :=
        hnode.mem_of_closed (by simp) (by simp [pairs]) (by simp) (by simp [pairs, Node.children])
      simp only [List.mem_cons, List.not_mem_nil, or_false] at hmem
      rcases hmem with rfl | rfl | rfl | rfl | rfl <;>
        constructor <;> simp [pairs, Node.Typed, Node.docs, Schema.verbatim, read_value,
          parse_of_not_object, follow, Schema.same, Node.same, Definitions.same, Json.same,
          Json.number?]
      rintro _ _ _ _ - - rfl -
      simp)
    (by decide) (fun _ document => by simp [pairs])
  exact ⟨document, hwrite, hsame⟩

end Schema

end JsonSchema
