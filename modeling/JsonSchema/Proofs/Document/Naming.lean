import JsonSchema.Proofs.Document.Rendering

/-!
# What references mean in a written schema

Lifted bodies are named apart from the definitions of the schema and from each other, so a reference
that the schema resolves is resolved to what was written for the same body. Nothing keeps their names
apart from references that the schema does not resolve: such a reference is resolved in what is read
exactly where a body was lifted under its name.
-/

namespace JsonSchema

namespace Document

/-- What is written for a definition at its turn, after the root and the definitions before it. -/
def WrittenAs (schema : Schema) (thunks : Thunks) (name : String) (body : Node) (document : Json) :
    Prop :=
  ∃ before after parts between final, schema.definitions = before ++ (name, body) :: after ∧
    writeNodes [] thunks (schema.root :: before.map Prod.snd)
        { reserved := Entries.names schema.definitions } = (.ok parts, between) ∧
      writeNode [] thunks body between = (.ok document, final)

/-- What is written for a definition at its turn stands under its name. -/
theorem exists_writtenAs {schema : Schema} {thunks : Thunks} {root : Json} {bodies : List Json}
    {final : Lifting}
    (hwrite : writeNodes [] thunks (schema.root :: schema.definitions.map Prod.snd)
      { reserved := Entries.names schema.definitions } = (.ok (root :: bodies), final))
    {name : String} {body : Node} (hbody : (name, body) ∈ schema.definitions) :
    ∃ document, WrittenAs schema thunks name body document ∧
      (name, document) ∈ (Entries.names schema.definitions).zip bodies := by
  obtain ⟨before, after, hsplit⟩ := List.append_of_mem hbody
  have hnodes : schema.root :: schema.definitions.map Prod.snd =
      (schema.root :: before.map Prod.snd) ++ body :: after.map Prod.snd := by
    simp [hsplit]
  rw [hnodes] at hwrite
  obtain ⟨parts, others, between, hparts, hothers, heq⟩ := writeNodes_append_eq_ok.mp hwrite
  obtain ⟨document, rest, last, hdocument, -, rfl⟩ := writeNodes_cons_eq_ok.mp hothers
  refine ⟨document, ⟨before, after, parts, between, last, hsplit, hparts, hdocument⟩, ?_⟩
  obtain ⟨first, earlier, _, -, hearlier, rfl⟩ := writeNodes_cons_eq_ok.mp hparts
  obtain ⟨-, rfl⟩ : root = first ∧ bodies = earlier ++ document :: rest := by simpa using heq
  have hlength : (Entries.names before).length = earlier.length := by
    simpa [Entries.names] using (length_of_writeNodes hearlier).symm
  rw [hsplit, Entries.names_append, List.zip_append hlength]
  exact List.mem_append_right _ List.mem_cons_self

/-- What references mean in what is read of a written schema, where bodies were lifted under some
names. -/
structure Resolution (schema : Schema) (thunks : Thunks) (document : Json) (lifted : List String) :
    Prop where
  names : Entries.names (read document).value.definitions =
    Entries.names schema.definitions ++ lifted
  fresh : ∀ name ∈ lifted, name ∉ Entries.names schema.definitions ∧ ∃ k, name = lazyName k
  unresolved : ∀ target, schema.definitions.resolve? target = none →
    ((read document).value.definitions.resolve? target = none ↔ Definitions.nameOf target ∉ lifted)
  resolved : ∀ target body, schema.definitions.resolve? target = some body → ∃ written,
    WrittenAs schema thunks (Definitions.nameOf target) body written ∧
      (read document).value.definitions.resolve? target = some (read written).value.root

/-- Where no document is kept verbatim, nodes with the attributes that they should have are quiet. -/
theorem quiet_of_typed {schema : Schema} {thunks : Thunks}
    (htyped : ∀ node, schema.Contains thunks node → node.Typed)
    (hkept : ∀ document, ¬ schema.Contains thunks (.verbatim document)) {node : Node}
    (hnode : schema.Contains thunks node) : node.Quiet thunks where
  typed := htyped node hnode
  verbatim := fun document heq => absurd (heq ▸ hnode) (hkept document)
  items := by
    rintro docs items length rfl values hforces
    have hitems : schema.Contains thunks items :=
      .child hnode (by simp [Node.children])
    exact absurd (hforces.contains hitems) (hkept _)

end Document

namespace Schema

open Document

/-- The definitions that are read from a written schema are its own and the lifted bodies. A reference
that the schema does not resolve is resolved there only where a body was lifted under its name, and
one that the schema resolves is resolved to what is read of the document of the same body. -/
theorem resolution_read_write (schema : Schema) (thunks : Thunks)
    (hnodes : ∀ node, schema.Contains thunks node → node.Quiet thunks)
    (hnames : (Entries.names schema.definitions).Nodup) {document : Json}
    (hwrite : (write thunks schema).value = .ok document) :
    ∃ lifted, Resolution schema thunks document lifted := by
  obtain ⟨root, bodies, final, hrun, rfl⟩ := write_eq_ok.mp hwrite
  have hrendering := rendering_of_writeNodes hrun hnames
  have hown := names_zip_bodies hrun
  rw [Entries.ofList_of_nodup hrendering.names]
  refine ⟨Entries.names final.definitions, ?names, ?fresh, ?unresolved, ?resolved⟩
  case names =>
    calc Entries.names (read (attach root
          ((Entries.names schema.definitions).zip bodies ++ final.definitions))).value.definitions
        = Entries.names ((Entries.names schema.definitions).zip bodies ++ final.definitions) := by
          rw [definitions_read hrendering hnodes, Entries.names, List.map_map]
          rfl
      _ = Entries.names schema.definitions ++ Entries.names final.definitions := by
          rw [Entries.names_append, hown]
  case fresh =>
    intro name hname
    obtain ⟨hready, -⟩ := ready_final hrun
    rw [hready.names] at hname
    obtain ⟨⟨thunk, _⟩, hlifted, rfl⟩ := List.mem_map.mp hname
    exact (hready.shared thunk _ hlifted).2
  case unresolved =>
    intro target hnone
    rw [resolve?_read hrendering hnodes, Option.map_eq_none_iff, Entries.find?_eq_none_iff,
      Entries.names_append, hown, List.mem_append, not_or]
    exact and_iff_right (Entries.find?_eq_none_iff.mp hnone)
  case resolved =>
    intro target body hbody
    obtain ⟨written, hwritten, hmem⟩ := exists_writtenAs hrun (Entries.mem_of_find? hbody)
    refine ⟨written, hwritten, ?_⟩
    rw [resolve?_read hrendering hnodes,
      Entries.find?_of_mem hrendering.names (List.mem_append_left _ hmem)]
    rfl

/-- A chain of objects, each of which may hold the next one. -/
def chain : Thunks := [("link", ⟨.object {} [⟨"next", .deferred (some "link"), false⟩] {}, []⟩)]

/-- The link of the chain is lifted under the first free name. -/
theorem writeNode_link {state : Lifting} (hlifted : state.lifted = []) :
    writeNode [] chain (.deferred (some "link")) state =
      let name := freshName state.reserved state.reserved.length 0
      (.ok (lazyReference name), { state with
        reserved := name :: state.reserved
        reentered := name :: state.reentered
        definitions := Entries.put name (.object [("type", .string "object"),
          ("properties", .object [("next", lazyReference name)])]) state.definitions
        lifted := [("link", name)] }) := by
  obtain ⟨reserved, reentered, definitions, lifted, notes⟩ := state
  subst hlifted
  rw [writeNode_deferred rfl rfl, writeNode_composed rfl]
  simp only [Node.children, List.map_cons, List.map_nil, writeNodes_singleton, Writing.andThen]
  rw [writeNode_known rfl]
  simp [Writing.give, settle, Entries.put]
  rfl

/-- A chain beside a reference to a definition that has the first name for a lifted body, and one to
nothing. -/
def tethered : Schema where
  root := .object {} [⟨"a", .deferred (some "link"), true⟩,
    ⟨"b", .reference {} "#/definitions/lazy0", true⟩,
    ⟨"c", .reference {} "#/definitions/gone", true⟩] {}
  definitions := [("lazy0", .array {} (some (.reference {} "#/definitions/lazy0")) {})]

/-- The lifted chain gets the next name, so that the references mean what they meant before. -/
theorem resolution_read_write_tethered : ∃ document, (write chain tethered).value = .ok document ∧
    Resolution tethered chain document ["lazy1"] := by
  have hmem : ∀ node, tethered.Contains chain node → node ∈ [tethered.root,
      .array {} (some (.reference {} "#/definitions/lazy0")) {},
      .object {} [⟨"next", .deferred (some "link"), false⟩] {}, .deferred (some "link"),
      .reference {} "#/definitions/lazy0", .reference {} "#/definitions/gone"] := fun node hnode =>
    hnode.mem_of_closed (by simp) (by simp [tethered]) (by simp [chain])
      (by simp [tethered, Node.children])
  have hwrite : (write chain tethered).value = .ok (.object [("type", .string "object"),
      ("properties", .object [("a", lazyReference "lazy1"), ("b", lazyReference "lazy0"),
        ("c", lazyReference "gone")]),
      ("required", .array [.string "a", .string "b", .string "c"]),
      ("definitions", .object [
        ("lazy0", .object [("type", .string "array"), ("items", lazyReference "lazy0")]),
        ("lazy1", .object [("type", .string "object"),
          ("properties", .object [("next", lazyReference "lazy1")])])])]) := by
    rw [write, writeSchema, tethered, writeNode_composed rfl]
    simp only [Node.children, List.map_cons, List.map_nil, writeNodes_cons, writeNodes_nil,
      Writing.andThen, writeNode_link, writeDefinitions, writeNode]
    rfl
  obtain ⟨lifted, h⟩ := resolution_read_write tethered chain
    (fun node hnode => quiet_of_typed (fun node hnode => by
        have hcases := hmem node hnode
        simp only [List.mem_cons, List.not_mem_nil, or_false] at hcases
        rcases hcases with rfl | rfl | rfl | rfl | rfl | rfl <;> simp [tethered, Node.Typed])
      (fun document hkept => by simpa [tethered] using hmem _ hkept) hnode)
    (by decide) hwrite
  refine ⟨_, hwrite, ?_⟩
  -- The reader is defined by well-founded recursion, which `rfl` does not unfold on its own.
  have hlifted : ["lazy0"] ++ lifted = ["lazy0"] ++ ["lazy1"] :=
    h.names.symm.trans (by with_unfolding_all rfl)
  exact List.append_cancel_left hlifted ▸ h

/-- A chain beside a reference to nothing that has the first name for a lifted body. -/
def adopting : Schema where
  root := .object {} [⟨"a", .deferred (some "link"), true⟩,
    ⟨"b", .reference {} "#/definitions/lazy0", true⟩] {}
  definitions := []

/-- A reference to nothing comes to speak of a lifted body. -/
theorem resolved_read_write_adopting :
    (∀ node, adopting.Contains chain node → node.Quiet chain) ∧
      adopting.Contains chain (.reference {} "#/definitions/lazy0") ∧
      adopting.definitions.resolve? "#/definitions/lazy0" = none ∧
      ∃ document, (write chain adopting).value = .ok document ∧
        (read document).value.definitions.resolve? "#/definitions/lazy0" =
          some (.object {} [⟨"next", .reference {} "#/definitions/lazy0", false⟩] {}) := by
  have hmem : ∀ node, adopting.Contains chain node → node ∈ [adopting.root,
      .object {} [⟨"next", .deferred (some "link"), false⟩] {}, .deferred (some "link"),
      .reference {} "#/definitions/lazy0"] := fun node hnode =>
    hnode.mem_of_closed (by simp) (by simp [adopting]) (by simp [chain])
      (by simp [adopting, Node.children])
  have hwrite : (write chain adopting).value = .ok (.object [("type", .string "object"),
      ("properties", .object [("a", lazyReference "lazy0"), ("b", lazyReference "lazy0")]),
      ("required", .array [.string "a", .string "b"]),
      ("definitions", .object [("lazy0", .object [("type", .string "object"),
        ("properties", .object [("next", lazyReference "lazy0")])])])]) := by
    rw [write, writeSchema, adopting, writeNode_composed rfl]
    simp only [Node.children, List.map_cons, List.map_nil, writeNodes_cons, writeNodes_nil,
      Writing.andThen, writeNode_link, writeNode]
    rfl
  refine ⟨fun node => quiet_of_typed (fun node hnode => ?_) fun document hkept => ?_,
    .child .root (by simp [adopting, Node.children]), rfl, _, hwrite, by with_unfolding_all rfl⟩
  · have hcases := hmem node hnode
    simp only [List.mem_cons, List.not_mem_nil, or_false] at hcases
    rcases hcases with rfl | rfl | rfl | rfl <;> simp [adopting, Node.Typed]
  · simpa [adopting] using hmem _ hkept

/-- An array whose items are a list that is kept verbatim, beside a reference to nothing that has the
name of a definition in the list. -/
def listed : Schema where
  root := .object {} [⟨"a", .array {} (some (.verbatim (.array
      [.object [("definitions", .object [("x", .object [("type", .string "null")])])]]))) {}, true⟩,
    ⟨"b", .reference {} "#/definitions/x", true⟩] {}
  definitions := []

-- The condition on items is needed: the array is read as a tuple, and the definition in the list is
-- read with the item.
example : ((write [] listed).value.map fun document =>
    (read document).value.definitions.resolve? "#/definitions/x") = .ok (some (.null {})) := by
  cbv

end Schema

end JsonSchema
