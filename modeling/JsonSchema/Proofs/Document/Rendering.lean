import JsonSchema.Proofs.Document.Lifting

/-!
# What is written for a whole schema

The root of a schema is written, then the bodies of its definitions in order, and the bodies that were
lifted on the way stand after those. What is written renders the schema: each of these documents
represents a node of it. Where none of them defines anything inside, the definitions that are read are
the nodes of these documents.
-/

namespace JsonSchema.Document

/-- What is written for a schema: a root and definitions that represent its own, together with the
bodies that are known by names. -/
structure Rendering (schema : Schema) (thunks : Thunks) (named : String → String → Prop)
    (root : Json) (definitions : Entries Json) : Prop where
  root : Represents thunks named schema.root root
  names : (Entries.names definitions).Nodup
  own : ∀ name body, Entries.find? name schema.definitions = some body →
    ∃ document, Entries.find? name definitions = some document ∧ Represents thunks named body document
  lifted : ∀ thunk name, named thunk name → ∃ body document,
    Entries.find? thunk thunks = some body ∧ schema.Contains thunks body.value ∧
      Entries.find? name definitions = some document ∧
        Represents thunks named body.value document
  fresh : ∀ thunk name, named thunk name →
    Entries.find? name schema.definitions = none ∧ ∃ k, name = lazyName k
  distinct : ∀ thunk thunk' name, named thunk name → named thunk' name → thunk = thunk'
  complete : ∀ name document, Entries.find? name definitions = some document →
    (∃ body, Entries.find? name schema.definitions = some body) ∨ ∃ thunk, named thunk name

/-- The root and the bodies of the definitions are nodes of the schema. -/
theorem contains_of_mem_nodes {schema : Schema} {thunks : Thunks} {node : Node}
    (h : node ∈ schema.root :: schema.definitions.map Prod.snd) : schema.Contains thunks node := by
  rcases List.mem_cons.mp h with rfl | h
  · exact .root
  · obtain ⟨⟨name, body⟩, hmem, rfl⟩ := List.mem_map.mp h
    exact .definition hmem

/-- A schema is written as its root is and then the bodies of its definitions; the bodies that are
lifted on the way stand after those. -/
theorem write_eq_ok {schema : Schema} {thunks : Thunks} {document : Json} :
    (write thunks schema).value = .ok document ↔ ∃ root bodies final,
      writeNodes [] thunks (schema.root :: schema.definitions.map Prod.snd)
          { reserved := Entries.names schema.definitions } = (.ok (root :: bodies), final) ∧
        document = attach root
          (Entries.ofList ((Entries.names schema.definitions).zip bodies ++ final.definitions)) := by
  constructor
  · intro h
    rcases hrun : writeSchema thunks schema {} with ⟨result, last⟩
    obtain rfl : result = .ok document := by simpa [write, hrun] using h
    obtain ⟨root, between, hroot, hrest⟩ := andThen_eq_ok.mp hrun
    obtain ⟨written, final, hwritten, hattach⟩ := andThen_eq_ok.mp hrest
    cases hattach
    obtain ⟨bodies, hbodies, rfl⟩ := writeDefinitions_eq_ok.mp hwritten
    exact ⟨root, bodies, last,
      writeNodes_cons_eq_ok.mpr ⟨root, bodies, between, hroot, hbodies, rfl⟩, rfl⟩
  · rintro ⟨root, bodies, final, hrun, rfl⟩
    obtain ⟨part, others, between, hroot, hbodies, heq⟩ := writeNodes_cons_eq_ok.mp hrun
    cases heq
    have hwritten : writeSchema thunks schema {} = (.ok (attach root (Entries.ofList
        ((Entries.names schema.definitions).zip bodies ++ final.definitions))), final) :=
      andThen_eq_ok.mpr ⟨root, between, hroot,
        andThen_eq_ok.mpr ⟨_, final, writeDefinitions_eq_ok.mpr ⟨bodies, hbodies, rfl⟩, rfl⟩⟩
    simp [write, hwritten]

section Run

variable {schema : Schema} {thunks : Thunks} {root : Json} {bodies : List Json} {final : Lifting}
  (hwrite : writeNodes [] thunks (schema.root :: schema.definitions.map Prod.snd)
    { reserved := Entries.names schema.definitions } = (.ok (root :: bodies), final))

include hwrite

/-- One document is written for each definition. -/
theorem length_bodies : bodies.length = schema.definitions.length := by
  simpa using length_of_writeNodes hwrite

/-- The documents of the definitions stand under the names of the definitions. -/
theorem names_zip_bodies : Entries.names ((Entries.names schema.definitions).zip bodies) =
    Entries.names schema.definitions :=
  List.map_fst_zip (by simp [Entries.names, length_bodies hwrite])

/-- What is known of names after a whole schema is written, and what its documents represent. -/
theorem ready_final : Ready schema thunks [] thunks final ∧
    ∀ pair ∈ (schema.root :: schema.definitions.map Prod.snd).zip (root :: bodies),
      Represents thunks (fun thunk name => (thunk, name) ∈ final.lifted) pair.1 pair.2 := by
  obtain ⟨events, hwrites⟩ := (writes_iff (by simp)).mp hwrite
  obtain ⟨hready, -, hrepresents⟩ := hwrites.ready (fun node => contains_of_mem_nodes)
    (ready_start schema thunks [])
  exact ⟨hready, fun pair hpair => (hrepresents pair hpair).mono fun _ _ h =>
    h.resolve_right (by simp)⟩

/-- What is written for a schema renders it. -/
theorem rendering_of_writeNodes (hnames : (Entries.names schema.definitions).Nodup) :
    Rendering schema thunks (fun thunk name => (thunk, name) ∈ final.lifted) root
      ((Entries.names schema.definitions).zip bodies ++ final.definitions) := by
  obtain ⟨hready, hrepresents⟩ := ready_final hwrite
  have hlength := length_bodies hwrite
  have hown := names_zip_bodies hwrite
  have hnodup : (Entries.names ((Entries.names schema.definitions).zip bodies ++
      final.definitions)).Nodup := by
    rw [Entries.names_append, hown]
    refine List.nodup_append.mpr ⟨hnames, hready.nodup, fun a ha b hb heq => ?_⟩
    rw [hready.names] at hb
    obtain ⟨⟨thunk, name⟩, hlifted, rfl⟩ := List.mem_map.mp hb
    obtain rfl : a = name := heq
    exact (hready.shared _ _ hlifted).2.1 ha
  refine ⟨hrepresents _ List.mem_cons_self, hnodup, ?_, ?_, ?_, ?_, ?_⟩
  · intro name body hbody
    obtain ⟨document, hdocument, hpair⟩ :=
      Entries.exists_mem_zip_of_mem (by simpa using hlength) (Entries.mem_of_find? hbody)
    exact ⟨document, Entries.find?_of_mem hnodup (List.mem_append_left _ hdocument),
      hrepresents _ (List.mem_cons_of_mem _ hpair)⟩
  · intro thunk name hlifted
    obtain ⟨body, document, hbody, hcontains, hdocument, hrepresents⟩ :=
      hready.bodies thunk name hlifted
    exact ⟨body, document, hbody, hcontains, Entries.find?_of_mem hnodup
      (List.mem_append_right _ (Entries.mem_of_find? hdocument)),
      hrepresents.mono fun _ _ h => h.resolve_right (by simp)⟩
  · intro thunk name hlifted
    exact (hready.shared thunk name hlifted).2.imp_left Entries.find?_eq_none_iff.mpr
  · intro thunk thunk' name hlifted hlifted'
    have hinjective := List.inj_on_of_nodup_map (hready.names ▸ hready.nodup) hlifted hlifted' rfl
    exact congrArg Prod.fst hinjective
  · intro name document hdocument
    rcases List.mem_append.mp (Entries.mem_of_find? hdocument) with hmem | hmem
    · obtain ⟨body, hbody, -⟩ := Entries.exists_of_mem_zip (by simpa using hlength) hmem
      exact .inl ⟨body, Entries.find?_of_mem hnames hbody⟩
    · have hname : name ∈ Entries.names final.definitions := List.mem_map.mpr ⟨_, hmem, rfl⟩
      obtain ⟨⟨thunk, _⟩, hlifted, rfl⟩ := List.mem_map.mp (hready.names ▸ hname)
      exact .inr ⟨thunk, hlifted⟩

end Run

/-- The root of a schema of known kinds and the bodies of its definitions are written. -/
theorem exists_writeNodes_root {schema : Schema} {thunks : Thunks}
    (hknown : ∀ node, schema.Contains thunks node → node.Known thunks) : ∃ root bodies final,
      writeNodes [] thunks (schema.root :: schema.definitions.map Prod.snd)
        { reserved := Entries.names schema.definitions } = (.ok (root :: bodies), final) := by
  obtain ⟨parts, final, hparts⟩ := exists_writeNodes_eq_ok (fun node hnode =>
    exists_writeNode_eq_ok hknown (contains_of_mem_nodes hnode) [] thunks fun _ _ => rfl)
    { reserved := Entries.names schema.definitions }
  cases parts with
  | nil => simpa using length_of_writeNodes hparts
  | cons root bodies => exact ⟨root, bodies, final, hparts⟩

/-- A schema of known kinds is written. -/
theorem exists_write_eq_ok {schema : Schema} {thunks : Thunks}
    (hknown : ∀ node, schema.Contains thunks node → node.Known thunks) :
    ∃ document, (write thunks schema).value = .ok document := by
  obtain ⟨root, bodies, final, hparts⟩ := exists_writeNodes_root hknown
  exact ⟨_, write_eq_ok.mpr ⟨root, bodies, final, hparts, rfl⟩⟩

/-- A schema of known kinds is written, and what is written renders it. -/
theorem exists_rendering {schema : Schema} {thunks : Thunks}
    (hknown : ∀ node, schema.Contains thunks node → node.Known thunks)
    (hnames : (Entries.names schema.definitions).Nodup) : ∃ named root definitions,
      (write thunks schema).value = .ok (attach root definitions) ∧
        Rendering schema thunks named root definitions := by
  obtain ⟨root, bodies, final, hparts⟩ := exists_writeNodes_root hknown
  have hrendering := rendering_of_writeNodes hparts hnames
  refine ⟨_, root, _, write_eq_ok.mpr ⟨root, bodies, final, hparts, ?_⟩, hrendering⟩
  rw [Entries.ofList_of_nodup hrendering.names]

section Reading

variable {schema : Schema} {thunks : Thunks} {named : String → String → Prop} {root : Json}
  {definitions : Entries Json}

/-- A document among the definitions represents a definition of the schema or a lifted body. -/
theorem Rendering.represents (hrendering : Rendering schema thunks named root definitions)
    {name : String} {document : Json} (h : Entries.find? name definitions = some document) :
    ∃ node, schema.Contains thunks node ∧ Represents thunks named node document := by
  rcases hrendering.complete name document h with ⟨body, hbody⟩ | ⟨thunk, hnamed⟩
  · obtain ⟨other, hother, hrepresents⟩ := hrendering.own name body hbody
    obtain rfl := Option.some_inj.mp (h.symm.trans hother)
    exact ⟨body, .definition (Entries.mem_of_find? hbody), hrepresents⟩
  · obtain ⟨body, other, -, hcontains, hother, hrepresents⟩ := hrendering.lifted thunk name hnamed
    obtain rfl := Option.some_inj.mp (h.symm.trans hother)
    exact ⟨body.value, hcontains, hrepresents⟩

variable (hrendering : Rendering schema thunks named root definitions)
  (hnodes : ∀ node, schema.Contains thunks node → node.Quiet thunks)

include hrendering hnodes

/-- The definitions that are read are the nodes of those that were written. -/
theorem definitions_read : (read (attach root definitions)).value.definitions =
    definitions.map fun (name, body) => (name, (parse body).node) := by
  refine definitions_read_attach (hrendering.root.quiet_steps hnodes .root)
    (fun entry hentry => ?_) hrendering.names
  obtain ⟨node, hnode, hrepresents⟩ :=
    hrendering.represents (Entries.find?_of_mem hrendering.names hentry)
  exact hrepresents.quiet_steps hnodes hnode

/-- A reference is resolved to the node of the document that was written under its name. -/
theorem resolve?_read (target : String) :
    (read (attach root definitions)).value.definitions.resolve? target =
      (Entries.find? (Definitions.nameOf target) definitions).map fun body => (parse body).node := by
  rw [Definitions.resolve?, definitions_read hrendering hnodes]
  exact Entries.find?_map (fun body => (parse body).node) _ _

end Reading

end JsonSchema.Document
