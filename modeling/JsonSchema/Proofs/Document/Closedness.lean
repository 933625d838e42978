import JsonSchema.Proofs.Document.Naming

/-!
# Definitions that are generated for deferred nodes

While a schema is written, a body is defined at most once and under one name, which no definition of the
schema and no other body has, and a deferred node is only cut to a name that its body is defined under. In a
schema whose objects have properties of different names, all that is written stays in the document, so every
generated definition is referred to; of properties that share a name only the last one stays.
-/

namespace JsonSchema

namespace Document

/-- The deferred node whose body is defined, with the name of the definition. -/
def Event.lift? : Event → Option (String × String)
  | .cut _ _ => none
  | .defined thunk name _ => some (thunk, name)

/-- The definition that is generated. -/
def Event.definition? : Event → Option (String × Json)
  | .cut _ _ => none
  | .defined _ name body => some (name, body)

/-- A definition is generated where a body is defined. -/
theorem mem_definitions_iff {events : List Event} {name : String} {body : Json} :
    (name, body) ∈ events.filterMap Event.definition? ↔ ∃ thunk, .defined thunk name body ∈ events := by
  rw [List.mem_filterMap]
  constructor
  · rintro ⟨_ | ⟨thunk, name, body⟩, hevent, heq⟩ <;> cases heq
    exact ⟨thunk, hevent⟩
  · exact fun ⟨thunk, hevent⟩ => ⟨_, hevent, rfl⟩

/-- The body of a deferred node is defined under a name. -/
def Lifts (events : List Event) (thunk name : String) : Prop :=
  ∃ body, .defined thunk name body ∈ events

/-- A deferred node is lifted where its body is defined. -/
theorem mem_lifts_iff {events : List Event} {thunk name : String} :
    (thunk, name) ∈ events.filterMap Event.lift? ↔ Lifts events thunk name := by
  rw [List.mem_filterMap]
  constructor
  · rintro ⟨_ | ⟨thunk, name, body⟩, hevent, heq⟩ <;> cases heq
    exact ⟨body, hevent⟩
  · exact fun ⟨body, hevent⟩ => ⟨_, hevent, rfl⟩

section Recording

variable {schema : Schema} {thunks : Thunks} {active : Active} {pending : Thunks}
  {state final : Lifting}

/-- What is lifted on the way is what the record says, and deferred nodes are cut to names that they are
known by in the end. -/
structure Recorded (active : Active) (state : Lifting) (events : List Event) (final : Lifting) :
    Prop where
  lifted : final.lifted = state.lifted ++ events.filterMap Event.lift?
  definitions : final.definitions = state.definitions ++ events.filterMap Event.definition?
  cut : ∀ thunk name, .cut thunk name ∈ events → Named active final thunk name

/-- Nothing is recorded where nothing happens. -/
theorem Recorded.nil (active : Active) (state : Lifting) : Recorded active state [] state :=
  ⟨by simp, by simp, by simp⟩

/-- Two records in a row are one. -/
theorem Recorded.append {between : Lifting} {events others : List Event}
    (h : Recorded active state events between) (h' : Recorded active between others final)
    (hgrows : Grows between final) : Recorded active state (events ++ others) final where
  lifted := by rw [h'.lifted, h.lifted, List.filterMap_append, List.append_assoc]
  definitions := by rw [h'.definitions, h.definitions, List.filterMap_append, List.append_assoc]
  cut := fun thunk name hcut => (List.mem_append.mp hcut).elim
    (fun hcut => hgrows.named (h.cut thunk name hcut)) (h'.cut thunk name)

/-- A deferred node is cut to the name that it is known by. -/
theorem Recorded.refer {thunk name : String}
    (hname : knownName active (some thunk) state = some name) :
    Recorded active state [.cut thunk name]
      { state with reentered := name :: state.reentered } where
  lifted := (List.append_nil _).symm
  definitions := (List.append_nil _).symm
  cut := by
    intro thunk' name' hcut
    cases List.mem_singleton.mp hcut
    exact (knownName_eq_some hname).elim (fun hactive => .inr ⟨hactive, List.mem_cons_self⟩) .inl

section Settling

variable {thunk name : String} {body : Noted Node} {between : Lifting} {inside : List Event}
  {notes : List Note}
  (h : Recorded ((some thunk, name) :: active)
    { state with reserved := name :: state.reserved, notes := notes } inside between)

include h

/-- A body that was referred to is recorded as a definition, and its deferred node is cut. -/
theorem Recorded.lift (hthunk : thunk ∉ Entries.names between.lifted)
    (hname : name ∉ Entries.names between.definitions) (document : Json) :
    Recorded active state (inside ++ [.defined thunk name document, .cut thunk name])
      { between with
        definitions := Entries.put name document between.definitions
        lifted := Entries.put thunk name between.lifted } := by
  rw [Entries.put_of_not_mem _ hname, Entries.put_of_not_mem _ hthunk]
  refine ⟨?_, ?_, fun thunk' name' hcut => ?_⟩
  · simp [h.lifted, Event.lift?]
  · simp [h.definitions, Event.definition?]
  · rcases List.mem_append.mp hcut with hcut | hcut
    · exact (h.cut thunk' name' hcut).of_lifted _
    · obtain ⟨rfl, rfl⟩ : thunk' = thunk ∧ name' = name := by simpa using hcut
      exact .inl (List.mem_append_right _ (List.mem_singleton_self _))

/-- A body that was not referred to stands in place. -/
theorem Recorded.release (hreferred : name ∉ between.reentered) :
    Recorded active state inside
      { between with reserved := between.reserved.filter (· ≠ name) } :=
  ⟨h.lifted, h.definitions, fun thunk' name' hcut =>
    Named.of_not_mem hreferred (h.cut thunk' name' hcut)⟩

end Settling

/-- Writing nodes of a schema keeps a true record. -/
theorem Writes.recorded {nodes : List Node} {events : List Event} {documents : List Json}
    (h : Writes active pending nodes state events documents final)
    (hnodes : ∀ node ∈ nodes, schema.Contains thunks node)
    (hready : Ready schema thunks active pending state) : Recorded active state events final := by
  induction h with
  | nil => exact .nil _ _
  | composed _ hinside hrest ihinside ihrest =>
    obtain ⟨hnode, hnodes⟩ := List.forall_mem_cons.mp hnodes
    obtain ⟨hbetween, -⟩ := hinside.ready (fun child => .child hnode) hready
    exact (ihinside (fun child => .child hnode) hready).append (ihrest hnodes hbetween)
      (hrest.ready hnodes hbetween).2.1
  | verbatim _ ihrest => exact ihrest (List.forall_mem_cons.mp hnodes).2 hready
  | known hname hrest ihrest =>
    have hnodes := (List.forall_mem_cons.mp hnodes).2
    have hbetween := hready.refer hname
    exact (Recorded.refer hname).append (ihrest hnodes hbetween) (hrest.ready hnodes hbetween).2.1
  | @lifted active _ _ _ body _ _ state _ _ inside _ _ hunknown hbody hname hinside _ hrest ihinside
      ihrest =>
      subst hname
      obtain ⟨hnode, hnodes⟩ := List.forall_mem_cons.mp hnodes
      have hactive := (Option.or_eq_none_iff.mp hunknown).1
      have hbody := (hready.table _ hactive).symm.trans hbody
      have hbodies : ∀ node ∈ [body.value], schema.Contains thunks node :=
        List.forall_mem_singleton.mpr (hnode.forced hbody)
      have hentered := hready.enter hunknown (state.notes ++ body.notes)
      obtain ⟨hbetween, -, hdocument⟩ := hinside.ready hbodies hentered
      obtain ⟨hthunk, hdefinitions⟩ := hbetween.apart _ _ List.mem_cons_self
      have hlifted := hbetween.lift hready.table hactive hbody (hnode.forced hbody)
        (hdocument _ List.mem_cons_self)
      have hrecorded := ((ihinside hbodies hentered).lift hthunk hdefinitions _).append
        (ihrest hnodes hlifted) (hrest.ready hnodes hlifted).2.1
      rwa [List.append_assoc] at hrecorded
  | @inlined _ _ _ _ body _ _ state _ _ _ _ _ hunknown hbody hname hinside hreferred hrest ihinside
      ihrest =>
      subst hname
      obtain ⟨hnode, hnodes⟩ := List.forall_mem_cons.mp hnodes
      have hbody := (hready.table _ (Option.or_eq_none_iff.mp hunknown).1).symm.trans hbody
      have hbodies : ∀ node ∈ [body.value], schema.Contains thunks node :=
        List.forall_mem_singleton.mpr (hnode.forced hbody)
      have hentered := hready.enter hunknown (state.notes ++ body.notes)
      have hreleased := (hinside.ready hbodies hentered).1.release hready.table hreferred
      exact ((ihinside hbodies hentered).release hreferred).append (ihrest hnodes hreleased)
        (hrest.ready hnodes hreleased).2.1

end Recording

/-- A schema in a document refers to a target: at its root, or in a schema that a keyword holds. -/
inductive Refers (target : String) : Json → Prop
  | here {members : Entries Json} (h : Entries.find? "$ref" members = some (.string target)) :
      Refers target (.object members)
  | held {keyword : String} {members : Entries Json} {part : Json}
      (hkeyword : keyword ∈ ["items", "additionalItems"])
      (hpart : Entries.find? keyword members = some part) (h : Refers target part) :
      Refers target (.object members)
  | listed {keyword : String} {members : Entries Json} {parts : List Json} {part : Json}
      (hkeyword : keyword ∈ ["items", "oneOf", "anyOf", "allOf"])
      (hparts : Entries.find? keyword members = some (.array parts)) (hpart : part ∈ parts)
      (h : Refers target part) : Refers target (.object members)
  | property {name : String} {members properties : Entries Json} {part : Json}
      (hproperties : Entries.find? "properties" members = some (.object properties))
      (hpart : (name, part) ∈ properties) (h : Refers target part) : Refers target (.object members)

/-- The definitions in a document. -/
def definitionsOf : Json → Entries Json
  | .object members =>
    match Entries.find? "definitions" members with
    | some (.object definitions) => definitions
    | _ => []
  | _ => []

section Referring

variable {target : String}

/-- What refers to a target is a property, where no other keyword holds a reference or a schema. -/
theorem Refers.exists_property {members : Entries Json} (h : Refers target (.object members))
    (href : Entries.find? "$ref" members = none)
    (hkeywords : ∀ keyword, keyword ∈ ["items", "additionalItems"] ∨
      keyword ∈ ["items", "oneOf", "anyOf", "allOf"] → Entries.find? keyword members = none) :
    ∃ properties name part, Entries.find? "properties" members = some (.object properties) ∧
      (name, part) ∈ properties ∧ Refers target part := by
  cases h with
  | here h => simp [href] at h
  | held hkeyword hpart h =>
    rw [hkeywords _ (.inl hkeyword)] at hpart
    cases hpart
  | listed hkeyword hparts hpart h =>
    rw [hkeywords _ (.inr hkeyword)] at hparts
    cases hparts
  | property hproperties hpart h => exact ⟨_, _, _, hproperties, hpart, h⟩

/-- What one of the documents inside refers to, a composed document refers to. -/
theorem refers_compose {node : Node} (hcomposes : node.composes)
    (hdistinct : ∀ docs properties count, node = .object docs properties count →
      (properties.map (·.name)).Nodup) {parts : List Json}
    (hlength : parts.length = node.children.length) {part : Json} (hpart : part ∈ parts)
    (h : Refers target part) : Refers target (.object (compose node parts)) := by
  cases node with
  | object docs properties count =>
    have hlength : parts.length = (properties.map (·.name)).length := by
      simpa [Node.children] using hlength
    have hproperties := value?_properties_compose docs count (hdistinct _ _ _ rfl)
      (by simpa using hlength)
    obtain ⟨name, -, hpair⟩ := exists_mem_zip hlength hpart
    exact .property hproperties hpair h
  | array docs items length =>
    cases items with
    | none =>
      obtain rfl := List.eq_nil_of_length_eq_zero hlength
      cases hpart
    | some items =>
      obtain ⟨only, rfl⟩ := List.length_eq_one_iff.mp hlength
      obtain rfl := List.mem_singleton.mp hpart
      refine .held (show "items" ∈ _ by simp) ?_ h
      exact (value?_typedMembers (by simp) (by simp) (by simp) (by simp)).trans (by simp)
  | tuple docs items additional length =>
    rw [← List.take_append_drop items.length parts] at hpart
    rcases List.mem_append.mp hpart with hitem | hother
    · refine .listed (show "items" ∈ _ by simp) ?_ hitem h
      exact (value?_typedMembers (by simp) (by simp) (by simp) (by simp)).trans (by simp)
    · cases additional with
      | none =>
        rw [List.drop_of_length_le (by simp [hlength, Node.children])] at hother
        cases hother
      | some additional =>
        obtain ⟨only, honly⟩ : ∃ only, parts.drop items.length = [only] :=
          List.length_eq_one_iff.mp (by simp [hlength, Node.children])
        rw [honly] at hother
        obtain rfl := List.mem_singleton.mp hother
        refine .held (show "additionalItems" ∈ _ by simp) ?_ h
        exact (value?_typedMembers (by simp) (by simp) (by simp) (by simp)).trans
          (by simp [honly])
  | combined docs how members =>
    refine .listed (show how.keyword ∈ _ by cases how <;> simp [Combination.keyword]) ?_ hpart h
    simp [compose]
  | deferred thunk => cases hcomposes
  | verbatim document => cases hcomposes
  | unknown => cases hcomposes
  | _ =>
    obtain rfl := List.eq_nil_of_length_eq_zero hlength
    cases hpart

/-- What a document refers to at its root, it refers to with definitions, too. -/
theorem refers_attach {root : Json} (h : Refers target root) (definitions : Entries Json) :
    Refers target (attach root definitions) := by
  by_cases hempty : definitions.isEmpty
  · have hattach : attach root definitions = root := if_pos hempty
    rwa [hattach]
  · have hattach : ∀ members, attach (.object members) definitions =
        .object (Entries.put "definitions" (.object definitions) members) := fun _ => if_neg hempty
    -- No keyword of a schema inside is the one that holds the definitions.
    have hfind : ∀ {keyword : String} {members : Entries Json} {value : Json}, keyword ≠ "definitions" →
        Entries.find? keyword members = some value →
          Entries.find? keyword (Entries.put "definitions" (.object definitions) members) =
            some value := fun hne hvalue => by
      rwa [Entries.find?_put, if_neg hne.symm]
    cases h with
    | here href =>
      rw [hattach]
      exact .here (hfind (by simp) href)
    | held hkeyword hpart h =>
      rw [hattach]
      exact .held hkeyword (hfind (by rintro rfl; simp at hkeyword) hpart) h
    | listed hkeyword hparts hpart h =>
      rw [hattach]
      exact .listed hkeyword (hfind (by rintro rfl; simp at hkeyword) hparts) hpart h
    | property hproperties hpart h =>
      rw [hattach]
      exact .property (hfind (by simp) hproperties) hpart h

/-- The definitions that a document is given are found in it. -/
theorem definitionsOf_attach (root : Json) {definitions : Entries Json} (h : definitions ≠ []) :
    definitionsOf (attach root definitions) = definitions := by
  have hempty : ¬ definitions.isEmpty := by simpa using h
  cases root <;> simp [attach, hempty, definitionsOf]

/-- One of some documents refers to a target, or a body that is defined on the way. -/
def Targets (target : String) (documents : List Json) (events : List Event) : Prop :=
  (∃ document ∈ documents, Refers target document) ∨
    ∃ entry ∈ events.filterMap Event.definition?, Refers target entry.2

/-- More documents and a longer record refer to no less. -/
theorem Targets.mono {documents more : List Json} {events longer : List Event}
    (h : Targets target documents events) (hdocuments : documents ⊆ more) (hevents : events ⊆ longer) :
    Targets target more longer := by
  rcases h with ⟨document, hmem, hrefers⟩ | ⟨⟨name, body⟩, hmem, hrefers⟩
  · exact .inl ⟨document, hdocuments hmem, hrefers⟩
  · obtain ⟨thunk, hevent⟩ := mem_definitions_iff.mp hmem
    exact .inr ⟨(name, body), mem_definitions_iff.mpr ⟨thunk, hevents hevent⟩, hrefers⟩

/-- The reference that a deferred node is cut to refers to the definition. -/
theorem refers_lazyReference (name : String) :
    Refers (Definitions.referenceTo name) (lazyReference name) :=
  .here rfl

end Referring

/-- Where the properties of each object have different names, no reference that is written in place of a
deferred node is lost. -/
theorem Writes.targets {schema : Schema} {thunks : Thunks} {active : Active} {pending : Thunks}
    {nodes : List Node} {state final : Lifting} {events : List Event} {documents : List Json}
    (h : Writes active pending nodes state events documents final)
    (hnodes : ∀ node ∈ nodes, schema.Contains thunks node)
    (hpending : ∀ thunk body, Entries.find? thunk pending = some body →
      Entries.find? thunk thunks = some body)
    (hdistinct : ∀ docs properties count, schema.Contains thunks (.object docs properties count) →
      (properties.map (·.name)).Nodup) {thunk name : String} (hcut : .cut thunk name ∈ events) :
    Targets (Definitions.referenceTo name) documents events := by
  induction h with
  | nil => cases hcut
  | composed hcomposes hinside _ ihinside ihrest =>
    obtain ⟨hnode, hnodes⟩ := List.forall_mem_cons.mp hnodes
    rcases List.mem_append.mp hcut with hcut | hcut
    · rcases ihinside (fun child => .child hnode) hpending hcut with ⟨part, hpart, hrefers⟩ | hentry
      · refine .inl ⟨_, List.mem_cons_self, refers_compose hcomposes ?_
          (length_of_writeNodes hinside.eq_ok) hpart hrefers⟩
        rintro docs properties count rfl
        exact hdistinct docs properties count hnode
      · exact Targets.mono (.inr hentry) (List.Subset.refl _) (List.subset_append_left _ _)
    · exact (ihrest hnodes hpending hcut).mono (List.subset_cons_self _ _)
        (List.subset_append_right _ _)
  | verbatim _ ihrest =>
    exact (ihrest (List.forall_mem_cons.mp hnodes).2 hpending hcut).mono
      (List.subset_cons_self _ _) (List.Subset.refl _)
  | known _ _ ihrest =>
    rcases List.mem_cons.mp hcut with heq | hcut
    · cases heq
      exact .inl ⟨_, List.mem_cons_self, refers_lazyReference name⟩
    · exact (ihrest (List.forall_mem_cons.mp hnodes).2 hpending hcut).mono
        (List.subset_cons_self _ _) (List.subset_cons_self _ _)
  | @lifted _ _ thunk' name' _ document _ _ _ _ inside others _ _ hbody _ _ _ _ ihinside ihrest =>
    obtain ⟨hnode, hnodes⟩ := List.forall_mem_cons.mp hnodes
    rcases List.mem_append.mp hcut with hcut | hcut
    · have htargets := ihinside (List.forall_mem_singleton.mpr (hnode.forced (hpending _ _ hbody)))
        (fun _ _ hfound => hpending _ _ (Entries.find?_of_find?_without hfound)) hcut
      rcases htargets with ⟨only, honly, hrefers⟩ | hentry
      · obtain rfl := List.mem_singleton.mp honly
        exact .inr ⟨(name', only), mem_definitions_iff.mpr ⟨thunk', by simp⟩, hrefers⟩
      · exact Targets.mono (.inr hentry) (List.Subset.refl _) (List.subset_append_left _ _)
    · rcases List.mem_cons.mp (List.mem_of_ne_of_mem (by simp) hcut) with heq | hcut
      · cases heq
        exact .inl ⟨_, List.mem_cons_self, refers_lazyReference name⟩
      · exact (ihrest hnodes hpending hcut).mono (List.subset_cons_self _ _)
          (fun event hevent => by simp [hevent])
  | inlined _ hbody _ _ _ _ ihinside ihrest =>
    obtain ⟨hnode, hnodes⟩ := List.forall_mem_cons.mp hnodes
    rcases List.mem_append.mp hcut with hcut | hcut
    · have htargets := ihinside (List.forall_mem_singleton.mpr (hnode.forced (hpending _ _ hbody)))
        (fun _ _ hfound => hpending _ _ (Entries.find?_of_find?_without hfound)) hcut
      exact htargets.mono (List.cons_subset_cons _ (List.nil_subset _)) (List.subset_append_left _ _)
    · exact (ihrest hnodes hpending hcut).mono (List.subset_cons_self _ _)
        (List.subset_append_right _ _)

/-- Where a body is defined, its deferred node is cut. -/
theorem Writes.cut_of_defined {active : Active} {pending : Thunks} {nodes : List Node}
    {state final : Lifting} {events : List Event} {documents : List Json}
    (h : Writes active pending nodes state events documents final) {thunk name : String} {body : Json}
    (hevent : .defined thunk name body ∈ events) : .cut thunk name ∈ events := by
  induction h with
  | nil => cases hevent
  | composed _ _ _ ihinside ihrest =>
    exact List.mem_append.mpr ((List.mem_append.mp hevent).imp ihinside ihrest)
  | verbatim _ ihrest => exact ihrest hevent
  | known _ _ ihrest => exact List.mem_cons_of_mem _ (ihrest (by simpa using hevent))
  | lifted _ _ _ _ _ _ ihinside ihrest =>
    simp only [List.mem_append, List.mem_cons] at hevent ⊢
    rcases hevent with hinside | heq | heq | hothers
    · exact .inl (ihinside hinside)
    · cases heq
      exact .inr (.inr (.inl rfl))
    · cases heq
    · exact .inr (.inr (.inr (ihrest hothers)))
  | inlined _ _ _ _ _ _ ihinside ihrest =>
    exact List.mem_append.mpr ((List.mem_append.mp hevent).imp ihinside ihrest)

/-- The document of a schema is written with a record of what happens to its deferred nodes. -/
def Records (schema : Schema) (thunks : Thunks) (events : List Event) (document : Json) : Prop :=
  ∃ root bodies final,
    Writes [] thunks (schema.root :: schema.definitions.map Prod.snd)
        { reserved := Entries.names schema.definitions } events (root :: bodies) final ∧
      document = attach root
        (Entries.ofList ((Entries.names schema.definitions).zip bodies ++ final.definitions))

/-- The definitions of a document that is written for a schema with a record: those of the schema under
their names, and those that were generated for deferred nodes. -/
structure Generated (schema : Schema) (thunks : Thunks) (events : List Event) (document : Json) :
    Prop where
  /-- A deferred node is cut to the name that its body is defined under. -/
  closed : ∀ thunk name, .cut thunk name ∈ events → Lifts events thunk name
  /-- What is defined stands in the document, and represents the body. -/
  found : ∀ thunk name body, .defined thunk name body ∈ events →
    Entries.find? name (definitionsOf document) = some body ∧ ∃ node,
      Entries.find? thunk thunks = some node ∧ Represents thunks (Lifts events) node.value body
  /-- No name is defined twice. -/
  once : (Entries.names (events.filterMap Event.definition?)).Nodup
  /-- No body is defined twice. -/
  single : (Entries.names (events.filterMap Event.lift?)).Nodup
  /-- A name that is defined is not the name of a definition of the schema. -/
  fresh : ∀ name ∈ Entries.names (events.filterMap Event.definition?),
    name ∉ Entries.names schema.definitions
  /-- A name belongs to one deferred node. -/
  owner : ∀ thunk thunk' name, Lifts events thunk name → Lifts events thunk' name → thunk = thunk'
  /-- A deferred node is cut to one name everywhere. -/
  same : ∀ thunk name name', .cut thunk name ∈ events → .cut thunk name' ∈ events → name = name'
  /-- The root stands in the document, where deferred nodes are only cut to names of their bodies. -/
  root : ∃ root definitions, document = attach root definitions ∧
    Represents thunks (Lifts events) schema.root root
  /-- The definitions of the schema stand in the document, as they were written at their turn. -/
  own : ∀ name body, (name, body) ∈ schema.definitions → ∃ written,
    WrittenAs schema thunks name body written ∧
      Entries.find? name (definitionsOf document) = some written ∧
        Represents thunks (Lifts events) body written
  /-- There are no other definitions. -/
  keys : schema.definitions ≠ [] ∨ events.filterMap Event.definition? ≠ [] →
    Entries.names (definitionsOf document) = Entries.names schema.definitions ++
      Entries.names (events.filterMap Event.definition?)

section Run

variable {schema : Schema} {thunks : Thunks} {root : Json} {bodies : List Json}
  {events : List Event} {final : Lifting}
  (hwrites : Writes [] thunks (schema.root :: schema.definitions.map Prod.snd)
    { reserved := Entries.names schema.definitions } events (root :: bodies) final)

include hwrites

/-- What is lifted in the end is what the record says. -/
theorem lifted_eq : final.lifted = events.filterMap Event.lift? := by
  simpa using (hwrites.recorded (fun node => contains_of_mem_nodes) (ready_start schema thunks [])).lifted

/-- The generated definitions are those of the record. -/
theorem definitions_eq : final.definitions = events.filterMap Event.definition? := by
  simpa using
    (hwrites.recorded (fun node => contains_of_mem_nodes) (ready_start schema thunks [])).definitions

/-- A deferred node is cut to the name of a definition of its body. -/
theorem lifts_of_cut {thunk name : String} (hcut : .cut thunk name ∈ events) :
    Lifts events thunk name := by
  have hrecorded := hwrites.recorded (fun node => contains_of_mem_nodes) (ready_start schema thunks [])
  have hlifted : (thunk, name) ∈ final.lifted := (hrecorded.cut thunk name hcut).resolve_right (by simp)
  rw [lifted_eq hwrites] at hlifted
  exact mem_lifts_iff.mp hlifted

/-- The names of the generated definitions differ. -/
theorem nodup_definitions : (Entries.names (events.filterMap Event.definition?)).Nodup := by
  rw [← definitions_eq hwrites]
  exact (ready_final hwrites.eq_ok).1.nodup

/-- No body is defined twice. -/
theorem nodup_lifts : (Entries.names (events.filterMap Event.lift?)).Nodup := by
  rw [← lifted_eq hwrites]
  exact (ready_final hwrites.eq_ok).1.single

variable {definitions : Entries Json} (hdefinitions : definitions =
    (Entries.names schema.definitions).zip bodies ++ events.filterMap Event.definition?)

include hdefinitions

/-- Where the properties of each object have different names, the definitions that were generated are
referred to, at the root or in a definition. -/
theorem refers_of_writes
    (hdistinct : ∀ docs properties count, schema.Contains thunks (.object docs properties count) →
      (properties.map (·.name)).Nodup) {name : String}
    (hname : name ∈ Entries.names (events.filterMap Event.definition?)) :
    Refers (Definitions.referenceTo name) (attach root definitions) ∨ ∃ entry ∈
      definitionsOf (attach root definitions), Refers (Definitions.referenceTo name) entry.2 := by
  obtain ⟨⟨name, body⟩, hmem, rfl⟩ := List.mem_map.mp hname
  obtain ⟨thunk, hevent⟩ := mem_definitions_iff.mp hmem
  have hattach : ∀ {entry}, entry ∈ definitions → entry ∈ definitionsOf (attach root definitions) :=
    fun hentry => (definitionsOf_attach root (List.ne_nil_of_mem hentry)).symm ▸ hentry
  rcases hwrites.targets (fun node => contains_of_mem_nodes) (fun _ _ h => h) hdistinct
    (hwrites.cut_of_defined hevent) with ⟨document, hdocument, hrefers⟩ | ⟨entry, hentry, hrefers⟩
  · rcases List.mem_cons.mp hdocument with rfl | hdocument
    · exact .inl (refers_attach hrefers definitions)
    · obtain ⟨other, -, hpair⟩ : ∃ other ∈ Entries.names schema.definitions,
          (other, document) ∈ (Entries.names schema.definitions).zip bodies :=
        exists_mem_zip (by simp [length_bodies hwrites.eq_ok, Entries.names]) hdocument
      exact .inr ⟨_, hattach (hdefinitions ▸ List.mem_append_left _ hpair), hrefers⟩
  · exact .inr ⟨entry, hattach (hdefinitions ▸ List.mem_append_right _ hentry), hrefers⟩

variable (hnames : (Entries.names schema.definitions).Nodup)

include hnames

/-- What is written for a schema renders it, with the bodies that are lifted according to the record. -/
theorem rendering_of_writes : Rendering schema thunks (Lifts events) root definitions := by
  have hnamed : Lifts events = fun thunk name => (thunk, name) ∈ final.lifted := by
    funext thunk name
    rw [lifted_eq hwrites, mem_lifts_iff]
  rw [hdefinitions, ← definitions_eq hwrites, hnamed]
  exact rendering_of_writeNodes hwrites.eq_ok hnames

/-- The definitions are found in the document. -/
theorem find?_of_writes {name : String} {body : Json} (hmem : (name, body) ∈ definitions) :
    Entries.find? name (definitionsOf (attach root definitions)) = some body := by
  rw [definitionsOf_attach root (List.ne_nil_of_mem hmem)]
  exact Entries.find?_of_mem (rendering_of_writes hwrites hdefinitions hnames).names hmem

/-- The definitions of the document are those of the schema and those that were generated. -/
theorem generated_of_writes : Generated schema thunks events (attach root definitions) := by
  have hrendering := rendering_of_writes hwrites hdefinitions hnames
  have hfound : ∀ {name document}, (name, document) ∈ definitions →
      Entries.find? name (definitionsOf (attach root definitions)) = some document :=
    fun hmem => find?_of_writes hwrites hdefinitions hnames hmem
  refine ⟨fun thunk name => lifts_of_cut hwrites, ?found, nodup_definitions hwrites,
    nodup_lifts hwrites, ?fresh, hrendering.distinct, ?same, ⟨root, definitions, rfl, hrendering.root⟩,
    ?own, ?keys⟩
  case found =>
    intro thunk name body hevent
    have hbody : (name, body) ∈ definitions := hdefinitions ▸
      List.mem_append_right _ (mem_definitions_iff.mpr ⟨thunk, hevent⟩)
    obtain ⟨node, document, hnode, -, hdocument, hrepresents⟩ :=
      hrendering.lifted thunk name ⟨body, hevent⟩
    obtain rfl : body = document := by
      simpa [Entries.find?_of_mem hrendering.names hbody] using hdocument
    exact ⟨hfound hbody, node, hnode, hrepresents⟩
  case fresh =>
    intro name hname
    obtain ⟨⟨name, body⟩, hmem, rfl⟩ := List.mem_map.mp hname
    obtain ⟨thunk, hevent⟩ := mem_definitions_iff.mp hmem
    exact Entries.find?_eq_none_iff.mp (hrendering.fresh thunk name ⟨body, hevent⟩).1
  case same =>
    intro thunk name name' hcut hcut'
    have hlift := mem_lifts_iff.mpr (lifts_of_cut hwrites hcut)
    have hlift' := mem_lifts_iff.mpr (lifts_of_cut hwrites hcut')
    exact congrArg Prod.snd (List.inj_on_of_nodup_map (nodup_lifts hwrites) hlift hlift' rfl)
  case own =>
    intro name body hbody
    obtain ⟨written, hwritten, hmem⟩ := exists_writtenAs hwrites.eq_ok hbody
    have hmem : (name, written) ∈ definitions := hdefinitions ▸ List.mem_append_left _ hmem
    obtain ⟨document, hdocument, hrepresents⟩ :=
      hrendering.own name body (Entries.find?_of_mem hnames hbody)
    obtain rfl : written = document := by
      simpa [Entries.find?_of_mem hrendering.names hmem] using hdocument
    exact ⟨written, hwritten, hfound hmem, hrepresents⟩
  case keys =>
    intro hsome
    have hown := names_zip_bodies hwrites.eq_ok
    have hall : Entries.names definitions = Entries.names schema.definitions ++
        Entries.names (events.filterMap Event.definition?) := by
      rw [hdefinitions, Entries.names_append, hown]
    have hne : definitions ≠ [] := by
      rintro rfl
      obtain ⟨hzip, hgenerated⟩ := List.append_eq_nil_iff.mp hall.symm
      exact hsome.elim (· (List.map_eq_nil_iff.mp hzip)) (· (List.map_eq_nil_iff.mp hgenerated))
    rw [definitionsOf_attach root hne, hall]

end Run

end Document

namespace Schema

open Document

/-- A document that is written for a schema has its definitions under their names, and the ones that were
generated for deferred nodes: each deferred node that is cut is cut to the name of a definition of its
body, which is defined once, under one name that nothing else has. Where the properties of each object
have different names, each definition that was generated is referred to. -/
theorem generated_write (schema : Schema) (thunks : Thunks)
    (hnames : (Entries.names schema.definitions).Nodup) {document : Json}
    (hwrite : (write thunks schema).value = .ok document) :
    ∃ events, Records schema thunks events document ∧ Generated schema thunks events document ∧
      ((∀ docs properties count, schema.Contains thunks (.object docs properties count) →
          (properties.map (·.name)).Nodup) →
        ∀ name ∈ Entries.names (events.filterMap Event.definition?),
          Refers (Definitions.referenceTo name) document ∨ ∃ entry ∈ definitionsOf document,
            Refers (Definitions.referenceTo name) entry.2) := by
  obtain ⟨root, bodies, final, hrun, rfl⟩ := write_eq_ok.mp hwrite
  obtain ⟨events, hwrites⟩ := (writes_iff (by simp)).mp hrun
  refine ⟨events, ⟨root, bodies, final, hwrites, rfl⟩, ?_⟩
  rw [Entries.ofList_of_nodup (rendering_of_writeNodes hrun hnames).names, definitions_eq hwrites]
  exact ⟨generated_of_writes hwrites rfl hnames,
    fun hdistinct name hname => refers_of_writes hwrites rfl hdistinct hname⟩

/-- Chains from a definition and in the root. -/
def fenced : Schema where
  root := .array {} (some (.deferred (some "link"))) {}
  definitions := [("lazy0", .deferred (some "link"))]

/-- The chain in a definition of the schema lifts one body, to which something refers. -/
theorem generated_write_fenced : (Entries.names fenced.definitions).Nodup ∧
    ∃ document events, (write chain fenced).value = .ok document ∧
      Generated fenced chain events document ∧
      Entries.names (events.filterMap Event.definition?) = ["lazy1"] ∧
      (Refers (Definitions.referenceTo "lazy1") document ∨ ∃ entry ∈ definitionsOf document,
        Refers (Definitions.referenceTo "lazy1") entry.2) := by
  have hmem : ∀ node, fenced.Contains chain node → node ∈ [fenced.root, .deferred (some "link"),
      .object {} [⟨"next", .deferred (some "link"), false⟩] {}] := fun node hnode =>
    hnode.mem_of_closed (by simp) (by simp [fenced]) (by simp [chain]) (by simp [fenced, Node.children])
  have hwrite : (write chain fenced).value = .ok (.object [("type", .string "array"),
      ("items", lazyReference "lazy1"),
      ("definitions", .object [("lazy0", lazyReference "lazy1"),
        ("lazy1", .object [("type", .string "object"),
          ("properties", .object [("next", lazyReference "lazy1")])])])]) := by
    rw [write, writeSchema, fenced, writeNode_composed rfl]
    simp only [Node.children, Option.toList_some, writeNodes_singleton, Writing.andThen, writeNode_link,
      Writing.give, writeDefinitions]
    rw [writeNode_known rfl]
    rfl
  obtain ⟨events, -, hgenerated, hrefers⟩ := generated_write fenced chain (by decide) hwrite
  have hnames : ["lazy0"] ++ Entries.names (events.filterMap Event.definition?) =
      ["lazy0"] ++ ["lazy1"] := (hgenerated.keys (.inl (by simp [fenced]))).symm
  have hlifted := List.append_cancel_left hnames
  refine ⟨by decide, _, events, hwrite, hgenerated, hlifted, hrefers ?_ _ (by simp [hlifted])⟩
  intro docs properties count hnode
  obtain ⟨-, rfl, -⟩ : docs = {} ∧ properties = [⟨"next", .deferred (some "link"), false⟩] ∧
      count = {} := by simpa [fenced] using hmem _ hnode
  simp

/-- An object that holds itself under a name that another one of its properties has, too. -/
def twin : Thunks := [("twin",
  ⟨.object {} [⟨"x", .deferred (some "twin"), false⟩, ⟨"x", .string {} {}, false⟩] {}, []⟩)]

/-- An object that holds such an object under a name that another one of its properties has, too. -/
def doubled : Schema where
  root := .object {} [⟨"a", .deferred (some "twin"), false⟩, ⟨"a", .string {} {}, false⟩] {}
  definitions := []

/-- A definition that is generated is not referred to where its references were written for properties
whose names other properties have, too. -/
theorem not_refers_write_doubled : doubled.definitions = [] ∧
    ∃ document, (write twin doubled).value = .ok document ∧
      Entries.names (definitionsOf document) = ["lazy0"] ∧
      ¬ (Refers (Definitions.referenceTo "lazy0") document ∨ ∃ entry ∈ definitionsOf document,
        Refers (Definitions.referenceTo "lazy0") entry.2) := by
  have hwrite : (write twin doubled).value = .ok (.object [("type", .string "object"),
      ("properties", .object [("a", .object [("type", .string "string")])]),
      ("definitions", .object [("lazy0", .object [("type", .string "object"),
        ("properties", .object [("x", .object [("type", .string "string")])])])])]) := by
    rw [write, writeSchema, doubled, writeNode_composed rfl]
    simp only [Node.children, List.map_cons, List.map_nil, writeNodes_cons, writeNodes_nil,
      Writing.andThen, writeDefinitions]
    rw [writeNode_deferred rfl rfl, writeNode_composed rfl]
    simp only [Node.children, List.map_cons, List.map_nil, writeNodes_cons, writeNodes_nil,
      Writing.andThen]
    rw [writeNode_known rfl]
    simp only [writeNode]
    rfl
  have hstring : ∀ target, ¬ Refers target (.object [("type", .string "string")]) := fun target h => by
    obtain ⟨_, _, _, hproperties, -⟩ := h.exists_property (by simp) (by simp [or_imp, forall_and])
    simp at hproperties
  refine ⟨rfl, _, hwrite, rfl, ?_⟩
  rintro (hroot | ⟨entry, hentry, hbody⟩)
  · obtain ⟨properties, name, part, hproperties, hpart, hrefers⟩ :=
      hroot.exists_property (by simp) (by simp [or_imp, forall_and])
    obtain rfl : [("a", .object [("type", .string "string")])] = properties := by simpa using hproperties
    cases List.mem_singleton.mp hpart
    exact hstring _ hrefers
  · cases List.mem_singleton.mp hentry
    obtain ⟨properties, name, part, hproperties, hpart, hrefers⟩ :=
      hbody.exists_property (by simp) (by simp [or_imp, forall_and])
    obtain rfl : [("x", .object [("type", .string "string")])] = properties := by simpa using hproperties
    cases List.mem_singleton.mp hpart
    exact hstring _ hrefers

end Schema

end JsonSchema
