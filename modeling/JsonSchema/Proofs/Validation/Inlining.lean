import JsonSchema.Proofs.Document.Recomposed
import JsonSchema.Proofs.Node.Rebuilding
import JsonSchema.Proofs.Validation.Conformance
import JsonSchema.Proofs.Validation.Recursion

/-!
# References and the nodes they stand for

Where every cycle passes through a property or an item, a reference says no more and no less than the
node that it is resolved to. The guard against circular references is never in the way then: it
reports nothing, and the recursion without it ends with the same trace. And any references can be
replaced by the nodes that they are resolved to: the root and the definitions lead to the same links as
before, so what comes out is contractive too, and the two schemas are checked in step.
-/

namespace JsonSchema

/-- A node with any of the references in it replaced by the nodes that they are resolved to, in which
references may be replaced again. -/
inductive Node.Inlines (definitions : Definitions) : Node → Node → Prop
  | followed {docs : Documentation} {target : String} {body node : Node}
      (hbody : definitions.resolve? target = some body) (h : Inlines definitions body node) :
      Inlines definitions (.reference docs target) node
  | inside {node : Node} {nodes : List Node} (hlength : nodes.length = node.children.length)
      (h : ∀ pair ∈ node.children.zip nodes, Inlines definitions pair.1 pair.2) :
      Inlines definitions node (node.withChildren nodes)

/-- A schema with any of the references in its root and in its definitions replaced by the nodes that
they are resolved to. -/
structure Schema.Inlines (schema schema' : Schema) : Prop where
  root : schema.root.Inlines schema.definitions schema'.root
  definitions : List.Forall₂ (fun first second => first.1 = second.1 ∧
    first.2.Inlines schema.definitions second.2) schema.definitions schema'.definitions

section Inlining

variable {definitions : Definitions} {thunks : Thunks} {node node' : Node} {link : Link}

/-- Whether a node hands a value on does not depend on the nodes inside it. -/
@[simp] theorem Node.handsOn_withChildren (node : Node) (nodes : List Node) :
    (node.withChildren nodes).handsOn = node.handsOn := by
  cases node <;> rfl

/-- No reference needs to be replaced. -/
theorem Node.Inlines.refl (node : Node) : node.Inlines definitions node := by
  induction node using Node.induction_children with
  | step node ih =>
    have hinside : node.Inlines definitions (node.withChildren node.children) :=
      .inside rfl fun pair hpair => by
        obtain ⟨i, hi, rfl⟩ := List.mem_iff_getElem.mp hpair
        simpa using ih _ (List.getElem_mem _)
    rwa [Node.withChildren_children] at hinside

/-- What is met at once in a node with references replaced is reached by the node. -/
theorem Node.Inlines.reaches (h : node.Inlines definitions node') (hlink : link ∈ node'.links) :
    node.Reaches definitions thunks link := by
  induction h with
  | followed hbody _ ih =>
    exact (ih hlink).through (List.mem_singleton_self (Link.reference _)) hbody
  | @inside node nodes hlength _ ih =>
    cases node with
    | combined docs how members =>
      obtain ⟨member', hmember', hlink⟩ := mem_listLinks.mp hlink
      obtain ⟨i, hi, rfl⟩ := List.mem_iff_getElem.mp hmember'
      have hbound : i < members.length := by simpa [Node.children, hlength] using hi
      have hpair : (members[i], nodes[i]) ∈ members.zip nodes :=
        List.mem_iff_getElem.mpr ⟨i, by simpa using ⟨hbound, hi⟩, by simp⟩
      exact (ih _ hpair hlink).member (List.getElem_mem hbound)
    | reference docs target => exact ⟨link, hlink, .refl⟩
    | deferred thunk => exact ⟨link, hlink, .refl⟩
    | _ => simp [Node.withChildren, Node.links] at hlink

/-- A deferred node is what it is with references replaced, or one that a reference stands for. -/
theorem Node.Inlines.contains_deferred {schema : Schema} {thunk : Option String}
    (h : node.Inlines schema.definitions (.deferred thunk)) (hnode : schema.Contains thunks node) :
    schema.Contains thunks (.deferred thunk) := by
  generalize hdeferred : Node.deferred thunk = node' at h
  induction h with
  | followed hbody _ ih => exact ih (.definition (Entries.mem_of_find? hbody)) hdeferred
  | @inside node nodes hlength _ _ =>
    cases node <;> cases hdeferred
    exact hnode

/-- The nodes inside a node with references replaced are such nodes of the schema. -/
theorem Node.Inlines.exists_child {schema : Schema} {child' : Node}
    (h : node.Inlines schema.definitions node') (hnode : schema.Contains thunks node)
    (hchild : child' ∈ node'.children) :
    ∃ child, schema.Contains thunks child ∧ child.Inlines schema.definitions child' := by
  induction h with
  | followed hbody _ ih => exact ih (.definition (Entries.mem_of_find? hbody)) hchild
  | @inside node nodes hlength hinside _ =>
    rw [Node.children_withChildren hlength] at hchild
    obtain ⟨i, hi, rfl⟩ := List.mem_iff_getElem.mp hchild
    have hbound : i < node.children.length := hlength ▸ hi
    have hpair : (node.children[i], nodes[i]) ∈ node.children.zip nodes :=
      List.mem_iff_getElem.mpr ⟨i, by simpa using ⟨hbound, hi⟩, by simp⟩
    exact ⟨_, .child hnode (List.getElem_mem hbound), hinside _ hpair⟩

end Inlining

section Rebuilt

open Document

variable {R : Node → Node → Prop} {node : Node} {nodes : List Node} {value : Json}

/-- What a node asks of the value itself does not depend on the nodes inside it. -/
theorem Check.ownTrace_withChildren {strictness : Strictness}
    (hlength : nodes.length = node.children.length) :
    ownTrace strictness (node.withChildren nodes) value = ownTrace strictness node value := by
  cases node with
  | object docs properties count =>
    cases value with
    | object members =>
      have hmissing := missingTrace_zipWith (by simpa [Node.children] using hlength) members
      simp [Node.withChildren, ownTrace, hmissing]
    | _ => rfl
  | _ => cases value <;> rfl

/-- Parts in the same place of a value, whose nodes are related. -/
structure Check.Part.Along (R : Node → Node → Prop) (part other : Part) : Prop where
  segment : part.segment = other.segment
  value : part.value = other.value
  node : R part.node other.node

/-- Items are checked against related nodes in step. -/
theorem Check.forall₂_itemParts {items others : List Node} {additional other : Option Node}
    (h : List.Forall₂ R items others) (hother : Option.Rel R additional other) (index : Nat)
    (values : List Json) :
    List.Forall₂ (Part.Along R) (itemParts items additional index values)
      (itemParts others other index values) := by
  induction values generalizing items others index with
  | nil => simp [itemParts]
  | cons value values ih =>
    cases h with
    | cons hhead hrest => exact .cons ⟨rfl, rfl, hhead⟩ (ih hrest _)
    | nil =>
      cases hother with
      | none => exact .nil
      | some hother => exact .cons ⟨rfl, rfl, hother⟩ (ih .nil _)

/-- Declared properties are checked against related nodes in step. -/
theorem Check.forall₂_propertyParts {properties : List (Property Node)}
    (h : List.Forall₂ R (properties.map (·.schema)) nodes) (members : Entries Json) :
    List.Forall₂ (Part.Along R) (propertyParts properties members)
      (propertyParts (properties.zipWith (fun property node => { property with schema := node }) nodes)
        members) := by
  induction properties generalizing nodes with
  | nil => cases h; exact .nil
  | cons property rest ih =>
    cases h with
    | cons hhead hrest =>
      have htail := ih hrest
      unfold propertyParts at htail ⊢
      rw [List.zipWith_cons_cons, List.filterMap_cons, List.filterMap_cons]
      cases Entries.find? property.name members with
      | none => exact htail
      | some value => exact .cons ⟨rfl, rfl, hhead⟩ htail

/-- The parts of a value are checked against related nodes in step where the nodes inside are related. -/
theorem Check.forall₂_parts_withChildren (h : List.Forall₂ R node.children nodes) (value : Json) :
    List.Forall₂ (Part.Along R) (parts node value) (parts (node.withChildren nodes) value) := by
  have hhead : ∀ {items : Option Node} {nodes : List Node}, List.Forall₂ R items.toList nodes →
      Option.Rel R items nodes.head? := by
    rintro (_ | items) nodes h
    · cases h; exact .none
    · cases h with
      | cons hhead _ => exact .some hhead
  cases node with
  | object docs properties count =>
    cases value with
    | object members => exact forall₂_propertyParts h members
    | _ => exact .nil
  | array docs items length =>
    cases value with
    | array values => exact forall₂_itemParts .nil (hhead h) 0 values
    | _ => exact .nil
  | tuple docs items additional length =>
    cases value with
    | array values =>
      have htake := List.forall₂_take items.length h
      have hdrop := List.forall₂_drop items.length h
      rw [Node.children, List.take_left' rfl] at htake
      rw [Node.children, List.drop_left' rfl] at hdrop
      exact forall₂_itemParts htake (hhead hdrop) 0 values
    | _ => exact .nil
  | _ => cases value <;> exact .nil

/-- The parts of a value are checked alike where the nodes that are put in place of others are. -/
theorem Check.partsTrace_withChildren {check check' : Node → Json → Trace}
    (hlength : nodes.length = node.children.length)
    (h : ∀ part ∈ parts node value, ∀ node', (part.node, node') ∈ node.children.zip nodes →
      check' node' part.value = check part.node part.value) :
    partsTrace check' (parts (node.withChildren nodes) value) =
      partsTrace check (parts node value) := by
  have hrows := forall₂_parts_withChildren
    (List.forall₂_iff_zip.mpr ⟨hlength.symm, fun hpair => hpair⟩) value
  refine (flatMap_eq_of_forall₂ ((forall₂_mem hrows).imp fun part part' ⟨hpart, _, halong⟩ => ?_)).symm
  rw [← halong.segment, ← halong.value, h part hpart _ halong.node]

end Rebuilt

/-- The trace reports a reference as circular. -/
def Trace.ReportsCircle (trace : Trace) : Prop :=
  ∃ violation ∈ trace.violations, ∃ target, violation.problem = .misfit (.circular target)

namespace Trace

variable {first second : Trace}

/-- The empty trace reports no circle. -/
@[simp] theorem not_reportsCircle_nil : ¬ ReportsCircle [] := by
  simp [ReportsCircle]

/-- Notes report no circle. -/
@[simp] theorem not_reportsCircle_notes {notes : List Note} :
    ¬ ReportsCircle (notes.map .note) := by
  simp [ReportsCircle]

/-- What is silenced reports nothing. -/
@[simp] theorem not_reportsCircle_silent {trace : Trace} : ¬ trace.silent.ReportsCircle := by
  simp [ReportsCircle]

/-- Traces in a row report a circle exactly if one of them does. -/
@[simp] theorem reportsCircle_append :
    (first ++ second).ReportsCircle ↔ first.ReportsCircle ∨ second.ReportsCircle := by
  simp [ReportsCircle, or_and_right, exists_or]

/-- A circle is reported under a segment as it was above it. -/
@[simp] theorem reportsCircle_under {segment : String} {trace : Trace} :
    (trace.under segment).ReportsCircle ↔ trace.ReportsCircle := by
  simp [ReportsCircle, Violation.under]

/-- A problem reports a circle exactly if it is met and is one. -/
@[simp] theorem reportsCircle_problemIf {condition : Bool} {found : Problem} :
    (problemIf condition found).ReportsCircle ↔
      condition = true ∧ ∃ target, found = .misfit (.circular target) := by
  cases condition <;> simp [ReportsCircle]

/-- A circular reference in traces in a row is reported by one of them. -/
theorem reportsCircle_flatMap {α : Type} {items : List α} {trace : α → Trace} :
    Trace.ReportsCircle (items.flatMap trace) ↔ ∃ item ∈ items, (trace item).ReportsCircle := by
  simp only [ReportsCircle, violations_flatMap, List.mem_flatMap]
  grind

end Trace

namespace Check

/-- A value of the wrong kind is no circle. -/
@[simp] theorem not_reportsCircle_wrongKind {asked : Asked} {value : Json} :
    ¬ (wrongKind asked value).ReportsCircle := by
  simp [wrongKind, Trace.ReportsCircle, Trace.violations, Event.violation?, Trace.problem]

/-- A count out of bounds is no circle. -/
@[simp] theorem not_reportsCircle_countTrace {count : Nat} {bounds : Bounds Int} :
    ¬ (countTrace count bounds).ReportsCircle := by
  simp [countTrace]

/-- A number out of bounds is no circle. -/
@[simp] theorem not_reportsCircle_numberTrace {rules : NumberRules} {value : Number} :
    ¬ (numberTrace rules value).ReportsCircle := by
  unfold numberTrace
  cases rules.range.least <;> cases rules.range.greatest <;> simp

/-- A text that breaks its rules is no circle. -/
@[simp] theorem not_reportsCircle_stringTrace {rules : StringRules} {text : String} :
    ¬ (stringTrace rules text).ReportsCircle := by
  have hpattern : ∀ pattern, ¬ (patternTrace pattern text).ReportsCircle := by
    intro pattern
    unfold patternTrace
    split <;> simp [Trace.ReportsCircle, Trace.violations, Event.violation?, Trace.problem]
  unfold stringTrace
  cases rules.pattern <;> simp [lengthTrace, hpattern]

/-- Nothing that a node asks of the value itself has to do with references. -/
theorem not_reportsCircle_ownTrace {strictness : Strictness} {node : Node} {value : Json} :
    ¬ (ownTrace strictness node value).ReportsCircle := by
  cases node with
  | object docs properties count =>
    cases value with
    | object members =>
      have hmissing : ¬ (missingTrace properties members).ReportsCircle := by
        simp [missingTrace, Trace.ReportsCircle, Trace.violations, Trace.problem,
          Event.violation?]
      cases hcounts : strictness.countsProperties <;> simp [ownTrace, hcounts, hmissing]
    | _ => simp [ownTrace]
  | integer docs rules =>
    cases value with
    | number value =>
      simp only [ownTrace]
      split <;> simp
    | _ => simp [ownTrace]
  | unknown => simp [ownTrace, Trace.ReportsCircle, Trace.violations, Event.violation?]
  | _ => cases value <;> simp [ownTrace]

/-- A combination only reports how many members accept. -/
theorem not_reportsCircle_combine {how : Combination} {members : List Member} :
    ¬ (combine how members).ReportsCircle := by
  cases how with
  | oneOf => simp [combine, oneTrace, Trace.reportsCircle_flatMap]
  | allOf => simp [combine, allTrace, Trace.reportsCircle_flatMap]
  | anyOf =>
    change ¬ (anyTrace members).ReportsCircle
    induction members with
    | nil => simp [anyTrace, Trace.ReportsCircle, Trace.violations, Trace.problem, Event.violation?]
    | cons member rest ih =>
      rw [anyTrace]
      split <;> simp [ih]

end Check

namespace Scope

/-- The trace of a check that follows every reference that is resolved, whatever was followed before. -/
inductive Follows (scope : Scope) : Node → Json → Trace → Prop
  | own {node : Node} {value : Json} {trace : Check.Part → Trace} (hown : node.handsOn = false)
      (hparts : ∀ part ∈ Check.parts node value, Follows scope part.node part.value (trace part)) :
      Follows scope node value (Check.ownTrace scope.strictness node value ++
        (Check.parts node value).flatMap fun part => (trace part).under part.segment)
  | unresolved {docs : Documentation} {target : String} {value : Json}
      (hbody : scope.definitions.resolve? target = none) :
      Follows scope (.reference docs target) value (Check.unresolvedTrace scope target)
  | followed {docs : Documentation} {target : String} {body : Node} {value : Json} {trace : Trace}
      (hbody : scope.definitions.resolve? target = some body) (htrace : Follows scope body value trace) :
      Follows scope (.reference docs target) value trace
  | noThunk {value : Json} : Follows scope (.deferred none) value [.fault .noThunk]
  | unforced {thunk : String} {value : Json} (hbody : Entries.find? thunk scope.thunks = none) :
      Follows scope (.deferred (some thunk)) value [.fault .noThunk]
  | forced {thunk : String} {body : Noted Node} {value : Json} {trace : Trace}
      (hbody : Entries.find? thunk scope.thunks = some body)
      (htrace : Follows scope body.value value trace) :
      Follows scope (.deferred (some thunk)) value (body.notes.map .note ++ trace)
  | combined {docs : Documentation} {how : Combination} {members : List Node} {value : Json}
      {trace : Node → Trace} (hmembers : ∀ member ∈ members, Follows scope member value (trace member)) :
      Follows scope (.combined docs how members) value
        (Check.combine how (members.map fun member () => trace member))

variable {scope : Scope} {node : Node} {value : Json} {trace : Trace}

/-- Where every reference is followed, none is circular. -/
theorem Follows.not_reportsCircle (h : scope.Follows node value trace) : ¬ trace.ReportsCircle := by
  induction h with
  | own _ _ ih =>
    rw [Trace.reportsCircle_append, Trace.reportsCircle_flatMap]
    rintro (hcircle | ⟨part, hpart, hcircle⟩)
    · exact Check.not_reportsCircle_ownTrace hcircle
    · exact ih part hpart (Trace.reportsCircle_under.mp hcircle)
  | unresolved =>
    rw [Check.unresolvedTrace]
    cases scope.strictness.unresolvedFails <;>
      simp [Trace.ReportsCircle, Trace.violations, Event.violation?, Trace.problem]
  | followed _ _ ih => exact ih
  | noThunk | unforced => simp [Trace.ReportsCircle, Trace.violations, Event.violation?]
  | forced _ _ ih =>
    rw [Trace.reportsCircle_append]
    exact not_or_intro Trace.not_reportsCircle_notes ih
  | combined => exact Check.not_reportsCircle_combine

/-- The recursion without a guard ends with the trace that has every reference followed. -/
theorem Follows.ends (h : scope.Follows node value trace) (path : Check.Path) (guard : Check.Guard) :
    scope.Ends false ⟨guard, path, node, value⟩ trace := by
  induction h generalizing path with
  | own hown _ ih =>
    exact .of_calls _ (fun part hpart => ih part hpart _) fun _ => step_own hown
  | unresolved hbody => exact .of_step fun _ => step_unresolved hbody
  | followed hbody _ ih => exact .of_call (ih path) fun _ => step_unguarded hbody
  | noThunk => exact .of_step fun _ => step_noThunk
  | unforced hbody => exact .of_step fun _ => step_unforced hbody
  | forced hbody _ ih => exact .of_call (ih path) fun _ => step_forced hbody
  | combined _ ih =>
    exact .of_calls _ (fun member hmember => ih member hmember path) fun _ => step_combined

end Scope

namespace Schema

variable {schema schema' : Schema} {thunks : Thunks} {strictness : Strictness}

/-- A reference is resolved to a body with references replaced, or to none as before. -/
theorem Inlines.rel_resolve? (h : schema.Inlines schema') (target : String) :
    Option.Rel (Node.Inlines schema.definitions) (schema.definitions.resolve? target)
      (schema'.definitions.resolve? target) :=
  Entries.rel_find? h.definitions _

/-- The nodes of a schema with references replaced are such nodes of the schema. -/
theorem Inlines.exists_contains (h : schema.Inlines schema') {node' : Node}
    (hnode : schema'.Contains thunks node') :
    ∃ node, schema.Contains thunks node ∧ node.Inlines schema.definitions node' := by
  induction hnode with
  | root => exact ⟨_, .root, h.root⟩
  | @definition name body' hmem =>
    obtain ⟨i, hi, hentry⟩ := List.mem_iff_getElem.mp hmem
    have hlength := h.definitions.length_eq
    obtain ⟨-, hbody⟩ := h.definitions.get (hlength ▸ hi) hi
    exact ⟨_, .definition (List.getElem_mem (hlength ▸ hi)), by simpa [hentry] using hbody⟩
  | child _ hchild ih =>
    obtain ⟨node, hnode, hinlines⟩ := ih
    exact hinlines.exists_child hnode hchild
  | forced _ hbody ih =>
    obtain ⟨node, hnode, hinlines⟩ := ih
    exact ⟨_, .forced (hinlines.contains_deferred hnode) hbody, .refl _⟩

/-- Where a link leads with references replaced, it leads in some steps. -/
theorem Inlines.transGen (h : schema.Inlines schema') {first next : Link}
    (hleads : Link.Leads schema'.definitions thunks first next) :
    Relation.TransGen (Link.Leads schema.definitions thunks) first next := by
  obtain ⟨body', hbody', hnext⟩ := hleads
  cases first with
  | reference target =>
    have hrel := h.rel_resolve? target
    rw [show schema'.definitions.resolve? target = some body' from hbody'] at hrel
    cases hbody : schema.definitions.resolve? target with
    | none => simp [hbody] at hrel
    | some body =>
      have hinlines : body.Inlines schema.definitions body' := by simpa [hbody] using hrel
      have hlink : (Link.reference target).body? schema.definitions thunks = some body := hbody
      exact (hinlines.reaches hnext).transGen hlink
  | deferred thunk => exact .single ⟨body', hbody', hnext⟩

/-- A contractive schema with references replaced is contractive. -/
theorem Inlines.contractive (h : schema.Inlines schema') (hschema : schema.Contractive thunks) :
    schema'.Contractive thunks := by
  intro node' hnode' link hlink hcycle
  obtain ⟨node, hnode, hinlines⟩ := h.exists_contains hnode'
  obtain ⟨holder, hholder, hmem⟩ := hnode.reaches (hinlines.reaches hlink)
  refine hschema holder hholder link hmem ?_
  have hpath : ∀ last, Relation.TransGen (Link.Leads schema'.definitions thunks) link last →
      Relation.TransGen (Link.Leads schema.definitions thunks) link last := by
    intro last hpath
    induction hpath with
    | single hleads => exact h.transGen hleads
    | tail _ hleads ih => exact ih.trans (h.transGen hleads)
  exact hpath link hcycle

/-- A reference with references replaced in its body is checked as before where the bodies are. -/
theorem Inlines.check_reference (h : schema.Inlines schema') (hschema : schema.Contractive thunks)
    {docs : Documentation} {target : String} {value : Json}
    (hnode : schema.Contains thunks (.reference docs target))
    (hnode' : schema'.Contains thunks (.reference docs target))
    (hbodies : ∀ body, schema.definitions.resolve? target = some body → ∀ body',
      body.Inlines schema.definitions body' → schema'.Contains thunks body' →
        (schema'.scope thunks strictness).check body' value =
          (schema.scope thunks strictness).check body value) :
    (schema'.scope thunks strictness).check (.reference docs target) value =
      (schema.scope thunks strictness).check (.reference docs target) value := by
  have hrel := h.rel_resolve? target
  cases hbody : schema.definitions.resolve? target with
  | none =>
    have hnone : schema'.definitions.resolve? target = none := by
      cases hbody' : schema'.definitions.resolve? target <;> simp_all
    have hcount : schema'.definitions.length = schema.definitions.length :=
      h.definitions.length_eq.symm
    rw [Scope.check, Scope.check, Scope.checkAt_unresolved hnone, Scope.checkAt_unresolved hbody]
    rw [Check.unresolvedTrace, Check.unresolvedTrace, scope_definitions, scope_definitions, hcount]
    rfl
  | some body =>
    obtain ⟨body', hbody', hinlines⟩ : ∃ body', schema'.definitions.resolve? target = some body' ∧
        body.Inlines schema.definitions body' := by
      cases hbody' : schema'.definitions.resolve? target <;> simp_all
    rw [Schema.check_reference hschema hnode hbody,
      Schema.check_reference (h.contractive hschema) hnode' hbody']
    exact hbodies body hbody body' hinlines (.definition (Entries.mem_of_find? hbody'))

/-- A deferred node is checked as before where its body is. -/
theorem Inlines.check_deferred (h : schema.Inlines schema') (hschema : schema.Contractive thunks)
    {thunk : Option String} {value : Json} (hnode : schema.Contains thunks (.deferred thunk))
    (hnode' : schema'.Contains thunks (.deferred thunk))
    (hbodies : ∀ name body, thunk = some name → Entries.find? name thunks = some body →
      (schema'.scope thunks strictness).check body.value value =
        (schema.scope thunks strictness).check body.value value) :
    (schema'.scope thunks strictness).check (.deferred thunk) value =
      (schema.scope thunks strictness).check (.deferred thunk) value := by
  cases thunk with
  | none => rw [Scope.check, Scope.check, Scope.checkAt_noThunk, Scope.checkAt_noThunk]
  | some name =>
    cases hbody : Entries.find? name thunks with
    | none =>
      rw [Scope.check, Scope.check, scope_thunks, scope_thunks, Scope.checkAt_unforced hbody,
        Scope.checkAt_unforced hbody]
      rfl
    | some body =>
      rw [Schema.check_deferred (h.contractive hschema) hnode' hbody,
        Schema.check_deferred hschema hnode hbody, hbodies name body rfl hbody]

/-- A combination is checked as before where its members are, one by one. -/
theorem check_combined_zip {docs : Documentation} {how : Combination} {members nodes : List Node}
    {value : Json} (hlength : nodes.length = members.length)
    (h : ∀ pair ∈ members.zip nodes, (schema'.scope thunks strictness).check pair.2 value =
      (schema.scope thunks strictness).check pair.1 value) :
    (schema'.scope thunks strictness).check (.combined docs how nodes) value =
      (schema.scope thunks strictness).check (.combined docs how members) value := by
  rw [Scope.check_combined, Scope.check_combined]
  refine congrArg (Check.combine how) (List.ext_getElem (by simpa using hlength) fun i hi hi' => ?_)
  rw [List.length_map] at hi hi'
  have hpair : (members[i], nodes[i]) ∈ members.zip nodes :=
    List.mem_iff_getElem.mpr ⟨i, by simpa using ⟨hi', hi⟩, by simp⟩
  simpa using funext fun _ => h _ hpair

/-- A node with references replaced is checked as before. -/
theorem Inlines.check_eq (h : schema.Inlines schema') (hschema : schema.Contractive thunks)
    {node node' : Node} (hnode : schema.Contains thunks node)
    (hinlines : node.Inlines schema.definitions node') (hnode' : schema'.Contains thunks node')
    (value : Json) :
    (schema'.scope thunks strictness).check node' value =
      (schema.scope thunks strictness).check node value := by
  refine check_induction hschema (motive := fun node value => ∀ node',
      node.Inlines schema.definitions node' → schema'.Contains thunks node' →
        (schema'.scope thunks strictness).check node' value =
          (schema.scope thunks strictness).check node value) ?_ hnode value node' hinlines hnode'
  clear hnode hinlines hnode' node node' value
  intro node value hnode ih node' hinlines hnode'
  cases hinlines with
  | followed hbody hbodyInlines =>
    rw [Schema.check_reference hschema hnode hbody]
    exact ih _ _ (.followed hbody) node' hbodyInlines hnode'
  | @inside _ nodes hlength hinside =>
    have hchild : ∀ child ∈ nodes, schema'.Contains thunks child := fun child hmem =>
      .child hnode' (by rwa [Node.children_withChildren hlength])
    by_cases hown : node.handsOn = false
    · have hparts := @Check.partsTrace_withChildren node nodes value
        (schema.scope thunks strictness).check (schema'.scope thunks strictness).check hlength
        fun part hpart child hpair => ih _ _ (.part hpart) child (hinside _ hpair)
          (hchild child (List.of_mem_zip hpair).2)
      rw [Scope.check_own hown, Scope.check_own (by simpa using hown)]
      simp only [scope_strictness]
      rw [Check.ownTrace_withChildren hlength]
      exact congrArg _ hparts
    · cases node with
      | reference docs target =>
        exact h.check_reference hschema hnode hnode' fun body hbody =>
          ih _ _ (.followed hbody)
      | deferred thunk =>
        refine h.check_deferred hschema hnode hnode' fun name body hname hbody => ?_
        subst hname
        exact ih _ _ (.forced hbody) _ (.refl _) (hnode'.forced hbody)
      | combined docs how members =>
        exact check_combined_zip (by simpa [Node.children] using hlength) fun pair hpair =>
          ih _ _ (.member (List.of_mem_zip hpair).1) _ (hinside _ hpair)
            (hchild _ (List.of_mem_zip hpair).2)
      | _ => exact absurd rfl hown

/-- The check of a contractive schema follows every reference that is resolved. -/
theorem follows_check (hschema : schema.Contractive thunks) {node : Node}
    (hnode : schema.Contains thunks node) (value : Json) :
    (schema.scope thunks strictness).Follows node value
      ((schema.scope thunks strictness).check node value) := by
  refine check_induction hschema (motive := fun node value =>
    (schema.scope thunks strictness).Follows node value
      ((schema.scope thunks strictness).check node value)) ?_ hnode value
  intro node value hnode ih
  by_cases hown : node.handsOn = false
  · rw [Scope.check_own hown]
    exact .own hown fun part hpart => ih _ _ (.part hpart)
  · cases node with
    | reference docs target =>
      cases hbody : schema.definitions.resolve? target with
      | none =>
        rw [Scope.check, Scope.checkAt_unresolved hbody]
        exact .unresolved hbody
      | some body =>
        rw [Schema.check_reference hschema hnode hbody]
        exact .followed hbody (ih _ _ (.followed hbody))
    | deferred thunk =>
      cases thunk with
      | none =>
        rw [Scope.check, Scope.checkAt_noThunk]
        exact .noThunk
      | some name =>
        cases hbody : Entries.find? name thunks with
        | none =>
          rw [Scope.check, scope_thunks, Scope.checkAt_unforced hbody, if_neg (by simp [hbody])]
          exact .unforced hbody
        | some body =>
          rw [Schema.check_deferred hschema hnode hbody]
          exact .forced hbody (ih _ _ (.forced hbody))
    | combined docs how members =>
      rw [Scope.check_combined]
      exact .combined fun member hmember => ih _ _ (.member hmember)
    | _ => exact absurd rfl hown

/-- In a contractive schema no reference is circular, the recursion without a guard ends with the trace
of the check, and the check of any schema that references are replaced in gives this trace as well. -/
theorem check_inlined (schema : Schema) (thunks : Thunks) (strictness : Strictness)
    (hschema : schema.Contractive thunks) (value : Json) :
    ¬ (schema.check thunks strictness value).ReportsCircle ∧
      (schema.scope thunks strictness).Ends false ⟨[], [], schema.root, value⟩
        (schema.check thunks strictness value) ∧
      ∀ schema', schema.Inlines schema' →
        schema'.check thunks strictness value = schema.check thunks strictness value :=
  ⟨(follows_check hschema .root value).not_reportsCircle, (follows_check hschema .root value).ends [] [],
    fun _ h => h.check_eq hschema .root h.root .root value⟩

/-- A tree with a label, and a node for each of its children. -/
def treeOf (child : Node) : Node :=
  .object {} [⟨"label", .string {} { pattern := some "^a" }, true⟩,
    ⟨"children", .array {} (some child) {}, false⟩] {}

/-- The trees of labels with a tree in place of the reference of the root, and in place of the one in
the definition. -/
def grownTrees : Schema where
  root := treeOf (.reference {} "#/definitions/tree")
  definitions := [("tree", treeOf (treeOf (.reference {} "#/definitions/tree")))]

/-- A tree with a child whose label the pattern rules out. -/
def mislabelled : Json :=
  .object [("label", .string "a"), ("children", .array [.object [("label", .string "1")]])]

/-- The trees report no circle, and grown by themselves they are checked the same. -/
theorem check_inlined_trees : trees.Contractive [] ∧
    ¬ (trees.check [] {} mislabelled).ReportsCircle ∧
    (trees.scope [] {}).Ends false ⟨[], [], trees.root, mislabelled⟩
      (trees.check [] {} mislabelled) ∧
    trees.Inlines grownTrees ∧
    grownTrees.check [] {} mislabelled = trees.check [] {} mislabelled := by
  have hcontractive : trees.Contractive [] :=
    contractive_of_links_eq_nil (by simp [trees, Node.links]) (by simp)
  have hroot : Node.Inlines trees.definitions (.reference {} "#/definitions/tree")
      (treeOf (.reference {} "#/definitions/tree")) := .followed rfl (.refl _)
  have harray : Node.Inlines trees.definitions
      (.array {} (some (.reference {} "#/definitions/tree")) {})
      (.array {} (some (treeOf (.reference {} "#/definitions/tree"))) {}) :=
    @Node.Inlines.inside _ _ [_] rfl (by simpa [Node.children] using hroot)
  have hbody : Node.Inlines trees.definitions (treeOf (.reference {} "#/definitions/tree"))
      (treeOf (treeOf (.reference {} "#/definitions/tree"))) :=
    @Node.Inlines.inside _ (treeOf _) [_, _] rfl
      (by simpa [treeOf, Node.children] using ⟨Node.Inlines.refl _, harray⟩)
  have hgrown : trees.Inlines grownTrees := ⟨hroot, .cons ⟨rfl, hbody⟩ .nil⟩
  obtain ⟨hcircle, hrun, hinlined⟩ := check_inlined trees [] {} hcontractive mislabelled
  exact ⟨hcontractive, hcircle, hrun, hgrown, hinlined grownTrees hgrown⟩

end Schema

end JsonSchema
