import JsonSchema.Proofs.Document.Recomposed
import JsonSchema.Proofs.Document.Rendering
import JsonSchema.Proofs.Validation.Place

/-!
# The meaning of a written schema

A written schema is read as one whose references to lifted bodies stand for deferred nodes. Both are
checked in step: a deferred node is forced where its reference is followed. Every cycle of references
in what is read comes from a cycle in the schema, so the account of references that were followed at
one place refuses nothing there, as forcing does not. Checks of the two schemas differ in their notes
only.
-/

namespace JsonSchema

namespace Definitions

/-- A reference string that is made of a name speaks of that name. -/
theorem nameOf_referenceTo (name : String) : nameOf (referenceTo name) = name := by
  simp [nameOf, referenceTo, paths, path, List.isPrefixOf?]

end Definitions

namespace Document

/-- The nodes of what is read: nodes of documents that represent nodes of the schema, and a root that
is kept verbatim although it carries definitions. -/
inductive Stands (schema : Schema) (thunks : Thunks) (named : String → String → Prop) : Node → Prop
  | read {node : Node} {document : Json} (hnode : schema.Contains thunks node)
      (h : Represents thunks named node document) : Stands schema thunks named (parse document).node
  | verbatim (document : Json) : Stands schema thunks named (.verbatim document)
  | wrapped (document : Json) : Stands schema thunks named (.combined {} .allOf [.verbatim document])

section Standing

variable {schema : Schema} {thunks : Thunks} {named : String → String → Prop}
  (hnodes : ∀ node, schema.Contains thunks node → node.Writable thunks)

include hnodes

/-- The nodes inside a node that is read are read from documents of nodes inside the node. -/
theorem stands_children {node child : Node} {document : Json}
    (hnode : schema.Contains thunks node) (h : Represents thunks named node document)
    (hchild : child ∈ (parse document).node.children) : Stands schema thunks named child := by
  induction h with
  | @composed node parts hcomposes hlength hparts ih =>
    have hwritable := hnodes node hnode
    rw [parse_compose hcomposes hwritable.typed (fits_of_represents hwritable hlength hparts),
      children_recompose hcomposes hlength] at hchild
    obtain ⟨part, hpart, rfl⟩ := List.mem_map.mp hchild
    obtain ⟨other, hother, hpair⟩ := exists_mem_zip hlength (mem_of_mem_readable hpart)
    exact .read (.child hnode hother) (hparts _ hpair)
  | verbatim document =>
    rw [(parse_verbatim ((hnodes _ hnode).verbatim document rfl)).1] at hchild
    cases hchild
  | cut =>
    rw [parse_lazyReference] at hchild
    cases hchild
  | inlined hbody _ ih => exact ih (.forced hnode hbody) hchild

/-- Every node of what is read stands for something that was written. -/
theorem stands_of_contains {root : Json} {definitions : Entries Json} {thunks' : Thunks} {node : Node}
    (hrendering : Rendering schema thunks named root definitions)
    (h : (read (attach root definitions)).value.Contains thunks' node) :
    Stands schema thunks named node := by
  induction h with
  | root =>
    rcases root_read_attach root definitions with hroot | ⟨-, ⟨document, hroot⟩ | hroot⟩ <;>
      rw [hroot]
    · exact .read .root hrendering.root
    · exact .verbatim document
    · exact .wrapped root
  | @definition name body hmem =>
    rw [definitions_read hrendering (quiet_of_writable hnodes)] at hmem
    obtain ⟨⟨_, document⟩, hentry, heq⟩ := List.mem_map.mp hmem
    cases heq
    obtain ⟨other, hother, hrepresents⟩ :=
      hrendering.represents (Entries.find?_of_mem hrendering.names hentry)
    exact .read hother hrepresents
  | child _ hchild ih =>
    cases ih with
    | read hnode h => exact stands_children hnodes hnode h hchild
    | verbatim document => cases hchild
    | wrapped document =>
      obtain rfl := List.mem_singleton.mp hchild
      exact .verbatim document
  | @forced thunk body _ hbody ih =>
    generalize hdeferred : Node.deferred (some thunk) = node at ih
    cases ih with
    | @read _ document _ _ =>
      rcases node_parse document with hnode | hnode
      · exact nomatch hdeferred.trans hnode
      · rw [← hdeferred] at hnode
        cases hnode
    | verbatim => cases hdeferred
    | wrapped => cases hdeferred

/-- A document that is kept verbatim is written for a node that asks nothing. -/
theorem bare_check_eq_nil (hschema : schema.Contractive thunks) {strictness : Strictness}
    {node : Node} {document kept : Json} (hnode : schema.Contains thunks node)
    (h : Represents thunks named node document) (hkept : (parse document).node = .verbatim kept)
    (value : Json) : ((schema.scope thunks strictness).check node value).bare = [] := by
  induction h with
  | @composed node parts hcomposes hlength hparts _ =>
    have hwritable := hnodes node hnode
    rw [parse_compose hcomposes hwritable.typed (fits_of_represents hwritable hlength hparts)]
      at hkept
    cases node <;> simp [recompose, Node.composes] at hkept hcomposes
  | verbatim document => rw [Scope.check_own rfl]; rfl
  | cut =>
    rw [parse_lazyReference] at hkept
    cases hkept
  | inlined hbody _ ih =>
    rw [Schema.check_deferred hschema hnode hbody, Trace.bare_append, Trace.bare_notes]
    exact ih (.forced hnode hbody) hkept

end Standing

/-- The link of the schema that a link of what is read stands for. -/
inductive Renames (named : String → String → Prop) : Link → Link → Prop
  | kept {target : String} (h : ∀ thunk, ¬ named thunk (Definitions.nameOf target)) :
      Renames named (.reference target) (.reference target)
  | renamed {thunk target : String} (h : named thunk (Definitions.nameOf target)) :
      Renames named (.reference target) (.deferred thunk)

section Linking

variable {schema : Schema} {thunks : Thunks} {named : String → String → Prop} {root : Json}
  {definitions : Entries Json} (hrendering : Rendering schema thunks named root definitions)
  (hnodes : ∀ node, schema.Contains thunks node → node.Writable thunks)
  (htargets : ∀ docs target, schema.Contains thunks (.reference docs target) →
    schema.definitions.resolve? target = none → ∀ k, Definitions.nameOf target ≠ lazyName k)

include hrendering

omit hnodes htargets in
/-- A link stands for one link only. -/
theorem Renames.unique {link first second : Link} (h : Renames named link first)
    (h' : Renames named link second) : first = second := by
  cases h with
  | kept hkept =>
    cases h' with
    | kept => rfl
    | renamed hrenamed => exact absurd hrenamed (hkept _)
  | renamed hrenamed =>
    cases h' with
    | kept hkept => exact absurd hrenamed (hkept _)
    | renamed hrenamed' => rw [hrendering.distinct _ _ _ hrenamed hrenamed']

include htargets

/-- A reference of the schema is not the name of a lifted body. -/
theorem not_named {docs : Documentation} {target : String}
    (hnode : schema.Contains thunks (.reference docs target)) (thunk : String) :
    ¬ named thunk (Definitions.nameOf target) := by
  intro h
  obtain ⟨hnone, k, hk⟩ := hrendering.fresh _ _ h
  exact htargets docs target hnode hnone k hk

include hnodes

/-- A link of what is read stands for one that the node reaches. -/
theorem reaches_of_represents {node : Node} {document : Json} {link : Link}
    (hnode : schema.Contains thunks node) (h : Represents thunks named node document)
    (hlink : link ∈ (parse document).node.links) :
    ∃ other, node.Reaches schema.definitions thunks other ∧ Renames named link other := by
  induction h with
  | @composed node parts hcomposes hlength hparts ih =>
    have hwritable := hnodes node hnode
    rw [parse_compose hcomposes hwritable.typed (fits_of_represents hwritable hlength hparts)]
      at hlink
    cases node with
    | reference docs target =>
      obtain rfl := List.mem_singleton.mp hlink
      exact ⟨_, ⟨_, List.mem_singleton_self _, .refl⟩,
        .kept (not_named hrendering htargets hnode)⟩
    | combined docs how members =>
      obtain ⟨member, hmember, hlink⟩ := mem_listLinks.mp hlink
      obtain ⟨part, hpart, rfl⟩ := List.mem_map.mp hmember
      obtain ⟨child, hchild, hpair⟩ := exists_mem_zip hlength hpart
      obtain ⟨other, hreaches, hrenames⟩ := ih _ hpair (.child hnode hchild) hlink
      exact ⟨other, hreaches.member hchild, hrenames⟩
    | deferred thunk => simp [Node.composes] at hcomposes
    | verbatim document => simp [Node.composes] at hcomposes
    | unknown => simp [Node.composes] at hcomposes
    | _ => simp [recompose, Node.links] at hlink
  | verbatim document =>
    rw [(parse_verbatim ((hnodes _ hnode).verbatim document rfl)).1] at hlink
    simp [Node.links] at hlink
  | @cut thunk name hnamed =>
    rw [parse_lazyReference] at hlink
    obtain rfl := List.mem_singleton.mp hlink
    refine ⟨.deferred thunk, ⟨_, List.mem_singleton_self _, .refl⟩, .renamed ?_⟩
    rwa [Definitions.nameOf_referenceTo]
  | @inlined thunk body document hbody _ ih =>
    obtain ⟨other, hreaches, hrenames⟩ := ih (.forced hnode hbody) hlink
    refine ⟨other, hreaches.through (List.mem_singleton_self (Link.deferred thunk)) ?_, hrenames⟩
    simp [Link.body?, hbody]

/-- Where a link of what is read leads, the link that it stands for leads in some steps. -/
theorem transGen_of_leads {thunks' : Thunks} {first link other : Link}
    (h : Link.Leads (read (attach root definitions)).value.definitions thunks' first link)
    (hrenames : Renames named first other) :
    ∃ last, Relation.TransGen (Link.Leads schema.definitions thunks) other last ∧
      Renames named link last := by
  obtain ⟨body, hbody, hlink⟩ := h
  cases hrenames with
  | @kept target hkept =>
    rw [Link.body?, resolve?_read hrendering (quiet_of_writable hnodes)] at hbody
    obtain ⟨document, hdocument, rfl⟩ := Option.map_eq_some_iff.mp hbody
    rcases hrendering.complete _ _ hdocument with ⟨body, hbody⟩ | ⟨thunk, hnamed⟩
    · obtain ⟨written, hwritten, hrepresents⟩ := hrendering.own _ body hbody
      obtain rfl := Option.some_inj.mp (hdocument.symm.trans hwritten)
      obtain ⟨last, hreaches, hlast⟩ := reaches_of_represents hrendering hnodes htargets
        (.definition (Entries.mem_of_find? hbody)) hrepresents hlink
      have hother : (Link.reference target).body? schema.definitions thunks = some body := hbody
      exact ⟨last, hreaches.transGen hother, hlast⟩
    · exact absurd hnamed (hkept thunk)
  | @renamed thunk target hnamed =>
    rw [Link.body?, resolve?_read hrendering (quiet_of_writable hnodes)] at hbody
    obtain ⟨document, hdocument, rfl⟩ := Option.map_eq_some_iff.mp hbody
    obtain ⟨body, written, hbody, hcontains, hwritten, hrepresents⟩ :=
      hrendering.lifted thunk _ hnamed
    obtain rfl := Option.some_inj.mp (hdocument.symm.trans hwritten)
    obtain ⟨last, hreaches, hlast⟩ :=
      reaches_of_represents hrendering hnodes htargets hcontains hrepresents hlink
    have hother : (Link.deferred thunk).body? schema.definitions thunks = some body.value := by
      simp [Link.body?, hbody]
    exact ⟨last, hreaches.transGen hother, hlast⟩

/-- What is read of a contractive schema is contractive. -/
theorem contractive_read (hschema : schema.Contractive thunks) (thunks' : Thunks) :
    (read (attach root definitions)).value.Contractive thunks' := by
  intro node hnode link hlink hcycle
  have hstands := stands_of_contains hnodes hrendering hnode
  cases hstands with
  | @read original document horiginal h =>
    obtain ⟨other, hreaches, hother⟩ :=
      reaches_of_represents hrendering hnodes htargets horiginal h hlink
    obtain ⟨holder, hholder, hmem⟩ := horiginal.reaches hreaches
    suffices hpath : ∀ last, Relation.TransGen (Link.Leads
        (read (attach root definitions)).value.definitions thunks') link last →
        ∃ last', Relation.TransGen (Link.Leads schema.definitions thunks) other last' ∧
          Renames named last last' by
      obtain ⟨last, hpath, hlast⟩ := hpath link hcycle
      obtain rfl := hother.unique hrendering hlast
      exact hschema holder hholder other hmem hpath
    intro last hpath
    induction hpath with
    | single hleads => exact transGen_of_leads hrendering hnodes htargets hleads hother
    | tail _ hleads ih =>
      obtain ⟨between, hbetween, hrenames⟩ := ih
      obtain ⟨last', hlast, hrenames'⟩ :=
        transGen_of_leads hrendering hnodes htargets hleads hrenames
      exact ⟨last', hbetween.trans hlast, hrenames'⟩
  | verbatim document => simp [Node.links] at hlink
  | wrapped document => simp [Node.links, listLinks] at hlink

/-- A reference that the schema does not resolve is not resolved in what is read either. -/
theorem resolve?_read_eq_none {docs : Documentation} {target : String}
    (hnode : schema.Contains thunks (.reference docs target))
    (h : schema.definitions.resolve? target = none) :
    (read (attach root definitions)).value.definitions.resolve? target = none := by
  rw [resolve?_read hrendering (quiet_of_writable hnodes), Option.map_eq_none_iff]
  cases hfound : Entries.find? (Definitions.nameOf target) definitions with
  | none => rfl
  | some document =>
    rcases hrendering.complete _ _ hfound with ⟨body, hbody⟩ | ⟨thunk, hnamed⟩
    · exact absurd (h.symm.trans hbody) (by simp)
    · exact absurd hnamed (not_named hrendering htargets hnode thunk)

omit hrendering htargets in
/-- A composed node that does not hand the value on and what is read of its document are checked
alike, but for notes, where the parts of the value are. -/
theorem bare_check_composed_own (hschema : schema.Contractive thunks) {thunks' : Thunks}
    {strictness : Strictness} {node : Node} {parts : List Json} {value : Json}
    (hnode : schema.Contains thunks node) (hcomposes : node.composes)
    (hlength : parts.length = node.children.length)
    (hparts : ∀ pair ∈ node.children.zip parts, Represents thunks named pair.1 pair.2)
    (hown : node.handsOn = false)
    (h : ∀ part ∈ Check.parts node value, ∀ document ∈ readable node parts,
      (part.node, document) ∈ node.children.zip parts →
        (((read (attach root definitions)).value.scope thunks' strictness).check
            (parse document).node part.value).bare =
          ((schema.scope thunks strictness).check part.node part.value).bare) :
    (((read (attach root definitions)).value.scope thunks' strictness).check
        (recompose node ((readable node parts).map fun part => (parse part).node)) value).bare =
      ((schema.scope thunks strictness).check node value).bare := by
  have hown' : (recompose node ((readable node parts).map fun part =>
      (parse part).node)).handsOn = false := by
    cases node <;> first | rfl | cases hown
  have hnull : (parse .null).node = .verbatim .null := by rw [parse_of_not_object (by simp)]
  have hparts' := partsTrace_recompose
    (fun node value => ((schema.scope thunks strictness).check node value).bare)
    (fun node value => (((read (attach root definitions)).value.scope thunks'
      strictness).check node value).bare)
    (fun part => (parse part).node) hcomposes hlength h
    fun part hpart hpair => bare_check_eq_nil hnodes hschema
      (.child hnode (Check.node_mem_children_of_mem_parts hpart)) (hparts _ hpair) hnull _
  rw [Scope.check_own hown, Scope.check_own hown', Trace.bare_append, Trace.bare_append,
    Trace.bare_flatMap, Trace.bare_flatMap]
  simp only [Trace.bare_under, Schema.scope_strictness]
  rw [ownTrace_recompose hlength]
  exact congrArg _ hparts'

/-- A reference is checked alike in what is read, but for notes, where its body is. -/
theorem bare_check_composed_reference (hschema : schema.Contractive thunks) {thunks' : Thunks}
    {strictness : Strictness} {docs : Documentation} {target : String} {value : Json}
    (hnode : schema.Contains thunks (.reference docs target))
    (hread : (read (attach root definitions)).value.Contains thunks' (.reference docs target))
    (h : ∀ body, schema.definitions.resolve? target = some body →
      ∀ document, Represents thunks named body document →
        (read (attach root definitions)).value.Contains thunks' (parse document).node →
          (((read (attach root definitions)).value.scope thunks' strictness).check
              (parse document).node value).bare =
            ((schema.scope thunks strictness).check body value).bare) :
    (((read (attach root definitions)).value.scope thunks' strictness).check
        (.reference docs target) value).bare =
      ((schema.scope thunks strictness).check (.reference docs target) value).bare := by
  cases hbody : schema.definitions.resolve? target with
  | none =>
    have hnone := resolve?_read_eq_none hrendering hnodes htargets hnode hbody
    rw [Scope.check, Scope.check, Scope.checkAt_unresolved hnone, Scope.checkAt_unresolved hbody]
    cases hfails : strictness.unresolvedFails <;>
      simp [Check.unresolvedTrace, hfails, Trace.bare, Event.note?]
  | some body =>
    obtain ⟨document, hdocument, hrepresents⟩ := hrendering.own _ body hbody
    have hfound : (read (attach root definitions)).value.definitions.resolve? target =
        some (parse document).node := by
      rw [resolve?_read hrendering (quiet_of_writable hnodes), hdocument]
      rfl
    have hagain := contractive_read hrendering hnodes htargets hschema thunks'
    rw [Schema.check_reference hschema hnode hbody, Schema.check_reference hagain hread hfound]
    exact h body hbody document hrepresents (.definition (Entries.mem_of_find? hfound))

/-- A composed node and what is read of its document are checked alike, but for notes, where all that
their checks come to next are. -/
theorem bare_check_composed (hschema : schema.Contractive thunks) {thunks' : Thunks}
    {strictness : Strictness} {node : Node} {parts : List Json} {value : Json}
    (hnode : schema.Contains thunks node) (hcomposes : node.composes)
    (hlength : parts.length = node.children.length)
    (hparts : ∀ pair ∈ node.children.zip parts, Represents thunks named pair.1 pair.2)
    (hread : (read (attach root definitions)).value.Contains thunks'
      (recompose node ((readable node parts).map fun part => (parse part).node)))
    (ih : ∀ node' value', Check.Next schema.definitions thunks node value node' value' →
      ∀ document, Represents thunks named node' document →
        (read (attach root definitions)).value.Contains thunks' (parse document).node →
          (((read (attach root definitions)).value.scope thunks' strictness).check
              (parse document).node value').bare =
            ((schema.scope thunks strictness).check node' value').bare) :
    (((read (attach root definitions)).value.scope thunks' strictness).check
        (recompose node ((readable node parts).map fun part => (parse part).node)) value).bare =
      ((schema.scope thunks strictness).check node value).bare := by
  have hchild : ∀ document ∈ readable node parts,
      (read (attach root definitions)).value.Contains thunks' (parse document).node :=
    fun document hmem => hread.child (by
      rw [children_recompose hcomposes hlength]
      exact List.mem_map.mpr ⟨document, hmem, rfl⟩)
  by_cases hown : node.handsOn = false
  · exact bare_check_composed_own hnodes hschema hnode hcomposes hlength hparts hown
      fun part (hpart : part ∈ Check.parts node value) document hmem hpair =>
        ih _ _ (.part hpart) document (hparts _ hpair) (hchild document hmem)
  · cases node with
    | reference docs target =>
      obtain rfl := List.eq_nil_of_length_eq_zero hlength
      exact bare_check_composed_reference hrendering hnodes htargets hschema hnode hread
        fun body hbody => ih _ _ (.followed hbody)
    | combined docs how members =>
      change (Scope.check _ (.combined docs how (parts.map fun part => (parse part).node))
        value).bare = _
      rw [Scope.check_combined, Scope.check_combined, Check.bare_combine, Check.bare_combine,
        List.map_map, List.map_map, List.map_map]
      refine congrArg (Check.combine how)
        (map_eq_map_of_zip hlength fun pair hpair => funext fun _ => ?_)
      have hmem := List.of_mem_zip hpair
      exact ih _ _ (.member hmem.1) _ (hparts _ hpair) (hchild _ hmem.2)
    | deferred thunk => simp [Node.composes] at hcomposes
    | _ => exact absurd rfl hown

/-- A node and what is read of its document are checked alike, but for notes. -/
theorem bare_check_read (hschema : schema.Contractive thunks) {thunks' : Thunks}
    {strictness : Strictness} {node : Node} {document : Json} (hnode : schema.Contains thunks node)
    (h : Represents thunks named node document)
    (hread : (read (attach root definitions)).value.Contains thunks' (parse document).node)
    (value : Json) :
    (((read (attach root definitions)).value.scope thunks' strictness).check
        (parse document).node value).bare =
      ((schema.scope thunks strictness).check node value).bare := by
  have hagain := contractive_read hrendering hnodes htargets hschema thunks'
  have hresolve := resolve?_read hrendering (quiet_of_writable hnodes)
  refine Schema.check_induction hschema (motive := fun node value => ∀ document,
      Represents thunks named node document →
      (read (attach root definitions)).value.Contains thunks' (parse document).node →
      (((read (attach root definitions)).value.scope thunks' strictness).check
          (parse document).node value).bare =
        ((schema.scope thunks strictness).check node value).bare) ?_ hnode value document h hread
  clear h hread hnode value document node
  intro node value hnode ih document h hread
  cases h with
  | @composed _ parts hcomposes hlength hparts =>
    have hwritable := hnodes node hnode
    rw [parse_compose hcomposes hwritable.typed (fits_of_represents hwritable hlength hparts)]
      at hread ⊢
    exact bare_check_composed hrendering hnodes htargets hschema hnode hcomposes hlength hparts
      hread ih
  | verbatim =>
    rw [(parse_verbatim ((hnodes _ hnode).verbatim document rfl)).1, Scope.check_own rfl,
      Scope.check_own rfl]
    rfl
  | @cut thunk name hnamed =>
    obtain ⟨body, written, hbody, hcontains, hwritten, hrepresents⟩ :=
      hrendering.lifted thunk name hnamed
    have hfound : (read (attach root definitions)).value.definitions.resolve?
        (Definitions.referenceTo name) = some (parse written).node := by
      rw [hresolve, Definitions.nameOf_referenceTo, hwritten]
      rfl
    rw [parse_lazyReference] at hread ⊢
    rw [Schema.check_reference hagain hread hfound, Schema.check_deferred hschema hnode hbody,
      Trace.bare_append, Trace.bare_notes, List.nil_append]
    exact ih _ _ (.forced hbody) written hrepresents
      (.definition (Entries.mem_of_find? hfound))
  | @inlined thunk body _ hbody hrepresents =>
    rw [Schema.check_deferred hschema hnode hbody, Trace.bare_append, Trace.bare_notes,
      List.nil_append]
    exact ih _ _ (.forced hbody) document hrepresents hread

end Linking

end Document

namespace Schema

open Document

/-- A contractive schema of known kinds is written, and what is read of the document reports the same
violations of every value, with any choice of strictness. The deferred nodes are written in place,
cut to references or lifted to definitions. -/
theorem check_read_write (schema : Schema) (thunks : Thunks) (hschema : schema.Contractive thunks)
    (hnodes : ∀ node, schema.Contains thunks node → node.Writable thunks)
    (hnames : (Entries.names schema.definitions).Nodup)
    (htargets : ∀ docs target, schema.Contains thunks (.reference docs target) →
      schema.definitions.resolve? target = none → ∀ k, Definitions.nameOf target ≠ lazyName k) :
    ∃ document, (write thunks schema).value = .ok document ∧ ∀ thunks' strictness value,
      ((read document).value.check thunks' strictness value).result =
        (schema.check thunks strictness value).result := by
  obtain ⟨named, root, definitions, hwritten, hrendering⟩ :=
    exists_rendering (fun node hnode => (hnodes node hnode).known) hnames
  refine ⟨_, hwritten, fun thunks' strictness value => Trace.result_congr ?_⟩
  change (((read (attach root definitions)).value.scope thunks' strictness).check
      (read (attach root definitions)).value.root value).bare =
    ((schema.scope thunks strictness).check schema.root value).bare
  rcases root_read_attach root definitions with hroot | ⟨hverbatim, hkept⟩
  · rw [hroot]
    exact bare_check_read hrendering hnodes htargets hschema .root hrendering.root (hroot ▸ .root)
      value
  · rw [bare_check_eq_nil hnodes hschema .root hrendering.root hverbatim value]
    rcases hkept with ⟨document, hroot⟩ | hroot <;> rw [hroot]
    · rw [Scope.check_own rfl]
      rfl
    · rw [Scope.check_combined, List.map_singleton, Scope.check_own rfl]
      rfl

/-- A deferred list of strings that is asked for twice and comes back to itself. -/
def lists : Thunks := [("list", ⟨.object {}
  [⟨"head", .string {} {}, true⟩, ⟨"tail", .deferred (some "list"), false⟩] {}, []⟩)]

/-- The written lists are checked as the deferred ones, whatever thunks are at hand. -/
theorem check_read_write_lists : ∃ document,
    (write lists ⟨.combined {} .allOf [.deferred (some "list"), .deferred (some "list")], []⟩).value =
      .ok document ∧ ∀ thunks' strictness value,
        ((read document).value.check thunks' strictness value).result =
          (Schema.check ⟨.combined {} .allOf [.deferred (some "list"), .deferred (some "list")], []⟩
            lists strictness value).result := by
  have hmem : ∀ node, Contains
      ⟨.combined {} .allOf [.deferred (some "list"), .deferred (some "list")], []⟩ lists node →
      node ∈ [.combined {} .allOf [.deferred (some "list"), .deferred (some "list")],
        .deferred (some "list"),
        .object {} [⟨"head", .string {} {}, true⟩, ⟨"tail", .deferred (some "list"), false⟩] {},
        .string {} {}] := fun node hnode =>
    hnode.mem_of_closed (by simp) (by simp) (by simp [lists]) (by simp [Node.children])
  refine check_read_write _ _ (contractive_of_links_eq_nil (by simp) (by simp [lists, Node.links]))
    (fun node hnode => ?_) (by decide) fun docs target hnode => ?_
  · have hcases := hmem node hnode
    simp only [List.mem_cons, List.not_mem_nil, or_false] at hcases
    rcases hcases with rfl | rfl | rfl | rfl <;> constructor <;>
      simp [Node.Known, Node.Typed, lists]
  · simpa using hmem _ hnode

end Schema

end JsonSchema
