import JsonSchema.Proofs.Document.Meaning
import JsonSchema.Proofs.Node.Retargeting
import JsonSchema.Proofs.Validation.Inlining

/-!
# Names of definitions

The names of definitions are bound in a schema. They can be renamed, with the references that speak of
them, and any text is as good a name as another one, as long as different names stay different. A name is
written after the path of definitions and read back from there whatever it holds, so the renamed
references lead to the renamed bodies. Then no check is told from that of the schema as it was.
-/

namespace JsonSchema

open Definitions

/-- A name is looked up among renamed entries as it was before, if no other one is renamed like it. -/
theorem Entries.find?_map_names {α β : Type} (f : String → String) (g : α → β) {name : String}
    {entries : Entries α} (h : ∀ other ∈ names entries, f other = f name → other = name) :
    find? (f name) (entries.map fun entry => (f entry.1, g entry.2)) = (find? name entries).map g := by
  induction entries with
  | nil => rfl
  | cons entry rest ih =>
    obtain ⟨hkey, hrest⟩ := List.forall_mem_cons.mp h
    rw [List.map_cons, find?_cons, find?_cons, ih hrest]
    by_cases hname : entry.1 = name
    · rw [if_pos hname, if_pos (congrArg f hname)]
      rfl
    · rw [if_neg hname, if_neg (mt hkey hname)]

namespace Schema

/-- The reference to the renamed definition that a reference spoke of. -/
def renamedTarget (f : String → String) (target : String) : String := referenceTo (f (nameOf target))

/-- The schema with other names of its definitions, and references to these. -/
def rename (f : String → String) (schema : Schema) : Schema where
  root := schema.root.retarget (renamedTarget f)
  definitions := schema.definitions.map fun entry => (f entry.1, entry.2.retarget (renamedTarget f))

/-- Every reference speaks of a definition, by the path of its name. -/
def Named (schema : Schema) : Prop :=
  ∀ docs target, schema.Contains [] (.reference docs target) →
    ∃ name ∈ Entries.names schema.definitions, target = referenceTo name

/-- The path of a definition becomes the path of its new name. -/
@[simp] theorem renamedTarget_referenceTo (f : String → String) (name : String) :
    renamedTarget f (referenceTo name) = referenceTo (f name) := by
  rw [renamedTarget, nameOf_referenceTo]

/-- Different names have different paths. -/
theorem referenceTo_injective : Function.Injective referenceTo := fun name other h => by
  rw [← nameOf_referenceTo name, h, nameOf_referenceTo]

variable {schema : Schema} {f : String → String}

/-- The names of the renamed definitions, in their order. -/
theorem names_rename (schema : Schema) :
    Entries.names (schema.rename f).definitions = (Entries.names schema.definitions).map f := by
  simp [rename, Entries.names, Function.comp_def]

/-- A reference in a contained node is contained itself. -/
theorem Contains.exists_reference {thunks : Thunks} {node : Node} {target : String}
    (hnode : schema.Contains thunks node) (h : target ∈ node.references) :
    ∃ docs, schema.Contains thunks (.reference docs target) := by
  induction node using Node.induction_children with
  | step node ih =>
    rcases Node.mem_references_iff.mp h with ⟨docs, rfl⟩ | ⟨child, hchild, htarget⟩
    · exact ⟨docs, hnode⟩
    · exact ih child hchild (hnode.child hchild) htarget

/-- A contained node is contained in the renamed schema, with the renamed references. -/
theorem Contains.rename {node : Node} (h : schema.Contains [] node) :
    (schema.rename f).Contains [] (node.retarget (renamedTarget f)) := by
  induction h with
  | root => exact .root
  | @definition name body hmem =>
    have hentry : (f name, body.retarget (renamedTarget f)) ∈ (schema.rename f).definitions :=
      List.mem_map.mpr ⟨_, hmem, rfl⟩
    exact .definition hentry
  | child _ hmem ih =>
    apply Contains.child ih
    rw [Node.children_retarget]
    exact List.mem_map_of_mem hmem
  | forced _ hbody => cases hbody

/-- All nodes of the renamed schema come from nodes of the schema. -/
theorem exists_of_contains_rename {node' : Node} (h : (schema.rename f).Contains [] node') :
    ∃ node, schema.Contains [] node ∧ node' = node.retarget (renamedTarget f) := by
  induction h with
  | root => exact ⟨_, .root, rfl⟩
  | definition hmem =>
    obtain ⟨entry, hentry, heq⟩ := List.mem_map.mp hmem
    cases heq
    exact ⟨_, .definition hentry, rfl⟩
  | child _ hmem ih =>
    obtain ⟨node, hnode, rfl⟩ := ih
    rw [Node.children_retarget] at hmem
    obtain ⟨child, hchild, rfl⟩ := List.mem_map.mp hmem
    exact ⟨child, hnode.child hchild, rfl⟩
  | forced _ hbody => cases hbody

section Injective

variable (hinjective : Set.InjOn f {name | name ∈ Entries.names schema.definitions})
include hinjective

/-- Under its new name stands the body of a definition, with the renamed references. -/
theorem find?_rename {name : String} (hname : name ∈ Entries.names schema.definitions) :
    Entries.find? (f name) (schema.rename f).definitions =
      (Entries.find? name schema.definitions).map (Node.retarget (renamedTarget f)) :=
  Entries.find?_map_names f _ fun _ hother heq => hinjective hother hname heq

variable (hnamed : schema.Named)
include hnamed

/-- A reference in the schema leads to a definition, and the renamed one to what became of it. -/
theorem exists_resolve?_rename {docs : Documentation} {target : String}
    (h : schema.Contains [] (.reference docs target)) :
    ∃ body, schema.definitions.resolve? target = some body ∧
      (schema.rename f).definitions.resolve? (renamedTarget f target) =
        some (body.retarget (renamedTarget f)) := by
  obtain ⟨name, hname, rfl⟩ := hnamed docs target h
  obtain ⟨body, hbody⟩ := Entries.exists_find?_of_mem_names hname
  refine ⟨body, by rw [resolve?, nameOf_referenceTo, hbody], ?_⟩
  rw [renamedTarget_referenceTo, resolve?, nameOf_referenceTo, find?_rename hinjective hname, hbody]
  rfl

/-- The links of contained nodes stay different. -/
theorem retarget_link_inj {node node' : Node} {link link' : Link} (hnode : schema.Contains [] node)
    (hnode' : schema.Contains [] node') (hlink : link ∈ node.links) (hlink' : link' ∈ node'.links)
    (h : link.retarget (renamedTarget f) = link'.retarget (renamedTarget f)) : link = link' := by
  cases link with
  | deferred thunk =>
    cases link' with
    | deferred thunk' => exact h
    | reference target' => cases h
  | reference target =>
    cases link' with
    | deferred thunk' => cases h
    | reference target' =>
      obtain ⟨docs, htarget⟩ :=
        hnode.exists_reference (Node.mem_references_of_mem_links hlink)
      obtain ⟨docs', htarget'⟩ :=
        hnode'.exists_reference (Node.mem_references_of_mem_links hlink')
      obtain ⟨name, hname, rfl⟩ := hnamed docs target htarget
      obtain ⟨name', hname', rfl⟩ := hnamed docs' target' htarget'
      have hrenamed : referenceTo (f name) = referenceTo (f name') := by
        simpa using Link.reference.inj h
      rw [hinjective hname hname' (referenceTo_injective hrenamed)]

/-- Where a renamed link leads in the renamed schema, the link leads to what was there before. -/
theorem exists_leads_of_rename {node : Node} {link next' : Link} (hnode : schema.Contains [] node)
    (hlink : link ∈ node.links)
    (h : Link.Leads (schema.rename f).definitions [] (link.retarget (renamedTarget f)) next') :
    ∃ body next, schema.Contains [] body ∧ next ∈ body.links ∧
      next' = next.retarget (renamedTarget f) ∧ Link.Leads schema.definitions [] link next := by
  obtain ⟨body', hbody', hnext'⟩ := h
  cases link with
  | deferred thunk => cases hbody'
  | reference target =>
    obtain ⟨docs, htarget⟩ := hnode.exists_reference (Node.mem_references_of_mem_links hlink)
    obtain ⟨body, hbody, hrenamed⟩ := exists_resolve?_rename hinjective hnamed htarget
    obtain rfl := Option.some.inj (hrenamed.symm.trans hbody')
    rw [Node.links_retarget] at hnext'
    obtain ⟨next, hnext, rfl⟩ := List.mem_map.mp hnext'
    exact ⟨body, next, .definition (Entries.mem_of_find? hbody), hnext, rfl, body, hbody, hnext⟩

/-- Where cycles of references pass through properties and items, so do those of the renamed schema. -/
theorem Contractive.rename (hschema : schema.Contractive []) :
    (schema.rename f).Contractive [] := by
  intro node' hnode' link' hlink' hcycle
  obtain ⟨node, hnode, rfl⟩ := exists_of_contains_rename hnode'
  rw [Node.links_retarget] at hlink'
  obtain ⟨link, hlink, rfl⟩ := List.mem_map.mp hlink'
  -- A path of renamed links is one of links of the schema, so a cycle comes from one.
  have hpath : ∀ last', Relation.TransGen (Link.Leads (schema.rename f).definitions [])
      (link.retarget (renamedTarget f)) last' →
        ∃ holder last, schema.Contains [] holder ∧ last ∈ holder.links ∧
          last' = last.retarget (renamedTarget f) ∧
            Relation.TransGen (Link.Leads schema.definitions []) link last := by
    intro last' hpath
    induction hpath with
    | single hleads =>
      obtain ⟨body, next, hbody, hnext, heq, hleads⟩ :=
        exists_leads_of_rename hinjective hnamed hnode hlink hleads
      exact ⟨body, next, hbody, hnext, heq, .single hleads⟩
    | tail _ hleads ih =>
      obtain ⟨holder, last, hholder, hlast, rfl, hbefore⟩ := ih
      obtain ⟨body, next, hbody, hnext, heq, hleads⟩ :=
        exists_leads_of_rename hinjective hnamed hholder hlast hleads
      exact ⟨body, next, hbody, hnext, heq, hbefore.tail hleads⟩
  obtain ⟨holder, last, hholder, hlast, heq, hback⟩ := hpath _ hcycle
  obtain rfl := retarget_link_inj hinjective hnamed hnode hholder hlink hlast heq
  exact hschema node hnode link hlink hback

/-- A renamed node is checked like the node, if cycles of references pass through properties and items. -/
theorem check_retarget (hschema : schema.Contractive []) (strictness : Strictness) {node : Node}
    (hnode : schema.Contains [] node) (value : Json) :
    ((schema.rename f).scope [] strictness).check (node.retarget (renamedTarget f)) value =
      (schema.scope [] strictness).check node value := by
  refine check_induction hschema (motive := fun node value =>
    ((schema.rename f).scope [] strictness).check (node.retarget (renamedTarget f)) value =
      (schema.scope [] strictness).check node value) ?_ hnode value
  intro node value hnode ih
  have hinside : List.Forall₂ (fun child child' => child' = child.retarget (renamedTarget f))
      node.children (node.children.map (Node.retarget (renamedTarget f))) :=
    List.forall₂_map_right_iff.mpr (List.forall₂_same.mpr fun _ _ => rfl)
  cases node with
  | reference docs target =>
    obtain ⟨body, hbody, hrenamed⟩ := exists_resolve?_rename hinjective hnamed hnode
    have hcontains := hnode.rename (f := f)
    rw [Node.retarget_reference] at hcontains ⊢
    rw [check_reference hschema hnode hbody,
      check_reference (hschema.rename hinjective hnamed) hcontains hrenamed]
    exact ih body value (.followed hbody)
  | deferred thunk =>
    rw [Node.retarget_eq_withChildren (by simp)]
    cases thunk with
    | none =>
      rw [Scope.check, Scope.check, Scope.checkAt_noThunk]
      exact Scope.checkAt_noThunk
    | some thunk =>
      rw [Scope.check, Scope.check, Scope.checkAt_unforced rfl]
      exact Scope.checkAt_unforced rfl
  | combined docs how members =>
    rw [Node.retarget_eq_withChildren (by simp), Scope.check_combined]
    change ((schema.rename f).scope [] strictness).check (.combined docs how (members.map _)) value = _
    rw [Scope.check_combined, List.map_map]
    apply congrArg (Check.combine how)
    apply List.map_congr_left
    intro member hmember
    funext _
    exact ih member value (.member hmember)
  | _ =>
    rw [Node.retarget_eq_withChildren (by simp), Scope.check_own rfl, Scope.check_own rfl,
      Check.ownTrace_withChildren (List.length_map _)]
    apply congrArg
    refine (flatMap_eq_of_forall₂ ((forall₂_mem
      (Check.forall₂_parts_withChildren hinside value)).imp fun part part' hrow => ?_)).symm
    obtain ⟨hpart, -, halong⟩ := hrow
    rw [← halong.segment, ← halong.value, halong.node, ih _ _ (.part hpart)]

/-- Every value is checked by the renamed schema as before. -/
theorem check_rename (hschema : schema.Contractive []) (strictness : Strictness) (value : Json) :
    (schema.rename f).check [] strictness value = schema.check [] strictness value :=
  check_retarget hinjective hnamed hschema strictness .root value

end Injective

end Schema

end JsonSchema
