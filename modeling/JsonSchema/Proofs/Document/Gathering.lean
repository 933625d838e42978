import JsonSchema.Proofs.Document.Layout
import JsonSchema.Proofs.Document.Normalizing
import Mathlib.Data.List.Perm.Basic

/-!
# Where definitions stand does not matter

Definitions are collected wherever a document is read: those that it has itself, those of the bodies that
it defines and those of its parts. Where no name is defined twice it does not matter at which of these
places they stand, so all of them can be gathered beside the root.
-/

namespace JsonSchema

/-- Among the entries but for one name this is not found, and all others are. -/
theorem Entries.find?_filter_ne {α : Type} (key name : String) (entries : Entries α) :
    find? key (entries.filter fun entry => entry.1 ≠ name) =
      if key = name then none else find? key entries := by
  induction entries with
  | nil => simp
  | cons entry rest ih =>
    obtain ⟨first, value⟩ := entry
    by_cases hfirst : first = name
    · subst hfirst
      rw [List.filter_cons_of_neg (by simp), ih, find?_cons]
      rcases eq_or_ne key first with rfl | hkey
      · simp
      · simp [hkey, hkey.symm]
    · rw [List.filter_cons_of_pos (by simpa using hfirst), find?_cons, find?_cons, ih]
      by_cases hkey : first = key
      · subst hkey
        simp [hfirst]
      · simp [hkey]

/-- A settled node is equal to itself. -/
theorem Node.Settled.same_self {node : Node} (h : node.Settled) : node.same node = true := by
  induction h with
  | @composed node hcomposes _ hexamples hself _ _ _ ih =>
    have hchildren : ∀ pair ∈ node.children.zip node.children, pair.2.same pair.1 = true := by
      intro pair hpair
      obtain ⟨index, hindex, rfl⟩ := List.mem_iff_getElem.mp hpair
      rw [List.getElem_zip]
      exact ih _ (List.getElem_mem _)
    have hsame := Document.same_recompose hcomposes hexamples rfl hchildren
    rwa [hself] at hsame
  | verbatim hdocument =>
    rw [Node.same]
    exact Json.same_self hdocument

/-- Definitions in another order are the same where each body is equal to itself. -/
theorem Definitions.same_of_perm {first second : Definitions} (hperm : first.Perm second)
    (hnames : (Entries.names second).Nodup) (h : ∀ entry ∈ second, entry.2.same entry.2 = true) :
    Definitions.same first second = true := by
  rw [Definitions.same, hperm.length_eq, beq_self_eq_true, Bool.true_and, List.all_eq_true]
  rintro ⟨name, body⟩ hentry
  have hmem := hperm.mem_iff.mp hentry
  simpa only [Entries.find?_of_mem hnames hmem, Option.any_some] using h _ hmem

namespace Document

open Attribute Shape

/-- The documents that are read on the way to the node of a document: the bodies that it defines and its
parts. -/
inductive Inside : Json → Json → Prop
  | body {members bodies : Entries Json} {entry : String × Json} (h : defined members = some bodies)
      (hentry : entry ∈ bodies) : Inside (.object members) entry.2
  | part {members : Entries Json} {part : Json} (h : part ∈ (ofMembers members).parts) :
      Inside (.object members) part

/-- A document is visited by the reader of another where it is that or is inside one that is visited. -/
abbrev Visits : Json → Json → Prop := Relation.ReflTransGen Inside

/-- The documents inside a document are smaller. -/
theorem Inside.sizeOf_lt {document inner : Json} (h : Inside document inner) :
    sizeOf inner < sizeOf document := by
  cases h with
  | body h hentry =>
    have := sizeOf_lt_of_mem_defined h hentry
    simp only [Json.object.sizeOf_spec]
    omega
  | part h =>
    have := Shape.sizeOf_part_lt h
    simp only [Json.object.sizeOf_spec]
    omega

/-- What holds of a document whenever it holds of the documents inside holds of every one. -/
theorem induction_inside {motive : Json → Prop}
    (step : ∀ document, (∀ inner, Inside document inner → motive inner) → motive document)
    (document : Json) : motive document :=
  step document fun inner h =>
    have := h.sizeOf_lt
    induction_inside step inner
termination_by sizeOf document

/-- The definitions that stand in a document, each with all definitions of its level: first those of the
document itself, then those in the bodies and those in the parts. -/
def definitionObjects (document : Json) : List (Entries Json) :=
  match document with
  | .object members =>
    (match hbodies : defined members with
      | some bodies => bodies :: (bodies.attach.map fun ⟨entry, hentry⟩ =>
        have := (Inside.body hbodies hentry).sizeOf_lt
        definitionObjects entry.2).flatten
      | none => []) ++
    ((ofMembers members).parts.attach.map fun ⟨part, hpart⟩ =>
      have := (Inside.part hpart).sizeOf_lt
      definitionObjects part).flatten
  | _ => []
termination_by sizeOf document
decreasing_by all_goals assumption

/-- The definitions in an object document, in terms of those in its bodies and parts. -/
theorem definitionObjects_object (members : Entries Json) :
    definitionObjects (.object members) = (defined members).toList ++
      ((defined members).getD []).flatMap (fun entry => definitionObjects entry.2) ++
        (ofMembers members).parts.flatMap definitionObjects := by
  rw [definitionObjects]
  congr 1
  · split <;> rename_i h
    · simp only [h]
      exact congrArg (fun rows : List (List (Entries Json)) => _ :: rows.flatten)
        (@List.attach_map_val _ _ _ fun entry : String × Json => definitionObjects entry.2)
    · simp [h]
  · exact congrArg List.flatten List.attach_map_val

/-- No definitions stand in what is no object. -/
theorem definitionObjects_of_not_object {document : Json} (h : ∀ members, document ≠ .object members) :
    definitionObjects document = [] := by
  rw [definitionObjects]
  exact h

/-- The documents inside an object are the bodies that it defines and its parts. -/
theorem inside_object_iff {members : Entries Json} {inner : Json} : Inside (.object members) inner ↔
    inner ∈ (((defined members).getD []).map Prod.snd) ∨ inner ∈ (ofMembers members).parts := by
  constructor
  · intro h
    cases h with
    | body h hentry => exact .inl (List.mem_map_of_mem (by simpa [h] using hentry))
    | part h => exact .inr h
  · rintro (h | h)
    · obtain ⟨entry, hentry, rfl⟩ := List.mem_map.mp h
      cases hdefined : defined members with
      | none => simp [hdefined] at hentry
      | some bodies => exact .body hdefined (by simpa [hdefined] using hentry)
    · exact .part h

/-- The definitions that stand in a document are those of the documents that are visited. -/
theorem mem_definitionObjects_iff {document : Json} {bodies : Entries Json} :
    bodies ∈ definitionObjects document ↔
      ∃ members, Visits document (.object members) ∧ defined members = some bodies := by
  induction document using induction_inside with
  | step document ih =>
    cases document with
    | object members =>
      simp only [definitionObjects_object, List.mem_append, List.mem_flatMap, Option.mem_toList]
      constructor
      · rintro ((hown | ⟨entry, hentry, hmem⟩) | ⟨part, hpart, hmem⟩)
        · exact ⟨members, .refl, hown⟩
        · have hinside := inside_object_iff.mpr (.inl (List.mem_map_of_mem hentry))
          obtain ⟨inner, hvisits, hdefined⟩ := (ih _ hinside).mp hmem
          exact ⟨inner, .head hinside hvisits, hdefined⟩
        · obtain ⟨inner, hvisits, hdefined⟩ := (ih _ (.part hpart)).mp hmem
          exact ⟨inner, .head (.part hpart) hvisits, hdefined⟩
      · rintro ⟨inner, hvisits, hdefined⟩
        rcases hvisits.cases_head with heq | ⟨next, hinside, hvisits⟩
        · cases heq
          exact .inl (.inl hdefined)
        · have hmem := (ih next hinside).mpr ⟨inner, hvisits, hdefined⟩
          rcases inside_object_iff.mp hinside with hbody | hpart
          · obtain ⟨entry, hentry, rfl⟩ := List.mem_map.mp hbody
            exact .inl (.inr ⟨entry, hentry, hmem⟩)
          · exact .inr ⟨next, hpart, hmem⟩
    | _ =>
      rw [definitionObjects_of_not_object (by simp)]
      refine ⟨fun h => absurd h List.not_mem_nil, ?_⟩
      rintro ⟨inner, hvisits, -⟩
      rcases hvisits.cases_head with heq | ⟨next, hinside, -⟩
      · cases heq
      · cases hinside

/-- All definitions that stand in a document, one after the other. -/
def definitionsIn (document : Json) : Entries Json := (definitionObjects document).flatten

/-- The definitions in an object document are its own, those in their bodies and those in its parts. -/
theorem definitionsIn_object (members : Entries Json) :
    definitionsIn (.object members) = (defined members).getD [] ++
      ((defined members).getD []).flatMap (fun entry => definitionsIn entry.2) ++
        (ofMembers members).parts.flatMap definitionsIn := by
  have hflatten : ∀ {α : Type} (items : List α) (objects : α → List (Entries Json)),
      (items.flatMap objects).flatten = items.flatMap fun item => (objects item).flatten := by
    intro α items objects
    simp only [List.flatten_eq_flatMap, List.flatMap_assoc]
  have hown : (defined members).toList.flatten = (defined members).getD [] := by
    cases defined members <;> simp
  rw [definitionsIn, definitionObjects_object, List.flatten_append, List.flatten_append, hown, hflatten,
    hflatten]
  rfl

/-- A definition with the node of its body. -/
abbrev definitionOf (entry : String × Json) : String × Node := (entry.1, nodeOf entry.2)

/-- The definitions of one level and those in its bodies are hoisted, if those in each body are. -/
theorem ownHoists_perm {members : Entries Json}
    (hnames : ∀ bodies, defined members = some bodies → (Entries.names bodies).Nodup)
    (hinner : ∀ entry ∈ (defined members).getD [],
      (hoists (parse entry.2).steps).Perm ((definitionsIn entry.2).map definitionOf)) :
    (ownHoists members).Perm (((defined members).getD [] ++
      ((defined members).getD []).flatMap fun entry => definitionsIn entry.2).map definitionOf) := by
  unfold ownHoists
  cases hdefined : defined members with
  | none => exact .nil
  | some bodies =>
    rw [hdefined, Option.getD_some] at hinner
    have hbodies : (Entries.names (bodies.map definitionOf)).Nodup := by
      simpa [Entries.names, Function.comp_def] using hnames bodies hdefined
    have hperm : (bodies.flatMap fun entry => hoists (parse entry.2).steps).Perm
        ((bodies.flatMap fun entry => definitionsIn entry.2).map definitionOf) := by
      rw [List.map_flatMap]
      exact List.Perm.flatMap_left _ hinner
    -- the level itself is merged after its bodies were read, the other way round than it is listed
    rw [Option.getD_some, List.map_append]
    change List.Perm (_ ++ Entries.ofList (bodies.map definitionOf)) _
    rw [Entries.ofList_of_nodup hbodies]
    exact List.perm_append_comm.trans (hperm.append_left _)

/-- The steps of reading a document hoist the definitions that stand in it, in some order. -/
theorem hoists_perm {document : Json}
    (hnames : ∀ bodies ∈ definitionObjects document, (Entries.names bodies).Nodup) :
    (hoists (parse document).steps).Perm ((definitionsIn document).map definitionOf) := by
  induction document using induction_inside with
  | step document ih =>
    cases document with
    | object members =>
      simp only [definitionObjects_object, List.forall_mem_append, List.mem_flatMap,
        forall_exists_index, and_imp, Option.mem_toList] at hnames
      obtain ⟨⟨hown, hbodies⟩, hparts⟩ := hnames
      have hinner : ∀ entry ∈ (defined members).getD [],
          (hoists (parse entry.2).steps).Perm ((definitionsIn entry.2).map definitionOf) :=
        fun entry hentry => ih entry.2 (inside_object_iff.mpr (.inl (List.mem_map_of_mem hentry)))
          fun bodies hmem => hbodies bodies entry hentry hmem
      have hpart : (partHoists members).Perm
          (((ofMembers members).parts.flatMap definitionsIn).map definitionOf) := by
        rw [List.map_flatMap]
        exact List.Perm.flatMap_left _ fun part hpart =>
          ih part (.part hpart) fun bodies hmem => hparts bodies part hpart hmem
      rw [hoists_parse_object, definitionsIn_object, List.map_append]
      exact (ownHoists_perm hown hinner).append hpart
    | _ =>
      rw [parse_of_not_object (by simp), definitionsIn, definitionObjects_of_not_object (by simp)]
      exact .nil

/-- The members of a document but for the definitions. -/
def withoutDefinitions (members : Entries Json) : Entries Json :=
  match defined members with
  | some _ => members.filter fun entry => entry.1 ≠ "definitions"
  | none => members

/-- A document without the definitions that stand in it. -/
def bare (document : Json) : Json :=
  match document with
  | .object members =>
    if (definitionObjects (.object members)).isEmpty then .object members
    else .object (withParts (withoutDefinitions members)
      ((ofMembers members).parts.attach.map fun ⟨part, hpart⟩ =>
        have := (Inside.part hpart).sizeOf_lt
        bare part))
  | document => document
termination_by sizeOf document
decreasing_by assumption

/-- The definitions that stand in a document, without those that stand in their bodies. -/
def gathered (members : Entries Json) : Entries Json :=
  (definitionsIn (.object members)).map fun entry => (entry.1, bare entry.2)

/-- A document with all definitions that stand in it gathered beside its root. -/
def gather (members : Entries Json) : Entries Json :=
  if (definitionObjects (.object members)).isEmpty then members
  else
    Entries.put "definitions" (.object (gathered members))
      (withParts members ((ofMembers members).parts.map bare))

/-- A document in which no definitions stand is left as it is. -/
theorem bare_of_eq_nil {document : Json} (h : definitionObjects document = []) :
    bare document = document := by
  cases document with
  | object members => rw [bare, if_pos (by simp [h])]
  | _ => rw [bare]; simp

/-- An object document in which definitions stand is composed of bare parts. -/
theorem bare_object {members : Entries Json} (h : definitionObjects (.object members) ≠ []) :
    bare (.object members) =
      .object (withParts (withoutDefinitions members) ((ofMembers members).parts.map bare)) := by
  rw [bare, if_neg (by simpa using h)]
  exact congrArg (fun parts => Json.object (withParts _ parts)) List.attach_map_val

/-- A document without its definitions can take its place. -/
theorem replaces_bare (document : Json) : Replaces document (bare document) := by
  by_cases h : definitionObjects document = []
  · exact .inl (bare_of_eq_nil h).symm
  · cases document with
    | object members => exact .inr ⟨⟨members, rfl⟩, _, bare_object h⟩
    | _ => exact absurd (definitionObjects_of_not_object (by simp)) h

/-- Without the definitions the other keywords have the values that they had. -/
theorem value?_withoutDefinitions {keyword : String} (h : keyword ≠ "definitions")
    (members : Entries Json) :
    value? (withoutDefinitions members) keyword = value? members keyword := by
  unfold withoutDefinitions
  split
  · exact (Entries.find?_filter_ne keyword "definitions" members).trans (if_neg h)
  · rfl

/-- Without its definitions a document has none of its own. -/
theorem defined_withoutDefinitions (members : Entries Json) :
    defined (withoutDefinitions members) = none := by
  unfold withoutDefinitions
  split
  · rw [defined, Entries.find?_filter_ne, if_pos rfl]
  · assumption

/-- The shape of a document does not depend on its definitions. -/
theorem ofMembers_withoutDefinitions (members : Entries Json) :
    ofMembers (withoutDefinitions members) = ofMembers members :=
  ofMembers_congr fun _ hkeyword => value?_withoutDefinitions hkeyword members

/-- A document has the definitions of its own that it had, whatever its parts are. -/
theorem defined_withParts (members : Entries Json) (parts : List Json) :
    defined (withParts members parts) = defined members := by
  have hvalue : Entries.find? "definitions" (withParts members parts) =
      Entries.find? "definitions" members := value?_withParts (by decide) parts
  rw [defined, defined, hvalue]

/-- The definitions that stand in a document stand in no document that is kept verbatim. -/
def Movable (document : Json) : Prop :=
  ∀ inner, Visits document inner → definitionObjects inner ≠ [] →
    ∀ kept, (read inner).value.root ≠ .verbatim kept

/-- Where no definitions stand in a document there are none to be moved. -/
theorem movable_of_eq_nil {document : Json} (h : definitionObjects document = []) : Movable document := by
  intro inner hvisits hsome
  obtain ⟨bodies, hbodies⟩ := List.exists_mem_of_ne_nil _ hsome
  obtain ⟨members, hother, hdefined⟩ := mem_definitionObjects_iff.mp hbodies
  have hmem := mem_definitionObjects_iff.mpr ⟨members, hvisits.trans hother, hdefined⟩
  simp [h] at hmem

/-- The definitions in a document can be moved where it is not kept verbatim and those inside can. -/
theorem movable_of_inside {document : Json} (hroot : ∀ kept, (read document).value.root ≠ .verbatim kept)
    (h : ∀ inner, Inside document inner → Movable inner) : Movable document := by
  intro inner hvisits hsome
  rcases hvisits.cases_head with rfl | ⟨next, hinside, hvisits⟩
  · exact hroot
  · exact h next hinside inner hvisits hsome

/-- The definitions in a document that is visited can be moved where all can. -/
theorem Movable.visits {document inner : Json} (h : Movable document) (hvisits : Visits document inner) :
    Movable inner :=
  fun other hother => h other (hvisits.trans hother)

/-- An object document in which definitions stand that can be moved is put together by its shape, and so
is any document of that shape from bare parts. -/
theorem Movable.exists_assemble {members : Entries Json} (h : Movable (.object members))
    (hsome : definitionObjects (.object members) ≠ []) :
    ∃ assemble, nodeOf (.object members) = assemble ((ofMembers members).parts.map nodeOf) ∧
      ∀ others, ofMembers others = ofMembers members →
        ofMembers (withParts others ((ofMembers members).parts.map bare)) =
          ⟨(ofMembers members).parts.map bare, .node assemble⟩ := by
  have hcomposes := (node_parse (.object members)).resolve_left (h _ .refl hsome _)
  obtain ⟨assemble, houtcome, hnode⟩ := Document.exists_assemble hcomposes
  refine ⟨assemble, hnode, fun others hothers => ?_⟩
  have hparts : List.Forall₂ Replaces (ofMembers members).parts ((ofMembers members).parts.map bare) :=
    List.forall₂_map_right_iff.mpr (List.forall₂_same.mpr fun part _ => replaces_bare part)
  rw [← hothers] at houtcome hparts ⊢
  exact ofMembers_withParts houtcome hparts

/-- A document from which all definitions are taken that stand in it has none, and the node that it had. -/
theorem bare_spec {document : Json} (h : Movable document) :
    definitionObjects (bare document) = [] ∧ nodeOf (bare document) = nodeOf document := by
  induction document using induction_inside with
  | step document ih =>
    by_cases hnone : definitionObjects document = []
    · rw [bare_of_eq_nil hnone]
      exact ⟨hnone, rfl⟩
    · cases document with
      | object members =>
        obtain ⟨assemble, hnode, hshape⟩ := h.exists_assemble hnone
        have hbare := hshape _ (ofMembers_withoutDefinitions members)
        rw [bare_object hnone]
        constructor
        · rw [definitionObjects_object, hbare, defined_withParts, defined_withoutDefinitions,
            List.flatMap_map]
          refine List.flatMap_eq_nil_iff.mpr fun part hpart => ?_
          exact (ih part (.part hpart) (h.visits (.single (.part hpart)))).1
        · rw [nodeOf_object hbare, hnode, List.map_map]
          exact congrArg assemble (List.map_congr_left fun part hpart =>
            (ih part (.part hpart) (h.visits (.single (.part hpart)))).2)
      | _ => exact absurd (definitionObjects_of_not_object (by simp)) hnone

/-- All documents that are visited in a well-formed one are well formed. -/
theorem Visits.wellFormed {document inner : Json} (hvisits : Visits document inner)
    (h : document.WellFormed) : inner.WellFormed := by
  induction hvisits with
  | refl => exact h
  | tail _ hinside ih =>
    cases hinside with
    | body hdefined hentry =>
      exact (wellFormed_defined (Json.wellFormed_object.mp ih).2 hdefined).2 _ hentry
    | part hpart => exact Shape.wellFormed_part (Json.wellFormed_object.mp ih).2 hpart

/-- The definitions of one level of a well-formed document have different names. -/
theorem nodup_names_of_mem {document : Json} (h : document.WellFormed) :
    ∀ bodies ∈ definitionObjects document, (Entries.names bodies).Nodup := by
  intro bodies hmem
  obtain ⟨members, hvisits, hdefined⟩ := mem_definitionObjects_iff.mp hmem
  exact (wellFormed_defined (Json.wellFormed_object.mp (hvisits.wellFormed h)).2 hdefined).1

/-- The definitions that are read are those that stand in a document, if all have different names. -/
theorem definitions_read_perm {document : Json}
    (hobjects : ∀ bodies ∈ definitionObjects document, (Entries.names bodies).Nodup)
    (hnames : (Entries.names (definitionsIn document)).Nodup) :
    (read document).value.definitions.Perm ((definitionsIn document).map definitionOf) := by
  have hperm := hoists_perm hobjects
  have hhoisted : (Entries.names (hoists (parse document).steps)).Nodup := by
    rw [Entries.names, (hperm.map Prod.fst).nodup_iff, List.map_map]
    exact hnames
  rw [definitions_eq_ofList, Entries.ofList_of_nodup hhoisted]
  exact hperm

/-- A body that is defined somewhere in a document is visited. -/
theorem visits_of_mem_definitionsIn {document : Json} {entry : String × Json}
    (h : entry ∈ definitionsIn document) : Visits document entry.2 := by
  obtain ⟨bodies, hbodies, hentry⟩ := List.mem_flatten.mp h
  obtain ⟨members, hvisits, hdefined⟩ := mem_definitionObjects_iff.mp hbodies
  exact hvisits.tail (.body hdefined hentry)

section Gathered

variable {members : Entries Json} (hmovable : Movable (.object members))
include hmovable

/-- A document with gathered definitions has the node that it had, and all its definitions are gathered. -/
theorem gather_spec (hsome : definitionObjects (.object members) ≠ []) :
    nodeOf (.object (gather members)) = nodeOf (.object members) ∧
      defined (gather members) = some (gathered members) ∧
      definitionObjects (.object (gather members)) = [gathered members] := by
  obtain ⟨assemble, hnode, hshape⟩ := hmovable.exists_assemble hsome
  have hgather : gather members = Entries.put "definitions" (.object (gathered members))
      (withParts members ((ofMembers members).parts.map bare)) := by
    rw [gather, if_neg (by simpa using hsome)]
  have hput : ofMembers (gather members) = ⟨(ofMembers members).parts.map bare, .node assemble⟩ := by
    rw [hgather, ofMembers_put]
    exact hshape members rfl
  have hdefined : defined (gather members) = some (gathered members) := by
    rw [defined, hgather, Entries.find?_put, if_pos rfl]
  refine ⟨?_, hdefined, ?_⟩
  · rw [nodeOf_object hput, hnode, List.map_map]
    exact congrArg assemble (List.map_congr_left fun part hpart =>
      (bare_spec (hmovable.visits (.single (.part hpart)))).2)
  · have hbodies : ((gathered members).flatMap fun entry => definitionObjects entry.2) = [] := by
      rw [gathered, List.flatMap_map]
      exact List.flatMap_eq_nil_iff.mpr fun entry hentry =>
        (bare_spec (hmovable.visits (visits_of_mem_definitionsIn hentry))).1
    have hparts : ((ofMembers members).parts.map bare).flatMap definitionObjects = [] := by
      rw [List.flatMap_map]
      exact List.flatMap_eq_nil_iff.mpr fun part hpart =>
        (bare_spec (hmovable.visits (.single (.part hpart)))).1
    rw [definitionObjects_object, hput, hdefined, Option.getD_some, hbodies, hparts]
    rfl

/-- The gathered definitions are read as those that stand in the document. -/
theorem map_definitionOf_gathered :
    (gathered members).map definitionOf = (definitionsIn (.object members)).map definitionOf := by
  rw [gathered, List.map_map]
  refine List.map_congr_left fun entry hentry => ?_
  have hnode := (bare_spec (hmovable.visits (visits_of_mem_definitionsIn hentry))).2
  exact congrArg (Prod.mk entry.1) hnode

end Gathered

/-- A document with its definitions gathered beside its root has no others, and is read as the schema that
it was: the definitions that are read are those that stand anywhere in it. -/
theorem read_gather (members : Entries Json) (h : (Json.object members).WellFormed)
    (hnames : (definitionObjects (.object members)).Pairwise fun first second =>
      List.Disjoint (Entries.names first) (Entries.names second))
    (hmovable : Movable (.object members)) :
    definitionObjects (.object (gather members)) = (defined (gather members)).toList ∧
    (read (.object (gather members))).value.same (read (.object members)).value = true ∧
    (read (.object (gather members))).value.root = (read (.object members)).value.root ∧
    (read (.object (gather members))).value.definitions.Perm
      (read (.object members)).value.definitions ∧
    ∀ inner bodies, Visits (.object members) (.object inner) → defined inner = some bodies →
      ∀ name ∈ Entries.names bodies,
        name ∈ Entries.names (read (.object members)).value.definitions := by
  have hobjects := nodup_names_of_mem h
  have hall : (Entries.names (definitionsIn (.object members))).Nodup := by
    rw [Entries.names, definitionsIn, List.map_flatten, List.nodup_flatten]
    refine ⟨fun names hmem => ?_, List.pairwise_map.mpr hnames⟩
    obtain ⟨bodies, hbodies, rfl⟩ := List.mem_map.mp hmem
    exact hobjects bodies hbodies
  have hread := definitions_read_perm hobjects hall
  have hsettled := settled_read h
  have hgather : definitionObjects (.object (gather members)) = (defined (gather members)).toList ∧
      (read (.object (gather members))).value.root = (read (.object members)).value.root ∧
      (read (.object (gather members))).value.definitions.Perm
        (read (.object members)).value.definitions := by
    by_cases hsome : definitionObjects (.object members) = []
    · rw [gather, if_pos (by simp [hsome]), hsome]
      rw [definitionObjects_object] at hsome
      exact ⟨(List.append_eq_nil_iff.mp (List.append_eq_nil_iff.mp hsome).1).1.symm, rfl, .refl _⟩
    · obtain ⟨hroot, hdefined, hobject⟩ := gather_spec hmovable hsome
      have hgathered : (Entries.names (gathered members)).Nodup := by
        simpa [gathered, Entries.names, Function.comp_def] using hall
      have hin : definitionsIn (.object (gather members)) = gathered members := by
        rw [definitionsIn, hobject, List.flatten_singleton]
      have hagain := @definitions_read_perm (.object (gather members))
        (by simpa [hobject] using hgathered) (hin ▸ hgathered)
      rw [hin, map_definitionOf_gathered hmovable] at hagain
      exact ⟨by rw [hobject, hdefined]; rfl, hroot, hagain.trans hread.symm⟩
  obtain ⟨hobject, hroot, hperm⟩ := hgather
  refine ⟨hobject, ?_, hroot, hperm, fun inner bodies hvisits hdefined name hname => ?_⟩
  · rw [Schema.same, hroot, hsettled.root.same_self, Bool.true_and]
    exact Definitions.same_of_perm hperm hsettled.names fun entry hentry =>
      (hsettled.bodies entry hentry).same_self
  · have hbodies := mem_definitionObjects_iff.mpr ⟨inner, hvisits, hdefined⟩
    obtain ⟨entry, hentry, rfl⟩ := List.mem_map.mp hname
    have hmem := hread.mem_iff.mpr
      (List.mem_map_of_mem (List.mem_flatten.mpr ⟨bodies, hbodies, hentry⟩))
    exact List.mem_map_of_mem hmem

/-- Lists of null that define a text beside it, and beside them a number that defines a truth value. -/
def scattered : Entries Json :=
  [("type", .string "array"), ("items", .object (("type", .string "null") :: defining "leaf" "string")),
    ("definitions", .object [("stem", .object (("type", .string "number") :: defining "root" "boolean"))])]

/-- Gathered, the three definitions stand at the end in the order in which they are found. -/
theorem read_gather_scattered :
    gather scattered = [("type", .string "array"), ("items", .object [("type", .string "null")]),
      ("definitions", .object [("stem", .object [("type", .string "number")]),
        ("root", .object [("type", .string "boolean")]),
        ("leaf", .object [("type", .string "string")])])] ∧
    (read (.object (gather scattered))).value.same (read (.object scattered)).value = true := by
  have hlone : ∀ type ∈ ["boolean", "string"],
      definitionObjects (.object [("type", .string type)]) = [] := by
    intro type htype
    rw [definitionObjects_object]
    rcases List.mem_pair.mp htype with rfl | rfl <;> rfl
  have hnull : ofMembers (("type", .string "null") :: defining "leaf" "string") =
      ⟨[], .node fun _ => .null {}⟩ := rfl
  have hnumber : ofMembers (("type", .string "number") :: defining "root" "boolean") =
      ⟨[], .node fun _ => .number {} {}⟩ := rfl
  have harray : ofMembers scattered = ⟨[.object (("type", .string "null") :: defining "leaf" "string")],
      .node fun nodes => .array {} nodes.head? {}⟩ := rfl
  have hleaf : definitionObjects (.object (("type", .string "null") :: defining "leaf" "string")) =
      [[("leaf", .object [("type", .string "string")])]] := by
    rw [definitionObjects_object, hnull]
    simp [defining, defined, hlone]
  have hroot : definitionObjects (.object (("type", .string "number") :: defining "root" "boolean")) =
      [[("root", .object [("type", .string "boolean")])]] := by
    rw [definitionObjects_object, hnumber]
    simp [defining, defined, hlone]
  have hobjects : definitionObjects (.object scattered) =
      [[("stem", .object (("type", .string "number") :: defining "root" "boolean"))],
        [("root", .object [("type", .string "boolean")])],
        [("leaf", .object [("type", .string "string")])]] := by
    rw [definitionObjects_object, harray]
    simp [scattered, defined, hleaf, hroot]
  have hinner : ∀ type name body node, body ∈ ["boolean", "string"] →
      ofMembers (("type", .string type) :: defining name body) = ⟨[], .node fun _ => node⟩ →
        (∀ kept, node ≠ .verbatim kept) →
          Movable (.object (("type", .string type) :: defining name body)) := by
    intro type name body node hbody hshape hnode
    refine movable_of_inside (fun kept => (nodeOf_object hshape).trans_ne (hnode kept)) ?_
    intro inner hinside
    rw [inside_object_iff, hshape] at hinside
    obtain rfl : inner = .object [("type", .string body)] := by
      simpa [defining, defined] using hinside
    exact movable_of_eq_nil (hlone body hbody)
  have hmovable : Movable (.object scattered) := by
    refine movable_of_inside (fun kept => (nodeOf_object harray).trans_ne (by simp)) fun inner hinside => ?_
    rw [inside_object_iff, harray] at hinside
    have hcases : inner = .object (("type", .string "number") :: defining "root" "boolean") ∨
        inner = .object (("type", .string "null") :: defining "leaf" "string") := by
      simpa [scattered, defined] using hinside
    rcases hcases with rfl | rfl
    · exact hinner _ _ _ _ (by simp) hnumber (by simp)
    · exact hinner _ _ _ _ (by simp) hnull (by simp)
  have hgather : gather scattered = [("type", .string "array"),
      ("items", .object [("type", .string "null")]),
      ("definitions", .object [("stem", .object [("type", .string "number")]),
        ("root", .object [("type", .string "boolean")]),
        ("leaf", .object [("type", .string "string")])])] := by
    have hbareNull : bare (.object (("type", .string "null") :: defining "leaf" "string")) =
        .object [("type", .string "null")] := by
      rw [bare_object (by simp [hleaf]), hnull]
      rfl
    have hbareNumber : bare (.object (("type", .string "number") :: defining "root" "boolean")) =
        .object [("type", .string "number")] := by
      rw [bare_object (by simp [hroot]), hnumber]
      rfl
    have hbareLone : ∀ type ∈ ["boolean", "string"], bare (.object [("type", .string type)]) =
        .object [("type", .string type)] := fun type htype => bare_of_eq_nil (hlone type htype)
    rw [gather, if_neg (by simp [hobjects]), gathered, definitionsIn, hobjects, harray]
    simp [hbareNull, hbareNumber, hbareLone]
    rfl
  refine ⟨hgather, (read_gather scattered ?_ ?_ hmovable).2.1⟩
  · simp [scattered, defining, Entries.names]
  · simp [hobjects, Entries.names]

end Document

end JsonSchema
