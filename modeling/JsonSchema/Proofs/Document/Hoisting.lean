import JsonSchema.Proofs.Document.Reread

/-!
# What a document hoists

The definitions that are hoisted while a document is read are put one after the other, so of equal names
the last body wins. All of them are settled. What the documents that are kept in a node hoist was hoisted
before when the node was read, and so it was for the body of a definition.
-/

namespace JsonSchema.Document

/-- The definitions that steps hoist, one after the other. -/
def hoists (steps : List Step) : Definitions :=
  steps.flatMap fun step =>
    match step with
    | .hoist definitions => definitions
    | .keep _ => []

/-- No steps hoist nothing. -/
@[simp] theorem hoists_nil : hoists [] = [] := rfl

/-- A step that hoists definitions hoists those. -/
@[simp] theorem hoists_hoist (definitions : Definitions) : hoists [.hoist definitions] = definitions :=
  List.flatMap_singleton ..

/-- Keeping a document hoists nothing. -/
@[simp] theorem hoists_keep (reason : Mismatch) : hoists [.keep reason] = [] := rfl

/-- Steps in a row hoist one after the other. -/
@[simp] theorem hoists_append (first second : List Step) :
    hoists (first ++ second) = hoists first ++ hoists second := List.flatMap_append

/-- The same of the steps for each item of a list. -/
@[simp] theorem hoists_flatMap {α : Type} (items : List α) (steps : α → List Step) :
    hoists (items.flatMap steps) = items.flatMap fun item => hoists (steps item) :=
  List.flatMap_assoc

/-- The steps put what they hoist among definitions of different names, one after the other. -/
theorem follow_value (steps : List Step) {definitions : Definitions}
    (hnames : (Entries.names definitions).Nodup) :
    (follow steps definitions).value = Entries.putAll definitions (hoists steps) := by
  induction steps generalizing definitions with
  | nil => rfl
  | cons step rest ih =>
    cases step with
    | hoist hoisted =>
      have hmerge : Definitions.merge [definitions, hoisted] =
          Entries.putAll definitions hoisted := by
        rw [Definitions.merge, List.flatten_cons, List.flatten_singleton, Entries.ofList_append,
          Entries.ofList_of_nodup hnames]
      change (follow rest (Definitions.merge [definitions, hoisted])).value = _
      rw [hmerge, ih (Entries.nodup_names_putAll hnames), ← Entries.putAll_append]
      rfl
    | keep reason => exact ih hnames

/-- The definitions of a document are those that are hoisted while it is read. -/
theorem definitions_eq_ofList (document : Json) :
    (read document).value.definitions = Entries.ofList (hoists (parse document).steps) :=
  follow_value _ List.nodup_nil

/-- The definitions that the parts of a document hoist. -/
def partHoists (members : Entries Json) : Definitions :=
  (Shape.ofMembers members).parts.flatMap fun part => hoists (parse part).steps

/-- The definitions that a document hoists before its parts do. -/
def ownHoists (members : Entries Json) : Definitions :=
  match defined members with
  | some bodies =>
    (bodies.flatMap fun entry => hoists (parse entry.2).steps) ++
      Entries.ofList (bodies.map fun entry => (entry.1, nodeOf entry.2))
  | none => []

/-- The steps of a document are those for what it defines, those of its parts, and a note, if any. -/
theorem exists_steps_eq (members : Entries Json) :
    ∃ reasons : List Mismatch, (parse (.object members)).steps = hoisted members ++
      (Shape.ofMembers members).parts.flatMap (fun part => (parse part).steps) ++ reasons.map .keep := by
  rw [parse_object]
  simp only [conclude, List.flatMap_map]
  cases (Shape.ofMembers members).outcome with
  | node assemble => exact ⟨[], by simp⟩
  | mismatch reason => exact ⟨[reason], by simp⟩
  | unrecognised => exact ⟨[], by simp⟩

/-- What a document hoists before its parts do is what it defines, after what the bodies hoist. -/
theorem hoists_hoisted (members : Entries Json) : hoists (hoisted members) = ownHoists members := by
  unfold hoisted ownHoists
  cases defined members with
  | none => rfl
  | some bodies => simp [hoisting, List.flatMap_map, Function.comp_def]

/-- A document hoists what it defines, after what the bodies hoist, and then what its parts hoist. -/
theorem hoists_parse_object (members : Entries Json) :
    hoists (parse (.object members)).steps = ownHoists members ++ partHoists members := by
  obtain ⟨reasons, hsteps⟩ := exists_steps_eq members
  have hnotes : hoists (reasons.map .keep) = [] := by simp [hoists, List.flatMap_map]
  rw [hsteps, hoists_append, hoists_append, hoists_hoisted, hoists_flatMap, hnotes, List.append_nil]
  rfl

/-- What the documents kept in the node of a document hoist is hoisted when the document is read. -/
theorem hoists_keptSteps_subset {document : Json} (h : document.WellFormed) :
    hoists (keptSteps (nodeOf document)) ⊆ hoists (parse document).steps := by
  induction document, h using induction_wellFormed with
  | kept document h hobject =>
    rw [nodeOf, parse_of_not_object hobject, keptSteps_verbatim, parse_of_not_object hobject]
    exact List.Subset.refl _
  | object members h _ ihparts =>
    rcases node_parse (.object members) with hverbatim | hcomposes
    · rw [nodeOf, hverbatim, keptSteps_verbatim]
      exact List.Subset.refl _
    · have hchildren := (restores_nodeOf (Json.wellFormed_object.mp h).2 hcomposes).children
      rw [hoists_parse_object, keptSteps_composed hcomposes, hchildren]
      intro entry hentry
      simp only [hoists_flatMap, List.flatMap_map, List.mem_flatMap] at hentry
      obtain ⟨part, hpart, hentry⟩ := hentry
      obtain ⟨-, hsubset⟩ := ihparts part hpart
      exact List.mem_append_right _ (List.mem_flatMap.mpr ⟨part, hpart, hsubset hentry⟩)

/-- Every definition that is hoisted is settled, and what the documents kept in its body hoist is
hoisted too. -/
theorem hoists_parse {document : Json} (h : document.WellFormed) :
    ∀ entry ∈ hoists (parse document).steps, entry.2.Settled ∧
      hoists (keptSteps entry.2) ⊆ hoists (parse document).steps := by
  induction document, h using induction_wellFormed with
  | kept document h hobject => simp [parse_of_not_object hobject]
  | object members h ihbodies ihparts =>
    rw [hoists_parse_object]
    intro entry hentry
    rcases List.mem_append.mp hentry with hown | hpart
    · unfold ownHoists at hown ⊢
      cases hdefined : defined members with
      | none => simp [hdefined] at hown
      | some bodies =>
        simp only [hdefined] at hown ⊢
        rcases List.mem_append.mp hown with hinside | hdefinition
        · obtain ⟨body, hbody, hentry⟩ := List.mem_flatMap.mp hinside
          obtain ⟨-, ih⟩ := ihbodies bodies hdefined body hbody
          obtain ⟨hsettled, hsubset⟩ := ih entry hentry
          exact ⟨hsettled, fun other hother => List.mem_append_left _ (List.mem_append_left _
            (List.mem_flatMap.mpr ⟨body, hbody, hsubset hother⟩))⟩
        · obtain ⟨body, hbody, rfl⟩ := List.mem_map.mp (Entries.mem_of_mem_ofList hdefinition)
          obtain ⟨hwell, -⟩ := ihbodies bodies hdefined body hbody
          exact ⟨settled_nodeOf hwell, fun other hother => List.mem_append_left _
            (List.mem_append_left _
              (List.mem_flatMap.mpr ⟨body, hbody, hoists_keptSteps_subset hwell hother⟩))⟩
    · obtain ⟨part, hpart, hentry⟩ := List.mem_flatMap.mp hpart
      obtain ⟨-, ih⟩ := ihparts part hpart
      obtain ⟨hsettled, hsubset⟩ := ih entry hentry
      exact ⟨hsettled, fun other hother => List.mem_append_right _
        (List.mem_flatMap.mpr ⟨part, hpart, hsubset hother⟩)⟩

end JsonSchema.Document
