import JsonSchema.Document.Shape

/-!
# Parts of documents are smaller

Every part that a shape lists is a schema inside the document, so reading the parts of parts comes to
an end. The one statement that is used elsewhere is `Shape.sizeOf_part_lt`.
-/

namespace JsonSchema.Shape

open Attribute

/-- The items of an array are smaller than it. -/
theorem sizeOf_lt_of_mem_itemsOf {value part : Json} (h : part ∈ itemsOf value) :
    sizeOf part < sizeOf value := by
  cases value with
  | array items =>
    have hlt := List.sizeOf_lt_of_mem h
    simp only [itemsOf] at hlt
    simp
    omega
  | _ => simp [itemsOf] at h

/-- The values of an object's members are smaller than it. -/
theorem sizeOf_lt_of_mem_membersOf {value part : Json} (h : part ∈ (membersOf value).map Prod.snd) :
    sizeOf part < sizeOf value := by
  cases value with
  | object members =>
    obtain ⟨⟨name, found⟩, hmem, rfl⟩ := List.mem_map.mp h
    have hlt := List.sizeOf_lt_of_mem hmem
    simp [membersOf] at hlt ⊢
    omega
  | _ => simp [membersOf] at h

/-- The schema of a keyword is smaller than the members. -/
theorem sizeOf_lt_of_schema? {members : Entries Json} {keyword : String} {schema : Json}
    (h : schema? members keyword = some schema) : sizeOf schema < sizeOf members := by
  unfold schema? at h
  split at h
  · exact absurd h (by simp)
  · exact absurd h (by simp)
  · rename_i found _ hfound
    cases h
    exact Entries.sizeOf_lt_of_find? hfound

/-- The parts of a branch are those it is given, or none. -/
theorem mem_of_mem_branch {α β : Type} {first : Except Mismatch α} {parts : List Json}
    {last : Except Mismatch β} {assemble : α → β → List Node → Node} {part : Json}
    (h : part ∈ (branch first parts last assemble).parts) : part ∈ parts := by
  cases first with
  | error reason => simp [branch] at h
  | ok a => exact h

/-- A part of a value that a keyword has is smaller than the members; an absent value has none. -/
theorem sizeOf_lt_of_getD {members : Entries Json} {keyword : String} {absent part : Json}
    {f : Json → List Json} (hempty : f absent = [])
    (hparts : ∀ value, part ∈ f value → sizeOf part < sizeOf value)
    (h : part ∈ f ((value? members keyword).getD absent)) : sizeOf part < sizeOf members := by
  cases hvalue : value? members keyword with
  | none => simp [hvalue, hempty] at h
  | some value =>
    have hpart := hparts value (by simpa [hvalue] using h)
    have hlt := Entries.sizeOf_lt_of_find? hvalue
    omega

/-- The parts of an object are smaller than its members. -/
theorem sizeOf_lt_of_object {members : Entries Json} {part : Json}
    (h : part ∈ (object members).parts) : sizeOf part < sizeOf members :=
  sizeOf_lt_of_getD (f := fun value => (membersOf value).map Prod.snd) rfl
    (fun _ => sizeOf_lt_of_mem_membersOf) (mem_of_mem_branch h)

/-- The part of an array is smaller than its members. -/
theorem sizeOf_lt_of_array {members : Entries Json} {part : Json}
    (h : part ∈ (array members).parts) : sizeOf part < sizeOf members :=
  sizeOf_lt_of_schema? (Option.mem_toList.mp (mem_of_mem_branch h))

/-- The parts of a tuple are smaller than its members. -/
theorem sizeOf_lt_of_tuple {members : Entries Json} {part : Json}
    (h : part ∈ (tuple members).parts) : sizeOf part < sizeOf members := by
  rcases List.mem_append.mp (mem_of_mem_branch h) with hplaced | hother
  · exact sizeOf_lt_of_getD (f := itemsOf) rfl (fun _ => sizeOf_lt_of_mem_itemsOf) hplaced
  · exact sizeOf_lt_of_schema? (Option.mem_toList.mp hother)

/-- The parts of a document with a type are smaller than its members. -/
theorem sizeOf_lt_of_ofType {members : Entries Json} {part : Json}
    (h : part ∈ (ofType members).parts) : sizeOf part < sizeOf members := by
  unfold ofType at h
  split at h
  · exact sizeOf_lt_of_object h
  · split at h
    · exact sizeOf_lt_of_tuple h
    · exact sizeOf_lt_of_array h
  all_goals simp [string, integer, number, boolean, null, leaf] at h

/-- The parts of a document are smaller than its members. -/
theorem sizeOf_part_lt {members : Entries Json} {part : Json}
    (h : part ∈ (ofMembers members).parts) : sizeOf part < sizeOf members := by
  unfold ofMembers at h
  split at h
  · simp [reference, leaf] at h
  · split at h
    · rename_i how schemas hfound
      obtain ⟨kind, _, hkind⟩ := List.exists_of_findSome?_eq_some hfound
      obtain ⟨value, hvalue, heq⟩ := Option.map_eq_some_iff.mp hkind
      cases heq
      have hpart := sizeOf_lt_of_mem_itemsOf (mem_of_mem_branch h)
      have hlt := Entries.sizeOf_lt_of_find? hvalue
      omega
    · exact sizeOf_lt_of_ofType h

end JsonSchema.Shape
