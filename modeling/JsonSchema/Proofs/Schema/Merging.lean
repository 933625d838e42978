import JsonSchema.Proofs.Document.Hoisting
import JsonSchema.Proofs.Validation.Building

/-!
# Merging definitions

Merged mappings have each name at the position of its first occurrence, with the body in the last mapping
that has the name. It makes no difference in which groups the mappings are merged on the way, and empty
ones count for nothing. So definitions that are merged level by level, as they are where schemas are built
from schemas and where documents stand inside documents, are those of all levels merged at once.
-/

namespace JsonSchema

namespace Definitions

/-- The entries of each mapping may be put together before the mappings are merged. -/
theorem merge_map_ofList (mappings : List Definitions) :
    merge (mappings.map Entries.ofList) = merge mappings := by
  rw [merge, ← List.flatMap_def]
  exact Entries.putAll_flatMap_ofList [] mappings

/-- Groups of mappings may be merged before their results are. -/
theorem merge_map_merge (groups : List (List Definitions)) :
    merge (groups.map merge) = merge groups.flatten :=
  calc merge (groups.map merge)
      = merge ((groups.map List.flatten).map Entries.ofList) := by
        rw [List.map_map]
        rfl
    _ = merge (groups.map List.flatten) := merge_map_ofList _
    _ = merge groups.flatten := by rw [merge, merge, List.flatten_flatten]

/-- Empty mappings may be dropped. -/
theorem merge_filter (mappings : List Definitions) :
    merge (mappings.filter (!·.isEmpty)) = merge mappings := by
  rw [merge, List.flatten_filter_not_isEmpty, merge]

/-- A mapping on its own is not changed. -/
theorem merge_singleton {mapping : Definitions} (h : (Entries.names mapping).Nodup) :
    merge [mapping] = mapping := by
  rw [merge, List.flatten_singleton, Entries.ofList_of_nodup h]

/-- Merged names stand in the order of their first occurrences. -/
theorem names_merge (mappings : List Definitions) :
    Entries.names (merge mappings) = (mappings.flatMap Entries.names).eraseDups := by
  rw [merge, Entries.names_ofList, Entries.names, List.map_flatten, List.flatMap_def]
  rfl

/-- Under each name the body in the last mapping that has the name is found. -/
theorem find?_merge (name : String) {mappings : List Definitions}
    (h : ∀ mapping ∈ mappings, (Entries.names mapping).Nodup) :
    Entries.find? name (merge mappings) = mappings.reverse.findSome? (Entries.find? name) := by
  rw [merge, Entries.find?_ofList, Entries.find?_reverse_flatten name h]

/-- Mappings are merged as the elements of a monoid are multiplied: the result is a mapping, groups in a row
may be merged first, empty mappings may be inserted and dropped, and a mapping on its own is the result.
The names of the result are those of all mappings, each at the position of its first occurrence, and under
each of them the body in the last mapping that has the name is found. -/
theorem merge_regroups_and_overrides (mappings : List Definitions)
    (hmappings : ∀ mapping ∈ mappings, (Entries.names mapping).Nodup) :
    (Entries.names (merge mappings)).Nodup ∧
    (∀ groups : List (List Definitions), groups.flatten = mappings →
      merge (groups.map merge) = merge mappings) ∧
    (∀ others : List Definitions,
      others.filter (!·.isEmpty) = mappings.filter (!·.isEmpty) → merge others = merge mappings) ∧
    (∀ mapping ∈ mappings, merge [mapping] = mapping) ∧
    Entries.names (merge mappings) = (mappings.flatMap Entries.names).eraseDups ∧
    ∀ name,
      (name ∈ Entries.names (merge mappings) ↔
        ∃ mapping ∈ mappings, name ∈ Entries.names mapping) ∧
      Entries.find? name (merge mappings) =
        mappings.reverse.findSome? (Entries.find? name) := by
  refine ⟨Entries.nodup_names_ofList _, ?_, fun others hothers => ?_,
    fun mapping hmapping => merge_singleton (hmappings mapping hmapping), names_merge mappings,
    fun name => ⟨?_, find?_merge name hmappings⟩⟩
  · rintro groups rfl
    exact merge_map_merge groups
  · rw [← merge_filter others, hothers, merge_filter]
  · rw [names_merge, List.mem_eraseDups, List.mem_flatMap]

/-- Four mappings that overlap, one of which is empty. -/
def layered : List Definitions :=
  [[("leaf", .null {}), ("tree", .array {} (some (.reference {} "tree")) {})], [],
    [("name", .string {} {}), ("leaf", .boolean {} none)], [("tree", .null {}), ("leaf", .integer {} {})]]

/-- The name that occurs first stays first, with the body in the last mapping. -/
theorem merge_regroups_and_overrides_layered :
    (∀ mapping ∈ layered, (Entries.names mapping).Nodup) ∧
    merge [merge (layered.take 1), merge [], merge (layered.drop 1)] = merge layered ∧
    merge ([] :: layered.filter (!·.isEmpty)) = merge layered ∧
    Entries.names (merge layered) = ["leaf", "tree", "name"] ∧
    Entries.find? "leaf" (merge layered) = some (.integer {} {}) := by
  have hlayered : ∀ mapping ∈ layered, (Entries.names mapping).Nodup := by decide
  obtain ⟨-, hgroups, hempty, -, hnames, hfind⟩ := merge_regroups_and_overrides layered hlayered
  exact ⟨hlayered, hgroups [layered.take 1, [], layered.drop 1] rfl, hempty _ (by simp),
    hnames.trans (by decide), (hfind "leaf").2⟩

end Definitions

namespace Construction

/-- The definitions of a built schema are those of the schemas that it is built from, merged at once. -/
theorem definitions_build (construction : Construction) :
    construction.build.value.definitions =
      Definitions.merge (construction.schemas.map (·.definitions)) := by
  cases construction with
  | tuple docs items additional length =>
    -- the definitions of the items are merged before those of the schema for further items come in
    refine (Definitions.merge_map_merge
      [items.map (·.definitions), additional.toList.map (·.definitions)]).trans ?_
    rw [List.flatten_cons, List.flatten_singleton, schemas, List.map_append]
  | _ => rfl

/-- Where a schema is built from built schemas, its definitions are those of all schemas that these are
built from, merged at once. -/
theorem definitions_build_of_built {construction : Construction} {parts : List Construction}
    (h : construction.schemas = parts.map (·.build.value)) :
    construction.build.value.definitions =
      Definitions.merge ((parts.flatMap schemas).map (·.definitions)) := by
  have hgroups := Definitions.merge_map_merge
    (parts.map fun part => part.schemas.map (·.definitions))
  rw [definitions_build, h, List.map_flatMap, List.flatMap_def, ← hgroups]
  simp only [List.map_map, Function.comp_def, definitions_build]

end Construction

namespace Document

/-- The definitions of an object document are those of the bodies that it defines, then these bodies under
their names, and then those of its parts, where each body and part is read by itself. -/
theorem definitions_read_levels (members : Entries Json) :
    let bodies := (defined members).getD []
    (read (.object members)).value.definitions = Definitions.merge
      (bodies.map (fun entry => (read entry.2).value.definitions) ++
        Entries.ofList (bodies.map fun entry => (entry.1, nodeOf entry.2)) ::
          (Shape.ofMembers members).parts.map fun part => (read part).value.definitions) := by
  intro bodies
  have hown : ownHoists members = bodies.flatMap (fun entry => hoists (parse entry.2).steps) ++
      Entries.ofList (bodies.map fun entry => (entry.1, nodeOf entry.2)) := by
    unfold ownHoists bodies
    cases defined members <;> rfl
  have hagain := Entries.ofList_of_nodup
    (Entries.nodup_names_ofList (bodies.map fun entry => (entry.1, nodeOf entry.2)))
  calc (read (.object members)).value.definitions
      = Entries.ofList (ownHoists members ++ partHoists members) := by
        rw [definitions_eq_ofList, hoists_parse_object]
    _ = Definitions.merge (bodies.map (fun entry => hoists (parse entry.2).steps) ++
          Entries.ofList (bodies.map fun entry => (entry.1, nodeOf entry.2)) ::
            (Shape.ofMembers members).parts.map fun part => hoists (parse part).steps) := by
        rw [hown, partHoists, Definitions.merge, List.flatten_append, List.flatten_cons,
          ← List.flatMap_def, ← List.flatMap_def, List.append_assoc]
    _ = _ := by
        rw [← Definitions.merge_map_ofList, List.map_append, List.map_cons, hagain, List.map_map,
          List.map_map]
        simp only [Function.comp_def, definitions_eq_ofList]

end Document

end JsonSchema
