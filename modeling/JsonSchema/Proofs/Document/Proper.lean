import JsonSchema.Proofs.Document.Rendering
import JsonSchema.Proofs.Document.Requirement

/-!
# What documents are read as

The data types of nodes leave room for nodes that no document is read as: two properties of one name,
an integer node with bounds that are no integers, a format that has a name but is spelled as a label,
a missing schema that is kept as a null document. A proper node has none of these defects. Every node
of a schema that is read from a well-formed document is proper, in the root and in all definitions, and
so the schema can be written again without a fault.

The rest is a matter of types: bounds of lengths and counts are integers, bounds and enumerations of
numbers are numbers, and those of strings and booleans hold nothing else.
-/

namespace JsonSchema

open Document

/-- A node as documents are read. A document that is kept verbatim is kept wherever it is read. -/
def Node.Proper : Node → Prop
  | .object _ properties _ => (properties.map (·.name)).Nodup
  | .array _ (some items) _ => items ≠ .verbatim .null ∧ ∀ values, items ≠ .verbatim (.array values)
  | .tuple _ _ (some additional) _ => additional ≠ .verbatim .null
  | .string _ rules =>
    ∀ label, rules.format = some (.custom label) → NamedFormat.ofLabel? label = none
  | .integer _ rules => rules.Integral
  | .verbatim document => (read document).value.root = .verbatim document
  | .deferred _ | .unknown => False
  | _ => True

namespace Format

/-- A label that a format keeps when it is read from the label is no name of a format. -/
theorem ofLabel?_eq_none {label : String} (h : Format.ofLabel label = .custom label) :
    NamedFormat.ofLabel? label = none := by
  unfold ofLabel at h
  split at h
  · cases h
  · assumption

end Format

/-- A settled node is proper. -/
theorem Node.Settled.proper {node : Node} (h : node.Settled) : node.Proper := by
  cases h with
  | verbatim _ hnode => exact hnode
  | composed hcomposes htyped _ hself hfits hreadable _ =>
    cases node with
    | object docs properties count => exact htyped
    | integer docs rules => exact htyped
    | string docs rules =>
      intro label hlabel
      have hformat : rules.format.map (fun format => Format.ofLabel format.label) = rules.format :=
        congrArg StringRules.format (Node.string.inj hself).2
      rw [hlabel] at hformat
      exact Format.ofLabel?_eq_none (Option.some.inj hformat)
    | array docs items length =>
      cases items with
      | none => trivial
      | some items =>
        constructor
        · rintro rfl
          simp [Node.children, readable, present] at hreadable
        · rintro values rfl
          exact hfits.2 _ _ _ rfl values (by simp [Node.children])
    | tuple docs items additional length =>
      cases additional with
      | none => trivial
      | some additional =>
        rintro rfl
        simp [Node.children, readable, present] at hreadable
    | deferred | verbatim | unknown => cases hcomposes
    | _ => trivial

/-- Every node of a schema that is read from a well-formed document is proper, and the schema is
written without a fault. -/
theorem Document.proper_read (document : Json) (h : document.WellFormed) :
    (∀ thunks node, (read document).value.Contains thunks node → node.Proper) ∧
      ∀ thunks, ∃ written, (write thunks (read document).value).value = .ok written := by
  have hschema := settled_read h
  refine ⟨fun thunks node hnode => (hschema.of_contains hnode).proper, fun thunks => ?_⟩
  obtain ⟨_, _, _, hwritten, -⟩ := exists_rendering
    (fun node hnode => (hschema.of_contains hnode).known thunks) hschema.names
  exact ⟨_, hwritten⟩

/-- A tuple with an item that is kept verbatim, a named format, and a definition whose bound is no
integer. -/
def assortment : Json :=
  .object [("type", .string "array"), ("additionalItems", .null),
    ("items", .array [.null, .object [("type", .string "string"), ("format", .string "date-time")]]),
    ("definitions", .object [("count", .object [("type", .string "integer"), ("minimum", .bool true)])])]

/-- The nodes of the assortment are proper, and its schema can be written. -/
theorem Document.proper_read_assortment :
    (∀ thunks node, (read assortment).value.Contains thunks node → node.Proper) ∧
      ∀ thunks, ∃ written, (write thunks (read assortment).value).value = .ok written :=
  Document.proper_read assortment (by simp [assortment, Entries.names])

end JsonSchema
