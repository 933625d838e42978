import JsonSchema.Document.Read
import JsonSchema.Document.Write
import JsonSchema.Proofs.Entries

/-!
# Attributes read back

An attribute of a written document is looked up among others that stand before and after it. Each
reader of an attribute gives back what was written, where it finds that under its keyword.
-/

namespace JsonSchema

namespace Document

/-- An attribute is found under its own name if it has a value. -/
@[simp] theorem find?_entry (name keyword : String) (value : Option Json) :
    Entries.find? name (entry keyword value) = if keyword = name then value else none := by
  cases value <;> simp [entry]

/-- Examples are found under their name unless there are none. -/
@[simp] theorem find?_exampleAttributes (name : String) (docs : Documentation) :
    Entries.find? name (exampleAttributes docs) =
      if "examples" = name ∧ docs.examples ≠ [] then some (.array docs.examples) else none := by
  cases hexamples : docs.examples <;> simp [exampleAttributes, hexamples]

end Document

namespace Attribute

variable {members : Entries Json}

/-- An optional attribute is read back where its value is found written. -/
theorem optional_eq_ok {α : Type} {keyword : String} {asked : AttributeKind}
    {read : Json → Option α} {write : α → Json} {value : Option α}
    (hread : ∀ value, read (write value) = some value) (hnull : ∀ value, write value ≠ .null)
    (h : value? members keyword = value.map write) :
    optional members keyword asked read = .ok value := by
  unfold optional
  rw [h]
  cases value with
  | none => rfl
  | some value =>
    have hback := hread value
    cases hwrite : write value with
    | null => exact absurd hwrite (hnull value)
    | _ =>
      rw [hwrite] at hback
      simp [hwrite, hback]

/-- A text is read back. -/
theorem text_eq_ok {keyword : String} {value : Option String}
    (h : value? members keyword = value.map .string) : text members keyword = .ok value :=
  optional_eq_ok (fun _ => rfl) (fun _ => by simp) h

/-- An integer is read back. -/
theorem integer_eq_ok {keyword : String} {value : Option Int}
    (h : value? members keyword = value.map Document.integerJson) :
    integer members keyword = .ok value :=
  optional_eq_ok (fun _ => rfl) (fun _ => by simp [Document.integerJson]) h

/-- A number is read back. -/
theorem number_eq_ok {keyword : String} {value : Option Number}
    (h : value? members keyword = value.map .number) : number members keyword = .ok value :=
  optional_eq_ok (fun _ => rfl) (fun _ => by simp) h

/-- A list is read back where each item is. -/
theorem list?_eq_some {α : Type} {read : Json → Option α} (write : α → Json) (values : List α)
    (hread : ∀ value ∈ values, read (write value) = some value) :
    list? read (.array (values.map write)) = some values := by
  induction values with
  | nil => rfl
  | cons value rest ih =>
    have hrest := ih fun other hother => hread other (List.mem_cons_of_mem _ hother)
    simp only [list?, List.map_cons, List.mapM_cons] at hrest ⊢
    simp [hread value List.mem_cons_self, hrest]

/-- An enumeration is read back where each value is. -/
theorem enum_eq_ok {α : Type} {read : Json → Option α} (write : α → Json)
    {enum : Option (List α)}
    (hread : ∀ values, enum = some values → ∀ value ∈ values, read (write value) = some value)
    (h : value? members "enum" = enum.map fun values => .array (values.map write)) :
    Attribute.enum members read = .ok enum := by
  unfold Attribute.enum
  rw [h]
  cases enum with
  | none => rfl
  | some values => simp [list?_eq_some write values (hread values rfl)]

/-- Bounds are read back. -/
theorem bounds_eq_ok {least greatest : String} {bounds : Bounds Int}
    (hleast : value? members least = bounds.least.map Document.integerJson)
    (hgreatest : value? members greatest = bounds.greatest.map Document.integerJson) :
    Attribute.bounds members least greatest = .ok bounds := by
  rw [Attribute.bounds, integer_eq_ok hleast, integer_eq_ok hgreatest]
  rfl

/-- The documentation is read back. -/
theorem docs_eq_ok {docs : Documentation}
    (htitle : value? members "title" = docs.title.map .string)
    (hdescription : value? members "description" = docs.description.map .string)
    (hexamples : value? members "examples" =
      if docs.examples ≠ [] then some (.array docs.examples) else none) :
    Attribute.docs members = .ok docs := by
  have hvalue : (value? members "examples").getD (.array []) = .array docs.examples := by
    rw [hexamples]
    cases docs.examples <;> rfl
  rw [Attribute.docs, hvalue, text_eq_ok htitle, text_eq_ok hdescription]
  rfl

end Attribute

end JsonSchema
