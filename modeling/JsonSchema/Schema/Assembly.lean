import JsonSchema.Schema.Reference

/-!
# Building schemas

Each function builds a complete schema. Where it is given schemas, their definitions are merged into
those of the schema that is built, so only the whole carries definitions. A bare node is a schema
without definitions.
-/

namespace JsonSchema.Schema

/-- The merged definitions of schemas. -/
def hoist (schemas : List Schema) : Noted Definitions := Definitions.union (schemas.map (·.definitions))

/-- An object with properties, of which names may repeat. -/
def object (docs : Documentation) (properties : List (Property Schema)) (count : Bounds Int) :
    Noted Schema := do
  let definitions ← hoist (properties.map (·.schema))
  let nodes := properties.map fun property => { property with schema := property.schema.root }
  return ⟨.object docs nodes count, definitions⟩

/-- An array, with a schema for its items if one is given. -/
def array (docs : Documentation) (items : Option Schema) (length : Bounds Int) : Noted Schema := do
  let definitions ← hoist items.toList
  return ⟨.array docs (items.map (·.root)) length, definitions⟩

/-- An array with a schema for each of its first items, and for the others if one is given. -/
def tuple (docs : Documentation) (items : List Schema) (additional : Option Schema)
    (length : Bounds Int) : Noted Schema := do
  let first ← hoist items
  let others ← hoist additional.toList
  let definitions ← Definitions.union [first, others]
  return ⟨.tuple docs (items.map (·.root)) (additional.map (·.root)) length, definitions⟩

/-- A string. -/
def string (docs : Documentation) (rules : StringRules) : Schema := ⟨.string docs rules, []⟩

/-- An integer. -/
def integer (docs : Documentation) (rules : NumberRules) : Schema := ⟨.integer docs rules, []⟩

/-- A number. -/
def number (docs : Documentation) (rules : NumberRules) : Schema := ⟨.number docs rules, []⟩

/-- A boolean. -/
def boolean (docs : Documentation) (enum : Option (List Bool)) : Schema := ⟨.boolean docs enum, []⟩

/-- The null value. -/
def null (docs : Documentation) : Schema := ⟨.null docs, []⟩

/-- A reference to a definition, by its name or by a path that starts with a number sign. -/
def reference (docs : Documentation) (target : String) : Schema :=
  let target := if target.toList.head? = some '#' then target else Definitions.referenceTo target
  ⟨.reference docs target, []⟩

/-- A combination of schemas. -/
def combined (docs : Documentation) (how : Combination) (members : List Schema) : Noted Schema := do
  let definitions ← hoist members
  return ⟨.combined docs how (members.map (·.root)), definitions⟩

/-- A schema that is suspended under a name. -/
def deferred (thunk : String) : Schema := ⟨.deferred (some thunk), []⟩

/-- A document that is kept as it is. -/
def verbatim (document : Json) : Schema := ⟨.verbatim document, []⟩

/-- A schema that is defined under a name and may refer to itself: `build` gets the reference and
gives the body. -/
def recursive (name : String) (build : Schema → Noted Schema) : Noted Schema := do
  let body ← build (reference {} name)
  let definitions ← Definitions.union [body.definitions, [(name, body.root)]]
  return ⟨.reference {} (Definitions.referenceTo name), definitions⟩

end JsonSchema.Schema
