import JsonSchema.Schema.Reference
import JsonSchema.Fault
import JsonSchema.Json.Writer
import JsonSchema.Thunks

/-!
# Writing documents

A node is written as one JSON object, absent attributes being left out. A deferred node is
written in place, unless its body reaches it again: then the body becomes a definition of the whole
document and the node a reference to it. `Lifting` is what is known about such bodies while a schema
is written; the names of the bodies being written are passed inwards only.
-/

namespace JsonSchema.Document

/-- The bodies that become definitions. -/
structure Lifting where
  reserved : List String := []
  reentered : List String := []
  definitions : Entries Json := []
  lifted : Entries String := []
  notes : List Note := []

/-- The names given to deferred nodes whose bodies are being written. -/
abbrev Active := List (Option String × String)

/-- A step of writing, which may end in a fault and changes what is known about lifted bodies. -/
def Writing (α : Type) := Lifting → Except Fault α × Lifting

namespace Writing

/-- A step that only gives a value. -/
def give {α : Type} (value : α) : Writing α := fun state => (.ok value, state)

/-- A step that ends in a fault. -/
def stop {α : Type} (fault : Fault) : Writing α := fun state => (.error fault, state)

/-- A step that goes on after another one, if that one ends well. -/
def andThen {α β : Type} (first : Writing α) (next : α → Writing β) : Writing β := fun state =>
  match first state with
  | (.ok value, state) => next value state
  | (.error fault, state) => (.error fault, state)

/-- A step that changes what is known. -/
def change (f : Lifting → Lifting) : Writing Unit := fun state => (.ok (), f state)

/-- Each step of writing starts from what is known after the one before it. -/
instance : Monad Writing where
  pure := give
  bind := andThen

end Writing

/-- An optional attribute. -/
def entry (keyword : String) (value : Option Json) : Entries Json :=
  value.toList.map fun value => (keyword, value)

/-- An integer as a document. -/
def integerJson (value : Int) : Json := .number (.int value)

/-- Optional integer bounds. -/
def boundAttributes (least greatest : String) (bounds : Bounds Int) : Entries Json :=
  entry least (bounds.least.map integerJson) ++
    entry greatest (bounds.greatest.map integerJson)

/-- The title and the description. -/
def headAttributes (docs : Documentation) : Entries Json :=
  entry "title" (docs.title.map .string) ++
    entry "description" (docs.description.map .string)

/-- The examples, which stand last. -/
def exampleAttributes (docs : Documentation) : Entries Json :=
  if docs.examples.isEmpty then [] else [("examples", .array docs.examples)]

/-- A document with a type. -/
def typed (docs : Documentation) (name : String) (attributes : Entries Json) : Json :=
  .object (("type", .string name) :: headAttributes docs ++ attributes ++ exampleAttributes docs)

/-- An optional enumeration. -/
def enumAttribute {α : Type} (f : α → Json) (enum : Option (List α)) : Entries Json :=
  entry "enum" (enum.map fun values => .array (values.map f))

/-- What is asked of a string. -/
def stringAttributes (rules : StringRules) : Entries Json :=
  enumAttribute .string rules.enum ++ boundAttributes "minLength" "maxLength" rules.length ++
    entry "pattern" (rules.pattern.map .string) ++
    entry "format" (rules.format.map fun format => .string format.label)

/-- What is asked of a number. -/
def numberAttributes (rules : NumberRules) : Entries Json :=
  enumAttribute .number rules.enum ++ entry "minimum" (rules.range.least.map .number) ++
    entry "maximum" (rules.range.greatest.map .number)

/-- The names of the required properties. -/
def requiredNames (properties : List (Property Node)) : List String :=
  (properties.filter (·.required)).map (·.name)

/-- The attributes of an object whose properties are written. -/
def objectAttributes (properties : List (Property Node)) (written : Entries Json)
    (count : Bounds Int) : Entries Json :=
  let required := requiredNames properties
  ("properties", .object (Entries.ofList written)) ::
    (if required.isEmpty then [] else [("required", .array (required.map .string))]) ++
    boundAttributes "minProperties" "maxProperties" count

/-- A reference to a lifted body. -/
def lazyReference (name : String) : Json :=
  .object [("$ref", .string (Definitions.referenceTo name))]

/-- The name of the given number for a lifted body. -/
def lazyName (index : Nat) : String := "lazy" ++ toString index

/-- The first name from a number on that is not reserved, among as many as there are reserved names
and one more. -/
def freshName (reserved : List String) : Nat → Nat → String
  | 0, index => lazyName index
  | fuel + 1, index =>
    if reserved.contains (lazyName index) then freshName reserved fuel (index + 1) else lazyName index

/-- Reserves a name for the body of a deferred node. -/
def reserveName : Writing String := fun state =>
  let name := freshName state.reserved state.reserved.length 0
  (.ok name, { state with reserved := name :: state.reserved })

/-- The name that a deferred node is referred to by, if its body is being written or is lifted. -/
def knownName (active : Active) (thunk : Option String) (state : Lifting) : Option String :=
  (active.lookup thunk).or (thunk.bind fun name => Entries.find? name state.lifted)

/-- What becomes of the written body of a deferred node: it stands in place, and its name is free
again, if the name was not used. -/
def settle (thunk name : String) (body : Json) : Writing Json := fun state =>
  if state.reentered.contains name then
    (.ok (lazyReference name),
      { state with
        definitions := Entries.put name body state.definitions
        lifted := Entries.put thunk name state.lifted })
  else (.ok body, { state with reserved := state.reserved.filter (· ≠ name) })

mutual

/-- The document of a node, where `pending` are the deferred nodes whose bodies are not being
written. -/
def writeNode (active : Active) (pending : Thunks) (node : Node) : Writing Json :=
  match node with
  | .verbatim document => .give document
  | .deferred thunk => fun state =>
    match knownName active thunk state with
    | some name =>
      (.ok (lazyReference name), { state with reentered := name :: state.reentered })
    | none =>
      (reserveName.andThen fun name =>
        match thunk with
        | none => .stop .noThunk
        | some thunk =>
          match hbody : Entries.find? thunk pending with
          | none => .stop .noThunk
          | some body =>
            have := Thunks.length_without_lt hbody
            (Writing.change fun state => { state with notes := state.notes ++ body.notes }).andThen
              fun () =>
                (writeNode ((some thunk, name) :: active) (Thunks.without pending thunk) body.value).andThen
                  (settle thunk name)) state
  | .reference docs target =>
    .give (.object
      (("$ref", .string target) :: headAttributes docs ++ exampleAttributes docs))
  | .combined docs how members =>
    (writeNodes active pending members).andThen fun members =>
      .give (.object
        ((how.keyword, .array members) :: headAttributes docs ++ exampleAttributes docs))
  | .object docs properties count =>
    (writeProperties active pending properties).andThen fun written =>
      .give (typed docs "object" (objectAttributes properties written count))
  | .array docs none length =>
    .give (typed docs "array" (boundAttributes "minItems" "maxItems" length))
  | .array docs (some items) length =>
    (writeNode active pending items).andThen fun items =>
      .give (typed docs "array" (("items", items) :: boundAttributes "minItems" "maxItems" length))
  | .tuple docs items none length =>
    (writeNodes active pending items).andThen fun items =>
      .give (typed docs "array"
        (("items", .array items) :: boundAttributes "minItems" "maxItems" length))
  | .tuple docs items (some additional) length =>
    (writeNodes active pending items).andThen fun items =>
      (writeNode active pending additional).andThen fun additional =>
        .give (typed docs "array"
          (("items", .array items) :: ("additionalItems", additional) ::
            boundAttributes "minItems" "maxItems" length))
  | .string docs rules => .give (typed docs "string" (stringAttributes rules))
  | .integer docs rules => .give (typed docs "integer" (numberAttributes rules))
  | .number docs rules => .give (typed docs "number" (numberAttributes rules))
  | .boolean docs enum => .give (typed docs "boolean" (enumAttribute .bool enum))
  | .null docs => .give (typed docs "null" [])
  | .unknown => .stop .unknownNode
termination_by (pending.length, sizeOf node)

/-- The documents of nodes in a row. -/
def writeNodes (active : Active) (pending : Thunks) (nodes : List Node) : Writing (List Json) :=
  match nodes with
  | [] => .give []
  | node :: rest =>
    (writeNode active pending node).andThen fun node =>
      (writeNodes active pending rest).andThen fun rest => .give (node :: rest)
termination_by (pending.length, sizeOf nodes)

/-- The documents of properties in a row. -/
def writeProperties (active : Active) (pending : Thunks) (properties : List (Property Node)) :
    Writing (Entries Json) :=
  match properties with
  | [] => .give []
  | ⟨name, schema, _⟩ :: rest =>
    (writeNode active pending schema).andThen fun schema =>
      (writeProperties active pending rest).andThen fun rest => .give ((name, schema) :: rest)
termination_by (pending.length, sizeOf properties)

end

/-- The documents of definitions in a row. -/
def writeDefinitions (thunks : Thunks) : Definitions → Writing (Entries Json)
  | [] => .give []
  | (name, body) :: rest =>
    (writeNode [] thunks body).andThen fun body =>
      (writeDefinitions thunks rest).andThen fun rest => .give ((name, body) :: rest)

/-- A document with definitions; one that is no object is wrapped to carry them. -/
def attach (document : Json) (definitions : Entries Json) : Json :=
  if definitions.isEmpty then document
  else
    match document with
    | .object members => .object (Entries.put "definitions" (.object definitions) members)
    | document => .object [("allOf", .array [document]), ("definitions", .object definitions)]

/-- The document of a schema, starting with nothing known but the names of its definitions. -/
def writeSchema (thunks : Thunks) (schema : Schema) : Writing Json := fun state =>
  ((writeNode [] thunks schema.root).andThen fun root =>
    (writeDefinitions thunks schema.definitions).andThen fun definitions state =>
      (.ok (attach root (Entries.ofList (definitions ++ state.definitions))), state))
    { reserved := Entries.names schema.definitions, notes := state.notes }

/-- The document of a schema, with what is noted on the way. -/
def write (thunks : Thunks) (schema : Schema) : Noted (Except Fault Json) :=
  let (result, state) := writeSchema thunks schema {}
  ⟨result, state.notes⟩

end JsonSchema.Document
