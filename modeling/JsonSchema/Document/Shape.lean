import JsonSchema.Document.Mismatch
import JsonSchema.Node.Basic

/-!
# Shapes of documents

The keywords of a JSON object tell which kind of node it describes, which of its parts are schemas
of their own, and how the node is put together from their nodes. A shape keeps the parts apart from
the node, because the parts are read even where an attribute after them turns out to be malformed:
`Shape.ofMembers` lists the parts that are read, and gives the node or the reason why there is none.
-/

namespace JsonSchema

/-- What the keywords of a document say. -/
inductive Outcome where
  | node (assemble : List Node → Node)
  | mismatch (reason : Mismatch)
  | unrecognised

/-- The schemas inside a document, in reading order, and what becomes of the document. -/
structure Shape where
  parts : List Json := []
  outcome : Outcome

namespace Attribute

/-- The value of a keyword. -/
def value? (members : Entries Json) (keyword : String) : Option Json := Entries.find? keyword members

/-- A value that may be absent or null. -/
def optional {α : Type} (members : Entries Json) (keyword : String) (asked : AttributeKind)
    (read : Json → Option α) : Except Mismatch (Option α) :=
  match value? members keyword with
  | none | some .null => .ok none
  | some value =>
    match read value with
    | some read => .ok (some read)
    | none => .error (.malformed keyword asked)

/-- A text. -/
def text? : Json → Option String
  | .string value => some value
  | _ => none

/-- A number that equals an integer; a boolean is no number. -/
def integer? : Json → Option Int
  | .number value => value.toInt?
  | _ => none

/-- A number; a boolean is no number. -/
def number? : Json → Option Number
  | .number value => some value
  | _ => none

/-- A boolean. -/
def boolean? : Json → Option Bool
  | .bool value => some value
  | _ => none

/-- A list of which each item can be read. -/
def list? {α : Type} (read : Json → Option α) : Json → Option (List α)
  | .array items => items.mapM read
  | _ => none

/-- An optional text. -/
def text (members : Entries Json) (keyword : String) : Except Mismatch (Option String) :=
  optional members keyword .string text?

/-- An optional integer. -/
def integer (members : Entries Json) (keyword : String) : Except Mismatch (Option Int) :=
  optional members keyword .integer integer?

/-- An optional number. -/
def number (members : Entries Json) (keyword : String) : Except Mismatch (Option Number) :=
  optional members keyword .number number?

/-- An optional enumeration. -/
def enum {α : Type} (members : Entries Json) (read : Json → Option α) :
    Except Mismatch (Option (List α)) :=
  match value? members "enum" with
  | none | some .null => .ok none
  | some value =>
    match list? read value with
    | some values => .ok (some values)
    | none => .error .enumeration

/-- The documentation, which every kind of node may carry. -/
def docs (members : Entries Json) : Except Mismatch Documentation :=
  match (value? members "examples").getD (.array []) with
  | .array examples => do
    let title ← text members "title"
    let description ← text members "description"
    return ⟨title, description, examples⟩
  | _ => .error (.malformed "examples" .array)

/-- Optional integer bounds. -/
def bounds (members : Entries Json) (least greatest : String) : Except Mismatch (Bounds Int) := do
  let least ← integer members least
  let greatest ← integer members greatest
  return ⟨least, greatest⟩

end Attribute

namespace Shape

open Attribute

/-- The outcome of a step that may fail. -/
def outcomeOf (result : Except Mismatch (List Node → Node)) : Outcome :=
  match result with
  | .ok assemble => .node assemble
  | .error reason => .mismatch reason

/-- A document without schemas inside. -/
def leaf (result : Except Mismatch Node) : Shape := { outcome := outcomeOf (result.map fun node _ => node) }

/-- A document with schemas inside, which are read after the first checks and before the last. -/
def branch {α β : Type} (first : Except Mismatch α) (parts : List Json) (last : Except Mismatch β)
    (assemble : α → β → List Node → Node) : Shape :=
  match first with
  | .error reason => { outcome := .mismatch reason }
  | .ok a => ⟨parts, outcomeOf (last.map (assemble a))⟩

/-- The items of an array, none where the value is no array. -/
def itemsOf : Json → List Json
  | .array items => items
  | _ => []

/-- The members of an object, none where the value is no object. -/
def membersOf : Json → Entries Json
  | .object members => members
  | _ => []

/-- The value of a keyword, which must be an array. -/
def arrayOr (value : Json) (reason : Mismatch) : Except Mismatch Unit :=
  match value with
  | .array _ => .ok ()
  | _ => .error reason

/-- The document of a reference. -/
def reference (members : Entries Json) (target : Json) : Shape :=
  leaf do
    match target with
    | .string target => return .reference (← docs members) target
    | _ => .error (.malformed "$ref" .string)

/-- The document of a combination. -/
def combined (members : Entries Json) (how : Combination) (schemas : Json) : Shape :=
  branch
    (do
      arrayOr schemas (.malformed how.keyword .array)
      docs members)
    (itemsOf schemas)
    (.ok ())
    (fun docs () nodes => .combined docs how nodes)

/-- Names and nodes become properties, of which the given names are required. -/
def properties (names required : List String) (nodes : List Node) : List (Property Node) :=
  (names.zip nodes).map fun (name, schema) => ⟨name, schema, required.contains name⟩

/-- The documents of the properties that an object declares. -/
def declared (members : Entries Json) : Entries Json :=
  membersOf ((value? members "properties").getD (.object []))

/-- The names that an object requires. -/
def required (members : Entries Json) : Except Mismatch (List String) :=
  match (value? members "properties").getD (.object []) with
  | .object _ =>
    match list? text? ((value? members "required").getD (.array [])) with
    | some required => .ok required
    | none => .error (.malformed "required" .strings)
  | _ => .error (.malformed "properties" .object)

/-- The document of an object. -/
def object (members : Entries Json) : Shape :=
  branch
    (do
      let required ← required members
      return (required, ← docs members))
    ((declared members).map Prod.snd)
    (bounds members "minProperties" "maxProperties")
    (fun (required, docs) count nodes =>
      .object docs (properties (Entries.names (declared members)) required nodes) count)

/-- The schema of a keyword, absent where it is null. -/
def schema? (members : Entries Json) (keyword : String) : Option Json :=
  match value? members keyword with
  | none | some .null => none
  | some schema => some schema

/-- The document of an array. -/
def array (members : Entries Json) : Shape :=
  branch
    (docs members)
    (schema? members "items").toList
    (bounds members "minItems" "maxItems")
    (fun docs length nodes => .array docs nodes.head? length)

/-- The documents of the items that a tuple tells apart by their places. -/
def placed (members : Entries Json) : List Json :=
  itemsOf ((value? members "items").getD (.array []))

/-- The document of a tuple. -/
def tuple (members : Entries Json) : Shape :=
  branch
    (do
      arrayOr ((value? members "items").getD (.array [])) .tupleItems
      docs members)
    (placed members ++ (schema? members "additionalItems").toList)
    (bounds members "minItems" "maxItems")
    (fun docs length nodes =>
      .tuple docs (nodes.take (placed members).length) (nodes.drop (placed members).length).head?
        length)

/-- The document of a string. -/
def string (members : Entries Json) : Shape :=
  leaf do
    let format ← text members "format"
    let enum ← enum members text?
    let length ← bounds members "minLength" "maxLength"
    let pattern ← text members "pattern"
    let docs ← docs members
    return .string docs ⟨enum, length, pattern, format.map Format.ofLabel⟩

/-- The document of an integer, whose numbers become integers. -/
def integer (members : Entries Json) : Shape :=
  leaf do
    let enum ← enum members integer?
    let range ← bounds members "minimum" "maximum"
    let docs ← docs members
    return .integer docs
      ⟨enum.map (·.map .int), ⟨range.least.map .int, range.greatest.map .int⟩⟩

/-- The document of a number. -/
def number (members : Entries Json) : Shape :=
  leaf do
    let enum ← enum members number?
    let least ← Attribute.number members "minimum"
    let greatest ← Attribute.number members "maximum"
    let docs ← docs members
    return .number docs ⟨enum, ⟨least, greatest⟩⟩

/-- The document of a boolean. -/
def boolean (members : Entries Json) : Shape :=
  leaf do
    let enum ← enum members boolean?
    return .boolean (← docs members) enum

/-- The document of null. -/
def null (members : Entries Json) : Shape := leaf (return .null (← docs members))

/-- Whether the items of an array are told apart by their places. -/
def isTuple (members : Entries Json) : Bool :=
  (match value? members "items" with
    | some (.array _) => true
    | _ => false) || (value? members "additionalItems").isSome

/-- The shape of a document with a type. -/
def ofType (members : Entries Json) : Shape :=
  match value? members "type" with
  | some (.string "object") => object members
  | some (.string "array") => if isTuple members then tuple members else array members
  | some (.string "string") => string members
  | some (.string "integer") => integer members
  | some (.string "number") => number members
  | some (.string "boolean") => boolean members
  | some (.string "null") => null members
  | _ => { outcome := .unrecognised }

/-- The shape of a document: a reference before a combination before a type. -/
def ofMembers (members : Entries Json) : Shape :=
  match value? members "$ref" with
  | some target => reference members target
  | none =>
    match [Combination.oneOf, .anyOf, .allOf].findSome? fun how =>
      (value? members how.keyword).map fun schemas => (how, schemas) with
    | some (how, schemas) => combined members how schemas
    | none => ofType members

end Shape

end JsonSchema
