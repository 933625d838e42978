import JsonSchema.Node.Basic

/-!
# Equal nodes

Two nodes are equal when they are of one kind and agree in every attribute. Numbers and documents
agree by meaning, formats by their labels, definitions without regard to their order, and which node
a deferred node stands for is not compared.
-/

namespace JsonSchema

/-- Two optional values are both absent, or present and equal. -/
def sameOption {α : Type} (same : α → α → Bool) : Option α → Option α → Bool
  | none, none => true
  | some a, some b => same a b
  | _, _ => false

/-- Two lists are of one length and agree item by item. -/
def sameList {α : Type} (same : α → α → Bool) : List α → List α → Bool
  | [], [] => true
  | a :: as, b :: bs => same a b && sameList same as bs
  | _, _ => false

namespace Documentation

/-- Equality of documentation. -/
def same (a b : Documentation) : Bool :=
  a.title == b.title && a.description == b.description && Json.sameItems a.examples b.examples

end Documentation

namespace NumberRules

/-- Equality of what is asked of a number. -/
def same (a b : NumberRules) : Bool :=
  sameOption (sameList Number.same) a.enum b.enum &&
    sameOption Number.same a.range.least b.range.least &&
    sameOption Number.same a.range.greatest b.range.greatest

end NumberRules

namespace StringRules

/-- Equality of what is asked of a string. -/
def same (a b : StringRules) : Bool :=
  a.enum == b.enum && a.length == b.length && a.pattern == b.pattern &&
    a.format.map Format.label == b.format.map Format.label

end StringRules

mutual

/-- Equality of nodes. -/
def Node.same : Node → Node → Bool
  | .object docs properties count, .object docs' properties' count' =>
    docs.same docs' && sameProperties properties properties' && count == count'
  | .array docs items length, .array docs' items' length' =>
    docs.same docs' && sameOptionalNode items items' && length == length'
  | .tuple docs items additional length, .tuple docs' items' additional' length' =>
    docs.same docs' && sameNodes items items' && sameOptionalNode additional additional' &&
      length == length'
  | .string docs rules, .string docs' rules' => docs.same docs' && rules.same rules'
  | .integer docs rules, .integer docs' rules' => docs.same docs' && rules.same rules'
  | .number docs rules, .number docs' rules' => docs.same docs' && rules.same rules'
  | .boolean docs enum, .boolean docs' enum' => docs.same docs' && enum == enum'
  | .null docs, .null docs' => docs.same docs'
  | .reference docs target, .reference docs' target' => docs.same docs' && target == target'
  | .combined docs how members, .combined docs' how' members' =>
    docs.same docs' && how == how' && sameNodes members members'
  | .deferred _, .deferred _ => true
  | .verbatim document, .verbatim document' => document.same document'
  | .unknown, .unknown => true
  | _, _ => false

/-- Equality of optional nodes. -/
def sameOptionalNode : Option Node → Option Node → Bool
  | none, none => true
  | some a, some b => a.same b
  | _, _ => false

/-- Equality of lists of nodes. -/
def sameNodes : List Node → List Node → Bool
  | [], [] => true
  | a :: as, b :: bs => a.same b && sameNodes as bs
  | _, _ => false

/-- Equality of lists of properties. -/
def sameProperties : List (Property Node) → List (Property Node) → Bool
  | [], [] => true
  | ⟨name, a, required⟩ :: as, ⟨name', b, required'⟩ :: bs =>
    name == name' && a.same b && required == required' && sameProperties as bs
  | _, _ => false

end

namespace Definitions

/-- Equality of definitions without regard to their order. -/
def same (a b : Definitions) : Bool :=
  a.length == b.length &&
    a.all fun (name, body) => (Entries.find? name b).any body.same

end Definitions

namespace Schema

/-- Equality of schemas. -/
def same (a b : Schema) : Bool := a.root.same b.root && Definitions.same a.definitions b.definitions

end Schema

end JsonSchema
