import JsonSchema.Schema.Reference
import JsonSchema.Pattern.Search
import JsonSchema.Thunks
import JsonSchema.Validation.Trace

/-!
# Checking values

A value is checked against a node: first what the node asks of the value itself, then what the
schemas inside it ask of the value's parts. A combination counts the members whose checks find
nothing. A reference is followed at most once at one place in the value; a second time it is
circular. A deferred node that comes back to itself at one place, with no reference followed in
between, would never end and is a fault. `Scope.check` is the check of a value, and its trace ends
for every schema, recursive or not.
-/

namespace JsonSchema

/-- Choices of how strictly values are checked. -/
structure Strictness where
  unresolvedFails : Bool := false
  countsProperties : Bool := false
deriving DecidableEq

/-- What nodes are checked against values in: definitions, the bodies of deferred nodes, and all
reference strings that can be met. -/
structure Scope where
  definitions : Definitions := []
  thunks : Thunks := []
  strictness : Strictness := {}
  references : List String := []

namespace Check

/-- A value of the wrong kind. -/
def wrongKind (asked : Asked) (value : Json) : Trace :=
  [Trace.problem (.misfit (.kind asked value.kind))]

/-- What bounds ask of a count. -/
def countTrace (count : Nat) (bounds : Bounds Int) : Trace :=
  Trace.problemIf (bounds.least.any fun least => (count : Int) < least)
      (.fewerItemsThan (bounds.least.getD 0)) ++
    Trace.problemIf (bounds.greatest.any fun greatest => greatest < (count : Int))
      (.moreItemsThan (bounds.greatest.getD 0))

/-- What bounds ask of the length of a string. -/
def lengthTrace (length : Nat) (bounds : Bounds Int) : Trace :=
  Trace.problemIf (bounds.least.any fun least => (length : Int) < least)
      (.shorterThan (bounds.least.getD 0)) ++
    Trace.problemIf (bounds.greatest.any fun greatest => greatest < (length : Int))
      (.longerThan (bounds.greatest.getD 0))

/-- What a pattern asks of a string. -/
def patternTrace (pattern text : String) : Trace :=
  match Pattern.search pattern text with
  | .ok true => []
  | .ok false => [Trace.problem (.unmatchedPattern pattern)]
  | .error (.complaint complaint position) =>
    let wording := Pattern.complaintText pattern.toList complaint position
    [.note (.badPattern pattern wording), Trace.problem (.misfit (.badPattern pattern wording))]
  | .error .repetitionLimit => [.fault .repetitionLimit]
  | .error (.digitLimit count) => [.fault (.digitLimit count)]
  | .error .repertoireClash => [.fault .repertoireClash]

/-- What is asked of a string. -/
def stringTrace (rules : StringRules) (text : String) : Trace :=
  lengthTrace text.length rules.length ++
    (match rules.pattern with
      | some pattern => patternTrace pattern text
      | none => []) ++
    Trace.problemIf (rules.enum.any fun enum => !enum.contains text) .notInEnumeration

/-- What is asked of a number. Bounds are compared after rounding to doubles. -/
def numberTrace (rules : NumberRules) (value : Number) : Trace :=
  Trace.problemIf (rules.enum.any fun enum => !enum.any value.same) .notInEnumeration ++
    (match rules.range.least with
      | some least => Trace.problemIf (value.widenLt least) (.lessThan least)
      | none => []) ++
    (match rules.range.greatest with
      | some greatest => Trace.problemIf (greatest.widenLt value) (.moreThan greatest)
      | none => [])

/-- The required properties that an object does not have. -/
def missingTrace (properties : List (Property Node)) (members : Entries Json) : Trace :=
  (properties.filter fun property =>
    property.required && (Entries.find? property.name members).isNone).map fun property =>
      Trace.problem (.missingProperty property.name)

/-- What a node that holds no combination, reference or deferred node asks of the value itself. -/
def ownTrace (strictness : Strictness) : Node → Json → Trace
  | .object _ properties count, .object members =>
    missingTrace properties members ++
      if strictness.countsProperties then countTrace members.length count else []
  | .object .., value => wrongKind .object value
  | .array _ _ length, .array items => countTrace items.length length
  | .array .., value => wrongKind .array value
  | .tuple _ _ _ length, .array items => countTrace items.length length
  | .tuple .., value => wrongKind .array value
  | .string _ rules, .string text => stringTrace rules text
  | .string .., value => wrongKind .string value
  | .integer _ rules, .number value =>
    if value.toInt?.isSome then numberTrace rules value else wrongKind .integer (.number value)
  | .integer .., value => wrongKind .integer value
  | .number _ rules, .number value => numberTrace rules value
  | .number .., value => wrongKind .number value
  | .boolean _ enum, .bool value =>
    Trace.problemIf (enum.any fun enum => !enum.contains value) .notInEnumeration
  | .boolean .., value => wrongKind .boolean value
  | .null _, .null => []
  | .null _, value => wrongKind .null value
  | .unknown, _ => [.fault .unknownNode]
  | _, _ => []

/-- A part of a value with the node that it is checked against and the segment that leads to it. -/
structure Part where
  segment : String
  node : Node
  value : Json

/-- The items of an array from a number on: the first nodes are for one item each, and the other
items are checked against the additional node, if there is one. -/
def itemParts : List Node → Option Node → Nat → List Json → List Part
  | _, _, _, [] => []
  | node :: nodes, additional, index, item :: items =>
    ⟨Pointer.index index, node, item⟩ :: itemParts nodes additional (index + 1) items
  | [], some node, index, item :: items =>
    ⟨Pointer.index index, node, item⟩ :: itemParts [] (some node) (index + 1) items
  | [], none, _, _ :: _ => []

/-- The declared properties that an object has. -/
def propertyParts (properties : List (Property Node)) (members : Entries Json) : List Part :=
  properties.filterMap fun property =>
    (Entries.find? property.name members).map fun value => ⟨property.name, property.schema, value⟩

/-- The parts of a value that a node has schemas for. -/
def parts : Node → Json → List Part
  | .object _ properties _, .object members => propertyParts properties members
  | .array _ items _, .array values => itemParts [] items 0 values
  | .tuple _ items additional _, .array values => itemParts items additional 0 values
  | _, _ => []

/-- An item that is checked is an item of the array. -/
theorem mem_of_mem_itemParts {nodes : List Node} {additional : Option Node} {index : Nat}
    {items : List Json} {part : Part} (h : part ∈ itemParts nodes additional index items) :
    part.value ∈ items := by
  induction items generalizing nodes index with
  | nil => simp [itemParts] at h
  | cons item items ih =>
    cases nodes with
    | cons node nodes =>
      simp only [itemParts, List.mem_cons] at h ⊢
      rcases h with rfl | h
      · exact .inl rfl
      · exact .inr (ih h)
    | nil =>
      cases additional with
      | none => simp [itemParts] at h
      | some node =>
        simp only [itemParts, List.mem_cons] at h ⊢
        rcases h with rfl | h
        · exact .inl rfl
        · exact .inr (ih h)

/-- A part is smaller than the value. -/
theorem sizeOf_part_lt {node : Node} {value : Json} {part : Part} (h : part ∈ parts node value) :
    sizeOf part.value < sizeOf value := by
  unfold parts at h
  split at h
  · obtain ⟨property, _, hproperty⟩ := List.mem_filterMap.mp h
    obtain ⟨found, hfound, rfl⟩ := Option.map_eq_some_iff.mp hproperty
    have hlt := Entries.sizeOf_lt_of_find? hfound
    simp
    omega
  · have hlt := List.sizeOf_lt_of_mem (mem_of_mem_itemParts h)
    simp
    omega
  · have hlt := List.sizeOf_lt_of_mem (mem_of_mem_itemParts h)
    simp
    omega
  · simp at h

/-- A member of a combination, whose check is only run where it is asked for. -/
abbrev Member := Unit → Trace

/-- The traces of members up to the first that accepts the value, without their violations, and a
problem if none accepts it. -/
def anyTrace : List Member → Trace
  | [] => [Trace.problem .tooFewMatches]
  | member :: rest =>
    let trace := member ()
    trace.silent ++ if trace.accepts then [] else anyTrace rest

/-- The traces of all members without their violations, each with a problem if it rejects. -/
def allTrace (members : List Member) : Trace :=
  members.flatMap fun member =>
    let trace := member ()
    trace.silent ++ Trace.problemIf (!trace.accepts) .tooFewMatches

/-- The traces of all members without their violations, and a problem unless exactly one accepts. -/
def oneTrace (members : List Member) : Trace :=
  let traces := members.map fun member => member ()
  let accepting := traces.countP Trace.accepts
  traces.flatMap Trace.silent ++ Trace.problemIf (accepting == 0) .tooFewMatches ++
    Trace.problemIf (1 < accepting) .tooManyMatches

/-- What a combination asks of a value. -/
def combine : Combination → List Member → Trace
  | .oneOf => oneTrace
  | .anyOf => anyTrace
  | .allOf => allTrace

/-- A reference without a definition. -/
def unresolvedTrace (scope : Scope) (target : String) : Trace :=
  .note (.undefined target scope.definitions.length) ::
    if scope.strictness.unresolvedFails then [Trace.problem (.misfit (.unresolved target))]
    else [.note (.unchecked target)]

/-- The references other than one. -/
def except (references : List String) (target : String) : List String :=
  references.filter (· ≠ target)

/-- A reference that is listed leaves fewer others. -/
theorem length_except_lt {references : List String} {target : String} (h : target ∈ references) :
    (except references target).length < references.length := by
  refine Nat.lt_of_le_of_ne (List.length_filter_le _ _) fun heq => ?_
  have hall := (List.length_filter_eq_length_iff.mp heq) _ h
  simp at hall

end Check

open Check in
/-- The check of a value, where `followable` are the references that were not followed at this place
in the value yet, and `pending` the deferred nodes that were not forced since. -/
def Scope.checkAt (scope : Scope) (followable : List String) (pending : Thunks) (node : Node)
    (value : Json) : Trace :=
  match node with
  | .reference _ target =>
    match Definitions.resolve? scope.definitions target with
    | none => unresolvedTrace scope target
    | some body =>
      if h : target ∈ followable then
        have := length_except_lt h
        scope.checkAt (except followable target) scope.thunks body value
      else [Trace.problem (.misfit (.circular target))]
  | .deferred none => [.fault .noThunk]
  | .deferred (some thunk) =>
    match h : Entries.find? thunk pending with
    | some body =>
      have := Thunks.length_without_lt h
      body.notes.map .note ++ scope.checkAt followable (Thunks.without pending thunk) body.value value
    | none =>
      [.fault (if (Entries.find? thunk scope.thunks).isSome then .endless else .noThunk)]
  | .combined _ how members =>
    combine how (members.attach.map fun ⟨member, h⟩ => fun () =>
      have := List.sizeOf_lt_of_mem h
      scope.checkAt followable pending member value)
  | node =>
    ownTrace scope.strictness node value ++
      (parts node value).attach.flatMap fun ⟨part, h⟩ =>
        have := sizeOf_part_lt h
        (scope.checkAt scope.references scope.thunks part.node part.value).under part.segment
termination_by (sizeOf value, followable.length, pending.length, sizeOf node)

namespace Scope

/-- All reference strings that can be met in a check of a node. -/
def reachable (definitions : Definitions) (thunks : Thunks) (node : Node) : List String :=
  (node.references ++ definitions.flatMap (fun (_, body) => body.references) ++
    thunks.references).eraseDups

/-- The scope of a check of a node. -/
def ofNode (definitions : Definitions) (thunks : Thunks) (strictness : Strictness) (node : Node) :
    Scope :=
  ⟨definitions, thunks, strictness, reachable definitions thunks node⟩

/-- The check of a value against a node. -/
def check (scope : Scope) (node : Node) (value : Json) : Trace :=
  scope.checkAt scope.references scope.thunks node value

end Scope

/-- The check of a value against a node, with all it may refer to. -/
def Node.check (definitions : Definitions) (thunks : Thunks) (strictness : Strictness) (node : Node)
    (value : Json) : Trace :=
  (Scope.ofNode definitions thunks strictness node).check node value

/-- The check of a value against a schema. -/
def Schema.check (schema : Schema) (thunks : Thunks) (strictness : Strictness) (value : Json) :
    Trace :=
  schema.root.check schema.definitions thunks strictness value

end JsonSchema
