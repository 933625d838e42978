import JsonSchema.Proofs.Validation.Faults
import Mathlib.Logic.ExistsUnique

/-!
# What it means to conform

`Node.Asks` states, kind by kind, what a node asks of a value, in terms of which values conform to
the nodes inside. A relation between nodes and values that holds exactly where the nodes of a schema
ask for it is a reading of the schema. A contractive schema has one reading, `Schema.Conforms`, and
checks find nothing wrong with exactly the values that conform to it.
-/

namespace JsonSchema

/-- A count lies between bounds, which are inclusive. -/
def Bounds.Admits (bounds : Bounds Int) (count : Nat) : Prop :=
  (∀ least, bounds.least = some least → least ≤ count) ∧
    ∀ greatest, bounds.greatest = some greatest → (count : Int) ≤ greatest

/-- A text has an admitted length, contains the pattern and is one of the enumerated texts. -/
def StringRules.Admits (rules : StringRules) (text : String) : Prop :=
  rules.length.Admits text.length ∧
    (∀ pattern, rules.pattern = some pattern → Pattern.search pattern text = .ok true) ∧
    ∀ enum, rules.enum = some enum → text ∈ enum

/-- A number equals one of the enumerated numbers and is not beyond the bounds, which are compared
after rounding to doubles. -/
def NumberRules.Admits (rules : NumberRules) (value : Number) : Prop :=
  (∀ enum, rules.enum = some enum → ∃ member ∈ enum, value.same member = true) ∧
    (∀ least, rules.range.least = some least → value.widenLt least = false) ∧
    ∀ greatest, rules.range.greatest = some greatest → greatest.widenLt value = false

/-- How many of the members have to conform. -/
def Combination.Asks (how : Combination) (conforms : Node → Prop) (members : List Node) : Prop :=
  match how with
  | .oneOf => ∃! index : Fin members.length, conforms (members.get index)
  | .anyOf => ∃ member ∈ members, conforms member
  | .allOf => ∀ member ∈ members, conforms member

/-- What a node asks of a value, given what conforms to the nodes inside, to the definitions and to
the bodies of deferred nodes. -/
def Node.Asks (definitions : Definitions) (thunks : Thunks) (strictness : Strictness)
    (conforms : Node → Json → Prop) : Node → Json → Prop
  | .object _ properties count, value => ∃ members, value = .object members ∧
      (∀ property ∈ properties, property.required = true →
        (Entries.find? property.name members).isSome) ∧
      (strictness.countsProperties = true → count.Admits members.length) ∧
      ∀ property ∈ properties, ∀ found, Entries.find? property.name members = some found →
        conforms property.schema found
  | .array _ items length, value => ∃ values, value = .array values ∧ length.Admits values.length ∧
      ∀ node, items = some node → ∀ item ∈ values, conforms node item
  | .tuple _ items additional length, value => ∃ values, value = .array values ∧
      length.Admits values.length ∧
      ∀ (index : Nat) item, values[index]? = some item →
        ∀ node, items[index]?.or additional = some node → conforms node item
  | .string _ rules, value => ∃ text, value = .string text ∧ rules.Admits text
  | .integer _ rules, value => ∃ number, value = .number number ∧ number.toInt?.isSome ∧
      rules.Admits number
  | .number _ rules, value => ∃ number, value = .number number ∧ rules.Admits number
  | .boolean _ enum, value => ∃ flag, value = .bool flag ∧
      ∀ values, enum = some values → flag ∈ values
  | .null _, value => value = .null
  | .reference _ target, value =>
    match definitions.resolve? target with
    | some body => conforms body value
    | none => strictness.unresolvedFails = false
  | .combined _ how members, value => how.Asks (conforms · value) members
  | .deferred thunk, value => ∃ name body, thunk = some name ∧
      Entries.find? name thunks = some body ∧ conforms body.value value
  | .verbatim _, _ => True
  | .unknown, _ => False

namespace Schema

/-- A relation that holds exactly where the nodes of a schema ask for it. -/
def Reading (schema : Schema) (thunks : Thunks) (strictness : Strictness)
    (conforms : Node → Json → Prop) : Prop :=
  ∀ node value, schema.Contains thunks node →
    (conforms node value ↔ node.Asks schema.definitions thunks strictness conforms value)

/-- A value conforms to a node where every reading of the schema says so. -/
def Conforms (schema : Schema) (thunks : Thunks) (strictness : Strictness) (node : Node)
    (value : Json) : Prop :=
  ∀ conforms, schema.Reading thunks strictness conforms → conforms node value

end Schema

namespace Check

/-- A count is within bounds where nothing is found wrong with it. -/
theorem violations_countTrace {count : Nat} {bounds : Bounds Int} :
    (countTrace count bounds).violations = [] ↔ bounds.Admits count := by
  obtain ⟨least, greatest⟩ := bounds
  cases least <;> cases greatest <;> simp [countTrace, Bounds.Admits]

/-- A length is within bounds where nothing is found wrong with it. -/
theorem violations_lengthTrace {length : Nat} {bounds : Bounds Int} :
    (lengthTrace length bounds).violations = [] ↔ bounds.Admits length := by
  obtain ⟨least, greatest⟩ := bounds
  cases least <;> cases greatest <;> simp [lengthTrace, Bounds.Admits]

/-- A pattern that can be read is found in a text where nothing is found wrong with it. -/
theorem violations_patternTrace {pattern text : String} {expression : Pattern.Expression}
    (h : Pattern.read pattern.toList = .ok expression) :
    (patternTrace pattern text).violations = [] ↔ Pattern.search pattern text = .ok true := by
  unfold patternTrace Pattern.search
  rw [h]
  cases hsearch : expression.search text.toList <;>
    simp [Except.map, hsearch, Trace.violations, Trace.problem, Event.violation?]

/-- A pattern that is found in a text can be read. -/
theorem readable_of_search {pattern text : String} (h : Pattern.search pattern text = .ok true) :
    ∃ expression, Pattern.read pattern.toList = .ok expression := by
  unfold Pattern.search at h
  cases hread : Pattern.read pattern.toList with
  | ok expression => exact ⟨expression, rfl⟩
  | error refusal =>
    rw [hread] at h
    cases h

/-- A pattern whose search ends with nothing wrong can be read. -/
theorem readable_of_patternTrace {pattern text : String}
    (h : (patternTrace pattern text).result = .ok []) :
    ∃ expression, Pattern.read pattern.toList = .ok expression := by
  unfold patternTrace Pattern.search at h
  cases hread : Pattern.read pattern.toList with
  | ok expression => exact ⟨expression, rfl⟩
  | error refusal =>
    rw [hread] at h
    cases refusal <;> cases h

/-- A text is admitted where nothing is found wrong with it. -/
theorem violations_stringTrace {rules : StringRules} {text : String}
    (h : ∀ pattern, rules.pattern = some pattern →
      ∃ expression, Pattern.read pattern.toList = .ok expression) :
    (stringTrace rules text).violations = [] ↔ rules.Admits text := by
  simp only [stringTrace, Trace.violations_append, List.append_eq_nil_iff, violations_lengthTrace,
    Trace.violations_problemIf, StringRules.Admits, and_assoc]
  refine and_congr_right fun _ => and_congr ?_ ?_
  · cases hpattern : rules.pattern with
    | none => simp
    | some pattern =>
      obtain ⟨expression, hread⟩ := h pattern hpattern
      simpa using violations_patternTrace hread
  · cases rules.enum <;> simp

/-- A number is admitted where nothing is found wrong with it. -/
theorem violations_numberTrace {rules : NumberRules} {value : Number} :
    (numberTrace rules value).violations = [] ↔ rules.Admits value := by
  obtain ⟨enum, least, greatest⟩ := rules
  simp only [numberTrace, NumberRules.Admits]
  cases enum <;> cases least <;> cases greatest <;> simp

/-- A value of the wrong kind is a violation. -/
@[simp] theorem violations_wrongKind {asked : Asked} {value : Json} :
    (wrongKind asked value).violations ≠ [] := by
  simp [wrongKind, Trace.violations, Trace.problem, Event.violation?]

/-- No required property is missing. -/
theorem violations_missingTrace {properties : List (Property Node)} {members : Entries Json} :
    (missingTrace properties members).violations = [] ↔
      ∀ property ∈ properties, property.required = true →
        (Entries.find? property.name members).isSome := by
  have hfound : (missingTrace properties members).violations = [] ↔
      missingTrace properties members = [] := by
    simp [missingTrace, Trace.violations, Trace.problem, Event.violation?]
  rw [hfound, missingTrace, List.map_eq_nil_iff, List.filter_eq_nil_iff]
  refine forall₂_congr fun property _ => ?_
  cases property.required <;> cases Entries.find? property.name members <;> simp

/-- What is asked of the parts of an object is asked of each declared property that it has. -/
theorem forall_mem_propertyParts {properties : List (Property Node)} {members : Entries Json}
    {holds : Node → Json → Prop} :
    (∀ part ∈ propertyParts properties members, holds part.node part.value) ↔
      ∀ property ∈ properties, ∀ found, Entries.find? property.name members = some found →
        holds property.schema found := by
  constructor
  · intro h property hproperty found hfound
    exact h ⟨property.name, property.schema, found⟩
      (List.mem_filterMap.mpr ⟨property, hproperty, by simp [hfound]⟩)
  · intro h part hpart
    obtain ⟨property, hproperty, hsome⟩ := List.mem_filterMap.mp hpart
    obtain ⟨found, hfound, rfl⟩ := Option.map_eq_some_iff.mp hsome
    exact h property hproperty found hfound

/-- What is asked of the items of an array is asked of each item by the node of its place, or by the
additional node after those. -/
theorem forall_mem_itemParts {nodes : List Node} {additional : Option Node} {start : Nat}
    {items : List Json} {holds : Node → Json → Prop} :
    (∀ part ∈ itemParts nodes additional start items, holds part.node part.value) ↔
      ∀ (index : Nat) item, items[index]? = some item →
        ∀ node, nodes[index]?.or additional = some node → holds node item := by
  induction items generalizing nodes start with
  | nil => simp [itemParts]
  | cons item items ih =>
    rw [← Nat.and_forall_add_one]
    cases nodes with
    | cons node nodes => simp [itemParts, ih]
    | nil =>
      cases additional with
      | none => simp [itemParts]
      | some node => simp [itemParts, ih]

/-- What is asked of all items alike is asked of each item. -/
theorem forall_mem_itemParts_nil {additional : Option Node} {start : Nat} {items : List Json}
    {holds : Node → Json → Prop} :
    (∀ part ∈ itemParts [] additional start items, holds part.node part.value) ↔
      ∀ node, additional = some node → ∀ item ∈ items, holds node item := by
  rw [forall_mem_itemParts]
  constructor
  · intro h node hnode item hitem
    obtain ⟨index, hindex⟩ := List.mem_iff_getElem?.mp hitem
    exact h index item hindex node hnode
  · intro h index item hindex node hnode
    exact h node hnode item (List.mem_of_getElem? hindex)

/-- A test is passed once where exactly one item passes it. -/
theorem countP_eq_one_iff {α : Type} {test : α → Bool} {items : List α} :
    items.countP test = 1 ↔ ∃! index : Fin items.length, test (items.get index) = true := by
  induction items with
  | nil => simp [ExistsUnique]
  | cons item rest ih =>
    cases hitem : test item with
    | true =>
      have hnone : rest.countP test = 0 ↔
          ∀ index : Fin rest.length, test (rest.get index) ≠ true := by
        rw [List.countP_eq_zero, List.forall_mem_iff_forall_getElem]
        exact ⟨fun h index => h index.1 index.2, fun h index hindex => h ⟨index, hindex⟩⟩
      simp only [List.countP_cons, hitem, ↓reduceIte, Nat.add_eq_right, hnone]
      constructor
      · intro h
        refine ⟨0, hitem, Fin.cases (fun _ => rfl) fun index hindex => ?_⟩
        exact absurd hindex (h index)
      · rintro ⟨first, -, honly⟩ index hindex
        have hzero := honly 0 hitem
        have hsucc := honly index.succ hindex
        exact Fin.succ_ne_zero index (hsucc.trans hzero.symm)
    | false =>
      simp only [List.countP_cons, hitem, Bool.false_eq_true, ↓reduceIte, Nat.add_zero, ih]
      constructor
      · rintro ⟨index, hindex, honly⟩
        refine ⟨index.succ, hindex, Fin.cases (fun h => ?_) fun other hother => ?_⟩
        · simp [hitem] at h
        · exact congrArg Fin.succ (honly other hother)
      · rintro ⟨index, hindex, honly⟩
        induction index using Fin.cases with
        | zero => simp [hitem] at hindex
        | succ index =>
          exact ⟨index, hindex, fun other hother =>
            Fin.succ_inj.mp (honly other.succ hother)⟩

/-- A combination accepts where as many members accept as it asks for. -/
theorem violations_combine {how : Combination} {members : List Node} {check : Node → Trace} :
    (combine how (members.map fun member () => check member)).violations = [] ↔
      how.Asks (fun member => (check member).violations = []) members := by
  cases how with
  | oneOf =>
    have hcount : (members.map fun member () => check member).countP Member.accepts =
        members.countP fun member => (check member).accepts := by
      rw [List.countP_map]
      rfl
    simp only [combine, violations_oneTrace, hcount, countP_eq_one_iff, Combination.Asks,
      Trace.accepts_iff]
  | anyOf =>
    simp only [combine, violations_anyTrace, Combination.Asks, Trace.accepts_iff]
    constructor
    · rintro ⟨_, hmem, h⟩
      obtain ⟨member, hmember, rfl⟩ := List.mem_map.mp hmem
      exact ⟨member, hmember, h⟩
    · rintro ⟨member, hmember, h⟩
      exact ⟨_, List.mem_map.mpr ⟨member, hmember, rfl⟩, h⟩
  | allOf =>
    simp only [combine, violations_allTrace, Combination.Asks, List.forall_mem_map,
      Trace.accepts_iff]

/-- A node that does not hand the value on asks for nothing to be wrong with the value itself, and
something of its parts. -/
theorem asks_iff_own {definitions : Definitions} {thunks : Thunks} {strictness : Strictness}
    {conforms : Node → Json → Prop} {node : Node} {value : Json} (hown : node.handsOn = false)
    (hknown : node.Known thunks)
    (hpattern : ∀ pattern, node.pattern? = some pattern →
      ∃ expression, Pattern.read pattern.toList = .ok expression) :
    node.Asks definitions thunks strictness conforms value ↔
      (ownTrace strictness node value).violations = [] ∧
        ∀ part ∈ parts node value, conforms part.node part.value := by
  cases node with
  | object docs properties count =>
    cases value with
    | object members =>
      rw [parts, forall_mem_propertyParts, ownTrace, Trace.violations_append,
        List.append_eq_nil_iff, violations_missingTrace]
      cases hcounts : strictness.countsProperties <;>
        simp [Node.Asks, hcounts, violations_countTrace, and_assoc]
    | _ => simp [Node.Asks, ownTrace]
  | array docs items length =>
    cases value with
    | array values =>
      rw [parts, forall_mem_itemParts_nil, ownTrace, violations_countTrace]
      simp [Node.Asks]
    | _ => simp [Node.Asks, ownTrace]
  | tuple docs items additional length =>
    cases value with
    | array values =>
      rw [parts, forall_mem_itemParts, ownTrace, violations_countTrace]
      simp [Node.Asks]
    | _ => simp [Node.Asks, ownTrace]
  | string docs rules =>
    cases value with
    | string text => simp [Node.Asks, ownTrace, parts, violations_stringTrace hpattern]
    | _ => simp [Node.Asks, ownTrace]
  | integer docs rules =>
    cases value with
    | number value =>
      cases hinteger : value.toInt? <;>
        simp [Node.Asks, ownTrace, parts, hinteger, violations_numberTrace]
    | _ => simp [Node.Asks, ownTrace]
  | number docs rules =>
    cases value with
    | number value => simp [Node.Asks, ownTrace, parts, violations_numberTrace]
    | _ => simp [Node.Asks, ownTrace]
  | boolean docs enum =>
    cases value with
    | bool flag => cases enum <;> simp [Node.Asks, ownTrace, parts]
    | _ => simp [Node.Asks, ownTrace]
  | null docs => cases value <;> simp [Node.Asks, ownTrace, parts]
  | verbatim document => simp [Node.Asks, ownTrace, parts]
  | unknown => exact hknown.elim
  | _ => simp [Node.handsOn] at hown

/-- Where a node that does not hand the value on asks for a value, nothing is wrong with the value
itself. -/
theorem own_of_asks {definitions : Definitions} {thunks : Thunks} {strictness : Strictness}
    {conforms : Node → Json → Prop} {node : Node} {value : Json} (hown : node.handsOn = false)
    (h : node.Asks definitions thunks strictness conforms value) :
    (ownTrace strictness node value).violations = [] ∧
      ∀ part ∈ parts node value, conforms part.node part.value := by
  have hknown : node.Known thunks := by
    cases node with
    | deferred thunk => simp [Node.handsOn] at hown
    | unknown => exact h.elim
    | _ => trivial
  refine (asks_iff_own hown hknown fun pattern hpattern => ?_).mp h
  cases node with
  | string docs rules =>
    obtain ⟨text, -, hadmits⟩ := h
    exact readable_of_search (hadmits.2.1 pattern hpattern)
  | _ => simp [Node.pattern?] at hpattern

end Check

/-- What a combination asks depends only on which of the members conform. -/
theorem Combination.asks_congr {how : Combination} {conforms conforms' : Node → Prop}
    {members : List Node} (h : ∀ member ∈ members, conforms member ↔ conforms' member) :
    how.Asks conforms members ↔ how.Asks conforms' members := by
  cases how with
  | oneOf => exact existsUnique_congr fun index => h _ (List.get_mem members index)
  | anyOf => exact exists_congr fun member => and_congr_right fun hmember => h member hmember
  | allOf => exact forall₂_congr h

/-- What a node asks of a value depends only on what conforms to the nodes that its check comes to
next. -/
theorem Node.asks_congr {definitions : Definitions} {thunks : Thunks} {strictness : Strictness}
    {conforms conforms' : Node → Json → Prop} {node : Node} {value : Json}
    (h : ∀ node' value', Check.Next definitions thunks node value node' value' →
      (conforms node' value' ↔ conforms' node' value')) :
    node.Asks definitions thunks strictness conforms value ↔
      node.Asks definitions thunks strictness conforms' value := by
  have hparts : (∀ part ∈ Check.parts node value, conforms part.node part.value) ↔
      ∀ part ∈ Check.parts node value, conforms' part.node part.value :=
    forall₂_congr fun part hpart => h _ _ (.part hpart)
  cases node with
  | object docs properties count =>
    refine exists_congr fun members => and_congr_right fun hvalue => ?_
    subst hvalue
    rw [Check.parts, Check.forall_mem_propertyParts, Check.forall_mem_propertyParts] at hparts
    exact and_congr_right fun _ => and_congr_right fun _ => hparts
  | array docs items length =>
    refine exists_congr fun values => and_congr_right fun hvalue => ?_
    subst hvalue
    rw [Check.parts, Check.forall_mem_itemParts_nil, Check.forall_mem_itemParts_nil] at hparts
    exact and_congr_right fun _ => hparts
  | tuple docs items additional length =>
    refine exists_congr fun values => and_congr_right fun hvalue => ?_
    subst hvalue
    rw [Check.parts, Check.forall_mem_itemParts, Check.forall_mem_itemParts] at hparts
    exact and_congr_right fun _ => hparts
  | reference docs target =>
    cases hbody : definitions.resolve? target with
    | none => simp [Asks, hbody]
    | some body => simpa [Asks, hbody] using h body value (.followed hbody)
  | combined docs how members =>
    exact Combination.asks_congr fun member hmember => h member value (.member hmember)
  | deferred thunk =>
    refine exists_congr fun name => exists_congr fun body => and_congr_right fun hname => ?_
    subst hname
    exact and_congr_right fun hbody => h body.value value (.forced hbody)
  | _ => exact Iff.rfl

namespace Schema

/-- The check of a value against a node finds nothing wrong. -/
def Accepts (schema : Schema) (thunks : Thunks) (strictness : Strictness) (node : Node)
    (value : Json) : Prop :=
  ((schema.scope thunks strictness).check node value).violations = []

variable {schema : Schema} {thunks : Thunks} {strictness : Strictness}

/-- A node that does not hand the value on accepts where nothing is wrong with the value itself and
with its parts. -/
theorem accepts_own {node : Node} {value : Json} (h : node.handsOn = false) :
    schema.Accepts thunks strictness node value ↔
      (Check.ownTrace strictness node value).violations = [] ∧
        ∀ part ∈ Check.parts node value, schema.Accepts thunks strictness part.node part.value := by
  simp [Accepts, Scope.check_own h, Trace.violations_flatMap, List.flatMap_eq_nil_iff]

/-- An unresolved reference accepts unless it is asked to fail. -/
theorem accepts_unresolved {docs : Documentation} {target : String} {value : Json}
    (h : schema.definitions.resolve? target = none) :
    schema.Accepts thunks strictness (.reference docs target) value ↔
      strictness.unresolvedFails = false := by
  rw [Accepts, Scope.check, Scope.checkAt, scope_definitions, h]
  cases hfails : strictness.unresolvedFails <;>
    simp [Check.unresolvedTrace, hfails, Trace.violations, Event.violation?, Trace.problem]

/-- A combination accepts where as many members accept as it asks for. -/
theorem accepts_combined {docs : Documentation} {how : Combination} {members : List Node}
    {value : Json} :
    schema.Accepts thunks strictness (.combined docs how members) value ↔
      how.Asks (schema.Accepts thunks strictness · value) members := by
  rw [Accepts, Scope.check_combined, Check.violations_combine]
  rfl

/-- Finding nothing wrong is a reading of the schema. -/
theorem reading_accepts (hschema : schema.Contractive thunks)
    (hknown : ∀ node, schema.Contains thunks node → node.Known thunks)
    (hpatterns : ∀ node, schema.Contains thunks node → ∀ pattern, node.pattern? = some pattern →
      ∃ expression, Pattern.read pattern.toList = .ok expression) :
    schema.Reading thunks strictness (schema.Accepts thunks strictness) := by
  intro node value hnode
  cases node with
  | reference docs target =>
    cases hbody : schema.definitions.resolve? target with
    | none => simp [accepts_unresolved hbody, Node.Asks, hbody]
    | some body =>
      simp [Accepts, check_reference hschema hnode hbody, Node.Asks, hbody]
  | combined docs how members => exact accepts_combined
  | deferred thunk =>
    obtain ⟨name, rfl, hsome⟩ := hknown _ hnode
    obtain ⟨body, hbody⟩ := Option.isSome_iff_exists.mp hsome
    simp [Accepts, check_deferred hschema hnode hbody, Node.Asks, hbody]
  | _ =>
    rw [accepts_own rfl]
    exact (Check.asks_iff_own rfl (hknown _ hnode) (hpatterns _ hnode)).symm

/-- Two readings of a contractive schema agree. -/
theorem Reading.iff (hschema : schema.Contractive thunks) {conforms conforms' : Node → Json → Prop}
    (h : schema.Reading thunks strictness conforms)
    (h' : schema.Reading thunks strictness conforms') {node : Node}
    (hnode : schema.Contains thunks node) (value : Json) :
    conforms node value ↔ conforms' node value := by
  refine check_induction hschema (motive := fun node value => conforms node value ↔ conforms' node value)
    (fun node value hnode ih => ?_) hnode value
  rw [h node value hnode, h' node value hnode]
  exact Node.asks_congr ih

/-- A contractive schema of known kinds whose patterns can be read has one reading, and checks find
nothing wrong with exactly the values that conform to its root. -/
theorem check_eq_ok_nil_iff_conforms (schema : Schema) (thunks : Thunks) (strictness : Strictness)
    (hschema : schema.Contractive thunks)
    (hknown : ∀ node, schema.Contains thunks node → node.Known thunks)
    (hpatterns : ∀ node, schema.Contains thunks node → ∀ pattern, node.pattern? = some pattern →
      ∃ expression, Pattern.read pattern.toList = .ok expression) :
    schema.Reading thunks strictness (schema.Conforms thunks strictness) ∧
      ∀ value, (schema.check thunks strictness value).result = .ok [] ↔
        schema.Conforms thunks strictness schema.root value := by
  have hreading : schema.Reading thunks strictness (schema.Accepts thunks strictness) :=
    reading_accepts hschema hknown hpatterns
  have hconforms : ∀ node value, schema.Contains thunks node →
      (schema.Conforms thunks strictness node value ↔ schema.Accepts thunks strictness node value) := by
    intro node value hnode
    constructor
    · intro h
      exact h _ hreading
    · intro h conforms hother
      exact (Reading.iff hschema hreading hother hnode value).mp h
  refine ⟨fun node value hnode => ?_, fun value => ?_⟩
  · rw [hconforms node value hnode, hreading node value hnode]
    exact Node.asks_congr fun node' value' hnext => (hconforms node' value' (hnode.next hnext)).symm
  · rw [hconforms _ _ .root, Trace.result_eq_ok_nil_iff]
    refine and_iff_right (Trace.fault?_eq_none fun fault hmeets => ?_)
    obtain ⟨holder, hholder, hfault⟩ :=
      fault?_of_meets_checkAt hschema.lazily _ _ _ _ .root (fun _ _ => rfl) hmeets
    obtain ⟨pattern, hpattern, hfault⟩ := (hknown holder hholder).exists_pattern hfault
    obtain ⟨expression, hread⟩ := hpatterns holder hholder pattern hpattern
    simp [Pattern.fault?, hread] at hfault

/-- Trees of labels, whose definition refers to itself through a property. -/
def trees : Schema where
  root := .reference {} "#/definitions/tree"
  definitions := [("tree", .object {}
    [⟨"label", .string {} { pattern := some "^a" }, true⟩,
      ⟨"children", .array {} (some (.reference {} "#/definitions/tree")) {}, false⟩] {})]

/-- Trees of labels pass exactly if they conform. -/
theorem check_trees_eq_ok_nil_iff_conforms : trees.Reading [] {} (trees.Conforms [] {}) ∧
    ∀ value, (trees.check [] {} value).result = .ok [] ↔ trees.Conforms [] {} trees.root value := by
  have hmem : ∀ node, trees.Contains [] node → node ∈ [trees.root,
      .object {} [⟨"label", .string {} { pattern := some "^a" }, true⟩,
        ⟨"children", .array {} (some (.reference {} "#/definitions/tree")) {}, false⟩] {},
      .string {} { pattern := some "^a" },
      .array {} (some (.reference {} "#/definitions/tree")) {}] := fun node hnode =>
    hnode.mem_of_closed (by simp) (by simp [trees]) (by simp) (by simp [trees, Node.children])
  have hcontractive : trees.Contractive [] :=
    contractive_of_links_eq_nil (by simp [trees, Node.links]) (by simp)
  refine check_eq_ok_nil_iff_conforms trees [] {} hcontractive (fun node hnode => ?_)
    fun node hnode pattern hpattern => ?_
  · have hcases := hmem node hnode
    simp only [List.mem_cons, List.not_mem_nil, or_false] at hcases
    rcases hcases with rfl | rfl | rfl | rfl <;> trivial
  · have hcases := hmem node hnode
    simp only [List.mem_cons, List.not_mem_nil, or_false] at hcases
    rcases hcases with rfl | rfl | rfl | rfl <;> simp [Node.pattern?, trees] at hpattern
    subst hpattern
    exact ⟨_, rfl⟩

end Schema

end JsonSchema
