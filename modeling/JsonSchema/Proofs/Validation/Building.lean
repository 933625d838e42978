import JsonSchema.Proofs.Validation.Faults
import JsonSchema.Proofs.Validation.Recursion
import JsonSchema.Proofs.Validation.Relevance
import JsonSchema.Schema.Assembly

/-!
# Checks of built schemas

A schema that is built from schemas merges their definitions. Where the merged definitions agree with
those of each schema on what it mentions, a check against the whole is made of the checks against the
schemas: an object or array reports what it asks of the value itself and then what each schema on its own
finds in its part, and a combination reports what follows from which schemas on their own accept the
value. Faults are kept as well: the first one in this order ends the check.
-/

namespace JsonSchema

/-- A call of one of the functions that build a schema from schemas. -/
inductive Construction where
  | object (docs : Documentation) (properties : List (Property Schema)) (count : Bounds Int)
  | array (docs : Documentation) (items : Option Schema) (length : Bounds Int)
  | tuple (docs : Documentation) (items : List Schema) (additional : Option Schema)
      (length : Bounds Int)
  | combined (docs : Documentation) (how : Combination) (members : List Schema)

/-- The result of trying members up to the first that accepts. -/
def firstAccepting : List (Except Fault (List Violation)) → Except Fault (List Violation)
  | [] => return [⟨[], .tooFewMatches⟩]
  | result :: rest => do
    let found ← result
    if found.isEmpty then return [] else firstAccepting rest

/-- The result of a combination, from the results of its members. -/
def Combination.verdict (results : List (Except Fault (List Violation))) :
    Combination → Except Fault (List Violation)
  | .oneOf => do
    let found ← results.mapM id
    let accepting := found.countP List.isEmpty
    return if accepting = 0 then [⟨[], .tooFewMatches⟩]
      else if 1 < accepting then [⟨[], .tooManyMatches⟩] else []
  | .anyOf => firstAccepting results
  | .allOf => do
    let found ← results.mapM id
    return (found.filter (!·.isEmpty)).map fun _ => ⟨[], .tooFewMatches⟩

namespace Construction

/-- The schema that is built. -/
def build : Construction → Noted Schema
  | .object docs properties count => Schema.object docs properties count
  | .array docs items length => Schema.array docs items length
  | .tuple docs items additional length => Schema.tuple docs items additional length
  | .combined docs how members => Schema.combined docs how members

/-- The schemas that it is built from. -/
def schemas : Construction → List Schema
  | .object _ properties _ => properties.map (·.schema)
  | .array _ items _ => items.toList
  | .tuple _ items additional _ => items ++ additional.toList
  | .combined _ _ members => members

/-- A part of a value with the schema for it and the segment that leads to it. -/
structure Part where
  segment : String
  schema : Schema
  value : Json

/-- The result of the schema for a part, seen from the whole value. -/
def Part.result (thunks : Thunks) (strictness : Strictness) (part : Part) :
    Except Fault (List Violation) :=
  (part.schema.check thunks strictness part.value).result.map (·.map (·.under part.segment))

/-- The items of an array with the schemas for them: one for each of the first items, and another for
the others. -/
def items (first : List Schema) (others : Option Schema) (values : List Json) : List Part :=
  values.zipIdx.filterMap fun (value, index) =>
    (first[index]?.or others).map fun schema => ⟨Pointer.index index, schema, value⟩

/-- The parts of a value that the schemas are for. -/
def parts : Construction → Json → List Part
  | .object _ properties _, .object members =>
    properties.filterMap fun property =>
      (Entries.find? property.name members).map fun value => ⟨property.name, property.schema, value⟩
  | .array _ others _, .array values => items [] others values
  | .tuple _ first others _, .array values => items first others values
  | _, _ => []

/-- The result of a check against the whole, from the results of the schemas on their own. -/
def result (thunks : Thunks) (strictness : Strictness) :
    Construction → Json → Except Fault (List Violation)
  | .combined _ how members, value =>
    how.verdict (members.map fun member => (member.check thunks strictness value).result)
  | construction, value => do
    let own := (Check.ownTrace strictness construction.build.value.root value).violations
    let found ← (construction.parts value).mapM (Part.result thunks strictness)
    return own ++ found.flatten

end Construction

namespace Check

/-- The items of an array that are checked, from the index of each. -/
theorem itemParts_eq (nodes : List Node) (additional : Option Node) (start : Nat) (items : List Json) :
    itemParts nodes additional start items = items.zipIdx.filterMap fun (item, index) =>
      (nodes[index]?.or additional).map fun node => ⟨Pointer.index (start + index), node, item⟩ := by
  induction items generalizing nodes start with
  | nil => rfl
  | cons item rest ih =>
    have hshift : ∀ index, start + 1 + index = start + (index + 1) := by omega
    rw [List.zipIdx_cons, List.zipIdx_succ, List.filterMap_cons, List.filterMap_map]
    cases nodes with
    | cons node nodes => simp [itemParts, ih, hshift]
    | nil =>
      cases additional with
      | some node => simp [itemParts, ih, hshift]
      | none => simp [itemParts]

/-- All members are tried for exactly one that accepts. -/
theorem result_oneTrace (members : List Member) :
    (oneTrace members).result =
      Combination.oneOf.verdict (members.map fun member => (member ()).result) := by
  have hfault : (oneTrace members).fault? =
      Trace.fault? (members.flatMap fun member => member ()) := by
    simp only [oneTrace, Trace.fault?_append, Trace.fault?_problemIf, Option.or_none,
      List.flatMap_map]
    exact Trace.fault?_flatMap_congr fun member => Trace.fault?_silent _
  have hcount : (members.map fun member => (member ()).violations).countP List.isEmpty =
      (members.map fun member => member ()).countP Trace.accepts := by
    rw [List.countP_map, List.countP_map]
    rfl
  rw [Combination.verdict, List.mapM_map, Function.id_comp, Trace.mapM_result, Trace.result, hfault]
  cases Trace.fault? (members.flatMap fun member => member ()) with
  | some fault => rfl
  | none =>
    refine congrArg Except.ok ?_
    simp only [oneTrace, hcount, Trace.violations_append, Trace.violations_flatMap,
      Trace.violations_silent, Trace.violations_problemIf, beq_iff_eq, decide_eq_true_eq]
    generalize (members.map fun member => member ()).countP Trace.accepts = accepting
    by_cases hnone : accepting = 0
    · simp [hnone]
    · simp [hnone]

/-- Members are tried up to the first that accepts. -/
theorem result_anyTrace (members : List Member) :
    (anyTrace members).result =
      Combination.anyOf.verdict (members.map fun member => (member ()).result) := by
  induction members with
  | nil => rfl
  | cons member rest ih =>
    change _ = do
      let found ← (member ()).result
      if found.isEmpty then return []
        else Combination.anyOf.verdict (rest.map fun member : Member => (member ()).result)
    rw [← ih, anyTrace, Trace.result_append, Trace.result_silent, Trace.result]
    cases (member ()).fault? with
    | some fault => rfl
    | none =>
      change _ = if (member ()).accepts then _ else _
      cases (member ()).accepts with
      | true => rfl
      | false => exact bind_pure (anyTrace rest).result

/-- All members are tried, and each that rejects is reported. -/
theorem result_allTrace (members : List Member) :
    (allTrace members).result =
      Combination.allOf.verdict (members.map fun member => (member ()).result) := by
  have hfault : (allTrace members).fault? =
      Trace.fault? (members.flatMap fun member => member ()) :=
    Trace.fault?_flatMap_congr fun member => by simp
  rw [Combination.verdict, List.mapM_map, Function.id_comp, Trace.mapM_result, Trace.result, hfault]
  cases Trace.fault? (members.flatMap fun member => member ()) with
  | some fault => rfl
  | none =>
    refine congrArg Except.ok ?_
    rw [allTrace, Trace.violations_flatMap]
    clear hfault
    induction members with
    | nil => rfl
    | cons member rest ih =>
      rw [List.flatMap_cons, ih, List.map_cons, List.filter_cons]
      cases haccepts : (member ()).accepts <;> simp_all [Trace.accepts]

/-- The result of a combination follows from the results of its members. -/
theorem result_combine (how : Combination) (members : List Member) :
    (combine how members).result = how.verdict (members.map fun member => (member ()).result) := by
  cases how with
  | oneOf => exact result_oneTrace members
  | anyOf => exact result_anyTrace members
  | allOf => exact result_allTrace members

end Check

namespace Construction

variable {thunks : Thunks} {strictness : Strictness}

/-- The items of an array for nodes are those for the schemas, checked against the roots. -/
theorem itemParts_roots (first : List Schema) (others : Option Schema) (values : List Json) :
    Check.itemParts (first.map (·.root)) (others.map (·.root)) 0 values =
      (items first others values).map fun part => ⟨part.segment, part.schema.root, part.value⟩ := by
  rw [Check.itemParts_eq, items, List.map_filterMap]
  congr 1
  funext (value, index)
  simp [← Option.map_or, Function.comp_def]

/-- The parts of a value for the built node are those for the schemas, checked against the roots. -/
theorem parts_build (construction : Construction) (value : Json) :
    Check.parts construction.build.value.root value =
      (construction.parts value).map fun part => ⟨part.segment, part.schema.root, part.value⟩ := by
  cases construction with
  | object docs properties count =>
    cases value with
    | object members =>
      change Check.propertyParts _ members = _
      rw [Check.propertyParts, parts, List.filterMap_map, List.map_filterMap]
      congr 1
      funext property
      simp [Function.comp_def]
    | _ => rfl
  | array docs others length =>
    cases value with
    | array values => exact itemParts_roots [] others values
    | _ => rfl
  | tuple docs first others length =>
    cases value with
    | array values => exact itemParts_roots first others values
    | _ => rfl
  | combined docs how members => rfl

/-- What a built node asks of the value itself is no fault. -/
theorem result_ownTrace (construction : Construction) (value : Json) :
    (Check.ownTrace strictness construction.build.value.root value).result =
      .ok (Check.ownTrace strictness construction.build.value.root value).violations := by
  refine Trace.result_eq_ok fun fault hmeets => ?_
  have hfault : construction.build.value.root.fault? [] = some fault :=
    Check.fault?_of_meets_ownTrace hmeets
  cases construction <;> exact absurd (show none = some fault from hfault) (by simp)

/-- The nodes inside the built node are the roots of the schemas. -/
theorem children_build (construction : Construction) :
    construction.build.value.root.children = construction.schemas.map (·.root) := by
  cases construction with
  | object docs properties count =>
    change (properties.map _).map _ = (properties.map _).map _
    rw [List.map_map, List.map_map]
    rfl
  | array docs others length => cases others <;> rfl
  | tuple docs first others length =>
    change first.map (·.root) ++ (others.map (·.root)).toList = (first ++ others.toList).map (·.root)
    cases others <;> simp
  | combined docs how members => rfl

/-- Every schema that it is built from has its root in the whole. -/
theorem contains_root {construction : Construction} {schema : Schema}
    (h : schema ∈ construction.schemas) :
    construction.build.value.Contains thunks schema.root :=
  .child .root (by rw [children_build]; exact List.mem_map_of_mem h)

/-- The schema for an item is one of the first or the one for the others. -/
theorem mem_of_mem_items {first : List Schema} {others : Option Schema} {values : List Json}
    {part : Part} (h : part ∈ items first others values) :
    part.schema ∈ first ++ others.toList := by
  obtain ⟨⟨value, index⟩, -, hpart⟩ := List.mem_filterMap.mp h
  obtain ⟨schema, hschema, rfl⟩ := Option.map_eq_some_iff.mp hpart
  rcases Option.or_eq_some_iff.mp hschema with hfirst | ⟨-, hother⟩
  · exact List.mem_append_left _ (List.mem_of_getElem? hfirst)
  · exact List.mem_append_right _ (Option.mem_toList.mpr hother)

/-- The schema for a part is one of those that it is built from. -/
theorem mem_schemas_of_mem_parts {construction : Construction} {value : Json}
    {part : Part} (h : part ∈ construction.parts value) : part.schema ∈ construction.schemas := by
  unfold parts at h
  split at h
  · obtain ⟨property, hmem, hproperty⟩ := List.mem_filterMap.mp h
    obtain ⟨found, -, rfl⟩ := Option.map_eq_some_iff.mp hproperty
    exact List.mem_map_of_mem hmem
  · simpa [schemas] using mem_of_mem_items h
  · exact mem_of_mem_items h
  · simp at h

/-- What a built object or array finds is what it asks of the value itself, and then what the schemas
find in the parts. -/
theorem result_check_parts {construction : Construction}
    (hown : construction.build.value.root.handsOn = false)
    (h : ∀ schema ∈ construction.schemas,
      schema.AgreesWith thunks construction.build.value.definitions) (value : Json) :
    (construction.build.value.check thunks strictness value).result = do
      let own := (Check.ownTrace strictness construction.build.value.root value).violations
      let found ← (construction.parts value).mapM (Part.result thunks strictness)
      return own ++ found.flatten := by
  have hparts : ∀ part ∈ construction.parts value,
      (((construction.build.value.scope thunks strictness).check part.schema.root part.value).under
        part.segment).result = part.result thunks strictness := by
    intro part hpart
    have hschema := mem_schemas_of_mem_parts hpart
    rw [Trace.result_under, (h _ hschema).result_check (contains_root hschema), Part.result]
  have hcheck : construction.build.value.check thunks strictness value =
      Check.ownTrace strictness construction.build.value.root value ++
        (construction.parts value).flatMap fun part =>
          ((construction.build.value.scope thunks strictness).check part.schema.root
            part.value).under part.segment := by
    refine (Scope.check_own hown).trans (congrArg _ ?_)
    rw [parts_build, List.flatMap_map]
    rfl
  have hfound := congrArg (List.mapM id) (List.map_congr_left hparts)
  rw [List.mapM_map, List.mapM_map, Function.id_comp, Function.id_comp] at hfound
  rw [hcheck, Trace.result_append, result_ownTrace, Trace.result_flatMap, hfound]
  cases (construction.parts value).mapM (Part.result thunks strictness) <;> rfl

/-- A check against a built schema is made of the checks against the schemas on their own, where the
definitions that come with it agree with those of each schema on what it mentions. -/
theorem result_check_build (construction : Construction) (thunks : Thunks) (strictness : Strictness)
    (h : ∀ schema ∈ construction.schemas,
      schema.AgreesWith thunks construction.build.value.definitions) (value : Json) :
    (construction.build.value.check thunks strictness value).result =
      construction.result thunks strictness value := by
  cases construction with
  | combined docs how members =>
    refine (congrArg Trace.result Scope.check_combined).trans ?_
    rw [Check.result_combine, List.map_map, List.map_map]
    exact congrArg how.verdict (List.map_congr_left fun member hmember =>
      (h member hmember).result_check (contains_root hmember) value)
  | _ => exact result_check_parts rfl h value

/-- A tree with a name, where a definition that the tree does not mention is replaced by the one that
the name refers to. -/
def namedTree : Construction :=
  .object {}
    [⟨"tree", ⟨.reference {} "tree", [("name", .null {}),
        ("tree", .object {} [⟨"size", .boolean {} none, true⟩, ⟨"left", .reference {} "tree", false⟩] {})]⟩,
        true⟩,
      ⟨"name", ⟨.reference {} "name", [("name", .string {} { length := ⟨some 1, none⟩ })]⟩, false⟩] {}

/-- A tree that lacks a size at both levels, beside a name that is too short. -/
theorem result_check_build_namedTree :
    (namedTree.build.value.check [] {} (.object [("tree", .object [("left", .object [])]),
        ("name", .string "")])).result =
      .ok [⟨["tree"], .missingProperty "size"⟩, ⟨["tree", "left"], .missingProperty "size"⟩,
        ⟨["name"], .shorterThan 1⟩] := by
  have htree : (Schema.check ⟨.reference {} "tree", [("name", .null {}), ("tree", .object {}
        [⟨"size", .boolean {} none, true⟩, ⟨"left", .reference {} "tree", false⟩] {})]⟩ [] {}
      (.object [("left", .object [])])).result =
      .ok [⟨[], .missingProperty "size"⟩, ⟨["left"], .missingProperty "size"⟩] :=
    Schema.view_check_of_run 4 (by decide +kernel)
  have hname : (Schema.check ⟨.reference {} "name", [("name", .string {} { length := ⟨some 1, none⟩ })]⟩
      [] {} (.string "")).result = .ok [⟨[], .shorterThan 1⟩] :=
    Schema.view_check_of_run 2 (by decide +kernel)
  have hresult : namedTree.result [] {} (.object [("tree", .object [("left", .object [])]),
        ("name", .string "")]) =
      .ok [⟨["tree"], .missingProperty "size"⟩, ⟨["tree", "left"], .missingProperty "size"⟩,
        ⟨["name"], .shorterThan 1⟩] := by
    simp only [result, namedTree, parts, Entries.find?, ↓reduceIte, Option.map_some, Option.some.injEq,
      List.filterMap_cons_some, List.filterMap_nil, String.reduceEq, List.mapM_cons, Part.result, htree,
      hname]
    rfl
  refine (result_check_build namedTree [] {} (fun schema hschema => ?_) _).trans hresult
  rintro target ⟨docs, huses⟩
  simp only [schemas, namedTree, List.map_cons, List.map_nil, List.mem_cons, List.not_mem_nil,
    or_false] at hschema
  rcases hschema with rfl | rfl
  · have hmem : Node.reference docs target ∈ [.reference {} "tree", .boolean {} none,
        .object {} [⟨"size", .boolean {} none, true⟩, ⟨"left", .reference {} "tree", false⟩] {}] :=
      huses.mem_of_closed (by simp) (by simp [Node.children])
        (fun docs target htarget body hbody => ?_) (by simp)
    · obtain ⟨rfl, rfl⟩ : docs = {} ∧ target = "tree" := by simpa using hmem
      rfl
    · obtain ⟨rfl, rfl⟩ : docs = {} ∧ target = "tree" := by simpa using htarget
      obtain rfl := Option.some_inj.mp hbody
      simp
  · have hmem : Node.reference docs target ∈ [.reference {} "name",
        .string {} { length := ⟨some 1, none⟩ }] :=
      huses.mem_of_closed (by simp) (by simp [Node.children])
        (fun docs target htarget body hbody => ?_) (by simp)
    · obtain ⟨rfl, rfl⟩ : docs = {} ∧ target = "name" := by simpa using hmem
      rfl
    · obtain ⟨rfl, rfl⟩ : docs = {} ∧ target = "name" := by simpa using htarget
      obtain rfl := Option.some_inj.mp hbody
      simp

end Construction

end JsonSchema
