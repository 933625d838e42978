import JsonSchema.Proofs.Number.Rounding
import JsonSchema.Proofs.Validation.Faults
import JsonSchema.Proofs.Validation.Recursion
import Mathlib.Data.List.Forall2

/-!
# Values that mean the same

An object means the same in whatever order its members stand, and so does a number whether it is written
as an integer or as a double. What a check finds depends on this meaning only. Members are looked up by
their names and counted, and a number is compared with others by its place on the number line, exactly or
after rounding to a double. The one thing that still tells an integer from a double is the wording of a
value of the wrong kind, which names the kind. So traces are compared with both kinds of numbers taken for
one.
-/

namespace JsonSchema

/-- Values that differ only in the order of the members of objects and in whether numbers are integers or
doubles. No object has two members of one name. -/
inductive Json.Alike : Json → Json → Prop
  | null : Alike .null .null
  | bool (value : Bool) : Alike (.bool value) (.bool value)
  | string (text : String) : Alike (.string text) (.string text)
  | number {a b : Number} (h : a.same b = true) : Alike (.number a) (.number b)
  | array {items others : List Json} (h : List.Forall₂ Alike items others) :
      Alike (.array items) (.array others)
  | object {members sorted others : Entries Json} (hnames : Entries.names members = Entries.names sorted)
      (hvalues : List.Forall₂ Alike (members.map Prod.snd) (sorted.map Prod.snd))
      (horder : sorted.Perm others) (hdistinct : (Entries.names others).Nodup) :
      Alike (.object members) (.object others)

namespace Number

variable {a b : Number}

/-- Numbers are equal where their places are. -/
theorem same_iff : a.same b = true ↔ a.place = b.place := beq_iff_eq

/-- A number equals an integer where its place is a whole number of ones. -/
theorem isSome_toInt?_iff : a.toInt?.isSome = true ↔
    ∃ units : Int, a.place = some (.at units) ∧ (unitsPerOne : Int) ∣ units := by
  cases a with
  | int value => exact iff_of_true rfl ⟨_, rfl, Int.dvd_mul_left _ _⟩
  | double value =>
    cases value with
    | nan => exact iff_of_false Bool.false_ne_true (by rintro ⟨_, ⟨⟩, _⟩)
    | infinity negative =>
      exact iff_of_false Bool.false_ne_true (by cases negative <;> rintro ⟨_, ⟨⟩, _⟩)
    | finite negative units _ =>
      have hdvd : (unitsPerOne : Int) ∣ (if negative then -(units : Int) else units) ↔
          units % unitsPerOne = 0 := by
        rw [← Nat.dvd_iff_mod_eq_zero, ← Int.natCast_dvd_natCast]
        cases negative
        · rfl
        · exact Int.dvd_neg
      change (if units % unitsPerOne = 0 then _ else none : Option Int).isSome = true ↔ _
      by_cases h : units % unitsPerOne = 0
      · rw [if_pos h]
        exact iff_of_true rfl ⟨_, rfl, hdvd.mpr h⟩
      · rw [if_neg h]
        refine iff_of_false Bool.false_ne_true ?_
        rintro ⟨_, ⟨⟩, hunits⟩
        exact h (hdvd.mp hunits)

/-- Numbers of one place are integers alike. -/
theorem isSome_toInt?_congr (h : a.place = b.place) : a.toInt?.isSome = b.toInt?.isSome := by
  rw [Bool.eq_iff_iff, isSome_toInt?_iff, isSome_toInt?_iff, h]

/-- Numbers of one place stay at one place when they are rounded, so the order does not tell them apart. -/
theorem widenLt_congr (h : a.place = b.place) (bound : Number) :
    a.widenLt bound = b.widenLt bound ∧ bound.widenLt a = bound.widenLt b := by
  simp only [widenLt, lt, place_double, place_widen, h, and_self]

end Number

/-- The kind, where integers and doubles are of one kind. -/
def Kind.broad : Kind → Kind
  | .integer => .number
  | kind => kind

/-- The problem, where the kind of a value of the wrong kind is a broad one. -/
def Problem.broad : Problem → Problem
  | .misfit (.kind asked found) => .misfit (.kind asked found.broad)
  | problem => problem

/-- The violation with its broad problem. -/
def Violation.broad (violation : Violation) : Violation :=
  { violation with problem := violation.problem.broad }

/-- The event, where a violation is broad. -/
def Event.broad : Event → Event
  | .violation found => .violation found.broad
  | event => event

namespace Trace

/-- The trace of broad events. -/
def broad (trace : Trace) : Trace := trace.map Event.broad

/-- Traces in a row are broad one by one. -/
@[simp] theorem broad_append (first second : Trace) :
    broad (first ++ second) = broad first ++ broad second := List.map_append

/-- A segment in front changes no kind. -/
@[simp] theorem broad_under (segment : String) (trace : Trace) :
    broad (trace.under segment) = (broad trace).under segment := by
  simp only [broad, under, List.map_map]
  congr 1
  funext event
  cases event <;> rfl

/-- The violations of the broad trace are the broad violations. -/
@[simp] theorem violations_broad (trace : Trace) :
    violations (broad trace) = (violations trace).map Violation.broad := by
  rw [violations, violations, broad, List.filterMap_map, List.map_filterMap]
  congr 1
  funext event
  cases event <;> rfl

/-- Faults are no kinds of a value. -/
@[simp] theorem fault?_broad (trace : Trace) : fault? (broad trace) = fault? trace := by
  rw [fault?, fault?, broad, List.findSome?_map]
  congr 1
  funext event
  cases event <;> rfl

/-- Traces can be made broad in each part. -/
theorem partwise_broad : Partwise broad where
  nil := rfl
  append := broad_append
  silent trace := by
    rw [broad, broad, silent, silent, List.filter_map]
    congr 2
    funext event
    cases event <;> rfl
  accepts trace := by simp [accepts]
  tooFew := rfl
  tooMany := rfl

/-- Traces that are broadly equal have broadly equal results. -/
theorem result_broad_congr {first second : Trace} (h : first.broad = second.broad) :
    first.result.map (·.map Violation.broad) = second.result.map (·.map Violation.broad) := by
  have hresult : ∀ trace : Trace, trace.broad.result = trace.result.map (·.map Violation.broad) :=
    fun trace => by
      rw [result, result, fault?_broad, violations_broad]
      cases trace.fault? <;> rfl
  rw [← hresult, ← hresult, h]

end Trace

namespace Json.Alike

variable {value value' : Json}

/-- Alike values are broadly of one kind. -/
theorem kind (h : value.Alike value') : value.kind.broad = value'.kind.broad := by
  cases h with
  | @number a b => cases a <;> cases b <;> rfl
  | _ => rfl

/-- Under each name alike objects have alike members. -/
theorem find? {members others : Entries Json} (h : (Json.object members).Alike (.object others))
    (name : String) :
    Option.Rel Alike (Entries.find? name members) (Entries.find? name others) := by
  cases h with
  | object hnames hvalues horder hdistinct =>
    rw [← Entries.find?_perm horder hdistinct name]
    exact Entries.rel_find? (Entries.forall₂_of_names hnames hvalues) name

/-- Alike objects have as many members as each other. -/
theorem length_members {members others : Entries Json}
    (h : (Json.object members).Alike (.object others)) : members.length = others.length := by
  cases h with
  | object _ hvalues horder _ =>
    rw [← horder.length_eq]
    simpa using hvalues.length_eq

end Json.Alike

namespace Check

variable {value value' : Json}

/-- A value of the wrong kind is reported alike. -/
theorem broad_wrongKind (h : value.Alike value') (asked : Asked) :
    (wrongKind asked value).broad = (wrongKind asked value').broad := by
  simp [wrongKind, Trace.broad, Trace.problem, Event.broad, Violation.broad, Problem.broad, h.kind]

/-- Numbers of one place are checked alike. -/
theorem numberTrace_congr {a b : Number} (h : a.same b = true) (rules : NumberRules) :
    numberTrace rules a = numberTrace rules b := by
  have hplace := Number.same_iff.mp h
  have hsame : a.same = b.same := funext fun other => by rw [Number.same, Number.same, hplace]
  simp only [numberTrace, hsame, Number.widenLt_congr hplace]

/-- The same required properties are missing. -/
theorem missingTrace_congr {members others : Entries Json}
    (h : (Json.object members).Alike (.object others)) (properties : List (Property Node)) :
    missingTrace properties members = missingTrace properties others := by
  have hnone : ∀ name, (Entries.find? name members).isNone = (Entries.find? name others).isNone := by
    intro name
    have hrel := h.find? name
    generalize Entries.find? name members = found, Entries.find? name others = found' at hrel
    cases hrel <;> rfl
  simp only [missingTrace, hnone]

/-- What a node asks of alike values themselves is broadly the same. -/
theorem broad_ownTrace (h : value.Alike value') (strictness : Strictness) (node : Node) :
    (ownTrace strictness node value).broad = (ownTrace strictness node value').broad := by
  -- A value of another kind than the node asks for is reported alike, so only values of that kind remain.
  cases node with
  | object docs properties count =>
    have hkind := broad_wrongKind h .object
    cases h with
    | object hnames hvalues horder hdistinct =>
      have hobject := Json.Alike.object hnames hvalues horder hdistinct
      simp only [ownTrace, missingTrace_congr hobject, hobject.length_members]
    | _ => exact hkind
  | array docs items length =>
    have hkind := broad_wrongKind h .array
    cases h with
    | array hitems => simp only [ownTrace, hitems.length_eq]
    | _ => exact hkind
  | tuple docs items additional length =>
    have hkind := broad_wrongKind h .array
    cases h with
    | array hitems => simp only [ownTrace, hitems.length_eq]
    | _ => exact hkind
  | string docs rules =>
    have hkind := broad_wrongKind h .string
    cases h with
    | string text => rfl
    | _ => exact hkind
  | integer docs rules =>
    have hkind := broad_wrongKind h .integer
    cases h with
    | number hsame =>
      simp only [ownTrace, Number.isSome_toInt?_congr (Number.same_iff.mp hsame),
        numberTrace_congr hsame]
      split
      · rfl
      · exact hkind
    | _ => exact hkind
  | number docs rules =>
    have hkind := broad_wrongKind h .number
    cases h with
    | number hsame => simp only [ownTrace, numberTrace_congr hsame]
    | _ => exact hkind
  | boolean docs enum =>
    have hkind := broad_wrongKind h .boolean
    cases h with
    | bool value => rfl
    | _ => exact hkind
  | null docs =>
    have hkind := broad_wrongKind h .null
    cases h with
    | null => rfl
    | _ => exact hkind
  | _ => rfl

/-- Parts in the same place of values, with related values there. -/
def Part.Beside (R : Json → Json → Prop) (part other : Part) : Prop :=
  part.segment = other.segment ∧ part.node = other.node ∧ R part.value other.value

/-- Related items are checked against the same nodes. -/
theorem beside_itemParts {R : Json → Json → Prop} {items others : List Json}
    (h : List.Forall₂ R items others) (nodes : List Node) (additional : Option Node) (index : Nat) :
    List.Forall₂ (Part.Beside R) (itemParts nodes additional index items)
      (itemParts nodes additional index others) := by
  induction h generalizing nodes index with
  | nil => cases nodes <;> cases additional <;> exact .nil
  | cons hitem _ ih =>
    cases nodes with
    | cons node nodes => exact .cons ⟨rfl, rfl, hitem⟩ (ih nodes _)
    | nil =>
      cases additional with
      | none => exact .nil
      | some node => exact .cons ⟨rfl, rfl, hitem⟩ (ih [] _)

/-- Objects with related members under the declared names have the same declared properties. -/
theorem beside_propertyParts {R : Json → Json → Prop} {members others : Entries Json}
    {properties : List (Property Node)}
    (h : ∀ property ∈ properties,
      Option.Rel R (Entries.find? property.name members) (Entries.find? property.name others)) :
    List.Forall₂ (Part.Beside R) (propertyParts properties members)
      (propertyParts properties others) := by
  induction properties with
  | nil => exact .nil
  | cons property rest ih =>
    obtain ⟨hrel, hrest⟩ := List.forall_mem_cons.mp h
    have htail := ih hrest
    unfold propertyParts at htail ⊢
    rw [List.filterMap_cons, List.filterMap_cons]
    generalize Entries.find? property.name members = found,
      Entries.find? property.name others = found' at hrel
    cases hrel with
    | none => exact htail
    | some hvalue => exact .cons ⟨rfl, rfl, hvalue⟩ htail

/-- Parts in the same place of values, with alike values there. -/
def Part.Alike (part other : Part) : Prop :=
  part.segment = other.segment ∧ part.node = other.node ∧ part.value.Alike other.value

/-- Alike values have parts in the same places. -/
theorem alike_parts (h : value.Alike value') (node : Node) :
    List.Forall₂ Part.Alike (parts node value) (parts node value') := by
  cases node with
  | object docs properties count =>
    cases h with
    | object hnames hvalues horder hdistinct =>
      exact beside_propertyParts fun property _ =>
        (Json.Alike.object hnames hvalues horder hdistinct).find? property.name
    | _ => exact .nil
  | array docs items length =>
    cases h with
    | array hitems => exact beside_itemParts hitems _ _ _
    | _ => exact .nil
  | tuple docs items additional length =>
    cases h with
    | array hitems => exact beside_itemParts hitems _ _ _
    | _ => exact .nil
  | _ => cases h <;> exact .nil

end Check

/-- Alike values are broadly checked alike, whatever was followed or forced before. -/
theorem Scope.broad_checkAt (scope : Scope) (followable : List String) (pending : Thunks) (node : Node)
    (value : Json) {value' : Json} (h : value.Alike value') :
    (scope.checkAt followable pending node value).broad =
      (scope.checkAt followable pending node value').broad := by
  induction followable, pending, node, value using Scope.checkAt.induct scope generalizing value' with
  | case1 followable pending value docs target hnone =>
    rw [Scope.checkAt_unresolved hnone, Scope.checkAt_unresolved hnone]
  | case2 followable pending value docs target body hbody htarget _ ih =>
    rw [Scope.checkAt_followed hbody htarget, Scope.checkAt_followed hbody htarget]
    exact ih h
  | case3 followable pending value docs target body hbody hnot =>
    rw [Scope.checkAt_circular hbody hnot, Scope.checkAt_circular hbody hnot]
  | case4 followable pending value => rw [Scope.checkAt_noThunk, Scope.checkAt_noThunk]
  | case5 followable pending value thunk body hbody _ ih =>
    rw [Scope.checkAt_forced hbody, Scope.checkAt_forced hbody, Trace.broad_append,
      Trace.broad_append, ih h]
  | case6 followable pending value thunk hnone =>
    rw [Scope.checkAt_unforced hnone, Scope.checkAt_unforced hnone]
  | case7 followable pending value docs how members ih =>
    rw [Scope.checkAt_combined, Scope.checkAt_combined, Check.map_combine Trace.partwise_broad,
      Check.map_combine Trace.partwise_broad, List.map_map, List.map_map]
    exact congrArg (Check.combine how) (List.map_congr_left fun member hmember =>
      funext fun _ => ih member hmember h)
  | case8 followable pending value node href hnone hsome hcombined ih =>
    have hown := node.handsOn_eq_false href hnone hsome hcombined
    rw [Scope.checkAt_own hown, Scope.checkAt_own hown, Trace.broad_append, Trace.broad_append,
      Check.broad_ownTrace h, Trace.partwise_broad.flatMap, Trace.partwise_broad.flatMap]
    refine congrArg _ (flatMap_eq_of_forall₂ ((forall₂_mem (Check.alike_parts h node)).imp
      fun part part' halike => ?_))
    obtain ⟨hpart, -, hsegment, hnode, hvalue⟩ := halike
    rw [Trace.broad_under, Trace.broad_under, ← hsegment, ← hnode]
    exact congrArg _ (ih part hpart hvalue)

namespace Schema

/-- The results for alike values are broadly the same. -/
theorem result_broad_check (schema : Schema) (strictness : Strictness) {value value' : Json}
    (h : value.Alike value') :
    (schema.check [] strictness value).result.map (List.map Violation.broad) =
      (schema.check [] strictness value').result.map (List.map Violation.broad) :=
  Trace.result_broad_congr ((schema.scope [] strictness).broad_checkAt
    (schema.scope [] strictness).references [] schema.root value h)

/-- A fault for a value is one for every alike value. -/
theorem result_eq_error_of_alike {schema : Schema} {strictness : Strictness} {value value' : Json}
    (h : value.Alike value') {fault : Fault}
    (hvalue : (schema.check [] strictness value).result = .error fault) :
    (schema.check [] strictness value').result = .error fault := by
  have hbroad := schema.result_broad_check strictness h
  rw [hvalue] at hbroad
  cases hvalue' : (schema.check [] strictness value').result with
  | ok found' => simp [hvalue', Except.map] at hbroad
  | error fault' =>
    obtain rfl : fault = fault' := by simpa [hvalue', Except.map] using hbroad
    rfl

/-- Alike values get violations of the same pointers and problems in the same order, except that the kind
of a number of the wrong kind may be the other one. Or both checks end with the fault of a pattern in the
schema. -/
theorem check_alike (schema : Schema) (hknown : ∀ node, schema.Contains [] node → node.Known [])
    (strictness : Strictness) (value value' : Json) (h : value.Alike value') :
    (∃ found found', (schema.check [] strictness value).result = .ok found ∧
        (schema.check [] strictness value').result = .ok found' ∧
        found.map Violation.broad = found'.map Violation.broad) ∨
      ∃ node pattern fault, schema.Contains [] node ∧ node.pattern? = some pattern ∧
        Pattern.fault? pattern = some fault ∧
        (schema.check [] strictness value).result = .error fault ∧
        (schema.check [] strictness value').result = .error fault := by
  have hbroad := schema.result_broad_check strictness h
  cases hvalue : (schema.check [] strictness value).result with
  | ok found =>
    cases hvalue' : (schema.check [] strictness value').result with
    | ok found' =>
      rw [hvalue, hvalue'] at hbroad
      exact .inl ⟨found, found', rfl, rfl, Except.ok.inj hbroad⟩
    | error fault' => simp [hvalue, hvalue', Except.map] at hbroad
  | error fault =>
    obtain ⟨node, pattern, hnode, hpattern, hrefused⟩ :=
      exists_pattern_of_check_eq_error hknown hvalue
    exact .inr ⟨node, pattern, fault, hnode, hpattern, hrefused, rfl,
      result_eq_error_of_alike h hvalue⟩

/-- A count and a name. -/
def counted : Schema where
  root := .object {} [⟨"count", .integer {} {}, true⟩, ⟨"name", .string {} {}, true⟩] {}

/-- A count of three, and a zero in place of a name. -/
def unnamed : Json := .object [("count", .number (.int 3)), ("name", .number (.int 0))]

/-- The same in the other order, with doubles for integers, where the zero is negative. -/
def unnamedDoubles : Json :=
  .object [("name", .number (.double (.finite true 0 Double.representable_zero))),
    ("count", .number (.double (.ofInt 3)))]

/-- Alike values of a count and a name, with another kind in the place of the name. -/
theorem check_alike_unnamed :
    (counted.check [] {} unnamed).result =
      .ok [⟨["name"], .misfit (.kind .string .integer)⟩] ∧
    ((∃ found found', (counted.check [] {} unnamed).result = .ok found ∧
        (counted.check [] {} unnamedDoubles).result = .ok found' ∧
        found.map Violation.broad = found'.map Violation.broad) ∨
      ∃ node pattern fault, counted.Contains [] node ∧ node.pattern? = some pattern ∧
        Pattern.fault? pattern = some fault ∧
        (counted.check [] {} unnamed).result = .error fault ∧
        (counted.check [] {} unnamedDoubles).result = .error fault) := by
  have hmem : ∀ node, counted.Contains [] node → node ∈ [counted.root, .integer {} {}, .string {} {}] :=
    fun node hnode => hnode.mem_of_closed (by simp) (by simp [counted]) (by simp)
      (by simp [counted, Node.children])
  refine ⟨view_check_of_run 2 (by decide +kernel),
    check_alike counted (fun node hnode => ?_) {} unnamed unnamedDoubles ?_⟩
  · have hcases := hmem node hnode
    simp only [List.mem_cons, List.not_mem_nil, or_false] at hcases
    rcases hcases with rfl | rfl | rfl <;> trivial
  · have hthree : (Number.int 3).same (.double (.ofInt 3)) = true := by decide +kernel
    have hzero : (Number.int 0).same (.double (.finite true 0 Double.representable_zero)) = true := by
      decide +kernel
    exact @Json.Alike.object _ [("count", .number (.double (.ofInt 3))),
      ("name", .number (.double (.finite true 0 Double.representable_zero)))] _ rfl
      (.cons (.number hthree) (.cons (.number hzero) .nil)) (List.Perm.swap _ _ _)
      (by simp [Entries.names])

/-- A count and a name whose pattern exceeds the limit of repetitions. -/
def overcounted : Schema where
  root := .object {} [⟨"count", .integer {} {}, true⟩,
    ⟨"name", .string {} { pattern := some "a\x7b4294967295\x7d" }, true⟩] {}

/-- A count of zero beside an empty name. -/
def blank : Json := .object [("count", .number (.int 0)), ("name", .string "")]

/-- The same in the other order, with the negative zero of doubles. -/
def blankDouble : Json :=
  .object [("name", .string ""),
    ("count", .number (.double (.finite true 0 Double.representable_zero)))]

/-- The checks of alike values can both end with a fault, with no list to compare. -/
theorem check_overcounted_eq_error :
    (∀ node, overcounted.Contains [] node → node.Known []) ∧ blank.Alike blankDouble ∧
    (overcounted.check [] {} blank).result = .error .repetitionLimit ∧
    (overcounted.check [] {} blankDouble).result = .error .repetitionLimit := by
  have hmem : ∀ node, overcounted.Contains [] node → node ∈ [overcounted.root, .integer {} {},
      .string {} { pattern := some "a\x7b4294967295\x7d" }] :=
    fun node hnode => hnode.mem_of_closed (by simp) (by simp [overcounted]) (by simp)
      (by simp [overcounted, Node.children])
  have halike : blank.Alike blankDouble := by
    have hzero : (Number.int 0).same (.double (.finite true 0 Double.representable_zero)) = true := by
      decide +kernel
    exact @Json.Alike.object _ [("count", .number (.double (.finite true 0 Double.representable_zero))),
      ("name", .string "")] _ rfl
      (.cons (.number hzero) (.cons (.string "") .nil)) (List.Perm.swap _ _ _)
      (by simp [Entries.names])
  have hfault : (overcounted.check [] {} blank).result = .error .repetitionLimit :=
    view_check_of_run 2 (by decide +kernel)
  refine ⟨fun node hnode => ?_, halike, hfault, result_eq_error_of_alike halike hfault⟩
  have hcases := hmem node hnode
  simp only [List.mem_cons, List.not_mem_nil, or_false] at hcases
  rcases hcases with rfl | rfl | rfl <;> trivial

end Schema

end JsonSchema
