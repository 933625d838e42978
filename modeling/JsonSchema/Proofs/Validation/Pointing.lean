import JsonSchema.Proofs.Number.Rounding
import JsonSchema.Proofs.Validation.Place
import JsonSchema.Proofs.Validation.Recursion
import JsonSchema.Proofs.Validation.Traces

/-!
# Where violations point

The pointer of a violation is followed by member names and decimal item numbers. In the checked value
it always leads to some part, and that part is as the problem says: a text is too short, a property
is missing there, a number is beyond its bound even before rounding. Members of combinations are
checked at the same part, and what their checks find is not reported.
-/

namespace JsonSchema

namespace Json

/-- The parts of a value under the segments that lead to them: the members of an object under their
names, the items of an array under their numbers. -/
def entries : Json → Entries Json
  | .object members => members
  | .array items => items.zipIdx.map fun (item, index) => (Pointer.index index, item)
  | _ => []

/-- The part of a value that a pointer leads to. -/
def follow? : Json → Pointer → Option Json
  | value, [] => some value
  | value, segment :: rest => (Entries.find? segment value.entries).bind fun part => part.follow? rest

/-- What is counted in a value where bounds on counts apply: the items of an array, and the members of
an object if they are to be counted. -/
def counted? (strictness : Strictness) : Json → Option Nat
  | .array items => some items.length
  | .object members => if strictness.countsProperties then some members.length else none
  | _ => none

end Json

/-- What a problem says of the part that it was found in. How combinations failed, and why references
or patterns could not be used, is not said of the part. -/
def Problem.Tells (strictness : Strictness) (part : Json) : Problem → Prop
  | .shorterThan least => ∃ text, part = .string text ∧ (text.length : Int) < least
  | .longerThan greatest => ∃ text, part = .string text ∧ greatest < (text.length : Int)
  | .unmatchedPattern pattern => ∃ text, part = .string text ∧ Pattern.search pattern text = .ok false
  | .notInEnumeration => part.kind ∈ [Kind.string, .integer, .number, .boolean]
  | .missingProperty name => ∃ members, part = .object members ∧ Entries.find? name members = none
  | .fewerItemsThan least => ∃ count : Nat, part.counted? strictness = some count ∧ count < least
  | .moreItemsThan greatest => ∃ count : Nat, part.counted? strictness = some count ∧ greatest < count
  | .lessThan bound => ∃ number, part = .number number ∧ number.lt bound = true
  | .moreThan bound => ∃ number, part = .number number ∧ bound.lt number = true
  | .misfit (.kind _ found) => part.kind = found
  | _ => True

/-- Every violation of a trace points to a part of the value that is as the problem says. -/
def Trace.TrueOf (strictness : Strictness) (value : Json) (trace : Trace) : Prop :=
  ∀ violation ∈ trace.violations, ∃ part, value.follow? violation.pointer = some part ∧
    violation.problem.Tells strictness part

namespace Trace

variable {strictness : Strictness} {value : Json} {first second : Trace}

/-- Traces in a row are true exactly if each of them is. -/
@[simp] theorem trueOf_append : (first ++ second).TrueOf strictness value ↔
    first.TrueOf strictness value ∧ second.TrueOf strictness value := by
  simp only [TrueOf, violations_append, List.forall_mem_append]

/-- A note says nothing of the value. -/
@[simp] theorem trueOf_note {made : Note} :
    Trace.TrueOf strictness value (.note made :: first) ↔ first.TrueOf strictness value := Iff.rfl

/-- Traces in a row are true where each of them is. -/
theorem trueOf_flatMap {α : Type} {items : List α} {trace : α → Trace} :
    Trace.TrueOf strictness value (items.flatMap trace) ↔
      ∀ item ∈ items, (trace item).TrueOf strictness value := by
  simp only [TrueOf, violations_flatMap, List.mem_flatMap]
  exact ⟨fun h item hitem violation hviolation => h violation ⟨item, hitem, hviolation⟩,
    fun h violation ⟨item, hitem, hviolation⟩ => h item hitem violation hviolation⟩

/-- A trace without violations is true. -/
theorem trueOf_of_violations_eq_nil (h : first.violations = []) : first.TrueOf strictness value := by
  simp [TrueOf, h]

/-- A problem of the value itself is true where the value is as it says. -/
theorem trueOf_problem {found : Problem} (h : found.Tells strictness value) :
    Trace.TrueOf strictness value [problem found] := by
  intro violation hviolation
  obtain rfl := List.mem_singleton.mp hviolation
  exact ⟨value, rfl, h⟩

/-- A problem on a condition is true where the condition makes the value as it says. -/
theorem trueOf_problemIf {condition : Bool} {found : Problem}
    (h : condition = true → found.Tells strictness value) :
    (problemIf condition found).TrueOf strictness value := by
  cases condition with
  | true => exact trueOf_problem (h rfl)
  | false => exact trueOf_of_violations_eq_nil rfl

/-- What is true of a part is true of the value with the part's segment in front. -/
theorem TrueOf.under {part : Json} {segment : String} (h : first.TrueOf strictness part)
    (hpart : Entries.find? segment value.entries = some part) :
    (first.under segment).TrueOf strictness value := by
  intro violation hviolation
  rw [violations_under] at hviolation
  obtain ⟨inner, hinner, rfl⟩ := List.mem_map.mp hviolation
  obtain ⟨target, htarget, htells⟩ := h inner hinner
  exact ⟨target, by simp [Violation.under, Json.follow?, hpart, htarget], htells⟩

end Trace

namespace Check

open Trace

variable {strictness : Strictness} {value : Json}

/-- An item is found under its number, counted from where the numbers start. -/
theorem find?_zipIdx (items : List Json) (start index : Nat) :
    Entries.find? (Pointer.index (start + index))
        ((items.zipIdx start).map fun (item, number) => (Pointer.index number, item)) =
      items[index]? := by
  induction items generalizing start index with
  | nil => rfl
  | cons item rest ih =>
    rw [List.zipIdx_cons, List.map_cons, Entries.find?_cons]
    cases index with
    | zero => simp
    | succ index =>
      have hne : Pointer.index start ≠ Pointer.index (start + (index + 1)) := fun h => by
        have := Pointer.index_injective h
        omega
      rw [if_neg hne, show start + (index + 1) = start + 1 + index by omega, ih]
      rfl

/-- An item that is checked stands at the number of its segment. -/
theorem exists_of_mem_itemParts {nodes : List Node} {additional : Option Node} {start : Nat}
    {items : List Json} {part : Part} (h : part ∈ itemParts nodes additional start items) :
    ∃ index, part.segment = Pointer.index (start + index) ∧ items[index]? = some part.value := by
  induction items generalizing nodes start with
  | nil => simp [itemParts] at h
  | cons item rest ih =>
    have hhead : ∀ node, ∃ index, (Part.mk (Pointer.index start) node item).segment =
        Pointer.index (start + index) ∧ (item :: rest)[index]? = some item :=
      fun _ => ⟨0, rfl, rfl⟩
    have htail : ∀ nodes, part ∈ itemParts nodes additional (start + 1) rest →
        ∃ index, part.segment = Pointer.index (start + index) ∧
          (item :: rest)[index]? = some part.value := by
      intro nodes hmem
      obtain ⟨index, hsegment, hvalue⟩ := ih hmem
      exact ⟨index + 1, by rw [hsegment]; congr 1; omega, hvalue⟩
    cases nodes with
    | cons node nodes =>
      rcases List.mem_cons.mp (by simpa [itemParts] using h) with rfl | h
      · exact hhead node
      · exact htail nodes h
    | nil =>
      cases additional with
      | none => simp [itemParts] at h
      | some node =>
        rcases List.mem_cons.mp (by simpa [itemParts] using h) with rfl | h
        · exact hhead node
        · exact htail [] h

/-- A part that is checked is found in the value under its segment. -/
theorem find?_entries_of_mem_parts {node : Node} {part : Part} (h : part ∈ parts node value) :
    Entries.find? part.segment value.entries = some part.value := by
  have hitems : ∀ {nodes additional items}, part ∈ itemParts nodes additional 0 items →
      Entries.find? part.segment (Json.array items).entries = some part.value := by
    intro nodes additional items hmem
    obtain ⟨index, hsegment, hvalue⟩ := exists_of_mem_itemParts hmem
    rw [hsegment, ← hvalue]
    exact find?_zipIdx items 0 index
  unfold parts at h
  split at h
  · obtain ⟨property, -, hproperty⟩ := List.mem_filterMap.mp h
    obtain ⟨found, hfound, rfl⟩ := Option.map_eq_some_iff.mp hproperty
    exact hfound
  · exact hitems h
  · exact hitems h
  · simp at h

/-- A value of the wrong kind is of the kind that is reported. -/
theorem trueOf_wrongKind (asked : Asked) (value : Json) :
    (wrongKind asked value).TrueOf strictness value := trueOf_problem rfl

/-- A bound is reported truly where passing any limit makes the problem true of the value. -/
theorem trueOf_bound (found : Int → Problem) {bound : Option Int} {beyond : Int → Bool}
    (h : ∀ limit, beyond limit = true → (found limit).Tells strictness value) :
    (problemIf (bound.any beyond) (found (bound.getD 0))).TrueOf strictness value := by
  refine trueOf_problemIf fun hbeyond => ?_
  obtain ⟨limit, rfl, hlimit⟩ := (Option.any_eq_true _ _).mp hbeyond
  exact h limit hlimit

/-- Bounds on a count are reported of what is counted. -/
theorem trueOf_countTrace {count : Nat} {bounds : Bounds Int}
    (h : value.counted? strictness = some count) :
    (countTrace count bounds).TrueOf strictness value :=
  trueOf_append.mpr
    ⟨trueOf_bound .fewerItemsThan fun _ hfewer => ⟨count, h, of_decide_eq_true hfewer⟩,
      trueOf_bound .moreItemsThan fun _ hmore => ⟨count, h, of_decide_eq_true hmore⟩⟩

/-- Bounds on a length are reported of a text that they do not admit. -/
theorem trueOf_lengthTrace {text : String} {bounds : Bounds Int} :
    (lengthTrace text.length bounds).TrueOf strictness (.string text) :=
  trueOf_append.mpr
    ⟨trueOf_bound .shorterThan fun _ hshorter => ⟨text, rfl, of_decide_eq_true hshorter⟩,
      trueOf_bound .longerThan fun _ hlonger => ⟨text, rfl, of_decide_eq_true hlonger⟩⟩

/-- A pattern is reported of a text where the search for it fails. -/
theorem trueOf_patternTrace {pattern text : String} :
    (patternTrace pattern text).TrueOf strictness (.string text) := by
  unfold patternTrace
  split
  · exact trueOf_of_violations_eq_nil rfl
  · rename_i hsearch
    exact trueOf_problem ⟨text, rfl, hsearch⟩
  · exact trueOf_note.mpr (trueOf_problem trivial)
  all_goals exact trueOf_of_violations_eq_nil rfl

/-- What is reported of a text is true of it. -/
theorem trueOf_stringTrace {rules : StringRules} {text : String} :
    (stringTrace rules text).TrueOf strictness (.string text) := by
  refine trueOf_append.mpr ⟨trueOf_append.mpr ⟨trueOf_lengthTrace, ?_⟩, ?_⟩
  · cases rules.pattern with
    | none => exact trueOf_of_violations_eq_nil rfl
    | some pattern => exact trueOf_patternTrace
  · exact trueOf_problemIf fun _ => List.mem_cons_self

/-- A bound is reported of a number that is beyond it, and not only after rounding. -/
theorem trueOf_numberTrace {rules : NumberRules} {number : Number} :
    (numberTrace rules number).TrueOf strictness (.number number) := by
  refine trueOf_append.mpr ⟨trueOf_append.mpr ⟨trueOf_problemIf fun _ => ?_, ?_⟩, ?_⟩
  · cases number <;> simp [Problem.Tells, Json.kind]
  · cases rules.range.least with
    | none => exact trueOf_of_violations_eq_nil rfl
    | some least => exact trueOf_problemIf fun hless => ⟨number, rfl, Number.lt_of_widenLt hless⟩
  · cases rules.range.greatest with
    | none => exact trueOf_of_violations_eq_nil rfl
    | some greatest => exact trueOf_problemIf fun hmore => ⟨number, rfl, Number.lt_of_widenLt hmore⟩

/-- A property is reported missing of an object that does not have it. -/
theorem trueOf_missingTrace {properties : List (Property Node)} {members : Entries Json} :
    (missingTrace properties members).TrueOf strictness (.object members) := by
  have hrow : missingTrace properties members =
      (properties.filter fun property => property.required &&
        (Entries.find? property.name members).isNone).flatMap fun property =>
          [problem (.missingProperty property.name)] := List.map_eq_flatMap
  rw [hrow]
  refine trueOf_flatMap.mpr fun property hproperty => trueOf_problem ⟨members, rfl, ?_⟩
  have hmissing := (List.mem_filter.mp hproperty).2
  rw [Bool.and_eq_true, Option.isNone_iff_eq_none] at hmissing
  exact hmissing.2

/-- What a node reports of the value itself is true of the value. -/
theorem trueOf_ownTrace (node : Node) (value : Json) :
    (ownTrace strictness node value).TrueOf strictness value := by
  cases node with
  | object docs properties count =>
    cases value with
    | object members =>
      refine trueOf_append.mpr ⟨trueOf_missingTrace, ?_⟩
      cases hcounts : strictness.countsProperties with
      | false => exact trueOf_of_violations_eq_nil rfl
      | true => exact trueOf_countTrace (by simp [Json.counted?, hcounts])
    | _ => exact trueOf_wrongKind _ _
  | array docs items length =>
    cases value with
    | array values => exact trueOf_countTrace rfl
    | _ => exact trueOf_wrongKind _ _
  | tuple docs items additional length =>
    cases value with
    | array values => exact trueOf_countTrace rfl
    | _ => exact trueOf_wrongKind _ _
  | string docs rules =>
    cases value with
    | string text => exact trueOf_stringTrace
    | _ => exact trueOf_wrongKind _ _
  | integer docs rules =>
    cases value with
    | number number =>
      rw [ownTrace]
      split
      · exact trueOf_numberTrace
      · exact trueOf_wrongKind _ _
    | _ => exact trueOf_wrongKind _ _
  | number docs rules =>
    cases value with
    | number number => exact trueOf_numberTrace
    | _ => exact trueOf_wrongKind _ _
  | boolean docs enum =>
    cases value with
    | bool flag => exact trueOf_problemIf fun _ => by simp [Problem.Tells, Json.kind]
    | _ => exact trueOf_wrongKind _ _
  | null docs =>
    cases value with
    | null => exact trueOf_of_violations_eq_nil rfl
    | _ => exact trueOf_wrongKind _ _
  | _ => exact trueOf_of_violations_eq_nil (by cases value <;> rfl)

/-- A combination reports nothing of its members but how many accept. -/
theorem trueOf_combine {how : Combination} {members : List Member} :
    (combine how members).TrueOf strictness value := by
  have hsilent : ∀ trace : Trace, trace.silent.TrueOf strictness value :=
    fun trace => trueOf_of_violations_eq_nil (violations_silent trace)
  cases how with
  | oneOf =>
    exact trueOf_append.mpr ⟨trueOf_append.mpr ⟨trueOf_flatMap.mpr fun trace _ => hsilent trace,
      trueOf_problemIf fun _ => trivial⟩, trueOf_problemIf fun _ => trivial⟩
  | allOf =>
    exact trueOf_flatMap.mpr fun member _ =>
      trueOf_append.mpr ⟨hsilent _, trueOf_problemIf fun _ => trivial⟩
  | anyOf =>
    change (anyTrace members).TrueOf strictness value
    induction members with
    | nil => exact trueOf_problem trivial
    | cons member rest ih =>
      refine trueOf_append.mpr ⟨hsilent _, ?_⟩
      split
      · exact trueOf_of_violations_eq_nil rfl
      · exact ih

end Check

/-- What a check reports is true where it points, whatever was followed or forced before. -/
theorem Scope.trueOf_checkAt (scope : Scope) (followable : List String) (pending : Thunks)
    (node : Node) (value : Json) :
    (scope.checkAt followable pending node value).TrueOf scope.strictness value := by
  induction followable, pending, node, value using Scope.checkAt.induct scope with
  | case1 followable pending value docs target hnone =>
    rw [Scope.checkAt_unresolved hnone, Check.unresolvedTrace, Trace.trueOf_note]
    split
    · exact Trace.trueOf_problem trivial
    · exact Trace.trueOf_of_violations_eq_nil rfl
  | case2 followable pending value docs target body hbody htarget _ ih =>
    rw [Scope.checkAt_followed hbody htarget]
    exact ih
  | case3 followable pending value docs target body hbody hnot =>
    rw [Scope.checkAt_circular hbody hnot]
    exact Trace.trueOf_problem trivial
  | case4 followable pending value =>
    rw [Scope.checkAt_noThunk]
    exact Trace.trueOf_of_violations_eq_nil rfl
  | case5 followable pending value thunk body hbody _ ih =>
    rw [Scope.checkAt_forced hbody]
    exact Trace.trueOf_append.mpr ⟨Trace.trueOf_of_violations_eq_nil (by simp), ih⟩
  | case6 followable pending value thunk hnone =>
    rw [Scope.checkAt_unforced hnone]
    exact Trace.trueOf_of_violations_eq_nil rfl
  | case7 followable pending value docs how members _ =>
    rw [Scope.checkAt_combined]
    exact Check.trueOf_combine
  | case8 followable pending value node href hnone hsome hcombined ih =>
    rw [Scope.checkAt_own (node.handsOn_eq_false href hnone hsome hcombined)]
    exact Trace.trueOf_append.mpr ⟨Check.trueOf_ownTrace node value,
      Trace.trueOf_flatMap.mpr fun part hpart =>
        (ih part hpart).under (Check.find?_entries_of_mem_parts hpart)⟩

/-- Every violation that is reported of a value points to a part of it, and that part is as the problem
says. -/
theorem Schema.tells_of_check_eq_ok (schema : Schema) (thunks : Thunks) (strictness : Strictness)
    (value : Json) (violations : List Violation)
    (h : (schema.check thunks strictness value).result = .ok violations) :
    ∀ violation ∈ violations, ∃ part, value.follow? violation.pointer = some part ∧
      violation.problem.Tells strictness part := by
  unfold Trace.result at h
  split at h
  · cases h
  · cases h
    exact Scope.trueOf_checkAt _ _ _ _ _

/-- Labelled rows of short texts, where the rows are checked by reference. -/
def Schema.rows : Schema where
  root := .object {} [⟨"label", .string {} {}, true⟩,
    ⟨"rows", .array {} (some (.reference {} "row")) {}, false⟩] {}
  definitions := [("row", .array {} (some (.string {} { length := ⟨none, some 2⟩, pattern := some "^a" }))
    ⟨none, some 1⟩)]

/-- A missing label, a row that is too long, and in it a text that is too long and has the wrong start. -/
theorem Schema.tells_of_check_rows :
    (rows.check [] {} (.object [("rows", .array [.array [.string "bcd", .string "a"]])])).result =
        .ok [⟨[], .missingProperty "label"⟩, ⟨["rows", "0"], .moreItemsThan 1⟩,
          ⟨["rows", "0", "0"], .longerThan 2⟩, ⟨["rows", "0", "0"], .unmatchedPattern "^a"⟩] ∧
      ∃ part, (Json.object [("rows", .array [.array [.string "bcd", .string "a"]])]).follow?
        ["rows", "0", "0"] = some part ∧ (Problem.unmatchedPattern "^a").Tells {} part :=
  have hresult : (rows.check [] {}
      (.object [("rows", .array [.array [.string "bcd", .string "a"]])])).result =
      .ok [⟨[], .missingProperty "label"⟩, ⟨["rows", "0"], .moreItemsThan 1⟩,
        ⟨["rows", "0", "0"], .longerThan 2⟩, ⟨["rows", "0", "0"], .unmatchedPattern "^a"⟩] :=
    view_check_of_run 5 (by decide +kernel)
  ⟨hresult, tells_of_check_eq_ok rows [] {} _ _ hresult ⟨["rows", "0", "0"], .unmatchedPattern "^a"⟩
    (by simp)⟩

end JsonSchema
