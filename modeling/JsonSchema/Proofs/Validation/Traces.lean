import JsonSchema.Validation.Check

/-!
# Traces in parts

The violations of a trace and the faults in it are those of its parts, and a combination accepts a
value by the number of its members that do. Traces without their notes tell all that a result
depends on, and traces that are alike in this sense can stand for each other in every check. What a node
asks of the value itself causes events of a few forms, and a combination adds none but problems of its own.
-/

namespace JsonSchema

namespace Trace

/-- The empty trace has no violations. -/
@[simp] theorem violations_nil : violations [] = [] := rfl

/-- Traces in a row have the violations of the first, then those of the second. -/
@[simp] theorem violations_append (first second : Trace) :
    violations (first ++ second) = violations first ++ violations second :=
  List.filterMap_append

/-- The violations of traces in a row. -/
theorem violations_flatMap {α : Type} (items : List α) (trace : α → Trace) :
    violations (items.flatMap trace) = items.flatMap fun item => violations (trace item) :=
  List.filterMap_flatMap

/-- Violations are moved under a segment one by one. -/
@[simp] theorem violations_under (segment : String) (trace : Trace) :
    violations (trace.under segment) = (violations trace).map (·.under segment) := by
  rw [violations, violations, under, List.filterMap_map, List.map_filterMap]
  congr 1
  funext event
  cases event <;> rfl

/-- A trace without its violations has none. -/
@[simp] theorem violations_silent (trace : Trace) : violations trace.silent = [] := by
  simp only [violations, silent, List.filterMap_eq_nil_iff, List.mem_filter, and_imp]
  intro event _ hsilent
  cases event <;> simp_all [Event.isSilent, Event.violation?]

/-- Notes are no violations. -/
@[simp] theorem violations_notes (notes : List Note) : violations (notes.map .note) = [] := by
  simp [violations, Event.violation?]

/-- A problem that is met is one violation, at the place itself. -/
@[simp] theorem violations_problemIf (condition : Bool) (found : Problem) :
    violations (problemIf condition found) = if condition then [⟨[], found⟩] else [] := by
  cases condition <;> rfl

/-- A check accepts when it finds no violation. -/
theorem accepts_iff {trace : Trace} : trace.accepts = true ↔ trace.violations = [] :=
  List.isEmpty_iff

/-- The result is empty where there is neither a violation nor a fault. -/
theorem result_eq_ok_nil_iff {trace : Trace} :
    trace.result = .ok [] ↔ trace.fault? = none ∧ trace.violations = [] := by
  unfold result
  cases trace.fault? <;> simp

/-- Traces in a row end with nothing wrong where each of them does. -/
@[simp] theorem result_append_eq_ok_nil {first second : Trace} :
    (first ++ second).result = .ok [] ↔ first.result = .ok [] ∧ second.result = .ok [] := by
  simp only [result_eq_ok_nil_iff, fault?, List.findSome?_append, Option.or_eq_none_iff,
    violations_append, List.append_eq_nil_iff]
  exact and_and_and_comm

/-- Some event of the trace is the fault. -/
def Meets (trace : Trace) (fault : Fault) : Prop := Event.fault fault ∈ trace

/-- A trace has no first fault where it meets none. -/
theorem fault?_eq_none {trace : Trace} (h : ∀ fault, ¬ trace.Meets fault) :
    trace.fault? = none := by
  refine List.findSome?_eq_none_iff.mpr fun event hevent => ?_
  cases event with
  | fault met => exact absurd hevent (h met)
  | _ => rfl

/-- The first fault of a trace is met in it. -/
theorem meets_of_fault? {trace : Trace} {fault : Fault} (h : trace.fault? = some fault) :
    trace.Meets fault := by
  obtain ⟨event, hevent, hfault⟩ := List.exists_of_findSome?_eq_some h
  cases event <;> simp_all [Event.fault?, Meets]

/-- The empty trace meets no fault. -/
@[simp] theorem not_meets_nil {fault : Fault} : ¬ Trace.Meets [] fault := List.not_mem_nil

/-- Traces in a row meet a fault exactly if one of them does. -/
@[simp] theorem meets_append {first second : Trace} {fault : Fault} :
    (first ++ second).Meets fault ↔ first.Meets fault ∨ second.Meets fault := List.mem_append

/-- Notes meet no fault. -/
@[simp] theorem meets_notes {notes : List Note} {fault : Fault} :
    ¬ Trace.Meets (notes.map .note) fault := by
  simp [Meets]

/-- A problem is no fault. -/
@[simp] theorem meets_problemIf {condition : Bool} {found : Problem} {fault : Fault} :
    ¬ (problemIf condition found).Meets fault := by
  cases condition <;> simp [Meets, problemIf, problem]

/-- Faults have no place. -/
@[simp] theorem meets_under {segment : String} {trace : Trace} {fault : Fault} :
    (trace.under segment).Meets fault ↔ trace.Meets fault := by
  simp only [Meets, under, List.mem_map]
  constructor
  · rintro ⟨event, hevent, heq⟩
    cases event <;> simp_all [Event.under]
  · intro h
    exact ⟨_, h, rfl⟩

/-- Silence keeps faults. -/
@[simp] theorem meets_silent {trace : Trace} {fault : Fault} :
    trace.silent.Meets fault ↔ trace.Meets fault := by
  simp [Meets, silent, Event.isSilent]

/-- A fault in traces in a row is met in one of them. -/
theorem meets_flatMap {α : Type} {items : List α} {trace : α → Trace} {fault : Fault} :
    Trace.Meets (items.flatMap trace) fault ↔ ∃ item ∈ items, (trace item).Meets fault :=
  List.mem_flatMap

/-- The trace without its notes. -/
def bare (trace : Trace) : Trace := trace.filter fun event => event.note?.isNone

/-- The empty trace is bare. -/
@[simp] theorem bare_nil : bare [] = [] := rfl

/-- Traces in a row are bare one by one. -/
@[simp] theorem bare_append (first second : Trace) :
    bare (first ++ second) = bare first ++ bare second := List.filter_append first second

/-- Nothing is left of notes. -/
@[simp] theorem bare_notes (notes : List Note) : bare (notes.map .note) = [] := by
  simp [bare, Event.note?]

/-- A problem has no notes. -/
@[simp] theorem bare_problemIf (condition : Bool) (found : Problem) :
    bare (problemIf condition found) = problemIf condition found := by
  cases condition <;> rfl

/-- A segment can be put in front before or after. -/
@[simp] theorem bare_under (segment : String) (trace : Trace) :
    bare (trace.under segment) = (bare trace).under segment := by
  rw [bare, bare, under, under, List.filter_map]
  congr 2
  funext event
  cases event <;> rfl

/-- What is silenced can be bared before or after. -/
@[simp] theorem bare_silent (trace : Trace) : bare trace.silent = (bare trace).silent := by
  simp only [bare, silent, List.filter_filter, Bool.and_comm]

/-- A bare trace keeps its violations. -/
@[simp] theorem violations_bare (trace : Trace) : violations (bare trace) = violations trace := by
  rw [violations, violations, bare, List.filterMap_filter]
  congr 1
  funext event
  cases event <;> rfl

/-- It keeps its first fault. -/
@[simp] theorem fault?_bare (trace : Trace) : fault? (bare trace) = fault? trace := by
  induction trace with
  | nil => rfl
  | cons event rest ih =>
    cases event with
    | violation found => exact ih
    | note made => exact ih
    | fault met => rfl

/-- It accepts what the whole trace accepts. -/
@[simp] theorem accepts_bare (trace : Trace) : accepts (bare trace) = accepts trace := by
  simp [accepts]

/-- A change of traces that can be made in each part of a trace, and that changes neither which parts are
violations nor the problems of combinations. -/
structure Partwise (f : Trace → Trace) : Prop where
  nil : f [] = []
  append : ∀ first second, f (first ++ second) = f first ++ f second
  silent : ∀ trace, f (silent trace) = (f trace).silent
  accepts : ∀ trace, (f trace).accepts = trace.accepts
  tooFew : f [problem .tooFewMatches] = [problem .tooFewMatches]
  tooMany : f [problem .tooManyMatches] = [problem .tooManyMatches]

/-- Traces in a row are changed one by one. -/
theorem Partwise.flatMap {α : Type} {f : Trace → Trace} (h : Partwise f) (items : List α)
    (trace : α → Trace) : f (items.flatMap trace) = items.flatMap fun item => f (trace item) := by
  induction items with
  | nil => exact h.nil
  | cons item rest ih => rw [List.flatMap_cons, h.append, ih, List.flatMap_cons]

/-- Notes can be left out in each part. -/
theorem partwise_bare : Partwise bare where
  nil := rfl
  append := bare_append
  silent := bare_silent
  accepts := accepts_bare
  tooFew := rfl
  tooMany := rfl

/-- Traces in a row are bare one by one. -/
theorem bare_flatMap {α : Type} (items : List α) (trace : α → Trace) :
    bare (items.flatMap trace) = items.flatMap fun item => bare (trace item) :=
  partwise_bare.flatMap items trace

/-- The result of a check does not depend on its notes. -/
theorem result_congr {first second : Trace} (h : first.bare = second.bare) :
    first.result = second.result := by
  have hresult : ∀ trace : Trace, trace.bare.result = trace.result := fun trace => by simp [result]
  rw [← hresult first, h, hresult]

/-- The first fault of traces in a row is that of the first one that has any. -/
@[simp] theorem fault?_append (first second : Trace) :
    fault? (first ++ second) = (fault? first).or (fault? second) := List.findSome?_append

/-- A problem is not the first fault. -/
@[simp] theorem fault?_problemIf (condition : Bool) (found : Problem) :
    fault? (problemIf condition found) = none := by
  cases condition <;> rfl

/-- Silence keeps the first fault. -/
@[simp] theorem fault?_silent (trace : Trace) : fault? trace.silent = fault? trace := by
  induction trace with
  | nil => rfl
  | cons event rest ih =>
    cases event with
    | violation found => exact ih
    | note made => exact ih
    | fault met => rfl

/-- The first fault of traces in a row depends on the first fault of each only. -/
theorem fault?_flatMap_congr {α : Type} {items : List α} {first second : α → Trace}
    (h : ∀ item, fault? (first item) = fault? (second item)) :
    fault? (items.flatMap first) = fault? (items.flatMap second) := by
  induction items with
  | nil => rfl
  | cons item rest ih => rw [List.flatMap_cons, List.flatMap_cons, fault?_append, fault?_append, h, ih]

/-- Traces in a row have their results in a row, up to the first fault. -/
theorem result_append (first second : Trace) : (first ++ second).result = do
    let found ← first.result
    let others ← second.result
    return found ++ others := by
  simp only [result, fault?_append, violations_append]
  cases fault? first <;> cases fault? second <;> rfl

/-- The violations of a trace without faults are its result. -/
theorem result_eq_ok {trace : Trace} (h : ∀ fault, ¬ trace.Meets fault) :
    trace.result = .ok trace.violations := by
  rw [result, fault?_eq_none h]

/-- A result without a fault is that of the violations of a trace that meets none. -/
theorem result_eq_ok_iff {trace : Trace} {found : List Violation} :
    trace.result = .ok found ↔ (∀ fault, ¬ trace.Meets fault) ∧ trace.violations = found := by
  constructor
  · intro h
    unfold result at h
    split at h
    · cases h
    · rename_i hnone
      cases h
      refine ⟨fun fault hmeets => ?_, rfl⟩
      have hevent := List.findSome?_eq_none_iff.mp hnone _ hmeets
      simp [Event.fault?] at hevent
  · rintro ⟨hnone, rfl⟩
    exact result_eq_ok hnone

/-- The fault that a check ends with is met in it. -/
theorem meets_of_result_eq_error {trace : Trace} {fault : Fault} (h : trace.result = .error fault) :
    trace.Meets fault := by
  unfold result at h
  split at h
  · rename_i met hmet
    cases h
    exact meets_of_fault? hmet
  · cases h

/-- Without its violations a trace ends with the same fault or with nothing. -/
theorem result_silent (trace : Trace) : trace.silent.result = trace.result.map fun _ => [] := by
  rw [result, result, fault?_silent, violations_silent]
  cases fault? trace <;> rfl

/-- Results are moved under a segment as traces are. -/
theorem result_under (segment : String) (trace : Trace) :
    (trace.under segment).result = trace.result.map (·.map (·.under segment)) := by
  have hfault : (trace.under segment).fault? = trace.fault? := by
    rw [fault?, fault?, under, List.findSome?_map]
    congr 1
    funext event
    cases event <;> rfl
  rw [result, result, hfault, violations_under]
  cases trace.fault? <;> rfl

/-- The results of traces, up to the first fault. -/
theorem mapM_result {α : Type} (items : List α) (trace : α → Trace) :
    items.mapM (fun item => (trace item).result) =
      match fault? (items.flatMap trace) with
      | some fault => .error fault
      | none => .ok (items.map fun item => (trace item).violations) := by
  induction items with
  | nil => rfl
  | cons item rest ih =>
    rw [List.mapM_cons, ih, List.flatMap_cons]
    simp only [result, fault?_append]
    cases fault? (trace item) <;> cases fault? (rest.flatMap trace) <;> rfl

/-- The result of traces in a row. -/
theorem result_flatMap {α : Type} (items : List α) (trace : α → Trace) :
    Trace.result (items.flatMap trace) = do
      let found ← items.mapM fun item => (trace item).result
      return found.flatten := by
  rw [mapM_result, result, violations_flatMap]
  cases fault? (items.flatMap trace) with
  | some fault => rfl
  | none => exact congrArg Except.ok List.flatMap_def

end Trace

/-- A search ends with what the reading of the pattern refuses it for, and with nothing else. -/
theorem Pattern.search_eq_error_iff {pattern text : String} {refusal : Pattern.Refusal} :
    Pattern.search pattern text = .error refusal ↔ Pattern.read pattern.toList = .error refusal := by
  unfold Pattern.search
  cases Pattern.read pattern.toList <;> simp [Except.map]

/-- A plain problem is none of a reference or a pattern that cannot be used, and its wording is not
given. -/
def Problem.Plain : Problem → Prop
  | .misfit (.kind _ _) => True
  | .misfit _ => False
  | _ => True

/-- The pattern that a node asks for in strings. -/
def Node.pattern? : Node → Option String
  | .string _ rules => rules.pattern
  | _ => none

/-- The bounds of a pair that are given. -/
def Bounds.toList {α : Type} (bounds : Bounds α) : List α :=
  bounds.least.toList ++ bounds.greatest.toList

/-- The integers among the bounds that a node asks for. -/
def Node.limits : Node → List Int
  | .object _ _ count => count.toList
  | .array _ _ length | .tuple _ _ _ length => length.toList
  | .string _ rules => rules.length.toList
  | .integer _ rules | .number _ rules => rules.range.toList.filterMap Number.numeral?
  | _ => []

namespace Check

/-- The members of a combination that are asked whether they accept a value. -/
abbrev Member.accepts (member : Member) : Bool := (member ()).accepts

/-- At least one member accepts. -/
theorem violations_anyTrace {members : List Member} :
    (anyTrace members).violations = [] ↔ ∃ member ∈ members, member.accepts = true := by
  induction members with
  | nil => simp [anyTrace, Trace.violations, Trace.problem, Event.violation?]
  | cons member rest ih =>
    cases haccepts : member.accepts with
    | true => simp [anyTrace, haccepts]
    | false => simp [anyTrace, haccepts, ih]

/-- All members accept. -/
theorem violations_allTrace {members : List Member} :
    (allTrace members).violations = [] ↔ ∀ member ∈ members, member.accepts = true := by
  simp [allTrace, Trace.violations_flatMap, List.flatMap_eq_nil_iff]

/-- Exactly one member accepts. -/
theorem violations_oneTrace {members : List Member} :
    (oneTrace members).violations = [] ↔ members.countP Member.accepts = 1 := by
  have hcount : (members.map fun member => member ()).countP Trace.accepts =
      members.countP Member.accepts := by
    rw [List.countP_map]
    rfl
  simp only [oneTrace, Trace.violations_append, Trace.violations_flatMap,
    Trace.violations_problemIf, hcount]
  by_cases hzero : members.countP Member.accepts = 0
  · simp [hzero]
  · by_cases hmany : 1 < members.countP Member.accepts
    · simp [hmany]
      omega
    · simp [hzero, hmany]
      omega

/-- A fault in a combination is one of a member that is tried. All members are, except that those of an
`anyOf` are tried up to the first that accepts only. -/
theorem meets_combine_iff {how : Combination} {members : List Member} {fault : Fault} :
    (combine how members).Meets fault ↔ ∃ before member after, members = before ++ member :: after ∧
      (how = .anyOf → ∀ earlier ∈ before, earlier.accepts = false) ∧ (member ()).Meets fault := by
  have hall : (∃ member ∈ members, (member ()).Meets fault) ↔ ∃ before member after,
      members = before ++ member :: after ∧ (member ()).Meets fault := by
    constructor
    · rintro ⟨member, hmember, hmeets⟩
      obtain ⟨before, after, rfl⟩ := List.append_of_mem hmember
      exact ⟨before, member, after, rfl, hmeets⟩
    · rintro ⟨before, member, after, rfl, hmeets⟩
      exact ⟨member, by simp, hmeets⟩
  cases how with
  | oneOf => simpa [combine, oneTrace, List.flatMap_map, Trace.meets_flatMap] using hall
  | allOf => simpa [combine, allTrace, Trace.meets_flatMap] using hall
  | anyOf =>
    clear hall
    change (anyTrace members).Meets fault ↔ _
    induction members with
    | nil => simp [anyTrace, Trace.Meets, Trace.problem]
    | cons member rest ih =>
      have hcons : (anyTrace (member :: rest)).Meets fault ↔
          (member ()).Meets fault ∨ member.accepts = false ∧ (anyTrace rest).Meets fault := by
        cases haccepts : (member ()).accepts <;> simp [anyTrace, haccepts]
      rw [hcons, ih]
      constructor
      · rintro (hmeets | ⟨haccepts, before, other, after, rfl, hearlier, hmeets⟩)
        · exact ⟨[], member, rest, rfl, by simp, hmeets⟩
        · exact ⟨member :: before, other, after, rfl,
            fun _ => List.forall_mem_cons.mpr ⟨haccepts, hearlier rfl⟩, hmeets⟩
      · rintro ⟨before, other, after, heq, hearlier, hmeets⟩
        cases before with
        | nil =>
          obtain ⟨rfl, -⟩ := List.cons.inj heq
          exact .inl hmeets
        | cons first before =>
          obtain ⟨rfl, rfl⟩ := List.cons.inj heq
          obtain ⟨haccepts, hbefore⟩ := List.forall_mem_cons.mp (hearlier rfl)
          exact .inr ⟨haccepts, before, other, after, rfl, fun _ => hbefore, hmeets⟩

/-- A combination of changed members is the changed combination. -/
theorem map_combine {f : Trace → Trace} (h : Trace.Partwise f) (how : Combination)
    (members : List Member) :
    f (combine how members) = combine how (members.map fun member () => f (member ())) := by
  have hfew : ∀ condition, f (Trace.problemIf condition .tooFewMatches) =
      Trace.problemIf condition .tooFewMatches := fun condition => by
    cases condition
    · exact h.nil
    · exact h.tooFew
  have hmany : ∀ condition, f (Trace.problemIf condition .tooManyMatches) =
      Trace.problemIf condition .tooManyMatches := fun condition => by
    cases condition
    · exact h.nil
    · exact h.tooMany
  cases how with
  | oneOf =>
    simp [combine, oneTrace, h.append, h.flatMap, h.silent, h.accepts, hfew, hmany,
      List.flatMap_map, List.countP_map, Function.comp_def]
  | allOf => simp [combine, allTrace, h.append, h.flatMap, h.silent, h.accepts, hfew, List.flatMap_map]
  | anyOf =>
    change f (anyTrace members) = anyTrace _
    induction members with
    | nil => exact h.tooFew
    | cons member rest ih =>
      cases haccepts : (member ()).accepts with
      | true => simp [anyTrace, h.silent, h.accepts, haccepts]
      | false => simp [anyTrace, h.append, h.silent, h.accepts, haccepts, ih]

/-- Without notes a combination is one of its members without notes. -/
theorem bare_combine (how : Combination) (members : List Member) :
    (combine how members).bare = combine how (members.map fun member () => (member ()).bare) :=
  map_combine Trace.partwise_bare how members

/-- An event that a node with this pattern, if any, and these bounds can cause by what it asks of the value
itself: a plain problem at the value, which spells no integer but a bound, a complaint about the pattern, the
note of it, or a fault. -/
inductive Own (pattern? : Option String) (limits : List Int) : Event → Prop
  | problem {found : Problem} (h : found.Plain)
      (hlimits : ∀ limit, found.numeral? = some limit → limit ∈ limits) :
      Own pattern? limits (Trace.problem found)
  | complaint {pattern : String} {complaint : Pattern.Complaint} {place : Option Nat}
      (hpattern : pattern? = some pattern)
      (h : Pattern.read pattern.toList = .error (.complaint complaint place)) :
      Own pattern? limits (Trace.problem (.misfit
        (.badPattern pattern (Pattern.complaintText pattern.toList complaint place))))
  | badPattern (pattern wording : String) : Own pattern? limits (.note (.badPattern pattern wording))
  | fault (met : Fault) : Own pattern? limits (.fault met)

section Own

variable {pattern? : Option String} {limits : List Int}

/-- A plain problem that spells no integer is one at the value. -/
theorem own_problem {found : Problem} (h : found.Plain) (hnumeral : found.numeral? = none) :
    Own pattern? limits (Trace.problem found) :=
  .problem h fun limit hlimit => by cases hnumeral.symm.trans hlimit

/-- Such a problem on a condition is one at the value. -/
theorem own_problemIf {condition : Bool} {found : Problem} (h : found.Plain)
    (hnumeral : found.numeral? = none) :
    ∀ event ∈ Trace.problemIf condition found, Own pattern? limits event := by
  cases condition with
  | true => exact List.forall_mem_singleton.mpr (own_problem h hnumeral)
  | false => exact List.forall_mem_nil _

/-- A problem that spells a bound is found only where the bound is given. -/
theorem own_boundIf {bound : Option Int} {misses : Int → Bool} {found : Int → Problem}
    (h : ∀ limit, (found limit).Plain) (hnumeral : ∀ limit, (found limit).numeral? = some limit)
    (hbound : ∀ limit ∈ bound.toList, limit ∈ limits) :
    ∀ event ∈ Trace.problemIf (bound.any misses) (found (bound.getD 0)), Own pattern? limits event := by
  cases bound with
  | none => exact List.forall_mem_nil _
  | some limit =>
    change ∀ event ∈ Trace.problemIf (misses limit) (found limit), Own pattern? limits event
    cases misses limit with
    | false => exact List.forall_mem_nil _
    | true =>
      refine List.forall_mem_singleton.mpr (.problem (h limit) fun other hother => ?_)
      obtain rfl := Option.some_inj.mp ((hnumeral limit).symm.trans hother)
      exact hbound limit (List.mem_singleton.mpr rfl)

/-- A pattern causes a problem at the value, a note of its own, or a fault. -/
theorem own_patternTrace {pattern : String} (hpattern : pattern? = some pattern) (text : String) :
    ∀ event ∈ patternTrace pattern text, Own pattern? limits event := by
  unfold patternTrace
  split
  · exact List.forall_mem_nil _
  · exact List.forall_mem_singleton.mpr (own_problem trivial rfl)
  · rename_i hsearch
    have hread := Pattern.search_eq_error_iff.mp hsearch
    exact List.forall_mem_cons.mpr
      ⟨.badPattern _ _, List.forall_mem_singleton.mpr (.complaint hpattern hread)⟩
  all_goals exact List.forall_mem_singleton.mpr (.fault _)

/-- A value of the wrong kind causes a plain problem. -/
theorem own_wrongKind (asked : Asked) (value : Json) :
    ∀ event ∈ wrongKind asked value, Own pattern? limits event :=
  List.forall_mem_singleton.mpr (own_problem trivial rfl)

/-- A count causes problems that spell its bounds. -/
theorem own_countTrace (count : Nat) (bounds : Bounds Int) :
    ∀ event ∈ countTrace count bounds, Own pattern? bounds.toList event :=
  List.forall_mem_append.mpr
    ⟨own_boundIf (fun _ => trivial) (fun _ => rfl) fun _ => List.mem_append_left _,
      own_boundIf (fun _ => trivial) (fun _ => rfl) fun _ => List.mem_append_right _⟩

/-- The length of a string causes problems that spell its bounds. -/
theorem own_lengthTrace (length : Nat) (bounds : Bounds Int) :
    ∀ event ∈ lengthTrace length bounds, Own pattern? bounds.toList event :=
  List.forall_mem_append.mpr
    ⟨own_boundIf (fun _ => trivial) (fun _ => rfl) fun _ => List.mem_append_left _,
      own_boundIf (fun _ => trivial) (fun _ => rfl) fun _ => List.mem_append_right _⟩

/-- A string causes events of its length, of its pattern and of its enumeration. -/
theorem own_stringTrace (rules : StringRules) (text : String) :
    ∀ event ∈ stringTrace rules text, Own rules.pattern rules.length.toList event := by
  refine List.forall_mem_append.mpr ⟨List.forall_mem_append.mpr
    ⟨own_lengthTrace _ _, ?_⟩, own_problemIf trivial rfl⟩
  split
  · rename_i pattern hpattern
    exact own_patternTrace hpattern text
  · exact List.forall_mem_nil _

/-- A problem that spells an integer bound of a number is found only where that is the bound. -/
theorem own_rangeIf {condition : Bool} {bound : Number} {found : Problem} (h : found.Plain)
    (hnumeral : found.numeral? = bound.numeral?)
    (hbound : ∀ limit, bound.numeral? = some limit → limit ∈ limits) :
    ∀ event ∈ Trace.problemIf condition found, Own pattern? limits event := by
  cases condition with
  | true =>
    exact List.forall_mem_singleton.mpr
      (.problem h fun limit hlimit => hbound limit (hnumeral.symm.trans hlimit))
  | false => exact List.forall_mem_nil _

/-- A number causes problems of its enumeration and problems that spell its bounds. -/
theorem own_numberTrace (rules : NumberRules) (value : Number) :
    ∀ event ∈ numberTrace rules value,
      Own pattern? (rules.range.toList.filterMap Number.numeral?) event := by
  refine List.forall_mem_append.mpr ⟨List.forall_mem_append.mpr ⟨own_problemIf trivial rfl, ?_⟩, ?_⟩
  · cases hleast : rules.range.least with
    | none => exact List.forall_mem_nil _
    | some least =>
      refine own_rangeIf trivial rfl fun limit hlimit => List.mem_filterMap.mpr ⟨least, ?_, hlimit⟩
      exact List.mem_append_left _ (by simp [hleast])
  · cases hgreatest : rules.range.greatest with
    | none => exact List.forall_mem_nil _
    | some greatest =>
      refine own_rangeIf trivial rfl fun limit hlimit => List.mem_filterMap.mpr ⟨greatest, ?_, hlimit⟩
      exact List.mem_append_right _ (by simp [hgreatest])

end Own

/-- What a node asks of the value itself causes such events only. -/
theorem own_ownTrace (strictness : Strictness) (node : Node) (value : Json) :
    ∀ event ∈ ownTrace strictness node value, Own node.pattern? node.limits event := by
  unfold ownTrace
  split
  · refine List.forall_mem_append.mpr ⟨?_, ?_⟩
    · exact List.forall_mem_map.mpr fun _ _ => own_problem trivial rfl
    · split
      · exact own_countTrace _ _
      · exact List.forall_mem_nil _
  · exact own_wrongKind _ _
  · exact own_countTrace _ _
  · exact own_wrongKind _ _
  · exact own_countTrace _ _
  · exact own_wrongKind _ _
  · exact own_stringTrace _ _
  · exact own_wrongKind _ _
  · split
    · exact own_numberTrace _ _
    · exact own_wrongKind _ _
  · exact own_wrongKind _ _
  · exact own_numberTrace _ _
  · exact own_wrongKind _ _
  · exact own_problemIf trivial rfl
  · exact own_wrongKind _ _
  · exact List.forall_mem_nil _
  · exact own_wrongKind _ _
  · exact List.forall_mem_singleton.mpr (.fault _)
  · exact List.forall_mem_nil _

/-- An event of a combination is one of a member that is no violation, or a problem of its own. -/
theorem mem_combine {how : Combination} {members : List Member} {event : Event}
    (h : event ∈ combine how members) :
    (∃ member ∈ members, event ∈ (member ()).silent) ∨ Own none [] event := by
  have hif {condition : Bool} {found : Problem} (hmem : event ∈ Trace.problemIf condition found)
      (hfound : found.Plain) (hnumeral : found.numeral? = none) : Own none [] event :=
    own_problemIf hfound hnumeral event hmem
  cases how with
  | oneOf =>
    simp only [combine, oneTrace, List.flatMap_map, List.mem_append, List.mem_flatMap] at h
    rcases h with (hmember | hfew) | hmany
    · exact .inl hmember
    · exact .inr (hif hfew trivial rfl)
    · exact .inr (hif hmany trivial rfl)
  | allOf =>
    simp only [combine, allTrace, List.mem_flatMap, List.mem_append] at h
    obtain ⟨member, hmember, hsilent | hfew⟩ := h
    · exact .inl ⟨member, hmember, hsilent⟩
    · exact .inr (hif hfew trivial rfl)
  | anyOf =>
    change event ∈ anyTrace members at h
    induction members with
    | nil =>
      obtain rfl := List.mem_singleton.mp h
      exact .inr (own_problem trivial rfl)
    | cons member rest ih =>
      rcases List.mem_append.mp h with hsilent | hrest
      · exact .inl ⟨member, List.mem_cons_self, hsilent⟩
      · split at hrest
        · cases hrest
        · exact (ih hrest).imp_left fun ⟨other, hother, hevent⟩ =>
            ⟨other, List.mem_cons_of_mem _ hother, hevent⟩

end Check

end JsonSchema
