import JsonSchema.Proofs.Document.Requirement
import JsonSchema.Proofs.Validation.Faults
import JsonSchema.Proofs.Validation.Recursion

/-!
# What a check visits

What a check finds in the turns that it enters it reports, each under the pointer that leads there. Only
the members of combinations are not entered but tried: a trial is a check of its own, of which only counts
whether it found anything.

The schema of a document has no nodes that are at fault but for a pattern. So a check ends well exactly
where no pattern that it comes to at a string is at fault, and then every pattern that is refused with a
complaint is reported where it was met, in the list of the check or of the trial that met it.
-/

namespace JsonSchema

open Check

namespace Scope

/-- A turn visits itself and what is entered from there on, where pointers are put together. Members of
combinations are not visited. -/
inductive Visits (scope : Scope) : Turn → Pointer → Turn → Prop
  | here (turn : Turn) : Visits scope turn [] turn
  | through {turn next last : Turn} {pointer rest : Pointer} (h : scope.Enters turn pointer next)
      (hrest : Visits scope next rest last) : Visits scope turn (pointer ++ rest) last

/-- A list of violations reports every pattern that a turn visits and that is refused with a complaint. -/
def Reports (scope : Scope) (turn : Turn) (found : List Violation) : Prop :=
  ∀ pointer last pattern complaint position, scope.Visits turn pointer last →
    last.pattern? = some pattern →
    Pattern.read pattern.toList = .error (.complaint complaint position) →
    ⟨pointer, .misfit (.badPattern pattern
      (Pattern.complaintText pattern.toList complaint position))⟩ ∈ found

variable {scope : Scope} {turn next last : Turn} {pointer : Pointer}

/-- What is found in a turn that is entered is found under the pointer. -/
theorem Enters.mem_violations (h : scope.Enters turn pointer next) {found : Violation}
    (hfound : found ∈ (scope.trace next).violations) :
    { found with pointer := pointer ++ found.pointer } ∈ (scope.trace turn).violations := by
  cases h with
  | part hpart =>
    rw [trace_of_mem_parts hpart, Trace.violations_append, Trace.violations_flatMap]
    refine List.mem_append_right _ (List.mem_flatMap.mpr ⟨_, hpart, ?_⟩)
    rw [Trace.violations_under]
    exact List.mem_map.mpr ⟨found, hfound, rfl⟩
  | followed hbody htarget => rwa [trace, checkAt_followed hbody htarget]
  | forced hbody =>
    rw [trace, checkAt_forced hbody, Trace.violations_append]
    exact List.mem_append_right _ hfound

/-- What is found in a turn that is visited is found under the pointer. -/
theorem Visits.mem_violations (h : scope.Visits turn pointer last) {found : Violation}
    (hfound : found ∈ (scope.trace last).violations) :
    { found with pointer := pointer ++ found.pointer } ∈ (scope.trace turn).violations := by
  induction h with
  | here => exact hfound
  | through hnext _ ih => simpa using hnext.mem_violations (ih hfound)

/-- A pattern that is refused with a complaint is reported in its turn. -/
theorem mem_violations_of_pattern? {pattern : String} {complaint : Pattern.Complaint}
    {position : Option Nat} (h : turn.pattern? = some pattern)
    (hread : Pattern.read pattern.toList = .error (.complaint complaint position)) :
    ⟨[], .misfit (.badPattern pattern (Pattern.complaintText pattern.toList complaint position))⟩ ∈
      (scope.trace turn).violations := by
  obtain ⟨text, hsubset⟩ := mem_trace_of_pattern? h
  refine List.mem_filterMap.mpr ⟨Trace.problem _, hsubset ?_, rfl⟩
  simp [patternTrace, Pattern.search, hread, Except.map, Trace.problem]

/-- Without a fault a turn ends with a list that reports what it has to. -/
theorem reports_of_result {found : List Violation} (h : (scope.trace turn).result = .ok found) :
    scope.Reports turn found := by
  obtain ⟨-, rfl⟩ := Trace.result_eq_ok_iff.mp h
  intro pointer last pattern complaint position hvisits hpattern hread
  simpa using hvisits.mem_violations (mem_violations_of_pattern? hpattern hread)

end Scope

namespace Schema

variable {schema : Schema} {strictness : Strictness}

/-- The turn that a check begins with. -/
def start (schema : Schema) (strictness : Strictness) (value : Json) : Turn :=
  ⟨(schema.scope [] strictness).references, [], schema.root, value⟩

/-- The check of a value comes to a turn. -/
def ComesTo (schema : Schema) (strictness : Strictness) (value : Json) (turn : Turn) : Prop :=
  (schema.scope [] strictness).Comes (schema.start strictness value) turn

end Schema

namespace Document

/-- A check against the schema of a document ends with a list of violations exactly where no pattern that
it comes to at a string is at fault. Then its list reports every pattern that the check visits and that is
refused with a complaint, and every trial ends with a list that does so for the trial. -/
theorem check_read (document : Json) (h : document.WellFormed) (strictness : Strictness) (value : Json) :
    ((∃ found, ((read document).value.check [] strictness value).result = .ok found) ↔
      ∀ turn pattern, (read document).value.ComesTo strictness value turn →
        turn.pattern? = some pattern → Pattern.fault? pattern = none) ∧
    ∀ found, ((read document).value.check [] strictness value).result = .ok found →
      ((read document).value.scope [] strictness).Reports
        ((read document).value.start strictness value) found ∧
      ∀ turn, (read document).value.ComesTo strictness value turn →
        ∃ others, (((read document).value.scope [] strictness).trace turn).result = .ok others ∧
          ((read document).value.scope [] strictness).Reports turn others := by
  have hknown : ∀ node, (read document).value.Contains [] node → node.Known [] :=
    fun node hnode => ((settled_read h).of_contains hnode).known []
  refine ⟨⟨?_, fun hpatterns => ?_⟩, fun found hfound => ⟨Scope.reports_of_result hfound,
    fun turn hcomes => ?_⟩⟩
  · rintro ⟨found, hfound⟩ turn pattern hcomes hpattern
    obtain ⟨hnone, -⟩ := Trace.result_eq_ok_iff.mp hfound
    exact Option.eq_none_iff_forall_not_mem.mpr fun fault hfault =>
      hnone fault (hcomes.meets (Scope.meets_of_pattern? hpattern hfault))
  · refine ⟨_, Trace.result_eq_ok fun fault hmeets => ?_⟩
    obtain ⟨turn, hcomes, hnode, hblame, hpattern⟩ := Schema.exists_comes_of_meets
      Schema.lazilyContractive_nil _ _ _ value .root (fun _ _ => rfl) hmeets
    obtain ⟨pattern, hasked, hfault⟩ := (hknown _ hnode).exists_pattern hblame
    simp [hpatterns turn pattern hcomes (hpattern.trans hasked)] at hfault
  · obtain ⟨hnone, -⟩ := Trace.result_eq_ok_iff.mp hfound
    have hresult := Trace.result_eq_ok fun fault hmeets => hnone fault (Scope.Comes.meets hcomes hmeets)
    exact ⟨_, hresult, Scope.reports_of_result hresult⟩

/-- A string with a pattern that opens a group and does not close it. -/
def unclosed : Json := .object [("type", .string "string"), ("pattern", .string "(")]

/-- A pair of such a string and a choice with it as its only member. -/
def unclosedPair : Json :=
  .object [("type", .string "array"),
    ("items", .array [unclosed, .object [("anyOf", .array [unclosed])]])]

/-- The pair is read as a tuple whose second item is a choice of one. -/
theorem parse_unclosedPair : parse unclosedPair =
    ⟨.tuple {} [.string {} { pattern := some "(" },
      .combined {} .anyOf [.string {} { pattern := some "(" }]] none {}, []⟩ := by
  have hunclosed : parse unclosed = ⟨.string {} { pattern := some "(" }, []⟩ := by
    rw [unclosed, parse_object]
    rfl
  have hchoice : parse (.object [("anyOf", .array [unclosed])]) =
      ⟨.combined {} .anyOf [.string {} { pattern := some "(" }], []⟩ := by
    have hshape : Shape.ofMembers [("anyOf", .array [unclosed])] =
        ⟨[unclosed], .node (.combined {} .anyOf)⟩ := rfl
    rw [parse_object, hshape]
    simp [hunclosed, conclude, hoisted, defined]
  have hshape : Shape.ofMembers [("type", .string "array"),
      ("items", .array [unclosed, .object [("anyOf", .array [unclosed])]])] =
      ⟨[unclosed, .object [("anyOf", .array [unclosed])]],
        .node fun nodes => .tuple {} (nodes.take 2) (nodes.drop 2).head? {}⟩ := rfl
  rw [unclosedPair, parse_object, hshape]
  simp [hunclosed, hchoice, conclude, hoisted, defined]

/-- Strings are not searched for the pattern, but the pattern is reported. -/
theorem check_unclosed (scope : Scope) (text : String) :
    scope.check (.string {} { pattern := some "(" }) (.string text) =
      [.note (.badPattern "(" "missing ), unterminated subpattern at position 0"),
        Trace.problem (.misfit (.badPattern "(" "missing ), unterminated subpattern at position 0"))] := by
  have hread : Pattern.read "(".toList = .error (.complaint .unterminatedGroup (some 0)) := rfl
  have hwording : Pattern.complaintText "(".toList .unterminatedGroup (some 0) =
      "missing ), unterminated subpattern at position 0" := by
    decide +kernel
  rw [Scope.check_own rfl]
  simp only [ownTrace, stringTrace, lengthTrace, patternTrace, Pattern.search, hread, Except.map,
    hwording, parts]
  rfl

/-- A pair of texts. -/
def textPair : Json := .array [.string "a", .string "b"]

/-- The pattern is reported where it stands, and in the choice only counts as a member that fails. -/
theorem check_read_unclosedPair :
    ((read unclosedPair).value.check [] {} textPair).result =
      .ok [⟨["0"], .misfit (.badPattern "(" "missing ), unterminated subpattern at position 0")⟩,
        ⟨["1"], .tooFewMatches⟩] ∧
    ((∃ found, ((read unclosedPair).value.check [] {} textPair).result = .ok found) ↔
      ∀ turn pattern, (read unclosedPair).value.ComesTo {} textPair turn →
        turn.pattern? = some pattern → Pattern.fault? pattern = none) ∧
    ∀ found, ((read unclosedPair).value.check [] {} textPair).result = .ok found →
      ((read unclosedPair).value.scope [] {}).Reports
        ((read unclosedPair).value.start {} textPair) found ∧
      ∀ turn, (read unclosedPair).value.ComesTo {} textPair turn →
        ∃ others, (((read unclosedPair).value.scope [] {}).trace turn).result = .ok others ∧
          ((read unclosedPair).value.scope [] {}).Reports turn others := by
  refine ⟨?_, check_read unclosedPair (by simp [unclosedPair, unclosed, Entries.names]) {} _⟩
  rw [read_value, parse_unclosedPair, Schema.check, Node.check, Scope.check_own rfl, textPair]
  simp only [parts, itemParts, List.flatMap_cons, check_unclosed, Scope.check_combined, List.map_cons,
    combine, anyTrace]
  rfl

/-- A string with a pattern that repeats too often. -/
def repetitive : Json :=
  .object [("type", .string "string"), ("pattern", .string "a\x7b4294967295\x7d")]

/-- The fault of a pattern in a document ends the check of a string. -/
theorem check_repetitive_eq_error : repetitive.WellFormed ∧
    ((read repetitive).value.check [] {} (.string "")).result = .error .repetitionLimit := by
  have hparse : parse repetitive = ⟨.string {} { pattern := some "a\x7b4294967295\x7d" }, []⟩ := by
    rw [repetitive, parse_object]
    rfl
  refine ⟨by simp [repetitive, Entries.names], ?_⟩
  rw [read_value, hparse]
  exact Schema.view_check_of_run 1 (by decide +kernel)

end Document

end JsonSchema
