import JsonSchema.Validation.Summary
import JsonSchema.Proofs.Document.Requirement
import JsonSchema.Proofs.Pattern.Complaints
import JsonSchema.Proofs.Validation.Pointing
import JsonSchema.Proofs.Validation.Relevance

/-!
# Summaries line by line

A summary is made of a headline and of a line for each violation, if each violation has a wording, and it
is read back in this way exactly if none of the lines is broken by what it says. The wording of a problem
quotes names and patterns, so that only two kinds of texts stand in a line as they are: the segments of a
pointer and the complaint about a pattern (`Violation.raw`). Both come from the schema and not from the
value (`Schema.Supplies`): a segment is the number of an item or the name of a declared property, and a
complaint repeats characters of its pattern only. A wording that spells an integer spells a bound of the
schema, so there is one wherever the bounds of the schema have numerals.
-/

namespace JsonSchema

open Text Text.LineEnds

variable {lineEnds : LineEnds}

/-! ### What a line takes over as it stands -/

/-- The texts that the wording of a problem takes over as they stand. -/
def Problem.raw : Problem → List String
  | .misfit (.badPattern _ complaint) => [complaint]
  | .misfit (.other message) => [message]
  | _ => []

/-- The texts that the wording of a violation takes over as they stand, up to slashes and tildes. -/
def Violation.raw (violation : Violation) : List String :=
  violation.pointer ++ violation.problem.raw

/-- The wording of a problem is one line exactly if all that it takes over is. -/
theorem Problem.unbroken_wording_iff {problem : Problem} :
    lineEnds.Unbroken problem.wording ↔ ∀ text ∈ problem.raw, lineEnds.Unbroken text := by
  have hquiet (hraw : problem.raw = []) (h : lineEnds.Unbroken problem.wording) :
      lineEnds.Unbroken problem.wording ↔ ∀ text ∈ problem.raw, lineEnds.Unbroken text :=
    iff_of_true h (by simp [hraw])
  cases problem with
  | shorterThan length =>
    exact hquiet rfl (.append (.append (unbroken_words rfl) (unbroken_int length)) (unbroken_words rfl))
  | longerThan length =>
    exact hquiet rfl (.append (.append (unbroken_words rfl) (unbroken_int length)) (unbroken_words rfl))
  | unmatchedPattern pattern => exact hquiet rfl (.append (unbroken_words rfl) (unbroken_quoted pattern))
  | missingProperty name => exact hquiet rfl (.append (unbroken_words rfl) (unbroken_quoted name))
  | fewerItemsThan count =>
    exact hquiet rfl (.append (.append (unbroken_words rfl) (unbroken_int count)) (unbroken_words rfl))
  | moreItemsThan count =>
    exact hquiet rfl (.append (.append (unbroken_words rfl) (unbroken_int count)) (unbroken_words rfl))
  | lessThan bound =>
    exact hquiet rfl (.append (unbroken_words rfl) (unbroken_of_printable bound.printable_text))
  | moreThan bound =>
    exact hquiet rfl (.append (unbroken_words rfl) (unbroken_of_printable bound.printable_text))
  | misfit cause =>
    cases cause with
    | kind asked found =>
      refine hquiet rfl (.append (.append (.append (unbroken_words rfl) ?_) (unbroken_words rfl)) ?_)
      · cases asked <;> exact unbroken_words rfl
      · cases found <;> exact unbroken_words rfl
    | badPattern pattern complaint =>
      have hfront : lineEnds.Unbroken ("Invalid pattern " ++ quoted pattern ++ ": ") :=
        .append (.append (unbroken_words rfl) (unbroken_quoted pattern)) (unbroken_words rfl)
      exact (unbroken_append.trans (and_iff_right hfront)).trans (by simp [raw])
    | circular target => exact hquiet rfl (.append (unbroken_words rfl) (unbroken_quoted target))
    | unresolved target => exact hquiet rfl (.append (unbroken_words rfl) (unbroken_quoted target))
    | other text => exact List.forall_mem_singleton.symm
  | _ => exact hquiet rfl (unbroken_words rfl)

/-- Escaping neither adds nor removes the end of a line. -/
theorem Pointer.ends_escape_iff {c : Char} :
    (∀ written ∈ escape c, lineEnds.ends written = false) ↔ lineEnds.ends c = false := by
  have hplain {c : Char} (h : isPlain c = true) : lineEnds.ends c = false :=
    lineEnds.unprintable c (isPrintable_of_isPlain h)
  have htwo {first second : Char} (hfirst : isPlain first = true) (hsecond : isPlain second = true) :
      ∀ written ∈ [first, second], lineEnds.ends written = false :=
    List.forall_mem_cons.mpr ⟨hplain hfirst, List.forall_mem_singleton.mpr (hplain hsecond)⟩
  unfold escape
  split
  · exact iff_of_true (htwo rfl rfl) (hplain rfl)
  · exact iff_of_true (htwo rfl rfl) (hplain rfl)
  · exact List.forall_mem_singleton

/-- The text of a pointer is one line exactly if its segments are. -/
theorem Pointer.unbroken_text_iff {pointer : Pointer} :
    lineEnds.Unbroken pointer.text ↔ ∀ segment ∈ pointer, lineEnds.Unbroken segment := by
  have hslash : lineEnds.ends '/' = false := lineEnds.unprintable _ (isPrintable_of_isPlain rfl)
  cases pointer with
  | nil => exact iff_of_true (unbroken_words rfl) (List.forall_mem_nil _)
  | cons first rest =>
    rw [show text (first :: rest) = String.ofList (chars (first :: rest)) from rfl, LineEnds.Unbroken,
      String.toList_ofList, chars, List.forall_mem_flatMap]
    refine forall₂_congr fun segment _ => ?_
    rw [List.forall_mem_cons, and_iff_right hslash, List.forall_mem_flatMap]
    exact forall₂_congr fun c _ => ends_escape_iff

namespace Violation

/-- The wording of a violation, with integers of any size in full. -/
def wording (violation : Violation) : String :=
  violation.pointer.text ++ ": " ++ violation.problem.wording

/-- A violation whose wording spells no integer but one that has a numeral. -/
def Worded (violation : Violation) : Prop :=
  ∀ integer, violation.problem.numeral? = some integer → hasNumeral integer = true

variable {violation : Violation}

/-- A violation is worded where its integer, if any, has a numeral. -/
theorem worded_iff : violation.Worded ↔ violation.problem.numeral?.all hasNumeral = true := by
  rw [Worded]
  cases violation.problem.numeral? <;> simp

/-- A worded violation has a wording. -/
theorem message_of_worded (h : violation.Worded) : violation.message = .ok violation.wording := by
  rw [message, Problem.message, if_pos (worded_iff.mp h)]
  rfl

/-- Any other violation has none. -/
theorem message_of_not_worded (h : ¬ violation.Worded) : violation.message = .error .noNumeral := by
  rw [message, Problem.message, if_neg (worded_iff.not.mp h)]
  rfl

/-- The wording of a violation is one line exactly if all that it takes over is. -/
theorem unbroken_wording_iff :
    lineEnds.Unbroken violation.wording ↔ ∀ text ∈ violation.raw, lineEnds.Unbroken text := by
  have hcolon : lineEnds.Unbroken ": " := unbroken_words rfl
  rw [wording, unbroken_append, unbroken_append, Pointer.unbroken_text_iff,
    Problem.unbroken_wording_iff, and_iff_left hcolon, raw, List.forall_mem_append]

/-- Violations that are all worded have their wordings. -/
theorem mapM_message {violations : List Violation} (h : ∀ violation ∈ violations, violation.Worded) :
    violations.mapM message = .ok (violations.map wording) := by
  induction violations with
  | nil => rfl
  | cons violation rest ih =>
    obtain ⟨hworded, hrest⟩ := List.forall_mem_cons.mp h
    rw [List.mapM_cons, message_of_worded hworded, ih hrest]
    rfl

end Violation

namespace Summary

/-- The first line of a summary without a command. -/
def headline (subject : String) (violations : List Violation) : String :=
  match violations with
  | [] => subject ++ ": valid"
  | [_] => subject ++ ": 1 error"
  | _ => subject ++ ": " ++ toString violations.length ++ " errors"

/-- A line that tells a wording. -/
def entry (wording : String) : String := "  " ++ wording

variable {subject : String} {violations : List Violation}

/-- The headline is one line where the subject is. -/
theorem unbroken_headline (hsubject : lineEnds.Unbroken subject) :
    lineEnds.Unbroken (headline subject violations) := by
  unfold headline
  split
  · exact hsubject.append (unbroken_words rfl)
  · exact hsubject.append (unbroken_words rfl)
  · exact ((hsubject.append (unbroken_words rfl)).append (unbroken_nat _)).append (unbroken_words rfl)

/-- An entry is one line exactly if all that the violation takes over is. -/
theorem unbroken_entry_iff {violation : Violation} :
    lineEnds.Unbroken (entry violation.wording) ↔ ∀ text ∈ violation.raw, lineEnds.Unbroken text :=
  (unbroken_append.trans (and_iff_right (unbroken_words rfl))).trans violation.unbroken_wording_iff

/-- Violations that are all worded have lines, each an entry and a line feed. -/
theorem mapM_line (h : ∀ violation ∈ violations, violation.Worded) :
    violations.mapM line = .ok (violations.map fun violation => entry violation.wording ++ "\n") := by
  induction violations with
  | nil => rfl
  | cons violation rest ih =>
    obtain ⟨hworded, hrest⟩ := List.forall_mem_cons.mp h
    rw [List.mapM_cons, line, Violation.message_of_worded hworded, ih hrest]
    rfl

/-- The first violation that is not worded leaves no lines. -/
theorem mapM_line_eq_error (h : ∃ violation ∈ violations, ¬ violation.Worded) :
    violations.mapM line = .error .noNumeral := by
  induction violations with
  | nil => simp at h
  | cons violation rest ih =>
    rw [List.mapM_cons, line]
    by_cases hworded : violation.Worded
    · obtain ⟨other, hmem, hother⟩ := h
      have hrest : ∃ violation ∈ rest, ¬ violation.Worded := by
        obtain rfl | hmem := List.mem_cons.mp hmem
        · exact absurd hworded hother
        · exact ⟨other, hmem, hother⟩
      rw [Violation.message_of_worded hworded, ih hrest]
      rfl
    · rw [Violation.message_of_not_worded hworded]
      rfl

/-- The summary of violations that are all worded is its headline and its entries, each followed by a line
feed. -/
theorem text_eq_join (h : ∀ violation ∈ violations, violation.Worded) :
    text violations subject none = .ok (String.join
      ((headline subject violations :: (violations.map Violation.wording).map entry).map
        (· ++ "\n"))) := by
  have htally : tally subject violations = headline subject violations ++ "\n" := by
    unfold tally headline
    split <;> simp only [String.append_assoc] <;> rfl
  have hlines : (violations.map fun violation => entry violation.wording ++ "\n") =
      ((violations.map Violation.wording).map entry).map (· ++ "\n") := by
    rw [List.map_map, List.map_map]
    rfl
  rw [text, mapM_line h, htally, hlines, List.map_cons, String.join_cons]
  simp [header, bind, Except.bind, pure, Except.pure]

/-- There is no summary exactly if one of the violations is not worded, and then it is for its integer. -/
theorem text_eq_error_iff {command : Option String} {fault : Fault} :
    text violations subject command = .error fault ↔
      fault = .noNumeral ∧ ∃ violation ∈ violations, ¬ violation.Worded := by
  by_cases h : ∀ violation ∈ violations, violation.Worded
  · rw [text, mapM_line h]
    refine iff_of_false (fun htext => by cases htext) ?_
    rintro ⟨-, violation, hmem, hworded⟩
    exact hworded (h violation hmem)
  · have hsome : ∃ violation ∈ violations, ¬ violation.Worded := by simpa using h
    rw [text, mapM_line_eq_error hsome, and_iff_left hsome, eq_comm]
    exact ⟨Except.error.inj, congrArg Except.error⟩

/-- There is a summary without a command, and its lines are the headline and an entry for the wording of
each violation, in order. -/
def Lists (lineEnds : LineEnds) (subject : String) (violations : List Violation) : Prop :=
  ∃ summary wordings, text violations subject none = .ok summary ∧
    violations.mapM Violation.message = .ok wordings ∧
    lineEnds.lines summary = headline subject violations :: wordings.map entry

/-- A summary lists the violations exactly if they are all worded and nothing that one of them takes over
is of more lines than one. -/
theorem lists_iff (hsubject : lineEnds.Unbroken subject) :
    Lists lineEnds subject violations ↔
      ∀ violation ∈ violations, violation.Worded ∧ ∀ text ∈ violation.raw, lineEnds.Unbroken text := by
  by_cases h : ∀ violation ∈ violations, violation.Worded
  · rw [Lists, text_eq_join h, Violation.mapM_message h]
    simp only [Except.ok.injEq, exists_and_left, exists_eq_left', lines_join_eq_iff]
    rw [List.forall_mem_cons, and_iff_right (unbroken_headline hsubject), List.map_map,
      List.forall_mem_map]
    exact forall₂_congr fun violation hmem =>
      unbroken_entry_iff.trans (and_iff_right (h violation hmem)).symm
  · have hsome : ∃ violation ∈ violations, ¬ violation.Worded := by simpa using h
    refine iff_of_false ?_ fun hall => h fun violation hmem => (hall violation hmem).1
    rintro ⟨summary, wordings, htext, -⟩
    cases htext.symm.trans (text_eq_error_iff.mpr ⟨rfl, hsome⟩)

end Summary

/-! ### Where it is taken from -/

namespace Schema

/-- The texts that a schema has for the lines of a summary: the numbers of items, the names of the
properties that it declares, and the complaints about its patterns. -/
inductive Supplies (schema : Schema) (thunks : Thunks) : String → Prop
  | item (index : Nat) : Supplies schema thunks (Pointer.index index)
  | property {node : Node} {name : String} (hnode : schema.Uses thunks node)
      (h : name ∈ node.propertyNames) : Supplies schema thunks name
  | complaint {node : Node} {pattern : String} {complaint : Pattern.Complaint} {place : Option Nat}
      (hnode : schema.Uses thunks node) (hpattern : node.pattern? = some pattern)
      (h : Pattern.read pattern.toList = .error (.complaint complaint place)) :
      Supplies schema thunks (Pattern.complaintText pattern.toList complaint place)

/-- An integer is a bound of a node that a schema uses. -/
def Limits (schema : Schema) (thunks : Thunks) (integer : Int) : Prop :=
  ∃ node, schema.Uses thunks node ∧ integer ∈ node.limits

/-- A schema has all that is told of a violation: the texts that are taken over and the integer that is
spelled. -/
structure Backs (schema : Schema) (thunks : Thunks) (violation : Violation) : Prop where
  texts : ∀ text ∈ violation.raw, schema.Supplies thunks text
  integer : ∀ integer, violation.problem.numeral? = some integer → schema.Limits thunks integer

/-- Nothing that a schema uses has a line end in a name of a property or in a pattern. -/
def Unbroken (lineEnds : LineEnds) (schema : Schema) (thunks : Thunks) : Prop :=
  ∀ node, schema.Uses thunks node → (∀ name ∈ node.propertyNames, lineEnds.Unbroken name) ∧
    ∀ pattern, node.pattern? = some pattern → lineEnds.Unbroken pattern

/-- All integers among the bounds that a schema uses have numerals. -/
def Worded (schema : Schema) (thunks : Thunks) : Prop :=
  ∀ integer, schema.Limits thunks integer → hasNumeral integer = true

variable {schema : Schema} {thunks : Thunks} {strictness : Strictness}

/-- Names and patterns of one line give rise to texts of one line only. -/
theorem Supplies.unbroken {text : String} (h : schema.Supplies thunks text)
    (hschema : schema.Unbroken lineEnds thunks) : lineEnds.Unbroken text := by
  cases h with
  | item index => exact unbroken_nat index
  | property hnode hname => exact (hschema _ hnode).1 _ hname
  | complaint hnode hpattern hread =>
    exact Pattern.unbroken_complaintText hread ((hschema _ hnode).2 _ hpattern)

/-- A violation spells bounds of the schema only. -/
theorem Backs.worded {violation : Violation} (h : schema.Backs thunks violation)
    (hschema : schema.Worded thunks) : violation.Worded :=
  fun integer hinteger => hschema integer (h.integer integer hinteger)

end Schema

/-- The wording of a plain problem takes over nothing. -/
theorem Problem.Plain.raw_eq_nil {problem : Problem} (h : problem.Plain) : problem.raw = [] := by
  unfold raw
  split
  · exact h.elim
  · exact h.elim
  · rfl

namespace Check

variable {schema : Schema} {thunks : Thunks} {node : Node} {violation : Violation}

/-- The segments of parts are numbers of items or names of declared properties. -/
theorem supplies_segment {value : Json} {part : Part} (hnode : schema.Uses thunks node)
    (h : part ∈ parts node value) : schema.Supplies thunks part.segment := by
  have hitem {nodes : List Node} {additional : Option Node} {items : List Json}
      (hmem : part ∈ itemParts nodes additional 0 items) : schema.Supplies thunks part.segment := by
    obtain ⟨index, hsegment, -⟩ := exists_of_mem_itemParts hmem
    exact hsegment ▸ .item _
  unfold parts at h
  split at h
  · obtain ⟨property, hmem, hproperty⟩ := List.mem_filterMap.mp h
    obtain ⟨found, -, rfl⟩ := Option.map_eq_some_iff.mp hproperty
    exact .property hnode (List.mem_map_of_mem hmem)
  · exact hitem h
  · exact hitem h
  · cases h

/-- What a node finds in the value itself takes over at most the complaint about its pattern, and it spells
at most one of its bounds. -/
theorem Own.backs {pattern? : Option String} {limits : List Int}
    (h : Own pattern? limits (.violation violation))
    (hpattern : ∀ pattern, pattern? = some pattern →
      ∃ node, schema.Uses thunks node ∧ node.pattern? = some pattern)
    (hlimits : ∀ limit ∈ limits, schema.Limits thunks limit) : schema.Backs thunks violation := by
  cases h with
  | problem hplain hspelled =>
    refine ⟨?_, fun integer hinteger => hlimits integer (hspelled integer hinteger)⟩
    rw [Violation.raw, hplain.raw_eq_nil]
    exact List.forall_mem_nil _
  | complaint hfound hread =>
    obtain ⟨node, hnode, hasked⟩ := hpattern _ hfound
    refine ⟨List.forall_mem_singleton.mpr (.complaint hnode hasked hread), fun integer hinteger => ?_⟩
    cases hinteger

/-- A problem with a reference is backed by any schema. -/
theorem backs_reference {cause : Misfit} (hcause : (Problem.misfit cause).raw = []) :
    schema.Backs thunks ⟨[], .misfit cause⟩ where
  texts := by
    rw [Violation.raw, hcause]
    exact List.forall_mem_nil _
  integer integer hinteger := by cases hinteger

/-- Under a segment that a schema has, a violation stays one that the schema backs. -/
theorem backs_under {segment : String} (hsegment : schema.Supplies thunks segment)
    (h : schema.Backs thunks violation) : schema.Backs thunks (violation.under segment) where
  texts := List.forall_mem_cons.mpr ⟨hsegment, h.texts⟩
  integer := h.integer

end Check

namespace Schema

open Check

variable {schema : Schema} {thunks : Thunks} {strictness : Strictness}

/-- Whatever is told of the violations that are found at one place, the schema has it. -/
theorem Uses.backs_checkAt {node : Node} (hnode : schema.Uses thunks node)
    (followable : List String) (pending : Thunks) (value : Json)
    (hpending : ∀ name body, Entries.find? name pending = some body →
      Entries.find? name thunks = some body) {violation : Violation}
    (h : .violation violation ∈
      (schema.scope thunks strictness).checkAt followable pending node value) :
    schema.Backs thunks violation := by
  -- A body that is forced is one that the schema uses only as long as it is the body in the whole table.
  induction followable, pending, node, value using
    Scope.checkAt.induct (schema.scope thunks strictness) generalizing violation with
  | case1 followable pending value docs target hnone =>
    rw [Scope.checkAt_unresolved hnone, unresolvedTrace, List.mem_cons] at h
    obtain h | h := h
    · cases h
    · split at h
      · cases List.mem_singleton.mp h
        exact backs_reference rfl
      · cases List.mem_singleton.mp h
  | case2 followable pending value docs target body hbody htarget _ ih =>
    rw [Scope.checkAt_followed hbody htarget] at h
    exact ih (hnode.followed hbody) (fun _ _ => id) h
  | case3 followable pending value docs target body hbody hnot =>
    rw [Scope.checkAt_circular hbody hnot] at h
    cases List.mem_singleton.mp h
    exact backs_reference rfl
  | case4 followable pending value =>
    rw [Scope.checkAt_noThunk] at h
    cases List.mem_singleton.mp h
  | case5 followable pending value thunk body hbody _ ih =>
    rw [Scope.checkAt_forced hbody, List.mem_append] at h
    obtain h | h := h
    · obtain ⟨made, -, hmade⟩ := List.mem_map.mp h
      cases hmade
    · exact ih (hnode.forced (hpending _ _ hbody))
        (fun name found hfound => hpending name found (Entries.find?_of_find?_without hfound)) h
  | case6 followable pending value thunk hnone =>
    rw [Scope.checkAt_unforced hnone] at h
    cases List.mem_singleton.mp h
  | case7 followable pending value docs how members _ =>
    rw [Scope.checkAt_combined] at h
    obtain ⟨member, -, hsilent⟩ | hown := mem_combine h
    · cases (List.mem_filter.mp hsilent).2
    · exact hown.backs (fun pattern hpattern => by cases hpattern) (List.forall_mem_nil _)
  | case8 followable pending value node href hnone hsome hcombined ih =>
    rw [Scope.checkAt_own (node.handsOn_eq_false href hnone hsome hcombined), List.mem_append] at h
    obtain hown | hparts := h
    · exact (own_ownTrace _ _ _ _ hown).backs (fun pattern hpattern => ⟨node, hnode, hpattern⟩)
        fun limit hlimit => ⟨node, hnode, hlimit⟩
    · obtain ⟨part, hpart, hunder⟩ := List.mem_flatMap.mp hparts
      obtain ⟨inner, hinner, heq⟩ := List.mem_map.mp hunder
      cases inner with
      | violation found =>
        cases heq
        have hfound := ih part hpart
          (hnode.child (node_mem_children_of_mem_parts hpart)) (fun _ _ => id) hinner
        exact backs_under (supplies_segment hnode hpart) hfound
      | note made => cases heq
      | fault met => cases heq

/-- Whatever is told of the violations in the list of a check, the schema has it. -/
theorem backs_of_check {value : Json} {violations : List Violation}
    (h : (schema.check thunks strictness value).result = .ok violations) :
    ∀ violation ∈ violations, schema.Backs thunks violation := by
  obtain ⟨-, rfl⟩ := Trace.result_eq_ok_iff.mp h
  intro violation hviolation
  obtain ⟨event, hevent, heq⟩ := List.mem_filterMap.mp hviolation
  cases event with
  | violation found =>
    cases heq
    exact Uses.root.backs_checkAt _ _ value (fun _ _ => id) hevent
  | note made => cases heq
  | fault met => cases heq

end Schema

namespace Document

open Summary

/-- A check against the schema of a document ends with a fault for one of its patterns, or a summary of its
list lists the violations line by line wherever the bounds of the schema have numerals and its names and
patterns have no line ends. Exactly a bound without a numeral leaves no summary, and the summary lists the
violations exactly if there is one and what they take over is of one line each. All that they take over and
all that they spell comes from the schema, whatever the value is. -/
theorem lists_check_read (lineEnds : LineEnds) (document : Json) (hdocument : document.WellFormed)
    (strictness : Strictness) (value : Json) (subject : String)
    (hsubject : lineEnds.Unbroken subject) :
    (∃ violations, ((read document).value.check [] strictness value).result = .ok violations ∧
      ((read document).value.Worded [] → (read document).value.Unbroken lineEnds [] →
        Lists lineEnds subject violations) ∧
      (text violations subject none = .error .noNumeral ↔
        ∃ violation ∈ violations, ¬ violation.Worded) ∧
      (Lists lineEnds subject violations ↔ ∀ violation ∈ violations,
        violation.Worded ∧ ∀ text ∈ violation.raw, lineEnds.Unbroken text) ∧
      ∀ violation ∈ violations, (read document).value.Backs [] violation) ∨
    ∃ fault node pattern, ((read document).value.check [] strictness value).result = .error fault ∧
      (read document).value.Contains [] node ∧ node.pattern? = some pattern ∧
      Pattern.fault? pattern = some fault := by
  cases hresult : ((read document).value.check [] strictness value).result with
  | ok violations =>
    have hbacks := Schema.backs_of_check hresult
    refine .inl ⟨violations, rfl, fun hworded hschema => (lists_iff hsubject).mpr ?_,
      text_eq_error_iff.trans (and_iff_right rfl), lists_iff hsubject, hbacks⟩
    exact fun violation hviolation => ⟨(hbacks violation hviolation).worded hworded,
      fun text htext => ((hbacks violation hviolation).texts text htext).unbroken hschema⟩
  | error fault =>
    have hknown : ∀ node, (read document).value.Contains [] node → node.Known [] :=
      fun node hnode => ((settled_read hdocument).of_contains hnode).known []
    obtain ⟨node, pattern, hblame⟩ := Schema.exists_pattern_of_check_eq_error hknown hresult
    exact .inr ⟨fault, node, pattern, rfl, hblame⟩

/-- An object whose only declared property is a string. -/
def labelled (name : String) : Json :=
  .object [("type", .string "object"),
    ("properties", .object [(name, .object [("type", .string "string")])])]

/-- A misfit of that property. -/
def mislabelled (name : String) : List Violation := [⟨[name], .misfit (.kind .string .integer)⟩]

/-- It is read as an object with a string under that name. -/
theorem read_labelled (name : String) :
    (read (labelled name)).value = ⟨.object {} [⟨name, .string {} {}, false⟩] {}, []⟩ := by
  have hstring : parse (.object [("type", .string "string")]) = ⟨.string {} {}, []⟩ := by
    rw [parse_object]
    rfl
  have hparts : (Shape.ofMembers [("type", .string "object"),
      ("properties", .object [(name, .object [("type", .string "string")])])]).parts =
      [.object [("type", .string "string")]] := rfl
  rw [read_value, labelled, parse_object]
  simp only [hparts, List.map_singleton, hstring]
  rfl

/-- A number in the place of the string is reported under the name of the property. -/
theorem check_labelled (name : String) :
    ((read (labelled name)).value.check [] {} (.object [(name, .number (.int 1))])).result =
      .ok (mislabelled name) := by
  have hinner (scope : Scope) : scope.check (.string {} {}) (.number (.int 1)) =
      [Trace.problem (.misfit (.kind .string .integer))] := by
    rw [Scope.check_own rfl]
    rfl
  rw [read_labelled, Schema.check, Node.check, Scope.check_own rfl]
  simp only [Check.parts, Check.propertyParts, List.filterMap_cons, Entries.find?_cons, if_pos,
    Option.map_some, List.filterMap_nil, List.flatMap_singleton, hinner]
  rfl

/-- The schema uses two nodes. -/
theorem mem_of_uses_labelled {name : String} {node : Node}
    (h : (read (labelled name)).value.Uses [] node) :
    node ∈ [Node.object {} [⟨name, .string {} {}, false⟩] {}, .string {} {}] := by
  rw [read_labelled] at h
  refine h.mem_of_closed (by simp) ?_ ?_ (by simp)
  · simp [Node.children]
  · simp

/-- Neither of them has bounds. -/
theorem worded_labelled (name : String) : (read (labelled name)).value.Worded [] := by
  rintro integer ⟨node, hnode, hinteger⟩
  obtain rfl | hmem := List.mem_cons.mp (mem_of_uses_labelled hnode)
  · cases hinteger
  · obtain rfl := List.mem_singleton.mp hmem
    cases hinteger

/-- The name of the property is all that has to be of one line. -/
theorem unbroken_labelled {name : String} (h : lineEnds.Unbroken name) :
    (read (labelled name)).value.Unbroken lineEnds [] := by
  intro node hnode
  obtain rfl | hmem := List.mem_cons.mp (mem_of_uses_labelled hnode)
  · exact ⟨List.forall_mem_singleton.mpr h, fun pattern hpattern => by cases hpattern⟩
  · obtain rfl := List.mem_singleton.mp hmem
    exact ⟨List.forall_mem_nil _, fun pattern hpattern => by cases hpattern⟩

/-- The line of a misfit below a name of one line. -/
theorem lists_check_read_labelled :
    (labelled "label").WellFormed ∧ LineEnds.unicode.Unbroken "instance" ∧
    (text (mislabelled "label") "instance" none).map LineEnds.unicode.lines =
      .ok ["instance: 1 error", "  /label: Expected a string, got integer"] := by
  have hdocument : (labelled "label").WellFormed := by simp [labelled, Entries.names]
  have hsubject : LineEnds.unicode.Unbroken "instance" := unbroken_words rfl
  refine ⟨hdocument, hsubject, ?_⟩
  obtain ⟨violations, hviolations, hlists, -⟩ | ⟨fault, -, -, hfault, -⟩ :=
    lists_check_read .unicode (labelled "label") hdocument {} (.object [("label", .number (.int 1))])
      "instance" hsubject
  · rw [check_labelled] at hviolations
    cases hviolations
    obtain ⟨summary, wordings, hsummary, hwordings, hlines⟩ :=
      hlists (worded_labelled _) (unbroken_labelled (unbroken_words rfl))
    cases hwordings
    rw [hsummary]
    exact congrArg Except.ok (hlines.trans (by decide +kernel))
  · rw [check_labelled] at hfault
    cases hfault

/-- A line feed in the name breaks the line in two. -/
theorem not_lists_check_read :
    (labelled "a\nb").WellFormed ∧ LineEnds.feeds.Unbroken "instance" ∧
    ((read (labelled "a\nb")).value.check [] {} (.object [("a\nb", .number (.int 1))])).result =
      .ok (mislabelled "a\nb") ∧
    ¬ Lists .feeds "instance" (mislabelled "a\nb") ∧
    (text (mislabelled "a\nb") "instance" none).map LineEnds.feeds.lines =
      .ok ["instance: 1 error", "  /a", "b: Expected a string, got integer"] := by
  have hsubject : LineEnds.feeds.Unbroken "instance" := unbroken_words rfl
  refine ⟨by simp [labelled, Entries.names], hsubject, check_labelled _, fun hlists => ?_, ?_⟩
  · have hname : LineEnds.feeds.Unbroken "a\nb" :=
      ((lists_iff hsubject).mp hlists _ List.mem_cons_self).2 _ List.mem_cons_self
    exact absurd (hname '\n' (by decide)) (by decide)
  · decide +kernel

end Document

end JsonSchema
