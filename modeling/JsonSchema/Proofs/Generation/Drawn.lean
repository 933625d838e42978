import JsonSchema.Proofs.Generation.Fitting
import JsonSchema.Proofs.Generation.Planning
import JsonSchema.Proofs.Number.Rounding
import JsonSchema.Proofs.Validation.Conformance

/-!
# What is drawn for a node

`Strategy.Draws` says which values a strategy can draw: a text of any length that is then fitted, any
number of a range, a list of any length of a range, any of several alternatives, and so on. It leaves
open how values are chosen. A value is drawn for a node where a strategy that is planned for the node
draws it.

What is drawn for a consistent node has nothing wrong in itself, and its parts are drawn for the
nodes that they are checked against.
-/

namespace JsonSchema

open Planning

/-- A number is not beyond the bounds, which are inclusive and compared exactly. -/
def Bounds.Holds (range : Bounds Number) (value : Number) : Prop :=
  (∀ least, range.least = some least → value.lt least = false) ∧
    ∀ greatest, range.greatest = some greatest → greatest.lt value = false

/-- The values that a strategy can draw. -/
inductive Strategy.Draws (options : OptionSection) (thunks : Thunks) : Strategy → Json → Prop
  | null : Draws options thunks .null .null
  | boolean (flag : Bool) : Draws options thunks .boolean (.bool flag)
  | text (length : Bounds Int) (text : String) :
      Draws options thunks (.text length) (.string (String.ofList (Fit.fit length text.toList)))
  | just (value : Json) : Draws options thunks (.just value) value
  | choice {values : List Json} {value : Json} (h : value ∈ values) :
      Draws options thunks (.choice values) value
  | integer {range : Bounds Number} {value : Int} (h : range.Holds (.int value)) :
      Draws options thunks (.integer range) (.number (.int value))
  | double {range : Bounds Number} {value : Double} (hfinite : value.isFinite = true)
      (h : range.Holds (.double value)) :
      Draws options thunks (.double range) (.number (.double value))
  | list {item : Strategy} {least : Int} {greatest : Number} {values : List Json}
      (hlength : Bounds.Holds ⟨some (.int least), some greatest⟩ (.int values.length))
      (h : ∀ value ∈ values, Draws options thunks item value) :
      Draws options thunks (.list item least greatest) (.array values)
  | tuple {items : List Strategy} {filler : Strategy} {least : Int} {greatest : Number}
      {first rest : List Json} (hcount : first.length = items.length)
      (hfirst : ∀ pair ∈ items.zip first, Draws options thunks pair.1 pair.2)
      (hlength : Bounds.Holds ⟨some (.int least), some greatest⟩ (.int rest.length))
      (hrest : ∀ value ∈ rest, Draws options thunks filler value) :
      Draws options thunks (.tuple items filler least greatest) (.array (first ++ rest))
  | oneOf {members : List Strategy} {member : Strategy} {value : Json} (hmember : member ∈ members)
      (h : Draws options thunks member value) : Draws options thunks (.oneOf members) value
  | object {required optional : List (String × Strategy)} {members : Entries Json}
      (hnames : (Entries.names members).Nodup)
      (hrequired : ∀ name ∈ Entries.names required, name ∈ Entries.names members)
      (chosen : String → Strategy)
      (hchosen : ∀ member ∈ members, (member.1, chosen member.1) ∈ required ++ optional)
      (h : ∀ member ∈ members, Draws options thunks (chosen member.1) member.2) :
      Draws options thunks (.object required optional) (.object members)
  | deferred {thunk : Option String} {pointer : Pointer} {strategy : Strategy} {value : Json}
      (hplan : (Planning.forced options thunks thunk pointer).Gives strategy)
      (h : Draws options thunks strategy value) :
      Draws options thunks (.deferred thunk pointer) value

/-- A value that a strategy planned for a node can draw. -/
def Node.Drawn (options : OptionSection) (thunks : Thunks) (node : Node) (value : Json) : Prop :=
  ∃ strategy, node.Planned options strategy ∧ strategy.Draws options thunks value

namespace Node

/-- The values that a node enumerates. -/
def enumerated : Node → List Json
  | .string _ rules => (rules.enum.getD []).map .string
  | .integer _ rules => (rules.enum.getD []).map .number
  | .number _ rules => (rules.enum.getD []).map .number
  | .boolean _ enum => (enum.getD []).map .bool
  | _ => []

/-- The bounds of the length of a string or of the number of items. -/
def lengths? : Node → Option (Bounds Int)
  | .array _ _ length => some length
  | .tuple _ _ _ length => some length
  | .string _ rules => some rules.length
  | _ => none

/-- What a node says of values fits together: its properties have different names, it accepts the
values that it enumerates, only enumerated strings are asked to match a pattern, and lengths have
bounds in order. -/
structure Consistent (node : Node) : Prop where
  names : node.propertyNames.Nodup
  enumerated : ∀ value ∈ node.enumerated, (node.check [] [] {} value).result = .ok []
  pattern : ∀ docs rules, node = .string docs rules → rules.enum = none → rules.pattern = none
  lengths : ∀ bounds, node.lengths? = some bounds → bounds.InOrder

end Node

namespace Fit

/-- No more items are kept than there are. -/
theorem kept_le (count : Nat) (greatest : Option Int) : kept count greatest ≤ count := by
  cases greatest with
  | none => exact Nat.le_refl count
  | some greatest =>
    simp only [kept]
    split <;> omega

/-- Where items are left out, as many are kept as the upper bound says. -/
theorem eq_some_kept {count : Nat} {length : Bounds Int} (hlength : length.InOrder)
    (h : kept count length.greatest < count) :
    length.greatest = some (kept count length.greatest : Int) := by
  cases hgreatest : length.greatest with
  | none => simp [hgreatest, kept] at h
  | some greatest =>
    have hnonneg := hlength.greatest_nonneg greatest hgreatest
    simp only [hgreatest, kept, hnonneg, ↓reduceIte] at h ⊢
    congr 1
    omega

end Fit

/-- Bounds in order admit the least number that they give, or zero. -/
theorem Bounds.InOrder.admits_least {length : Bounds Int} (h : length.InOrder) :
    length.Admits (length.least.getD 0).toNat := by
  constructor
  · intro least hleast
    rw [hleast]
    exact Int.self_le_toNat least
  · intro greatest hgreatest
    have hnonneg := h.greatest_nonneg greatest hgreatest
    cases hleast : length.least with
    | none => simpa using hnonneg
    | some least =>
      have hle := h.le least greatest hleast hgreatest
      simp only [Option.getD_some]
      omega

/-- A number of items in a range has at least the least one, and no more than an integer that bounds
the range. -/
theorem Bounds.Holds.count {least : Int} {greatest : Number} {count : Nat}
    (h : Bounds.Holds ⟨some (.int least), some greatest⟩ (.int count)) :
    least ≤ count ∧ ∀ most, greatest = .int most → (count : Int) ≤ most := by
  constructor
  · simpa using h.1 _ rfl
  · rintro most rfl
    simpa using h.2 _ rfl

section Choice

variable {options : OptionSection} {thunks : Thunks} {value : Json}

/-- An enumeration gives one of its values. -/
theorem mem_of_gives_choice {values : List Json} {pointer : Pointer} {strategy : Strategy}
    (h : (Planning.choice values pointer).Gives strategy)
    (hdraws : strategy.Draws options thunks value) : value ∈ values := by
  obtain rfl := eq_choice_of_gives h
  cases hdraws with
  | choice hmem => exact hmem

/-- One of two alternatives draws a value. -/
theorem draws_oneOf_pair {first second : Strategy}
    (h : (Strategy.oneOf [first, second]).Draws options thunks value) :
    first.Draws options thunks value ∨ second.Draws options thunks value := by
  cases h with
  | oneOf hmember h =>
    rcases List.mem_pair.mp hmember with rfl | rfl
    · exact .inl h
    · exact .inr h

/-- A value is drawn for numbers from the enumerated ones, or from a range that has all bounds of the
rules. -/
theorem cases_of_gives_range {make : Bounds Number → Strategy} {rules : NumberRules}
    {pointer : Pointer} {strategy : Strategy}
    (h : (Planning.range make options rules pointer).Gives strategy)
    (hdraws : strategy.Draws options thunks value) :
    value ∈ (rules.enum.getD []).map .number ∨
      rules.enum = none ∧ ∃ range, (make range).Draws options thunks value ∧
        (∀ least, rules.range.least = some least → range.least = some least) ∧
        ∀ greatest, rules.range.greatest = some greatest → range.greatest = some greatest := by
  unfold Planning.range at h
  split at h
  · rename_i values _ _ henum
    exact .inl (by simpa [henum] using mem_of_gives_choice h hdraws)
  · rename_i henum hleast hgreatest
    split at h
    · simp at h
    · obtain rfl := gives_pure.mp h
      exact .inr ⟨henum, _, hdraws, by simp [hleast], by simp [hgreatest]⟩
  · rename_i henum hleast hgreatest
    simp only [gives_bind, gives_pure] at h
    obtain ⟨near, -, rfl⟩ := h
    rcases draws_oneOf_pair hdraws with hdraws | hdraws <;>
      exact .inr ⟨henum, _, hdraws, by simp [hleast], by simp [hgreatest]⟩
  · rename_i henum hleast hgreatest
    simp only [gives_bind, gives_pure] at h
    obtain ⟨near, -, rfl⟩ := h
    rcases draws_oneOf_pair hdraws with hdraws | hdraws <;>
      exact .inr ⟨henum, _, hdraws, by simp [hleast], by simp [hgreatest]⟩
  · rename_i henum hleast hgreatest
    obtain rfl := gives_pure.mp h
    exact .inr ⟨henum, _, hdraws, by simp [hleast], by simp [hgreatest]⟩

end Choice

namespace Node

variable {options : OptionSection} {thunks : Thunks} {definitions : Definitions}
  {strictness : Strictness} {value : Json}

/-- A node whose check does not depend on anything else asks for a value that its check finds nothing
wrong with. -/
theorem asks_of_result {node : Node} {conforms : Node → Json → Prop}
    (h : (node.check [] [] {} value).result = .ok []) (hown : node.handsOn = false)
    (hknown : node.Known thunks) (hparts : Check.parts node value = [])
    (hstrictness : Check.ownTrace strictness node value = Check.ownTrace {} node value)
    (hpattern : (Check.ownTrace {} node value).result = .ok [] → ∀ pattern,
      node.pattern? = some pattern → ∃ expression, Pattern.read pattern.toList = .ok expression) :
    node.Asks definitions thunks strictness conforms value := by
  rw [check, Scope.check_own hown, Trace.result_append_eq_ok_nil] at h
  have hresult : (Check.ownTrace {} node value).result = .ok [] := h.1
  rw [Check.asks_iff_own hown hknown (hpattern hresult), hparts, hstrictness]
  exact ⟨(Trace.result_eq_ok_nil_iff.mp hresult).2, by simp⟩

/-- A node asks for the values that it enumerates. -/
theorem asks_of_enumerated {node : Node} {conforms : Node → Json → Prop}
    (hconsistent : node.Consistent) (h : value ∈ node.enumerated) :
    node.Asks definitions thunks strictness conforms value := by
  have hresult := hconsistent.enumerated value h
  cases node with
  | string docs rules =>
    obtain ⟨text, -, rfl⟩ := List.mem_map.mp h
    refine asks_of_result hresult rfl trivial rfl rfl fun hown pattern hpattern => ?_
    have hrules : rules.pattern = some pattern := hpattern
    simp only [Check.ownTrace, Check.stringTrace, hrules, Trace.result_append_eq_ok_nil] at hown
    exact Check.readable_of_patternTrace hown.1.2
  | integer docs rules =>
    obtain ⟨number, -, rfl⟩ := List.mem_map.mp h
    exact asks_of_result hresult rfl trivial rfl rfl (by simp [pattern?])
  | number docs rules =>
    obtain ⟨number, -, rfl⟩ := List.mem_map.mp h
    exact asks_of_result hresult rfl trivial rfl rfl (by simp [pattern?])
  | boolean docs enum =>
    obtain ⟨flag, -, rfl⟩ := List.mem_map.mp h
    exact asks_of_result hresult rfl trivial rfl rfl (by simp [pattern?])
  | _ => simp [enumerated] at h

/-- The members of an object are drawn for the properties of the node. -/
theorem asks_of_drawn_object {docs : Documentation} {properties : List (Property Node)}
    {count : Bounds Int} (hconsistent : (Node.object docs properties count).Consistent)
    (h : (Node.object docs properties count).Drawn options thunks value) :
    (Node.object docs properties count).Asks definitions thunks strictness
      (Node.Drawn options thunks) value := by
  obtain ⟨strategy, hplanned, hdraws⟩ := h
  obtain ⟨hleast, hgreatest, required, optional, rfl, hrequired, hplans⟩ :=
    object_of_planned hplanned hconsistent.names
  cases hdraws with
  | @object _ _ members hnames hmembers chosen hchosen hdraws =>
  refine ⟨members, rfl, fun property hproperty hmust => ?_, fun _ => ?_,
    fun property hproperty found hfound => ?_⟩
  · rw [Option.isSome_iff_ne_none]
    intro hnone
    exact Entries.find?_eq_none_iff.mp hnone (hmembers _ (hrequired property hproperty hmust))
  · simp [Bounds.Admits, hleast, hgreatest]
  · have hmem := Entries.mem_of_find? hfound
    exact ⟨_, hplans _ (hchosen _ hmem) property hproperty rfl, hdraws _ hmem⟩

/-- The items of an array are drawn for the node of its items. -/
theorem asks_of_drawn_array {docs : Documentation} {items : Option Node} {length : Bounds Int}
    (hconsistent : (Node.array docs items length).Consistent)
    (h : (Node.array docs items length).Drawn options thunks value) :
    (Node.array docs items length).Asks definitions thunks strictness
      (Node.Drawn options thunks) value := by
  have hlength : length.InOrder := hconsistent.lengths length rfl
  obtain ⟨strategy, hplanned, hdraws⟩ := h
  rcases array_of_planned hplanned hlength with
    ⟨rfl, rfl⟩ | ⟨node, item, greatest, rfl, hitem, rfl, hgreatest⟩
  · cases hdraws
    refine ⟨_, rfl, ?_, by simp⟩
    rw [List.length_replicate]
    exact hlength.admits_least
  · cases hdraws with
    | @list _ _ _ values hcount hdraws =>
    obtain ⟨hleast, hmost⟩ := hcount.count
    refine ⟨values, rfl, ⟨?_, fun most h => hmost most (hgreatest most h)⟩,
      fun other hother value hvalue => ?_⟩
    · intro least h
      simpa [h] using hleast
    · obtain rfl := Option.some_inj.mp hother
      exact ⟨item, hitem, hdraws value hvalue⟩

/-- An item at a place is drawn for the node of the place. -/
theorem exists_drawn_of_getElem? {nodes : List Node} {strategies : List Strategy}
    {values : List Json} (hplanned : List.Forall₂ (Node.Planned options) nodes strategies)
    (hcount : values.length = strategies.length)
    (hdraws : ∀ pair ∈ strategies.zip values, pair.1.Draws options thunks pair.2) {index : Nat}
    (h : values[index]? = some value) :
    ∃ node, nodes[index]? = some node ∧ node.Drawn options thunks value := by
  induction hplanned generalizing values index with
  | nil => simp [List.length_eq_zero_iff.mp hcount] at h
  | @cons node strategy nodes strategies hhead _ ih =>
    cases values with
    | nil => simp at hcount
    | cons first values =>
      cases index with
      | zero =>
        obtain rfl : first = value := by simpa using h
        exact ⟨node, rfl, strategy, hhead, hdraws _ List.mem_cons_self⟩
      | succ index =>
        exact ih (by simpa using hcount)
          (fun pair hpair => hdraws pair (List.mem_cons_of_mem _ hpair)) (by simpa using h)

/-- The items of a tuple are drawn for the nodes of their places, or for the additional node. -/
theorem asks_of_drawn_tuple {docs : Documentation} {items : List Node} {additional : Option Node}
    {length : Bounds Int} (hconsistent : (Node.tuple docs items additional length).Consistent)
    (h : (Node.tuple docs items additional length).Drawn options thunks value) :
    (Node.tuple docs items additional length).Asks definitions thunks strictness
      (Node.Drawn options thunks) value := by
  have hlength : length.InOrder := hconsistent.lengths length rfl
  obtain ⟨strategy, hplanned, hdraws⟩ := h
  obtain ⟨positional, filler, greatest, hpositional, hfiller, rfl, hgreatest⟩ :=
    tuple_of_planned hplanned hlength
  cases hdraws with
  | @tuple _ _ _ _ first rest hcount hfirst hbounds hrest =>
  obtain ⟨hleast, hmost⟩ := hbounds.count
  have hkept : first.length = Fit.kept items.length length.greatest := by
    have htake := hpositional.length_eq
    have hle := Fit.kept_le items.length length.greatest
    rw [List.length_take] at htake
    omega
  refine ⟨first ++ rest, rfl, ⟨fun least h => ?_, fun most h => ?_⟩,
    fun index item hitem node hnode => ?_⟩
  · rw [List.length_append]
    rw [h, Option.getD_some] at hleast
    omega
  · have hle := hmost _ (hgreatest most h)
    rw [List.length_append]
    omega
  · by_cases hindex : index < first.length
    · rw [List.getElem?_append_left hindex] at hitem
      obtain ⟨found, hfound, hdrawn⟩ := exists_drawn_of_getElem? hpositional hcount hfirst hitem
      rw [List.getElem?_take_of_lt (by omega)] at hfound
      rw [hfound] at hnode
      obtain rfl := Option.some_inj.mp hnode
      exact hdrawn
    · rw [List.getElem?_append_right (Nat.le_of_not_lt hindex)] at hitem
      have hmem := List.mem_of_getElem? hitem
      obtain ⟨hrestIndex, -⟩ := List.getElem?_eq_some_iff.mp hitem
      -- The items that have no place in the tuple are left out only where nothing is filled up.
      have hbeyond : items[index]? = none := by
        rw [List.getElem?_eq_none_iff]
        by_contra hlt
        have hmost := hmost _ (hgreatest _ (@Fit.eq_some_kept items.length length hlength (by omega)))
        omega
      rw [hbeyond] at hnode
      exact ⟨filler, hfiller node hnode, hrest item hmem⟩

/-- Nothing is drawn for a reference. -/
theorem not_drawn_reference {docs : Documentation} {target : String} :
    ¬ (Node.reference docs target).Drawn options thunks value := by
  rintro ⟨strategy, ⟨pointer, hplanned⟩, -⟩
  simp [planAt] at hplanned

/-- What is drawn for a combination is drawn for one of its members, any of which will do. -/
theorem drawn_combined {docs : Documentation} {how : Combination} {members : List Node}
    (h : (Node.combined docs how members).Drawn options thunks value) :
    how = .anyOf ∧ ∃ member ∈ members, member.Drawn options thunks value := by
  obtain ⟨strategy, hplanned, hdraws⟩ := h
  obtain ⟨rfl, strategies, rfl, hall⟩ := combined_of_planned hplanned
  cases hdraws with
  | oneOf hmember hdraws =>
  obtain ⟨member, hmem, hplan⟩ := exists_of_mem_right hall hmember
  exact ⟨rfl, member, hmem, _, hplan, hdraws⟩

/-- What is drawn for a deferred node is drawn for its body. -/
theorem drawn_deferred {thunk : Option String}
    (h : (Node.deferred thunk).Drawn options thunks value) :
    ∃ name body, thunk = some name ∧ Entries.find? name thunks = some body ∧
      body.value.Drawn options thunks value := by
  obtain ⟨strategy, ⟨pointer, hplanned⟩, hdraws⟩ := h
  rw [planAt, gives_pure] at hplanned
  subst hplanned
  cases hdraws with
  | deferred hplan hdraws =>
  obtain ⟨name, body, hname, hfound, hbody⟩ := planned_of_gives_forced hplan
  exact ⟨name, body, hname, hfound, _, hbody, hdraws⟩

/-- A text is drawn for a string node from the enumerated ones, or fitted to the bounds. -/
theorem asks_of_drawn_string {docs : Documentation} {rules : StringRules}
    (hconsistent : (Node.string docs rules).Consistent)
    (h : (Node.string docs rules).Drawn options thunks value) :
    (Node.string docs rules).Asks definitions thunks strictness
      (Node.Drawn options thunks) value := by
  obtain ⟨strategy, ⟨pointer, hplanned⟩, hdraws⟩ := h
  cases henum : rules.enum with
  | some values =>
    rw [planAt, henum] at hplanned
    refine asks_of_enumerated hconsistent ?_
    simpa [enumerated, henum] using mem_of_gives_choice hplanned hdraws
  | none =>
    rw [planAt, henum, gives_pure] at hplanned
    subst hplanned
    cases hdraws with
    | text _ text =>
    refine ⟨_, rfl, ?_, ?_, by simp [henum]⟩
    · have horder := hconsistent.lengths _ rfl
      simpa using Fit.admits_length_fit horder.greatest_nonneg horder.le text.toList
    · simp [hconsistent.pattern docs rules rfl henum]

/-- A number of a range with all bounds of the rules keeps to the rules. -/
theorem admits_of_holds {rules : NumberRules} {range : Bounds Number} {number : Number}
    (henum : rules.enum = none) (h : range.Holds number)
    (hleast : ∀ least, rules.range.least = some least → range.least = some least)
    (hgreatest : ∀ greatest, rules.range.greatest = some greatest →
      range.greatest = some greatest) : rules.Admits number :=
  ⟨by simp [henum], fun least hbound => Number.widenLt_eq_false (h.1 _ (hleast least hbound)),
    fun greatest hbound => Number.widenLt_eq_false (h.2 _ (hgreatest greatest hbound))⟩

/-- What is drawn for a consistent node is what the node asks for, where its parts are drawn for the
nodes inside. -/
theorem asks_of_drawn {node : Node} (hconsistent : node.Consistent)
    (h : node.Drawn options thunks value) :
    node.Asks definitions thunks strictness (Node.Drawn options thunks) value := by
  cases node with
  | object docs properties count => exact asks_of_drawn_object hconsistent h
  | array docs items length => exact asks_of_drawn_array hconsistent h
  | tuple docs items additional length => exact asks_of_drawn_tuple hconsistent h
  | string docs rules => exact asks_of_drawn_string hconsistent h
  | integer docs rules =>
    obtain ⟨strategy, ⟨pointer, hplanned⟩, hdraws⟩ := h
    rw [planAt] at hplanned
    rcases cases_of_gives_range hplanned hdraws with
      henumerated | ⟨henum, range, hdraws, hleast, hgreatest⟩
    · exact asks_of_enumerated hconsistent henumerated
    · cases hdraws with
      | integer hholds => exact ⟨_, rfl, rfl, admits_of_holds henum hholds hleast hgreatest⟩
  | number docs rules =>
    obtain ⟨strategy, ⟨pointer, hplanned⟩, hdraws⟩ := h
    rw [planAt] at hplanned
    rcases cases_of_gives_range hplanned hdraws with
      henumerated | ⟨henum, range, hdraws, hleast, hgreatest⟩
    · exact asks_of_enumerated hconsistent henumerated
    · cases hdraws with
      | double _ hholds => exact ⟨_, rfl, admits_of_holds henum hholds hleast hgreatest⟩
  | boolean docs enum =>
    obtain ⟨strategy, ⟨pointer, hplanned⟩, hdraws⟩ := h
    cases enum with
    | some values =>
      rw [planAt] at hplanned
      exact asks_of_enumerated hconsistent (mem_of_gives_choice hplanned hdraws)
    | none =>
      rw [planAt, gives_pure] at hplanned
      subst hplanned
      cases hdraws with
      | boolean flag => exact ⟨flag, rfl, by simp⟩
  | null docs =>
    obtain ⟨strategy, ⟨pointer, hplanned⟩, hdraws⟩ := h
    rw [planAt, gives_pure] at hplanned
    subst hplanned
    cases hdraws
    rfl
  | reference docs target => exact (not_drawn_reference h).elim
  | combined docs how members =>
    obtain ⟨rfl, hdrawn⟩ := drawn_combined h
    exact hdrawn
  | deferred thunk => exact drawn_deferred h
  | verbatim document => trivial
  | unknown =>
    obtain ⟨strategy, ⟨pointer, hplanned⟩, -⟩ := h
    simp [planAt] at hplanned

end Node

end JsonSchema
