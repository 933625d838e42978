import JsonSchema.Node.Equality
import JsonSchema.Proofs.Entries

/-!
# Values equal to themselves

Equality of meaning holds between a value and itself, where each object has its members under
different names. So it does between the attributes of a node and themselves, and rows of nodes agree
where they do one by one.
-/

namespace JsonSchema

/-- Every number is the same as itself, also where it is none. -/
@[simp] theorem Number.same_self (a : Number) : a.same a = true := by simp [Number.same]

namespace Json

mutual

/-- A value is equal to itself. -/
theorem same_self : ∀ {value : Json}, value.WellFormed → value.same value = true
  | .null, _ => rfl
  | .bool value, _ => by simp [same, number?]
  | .number value, _ => by simp [same, number?]
  | .string value, _ => by simp [same]
  | .array items, h => by
    rw [same]
    exact sameItems_self (by rwa [WellFormed] at h)
  | .object members, h => by
    rw [WellFormed] at h
    rw [same, beq_self_eq_true, Bool.true_and]
    exact sameMembers_self h.2 h.1 fun _ hmem => hmem

/-- Items are equal to themselves. -/
theorem sameItems_self : ∀ {items : List Json}, AllWellFormed items → sameItems items items = true
  | [], _ => rfl
  | item :: rest, h => by
    rw [AllWellFormed] at h
    rw [sameItems, same_self h.1, sameItems_self h.2]
    rfl

/-- Members are found equal among members of different names that they belong to. -/
theorem sameMembers_self : ∀ {members whole : List (String × Json)}, MembersWellFormed members →
    (Entries.names whole).Nodup → (∀ entry ∈ members, entry ∈ whole) →
      sameMembers members whole = true
  | [], _, _, _, _ => rfl
  | (name, value) :: rest, whole, h, hnames, hmem => by
    rw [MembersWellFormed] at h
    have hfind := Entries.find?_of_mem hnames (hmem _ List.mem_cons_self)
    have hrest := sameMembers_self h.2 hnames fun entry hentry =>
      hmem entry (List.mem_cons_of_mem _ hentry)
    rw [sameMembers, hfind, hrest]
    simpa using same_self h.1

end

/-- Members agree with others where each one is found with an equal value. -/
theorem sameMembers_iff {members others : Entries Json} : sameMembers members others = true ↔
    ∀ entry ∈ members, ∃ value, Entries.find? entry.1 others = some value ∧
      entry.2.same value = true := by
  induction members with
  | nil => simp [sameMembers]
  | cons entry rest ih =>
    obtain ⟨name, value⟩ := entry
    rw [sameMembers, Bool.and_eq_true, ih, List.forall_mem_cons]
    refine and_congr_left fun _ => ?_
    cases Entries.find? name others <;> simp

/-- Objects of as many members are equal where each member of the one is found equal in the other. -/
theorem same_object {members others : Entries Json} (hlength : members.length = others.length)
    (hnames : (Entries.names members).Nodup)
    (h : ∀ name value, Entries.find? name members = some value →
      ∃ other, Entries.find? name others = some other ∧ value.same other = true) :
    (Json.object members).same (.object others) = true := by
  rw [same, hlength, beq_self_eq_true, Bool.true_and]
  exact sameMembers_iff.mpr fun entry hentry =>
    h entry.1 entry.2 (Entries.find?_of_mem hnames hentry)

/-- A member of an object is found equal in an equal object. -/
theorem exists_of_same_object {members others : Entries Json} {name : String} {value : Json}
    (h : (Json.object members).same (.object others) = true)
    (hvalue : Entries.find? name members = some value) :
    ∃ other, Entries.find? name others = some other ∧ value.same other = true := by
  rw [same, Bool.and_eq_true] at h
  exact sameMembers_iff.mp h.2 _ (Entries.mem_of_find? hvalue)

/-- Well-formed items are well formed one by one. -/
theorem allWellFormed_iff {items : List Json} :
    AllWellFormed items ↔ ∀ item ∈ items, item.WellFormed := by
  induction items with
  | nil => simp [AllWellFormed]
  | cons item rest ih => simp [AllWellFormed, ih]

end Json

/-- Optional values are equal to themselves where every value is. -/
theorem sameOption_self {α : Type} {same : α → α → Bool} (h : ∀ a, same a a = true)
    (value : Option α) : sameOption same value value = true := by
  cases value with
  | none => rfl
  | some a => exact h a

/-- Lists are equal to themselves where every value is. -/
theorem sameList_self {α : Type} {same : α → α → Bool} (h : ∀ a, same a a = true)
    (values : List α) : sameList same values values = true := by
  induction values with
  | nil => rfl
  | cons a rest ih => rw [sameList, h, ih, Bool.and_self]

/-- Documentation is equal to itself where its examples are well formed. -/
theorem Documentation.same_self {docs : Documentation}
    (h : ∀ item ∈ docs.examples, item.WellFormed) : docs.same docs = true := by
  simp [Documentation.same, Json.sameItems_self (Json.allWellFormed_iff.mpr h)]

/-- So are the rules for numbers. -/
@[simp] theorem NumberRules.same_self (rules : NumberRules) : rules.same rules = true := by
  simp [NumberRules.same, sameOption_self (sameList_self Number.same_self),
    sameOption_self Number.same_self]

/-- The documentation of a node, empty where it can carry none. -/
def Node.docs : Node → Documentation
  | .object docs .. | .array docs .. | .tuple docs .. | .string docs .. | .integer docs ..
  | .number docs .. | .boolean docs .. | .null docs | .reference docs .. | .combined docs .. => docs
  | _ => {}

/-- Rows of nodes agree where they do one by one. -/
theorem sameNodes_of_forall {first second : List Node} (hlength : second.length = first.length)
    (h : ∀ pair ∈ first.zip second, pair.2.same pair.1 = true) :
    sameNodes second first = true := by
  induction first generalizing second with
  | nil =>
    obtain rfl := List.eq_nil_of_length_eq_zero hlength
    rw [sameNodes]
  | cons a rest ih =>
    cases second with
    | nil => cases hlength
    | cons b others =>
      have hhead := h (a, b) List.mem_cons_self
      have htail := ih (Nat.succ.inj hlength) fun pair hmem =>
        h pair (List.mem_cons_of_mem _ hmem)
      rw [sameNodes, hhead, htail, Bool.and_self]

end JsonSchema
