import JsonSchema.Proofs.Validation.Likeness
import JsonSchema.Proofs.Validation.Place
import JsonSchema.Proofs.Validation.Recursion

/-!
# Members without a declaration

An object node looks up the properties that it declares and nothing else, and only where properties are
counted does the number of members matter. So members under names that no object node of a schema declares
can be added to objects anywhere inside a value, and the check does not come to them: its trace stays the
same, with its notes and its faults.
-/

namespace JsonSchema

/-- Entries with others added between them, whose names are all extra. -/
inductive Entries.Adds {α : Type} (extra : String → Prop) : Entries α → Entries α → Prop
  | nil : Adds extra [] []
  | keep {kept others : Entries α} (entry : String × α) (h : Adds extra kept others) :
      Adds extra (entry :: kept) (entry :: others)
  | add {kept others : Entries α} (entry : String × α) (hextra : extra entry.1)
      (h : Adds extra kept others) : Adds extra kept (entry :: others)

/-- The second value is the first with any members of extra names added to objects, anywhere inside it. -/
inductive Json.Grown (extra : String → Prop) : Json → Json → Prop
  | null : Grown extra .null .null
  | bool (value : Bool) : Grown extra (.bool value) (.bool value)
  | number (value : Number) : Grown extra (.number value) (.number value)
  | string (text : String) : Grown extra (.string text) (.string text)
  | array {items others : List Json} (h : List.Forall₂ (Grown extra) items others) :
      Grown extra (.array items) (.array others)
  | object {members kept others : Entries Json} (hnames : Entries.names members = Entries.names kept)
      (hvalues : List.Forall₂ (Grown extra) (members.map Prod.snd) (kept.map Prod.snd))
      (hadded : Entries.Adds extra kept others) : Grown extra (.object members) (.object others)

/-- An object node of the schema declares a property of the name. -/
def Schema.Declares (schema : Schema) (thunks : Thunks) (name : String) : Prop :=
  ∃ node, schema.Contains thunks node ∧ name ∈ node.propertyNames

section Members

variable {extra : String → Prop}

/-- What is found under a name that is not extra stays where entries are added. -/
theorem Entries.Adds.find?_eq {α : Type} {kept others : Entries α} (h : Entries.Adds extra kept others)
    {name : String} (hname : ¬ extra name) : Entries.find? name others = Entries.find? name kept := by
  induction h with
  | nil => rfl
  | keep entry _ ih => rw [Entries.find?_cons, Entries.find?_cons, ih]
  | add entry hextra _ ih =>
    have hne : entry.1 ≠ name := fun heq => hname (heq ▸ hextra)
    rw [Entries.find?_cons, if_neg hne, ih]

namespace Json.Grown

variable {value value' : Json}

/-- A value stays of its kind where it grows. -/
theorem kind (h : value.Grown extra value') : value.kind = value'.kind := by
  cases h <;> rfl

/-- Under a name that is not extra a grown object has the member that was there, grown. -/
theorem find? {members others : Entries Json} (h : (Json.object members).Grown extra (.object others))
    {name : String} (hname : ¬ extra name) :
    Option.Rel (Grown extra) (Entries.find? name members) (Entries.find? name others) := by
  cases h with
  | object hnames hvalues hadded =>
    rw [hadded.find?_eq hname]
    exact Entries.rel_find? (Entries.forall₂_of_names hnames hvalues) name

end Json.Grown

namespace Check

variable {value value' : Json} {node : Node}

/-- No required property comes to be there where only other members are added. -/
theorem missingTrace_grown {members others : Entries Json}
    (h : (Json.object members).Grown extra (.object others)) {properties : List (Property Node)}
    (hdeclared : ∀ property ∈ properties, ¬ extra property.name) :
    missingTrace properties members = missingTrace properties others := by
  unfold missingTrace
  apply congrArg
  apply List.filter_congr
  intro property hproperty
  have hrel := h.find? (hdeclared property hproperty)
  generalize Entries.find? property.name members = found,
    Entries.find? property.name others = found' at hrel ⊢
  cases hrel <;> rfl

/-- What a node asks of the value itself stays the same where the value grows, unless members are
counted. -/
theorem ownTrace_grown {strictness : Strictness} (hcount : strictness.countsProperties = false)
    (hdeclared : ∀ name ∈ node.propertyNames, ¬ extra name) (h : value.Grown extra value') :
    ownTrace strictness node value = ownTrace strictness node value' := by
  have hkind : ∀ asked, wrongKind asked value = wrongKind asked value' := fun asked => by
    rw [wrongKind, wrongKind, h.kind]
  cases h with
  | array hitems =>
    cases node with
    | array docs items length => simp only [ownTrace, hitems.length_eq]
    | tuple docs items additional length => simp only [ownTrace, hitems.length_eq]
    | _ => first | exact hkind _ | rfl
  | object hnames hvalues hadded =>
    cases node with
    | object docs properties count =>
      have hmissing := missingTrace_grown (.object hnames hvalues hadded)
        fun property hproperty => hdeclared _ (List.mem_map_of_mem hproperty)
      simp only [ownTrace, hmissing, hcount]
      rfl
    | _ => first | exact hkind _ | rfl
  | _ => rfl

/-- A grown value has the parts that the value has, grown. -/
theorem beside_parts_grown (hdeclared : ∀ name ∈ node.propertyNames, ¬ extra name)
    (h : value.Grown extra value') :
    List.Forall₂ (Part.Beside (Json.Grown extra)) (parts node value) (parts node value') := by
  cases node with
  | object docs properties count =>
    cases h with
    | object hnames hvalues hadded =>
      apply beside_propertyParts
      intro property hproperty
      exact (Json.Grown.object hnames hvalues hadded).find?
        (hdeclared _ (List.mem_map_of_mem hproperty))
    | _ => exact .nil
  | array docs items length =>
    cases h with
    | array hitems => exact beside_itemParts hitems _ _ _
    | _ => exact .nil
  | tuple docs items additional length =>
    cases h with
    | array hitems => exact beside_itemParts hitems _ _ _
    | _ => exact .nil
  | _ => cases h <;> exact .nil

end Check

end Members

namespace Schema

variable {schema : Schema} {thunks : Thunks} {strictness : Strictness}

/-- At each place the check of a contained node has the same trace where the value grows by undeclared
members, whatever was followed or forced before. -/
theorem Contains.checkAt_grown {extra : String → Prop} (hcount : strictness.countsProperties = false)
    (hextra : ∀ name, schema.Declares thunks name → ¬ extra name) {node : Node}
    (hnode : schema.Contains thunks node) (followable : List String) (pending : Thunks)
    (hpending : ∀ name body, Entries.find? name pending = some body →
      Entries.find? name thunks = some body)
    (value : Json) {value' : Json} (h : value.Grown extra value') :
    (schema.scope thunks strictness).checkAt followable pending node value =
      (schema.scope thunks strictness).checkAt followable pending node value' := by
  induction followable, pending, node, value using
    Scope.checkAt.induct (schema.scope thunks strictness) generalizing value' with
  | case1 followable pending value docs target hnone =>
    rw [Scope.checkAt_unresolved hnone, Scope.checkAt_unresolved hnone]
  | case2 followable pending value docs target body hbody htarget _ ih =>
    rw [Scope.checkAt_followed hbody htarget, Scope.checkAt_followed hbody htarget]
    exact ih (.definition (Entries.mem_of_find? hbody)) (fun _ _ => id) h
  | case3 followable pending value docs target body hbody hnot =>
    rw [Scope.checkAt_circular hbody hnot, Scope.checkAt_circular hbody hnot]
  | case4 followable pending value => rw [Scope.checkAt_noThunk, Scope.checkAt_noThunk]
  | case5 followable pending value thunk body hbody _ ih =>
    rw [Scope.checkAt_forced hbody, Scope.checkAt_forced hbody]
    apply congrArg
    apply ih (hnode.forced (hpending _ _ hbody)) _ h
    intro name found hfound
    exact hpending name found (Entries.find?_of_find?_without hfound)
  | case6 followable pending value thunk hnone =>
    rw [Scope.checkAt_unforced hnone, Scope.checkAt_unforced hnone]
  | case7 followable pending value docs how members ih =>
    rw [Scope.checkAt_combined, Scope.checkAt_combined]
    apply congrArg (Check.combine how)
    apply List.map_congr_left
    intro member hmember
    funext _
    exact ih member hmember (hnode.child hmember) hpending h
  | case8 followable pending value node href hnone hsome hcombined ih =>
    have hown := node.handsOn_eq_false href hnone hsome hcombined
    have hdeclared : ∀ name ∈ node.propertyNames, ¬ extra name :=
      fun name hname => hextra name ⟨node, hnode, hname⟩
    rw [Scope.checkAt_own hown, Scope.checkAt_own hown, scope_strictness,
      Check.ownTrace_grown hcount hdeclared h]
    apply congrArg
    apply flatMap_eq_of_forall₂
    refine (forall₂_mem (Check.beside_parts_grown hdeclared h)).imp fun part part' hbeside => ?_
    obtain ⟨hpart, -, hsegment, hsame, hvalue⟩ := hbeside
    rw [← hsegment, ← hsame]
    exact congrArg (Trace.under part.segment) (ih part hpart
      (hnode.child (Check.node_mem_children_of_mem_parts hpart)) (fun _ _ => id) hvalue)

/-- Members of undeclared names are invisible: where properties are not counted, a check finds the same in a
value and in what it grows to by such members, anywhere inside it and with any values. -/
theorem check_grown (schema : Schema) (thunks : Thunks) (strictness : Strictness)
    (hcount : strictness.countsProperties = false) (value value' : Json)
    (h : value.Grown (fun name => ¬ schema.Declares thunks name) value') :
    schema.check thunks strictness value' = schema.check thunks strictness value :=
  (Contains.root.checkAt_grown hcount (fun _ hname => not_not_intro hname) _ _ (fun _ _ => id) value
    h).symm

/-- Lists of labels, where what follows a label is the end or another list, but not both. -/
def chains : Schema where
  root := .reference {} "#/definitions/chain"
  definitions := [("chain", .object {} [⟨"label", .string {} {}, true⟩,
    ⟨"rest", .combined {} .oneOf [.null {}, .reference {} "#/definitions/chain"], true⟩] {})]

/-- A chain of two labels, the second of which is missing. -/
def shortChain : Json := .object [("label", .string "a"), ("rest", .object [("rest", .null)])]

/-- The same chain with members of other names, one of them a chain itself. -/
def notedChain : Json :=
  .object [("id", .number (.int 1)), ("label", .string "a"),
    ("rest", .object [("rest", .null), ("next", .object [("label", .null)])])]

/-- Members of other names change nothing of the trace of a chain, inside a choice as well. -/
theorem check_grown_chains :
    (chains.check [] {} shortChain).result = .ok [⟨["rest"], .tooFewMatches⟩] ∧
      ({} : Strictness).countsProperties = false ∧
      shortChain.Grown (fun name => ¬ chains.Declares [] name) notedChain ∧
      chains.check [] {} notedChain = chains.check [] {} shortChain := by
  have hmem : ∀ node, chains.Contains [] node → node ∈ [chains.root,
      .object {} [⟨"label", .string {} {}, true⟩,
        ⟨"rest", .combined {} .oneOf [.null {}, .reference {} "#/definitions/chain"], true⟩] {},
      .string {} {}, .combined {} .oneOf [.null {}, .reference {} "#/definitions/chain"], .null {}] :=
    fun node hnode => hnode.mem_of_closed (by simp) (by simp [chains]) (by simp)
      (by simp [chains, Node.children])
  have hextra : ∀ name, name ∉ ["label", "rest"] → ¬ chains.Declares [] name := by
    rintro name hname ⟨node, hnode, hdeclared⟩
    have hcases := hmem node hnode
    simp only [List.mem_cons, List.not_mem_nil, or_false] at hcases
    rcases hcases with rfl | rfl | rfl | rfl | rfl <;>
      simp_all [Node.propertyNames, chains]
  have hgrown : shortChain.Grown (fun name => ¬ chains.Declares [] name) notedChain := by
    refine @Json.Grown.object _ _ [("label", .string "a"),
      ("rest", .object [("rest", .null), ("next", .object [("label", .null)])])] _ rfl
      (.cons (.string "a") (.cons ?_ .nil)) (.add _ (hextra "id" (by decide)) (.keep _ (.keep _ .nil)))
    exact @Json.Grown.object _ _ [("rest", .null)] _ rfl (.cons .null .nil)
      (.keep _ (.add _ (hextra "next" (by decide)) .nil))
  exact ⟨view_check_of_run 8 (by decide +kernel), rfl, hgrown,
    check_grown chains [] {} rfl shortChain notedChain hgrown⟩

end Schema

end JsonSchema
