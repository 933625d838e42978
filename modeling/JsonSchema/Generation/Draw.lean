import JsonSchema.Generation.Plan
import JsonSchema.Thunks

/-!
# Drawing values

A value is drawn from a strategy by choices: natural numbers that are used up one after the other,
with zeros at the end of the supply. A strategy uses a choice only where it has alternatives, so
equal choices draw equal values. Deferred strategies are planned while drawing.

A draw that comes back to one deferred node without using up a choice in between would go on for
ever once the supply is empty. `Choices.depth` bounds how deeply deferred nodes are nested in any
other draw.
-/

namespace JsonSchema

/-- A supply of choices, with the number of those that were used. -/
structure Choices where
  pending : List Nat
  used : Nat := 0

/-- The strategies with a range. -/
inductive RangeKind where
  | list | integer | double
deriving DecidableEq

/-- Why no value is drawn. -/
inductive DrawFailure where
  | emptyRange (kind : RangeKind) (least greatest : Number)
  | obstacle (met : Obstacle)

/-- Drawing uses choices, and plans what is deferred. -/
abbrev Drawing := StateT Choices (ExceptT DrawFailure Noted)

namespace Drawing

/-- The next choice. -/
def next : Drawing Nat := fun choices =>
  pure (choices.pending.headD 0, ⟨choices.pending.tail, choices.used + 1⟩)

/-- Ends a draw. -/
def fail {α : Type} (failure : DrawFailure) : Drawing α := fun _ => throw failure

/-- Refuses a range whose bounds are crossed. -/
def checkRange (kind : RangeKind) (range : Bounds Number) : Drawing Unit :=
  match range.least, range.greatest with
  | some least, some greatest =>
    if greatest.lt least then fail (.emptyRange kind least greatest) else pure ()
  | _, _ => pure ()

/-- Plans a deferred part. -/
def planned {α : Type} (planning : Planning α) : Drawing α := fun choices =>
  ⟨match planning.run.value with
    | .ok value => .ok (value, choices)
    | .error met => .error (.obstacle met), planning.run.notes⟩

/-- One of the items that a choice counts off, beginning again after the last. -/
def pick {α : Type} (items : List α) (choice : Nat) : Option α := items[choice % items.length]?

/-- The integers in the order zero, minus one, one, minus two and so on. -/
def zigzag (choice : Nat) : Int :=
  if choice % 2 = 0 then (choice / 2 : Nat) else -((choice / 2 : Nat) + 1 : Int)

/-- The number that a choice counts off from a lower bound on, beginning again after the upper. -/
def within (least greatest : Number) (choice : Nat) : Number :=
  least.add ((Number.int choice).mod ((greatest.sub least).add (.int 1)))

/-- An integer of a range. -/
def chosenInteger (range : Bounds Number) (choice : Nat) : Number :=
  match range.least, range.greatest with
  | some least, some greatest => within least greatest choice
  | some least, none => least.add (.int choice)
  | none, some greatest => greatest.sub (.int choice)
  | none, none => .int (zigzag choice)

/-- The double of a bound. -/
def widened (bound : Number) : Except Fault Double :=
  if Planning.exceedsDoubles bound then .error .tooLarge else .ok bound.widen

/-- A double of a range. -/
def chosenDouble (range : Bounds Number) (choice : Nat) : Except Fault Double :=
  match range.least, range.greatest with
  | some least, some greatest => widened (if choice % 2 = 1 then greatest else least)
  | some least, none => (widened least).map (·.add (.ofInt choice))
  | none, some greatest => (widened greatest).map (·.add (Double.ofInt choice).neg)
  | none, none => .ok (.half (zigzag choice))

/-- The values of actions in a row. -/
def inOrder : List (Drawing Json) → Drawing (List Json)
  | [] => return []
  | action :: rest => do
    let value ← action
    return value :: (← inOrder rest)

/-- The items of an array whose length is chosen. -/
def items (least : Int) (greatest : Number) (item : Drawing Json) : Drawing (List Json) := do
  checkRange .list ⟨some (.int least), some greatest⟩
  let length := within (.int least) greatest (← next)
  inOrder (List.replicate (length.toInt?.getD 0).toNat item)

/-- The members of an object: the required ones, then each optional one that a choice takes. -/
def members : List (String × Drawing Json) → List (String × Drawing Json) → Drawing (Entries Json)
  | (name, action) :: rest, optional => do
    let value ← action
    return (name, value) :: (← members rest optional)
  | [], (name, action) :: rest => do
    if (← next) % 2 = 1 then
      let value ← action
      return (name, value) :: (← members [] rest)
    else members [] rest
  | [], [] => return []

end Drawing

/-- A strategy under a name is smaller than the list that holds it. -/
theorem sizeOf_lt_of_mem_pair {name : String} {member : Strategy}
    {named : List (String × Strategy)} (h : (name, member) ∈ named) :
    sizeOf member < sizeOf named := by
  have hlt := List.sizeOf_lt_of_mem h
  simp at hlt
  omega

open Drawing

/-- A value of a strategy. The depth bounds how deeply deferred nodes are nested. -/
def Strategy.drawWithin (options : OptionSection) (thunks : Thunks) (texts : List String)
    (depth : Nat) (strategy : Strategy) : Drawing Json :=
  match strategy with
  | .null => return .null
  | .boolean => return .bool ((← next) % 2 = 1)
  | .text length => do
    let text := (pick texts (← next)).getD ""
    return .string (String.ofList (Fit.fit length text.toList))
  | .just value => return value
  | .choice values => return (pick values (← next)).getD .null
  | .integer range => do
    checkRange .integer range
    return .number (chosenInteger range (← next))
  | .double range => do
    checkRange .double range
    match chosenDouble range (← next) with
    | .ok value => return .number (.double value)
    | .error fault => fail (.obstacle (.fault fault))
  | .list item least greatest =>
    return .array (← items least greatest (item.drawWithin options thunks texts depth))
  | .tuple positional filler least greatest => do
    let first ← inOrder (positional.attach.map fun ⟨item, h⟩ =>
      have := List.sizeOf_lt_of_mem h
      item.drawWithin options thunks texts depth)
    let rest ← items least greatest (filler.drawWithin options thunks texts depth)
    return .array (first ++ rest)
  | .oneOf alternatives => do
    let actions := alternatives.attach.map fun ⟨member, h⟩ =>
      have := List.sizeOf_lt_of_mem h
      member.drawWithin options thunks texts depth
    (pick actions (← next)).getD (return .null)
  | .object required optional =>
    return .object (Entries.ofList (← members
      (required.attach.map fun ⟨(name, member), h⟩ =>
        have := sizeOf_lt_of_mem_pair h
        (name, member.drawWithin options thunks texts depth))
      (optional.attach.map fun ⟨(name, member), h⟩ =>
        have := sizeOf_lt_of_mem_pair h
        (name, member.drawWithin options thunks texts depth))))
  | .deferred thunk pointer => do
    let strategy ← planned (Planning.forced options thunks thunk pointer)
    match depth with
    | 0 => fail (.obstacle (.fault .endless))
    | depth + 1 => strategy.drawWithin options thunks texts depth
termination_by (depth, sizeOf strategy)

namespace Choices

/-- How deeply deferred nodes can be nested in a draw that ends. -/
def depth (choices : Choices) (thunks : Thunks) : Nat :=
  (choices.pending.length + 1) * (thunks.length + 1) + 1

end Choices

/-- The value that choices draw from a strategy, with the number of choices that were used. -/
def Strategy.draw (options : OptionSection) (thunks : Thunks) (texts : List String)
    (choices : List Nat) (strategy : Strategy) : Noted (Except DrawFailure (Json × Nat)) :=
  let supply : Choices := ⟨choices, 0⟩
  let drawn := (strategy.drawWithin options thunks texts (supply.depth thunks)).run supply
  ⟨drawn.run.value.map fun (value, left) => (value, left.used), drawn.run.notes⟩

end JsonSchema
