import JsonSchema.Generation.Fit
import JsonSchema.Generation.Strategy
import JsonSchema.Options
import JsonSchema.Thunks

/-!
# Planning

The strategy of a node draws values that the node accepts. References, `oneOf`, `allOf` and objects
with bounds on their number of properties are refused, and so are enumerations and ranges without a
value; the refusal names the first such part in depth-first order. Parts that no value has, such as
the items of an array with crossed bounds, are not looked at. A deferred node is planned when it is
drawn from.
-/

namespace JsonSchema

namespace OptionSection

/-- How many items an array without an upper bound may have beyond its lower bound. -/
def listSlack (options : OptionSection) : Json := options.value "array_length_slack"

/-- How many items a tuple may have beyond those that it needs. -/
def fillerSlack (options : OptionSection) : Json := options.value "tuple_filler_slack"

/-- The width of the range next to a bound without a counterpart. -/
def boundaryOffset (options : OptionSection) : Json := options.value "boundary_offset"

end OptionSection

/-- Planning makes notes and stops at an obstacle. -/
abbrev Planning := ExceptT Obstacle Noted

namespace Planning

/-- Stops at a part that nothing is generated for, and notes so. -/
def refuse {α : Type} (reason : Hindrance) (pointer : Pointer) : Planning α :=
  ⟨.error (.refused ⟨reason, pointer⟩), [.refused ⟨reason, pointer⟩]⟩

/-- The empty array, noted as the result of crossed bounds. -/
def emptyArray (pointer : Pointer) : Planning Strategy :=
  ⟨.ok (.just (.array [])), [.crossedLength pointer]⟩

/-- Whether an integer has no exact or rounded place among the doubles. -/
def exceedsDoubles : Number → Bool
  | .int value => !(Double.ofInt value).isFinite
  | .double _ => false

/-- The sum or the difference of a number and an option. -/
def shifted (sign : SumSign) (base : Number) (option : Json) : Except Fault Number :=
  match option.number? with
  | none => .error (.noSum sign (Json.number base).kind option.kind)
  | some offset =>
    match base, offset with
    | .int _, .int _ => .ok (sign.combine base offset)
    | _, _ =>
      if exceedsDoubles base || exceedsDoubles offset then .error .tooLarge
      else .ok (sign.combine base offset)

/-- The sum or the difference as a step of planning. -/
def shift (sign : SumSign) (base : Number) (option : Json) : Planning Number :=
  match shifted sign base option with
  | .ok sum => pure sum
  | .error fault => throw (.fault fault)

/-- The choice among enumerated values. -/
def choice (values : List Json) (pointer : Pointer) : Planning Strategy :=
  if values.isEmpty then refuse .emptyEnumeration pointer else return .choice values

/-- The numbers of a range. With one bound only, those near the bound are drawn as often as the
others. -/
def range (make : Bounds Number → Strategy) (options : OptionSection) (rules : NumberRules)
    (pointer : Pointer) : Planning Strategy :=
  match rules.enum, rules.range.least, rules.range.greatest with
  | some values, _, _ => choice (values.map .number) pointer
  | none, some least, some greatest =>
    if greatest.lt least then refuse .crossedRange pointer
    else return make ⟨some least, some greatest⟩
  | none, some least, none => do
    let near ← shift .plus least options.boundaryOffset
    return .oneOf [make ⟨some least, some near⟩, make ⟨some least, none⟩]
  | none, none, some greatest => do
    let near ← shift .minus greatest options.boundaryOffset
    return .oneOf [make ⟨some near, some greatest⟩, make ⟨none, some greatest⟩]
  | none, none, none => return make {}

/-- Why there is no row of a number of items: the number counts no items, or their places have more bytes,
eight each, than can be counted. -/
def countFault? (count : Int) : Option Fault :=
  if !isCount count then some .noCount else if twoTo 60 ≤ count then some .noRoom else none

/-- The array of so many nulls, which is empty for a negative number. -/
def nulls (count : Int) : Planning Strategy :=
  match countFault? count with
  | some fault => throw (.fault fault)
  | none => return .just (.array (List.replicate count.toNat .null))

/-- Whether bounds leave no length; a lower bound counts only where it is given. -/
def crossed (least greatest : Option Int) : Bool :=
  match least, greatest with
  | some least, some greatest => greatest < least
  | _, _ => false

/-- The least and the greatest number of items after so many others. -/
def fillerBounds (options : OptionSection) (length : Bounds Int) (count : Nat) :
    Planning (Int × Number) := do
  let least := max 0 (length.least.getD 0 - count)
  match length.greatest with
  | some greatest => return (least, .int (greatest - count))
  | none => return (least, ← shift .plus (.int least) options.fillerSlack)

end Planning

open Planning

mutual

/-- The strategy of a node that stands at a place of a schema. -/
def Node.planAt (options : OptionSection) (pointer : Pointer) : Node → Planning Strategy
  | .object _ properties count =>
    if count.least.isSome || count.greatest.isSome then refuse .propertyCounts pointer
    else do
      let planned ← planProperties options pointer properties
      return .object (Entries.ofList (planned.filterMap fun (name, required, strategy) =>
          if required then some (name, strategy) else none))
        (Entries.ofList (planned.filterMap fun (name, required, strategy) =>
          if required then none else some (name, strategy)))
  | .array _ items length =>
    let least := length.least.getD 0
    if crossed (some least) length.greatest then emptyArray pointer
    else
      match items with
      | none => nulls least
      | some items => do
        let item ← items.planAt options (pointer ++ ["items"])
        match length.greatest with
        | some greatest => return .list item least (.int greatest)
        | none => return .list item least (← shift .plus (.int least) options.listSlack)
  | .tuple _ items additional length =>
    if crossed length.least length.greatest then emptyArray pointer
    else do
      let count := Fit.kept items.length length.greatest
      let (least, greatest) ← fillerBounds options length count
      let positional ← planNodes options (fun index => pointer ++ [Pointer.index index]) 0 count items
      match additional with
      | none => return .tuple positional (.just .null) least greatest
      | some additional =>
        let filler ← additional.planAt options (pointer ++ ["additionalItems"])
        return .tuple positional filler least greatest
  | .string _ rules =>
    match rules.enum with
    | some values => choice (values.map .string) pointer
    | none => return .text rules.length
  | .integer _ rules => range .integer options rules pointer
  | .number _ rules => range .double options rules pointer
  | .boolean _ (some values) => choice (values.map .bool) pointer
  | .boolean _ none => return .boolean
  | .null _ => return .null
  | .reference _ target => refuse (.reference target) pointer
  | .combined _ .oneOf _ => refuse .oneOf pointer
  | .combined _ .allOf _ => refuse .allOf pointer
  | .combined _ .anyOf members =>
    if members.isEmpty then refuse .emptyChoice pointer
    else do
      let place := fun index => pointer ++ [Combination.anyOf.keyword, Pointer.index index]
      return .oneOf (← planNodes options place 0 members.length members)
  | .deferred thunk => return .deferred thunk pointer
  | .verbatim _ => return .just .null
  | .unknown => throw (.fault .unknownNode)

/-- The strategies of so many of the nodes, whose places are numbered from an index on. -/
def planNodes (options : OptionSection) (place : Nat → Pointer) (index count : Nat) :
    List Node → Planning (List Strategy)
  | [] => return []
  | node :: rest =>
    match count with
    | 0 => return []
    | count + 1 => do
      let strategy ← node.planAt options (place index)
      return strategy :: (← planNodes options place (index + 1) count rest)

/-- The names of properties with their strategies and with whether they are required. -/
def planProperties (options : OptionSection) (pointer : Pointer) :
    List (Property Node) → Planning (List (String × Bool × Strategy))
  | [] => return []
  | ⟨name, schema, required⟩ :: rest => do
    let strategy ← schema.planAt options (pointer ++ [name])
    return (name, required, strategy) :: (← planProperties options pointer rest)

end

/-- The strategy of a deferred node. -/
def Planning.forced (options : OptionSection) (thunks : Thunks) (thunk : Option String)
    (pointer : Pointer) : Planning Strategy :=
  match thunk.bind fun name => Entries.find? name thunks with
  | none => throw (.fault .noThunk)
  | some body => do
    let node ← ExceptT.lift body
    node.planAt options pointer

/-- The strategy of a schema; its definitions do not matter, for references are refused. -/
def Schema.plan (options : OptionSection) (schema : Schema) : Planning Strategy :=
  schema.root.planAt options []

end JsonSchema
