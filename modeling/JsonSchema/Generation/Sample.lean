import JsonSchema.Generation.Draw
import JsonSchema.Json.Writer

/-!
# Samples

A sample lists different values of a strategy: all of them where there are no more than the limit,
and otherwise as many as the limit. Deferred nodes are followed a little deeper than there are
suspended nodes, so recursive schemas give their smaller values.
-/

namespace JsonSchema

namespace Sample

/-- The values with repetitions taken out, up to a limit. -/
def distinct (limit : Nat) (values : List Json) : List Json :=
  (values.eraseDupsBy fun a b => a.text .line == b.text .line).take limit

/-- The results of several steps. -/
def collect {α : Type} : List (Planning α) → Planning (List α)
  | [] => return []
  | step :: rest => do
    let result ← step
    return result :: (← collect rest)

/-- The lists with one item from each of several lists. -/
def product {α : Type} (limit : Nat) : List (List α) → List (List α)
  | [] => [[]]
  | values :: rest =>
    let tails := product limit rest
    (values.flatMap fun value => tails.map (value :: ·)).take limit

/-- The lists of given items, of a length and of so many greater ones. -/
def lists {α : Type} (limit : Nat) (values : List α) (length : Nat) : Nat → List (List α)
  | 0 => product limit (List.replicate length values)
  | more + 1 =>
    let shorter := product limit (List.replicate length values)
    if limit ≤ shorter.length then shorter
    else (shorter ++ lists limit values (length + 1) more).take limit

/-- The texts that are fitted: the empty one and the numerals. -/
def texts (limit : Nat) : List String := "" :: (List.range limit).map toString

/-- The arrays of items whose number is in a range; the items only matter where there can be any. -/
def arrays (limit : Nat) (item : Planning (List Json)) (least : Int) (greatest : Number) :
    Planning (List (List Json)) :=
  match greatest.toInt? with
  | none => return []
  | some greatest =>
    if greatest < least then return []
    else if greatest ≤ 0 then return [[]]
    else do
      let values ← item
      return lists limit values least.toNat (greatest - max 0 least).toNat

/-- The named values of an object: a required member has one of its values, an optional one may be
missing. -/
def memberValues (required : Bool) (name : String) (values : List Json) :
    List (Option (String × Json)) :=
  (if required then [] else [none]) ++ values.map fun value => some (name, value)

end Sample

open Planning Sample

/-- Values of a strategy. -/
def Strategy.sampleWithin (options : OptionSection) (thunks : Thunks) (limit depth : Nat)
    (strategy : Strategy) : Planning (List Json) :=
  match strategy with
  | .null => return [.null]
  | .boolean => return [.bool false, .bool true]
  | .text length =>
    return distinct limit ((texts limit).map fun text =>
      .string (String.ofList (Fit.fit length text.toList)))
  | .just value => return [value]
  | .choice values => return distinct limit values
  | .integer range =>
    return distinct limit ((List.range limit).map fun choice =>
      .number (Drawing.chosenInteger range choice))
  | .double range => do
    let values ← collect ((List.range limit).map fun choice =>
      match Drawing.chosenDouble range choice with
      | .ok value => pure (.number (.double value))
      | .error fault => throw (.fault fault))
    return distinct limit values
  | .list item least greatest => do
    let found ← arrays limit (item.sampleWithin options thunks limit depth) least greatest
    return distinct limit (found.map .array)
  | .tuple positional filler least greatest => do
    let first ← collect (positional.attach.map fun ⟨item, h⟩ =>
      have := List.sizeOf_lt_of_mem h
      item.sampleWithin options thunks limit depth)
    let rest ← arrays limit (filler.sampleWithin options thunks limit depth) least greatest
    return distinct limit ((product limit [product limit first, rest]).map fun parts =>
      .array parts.flatten)
  | .oneOf alternatives => do
    let found ← collect (alternatives.attach.map fun ⟨member, h⟩ =>
      have := List.sizeOf_lt_of_mem h
      member.sampleWithin options thunks limit depth)
    return distinct limit found.flatten
  | .object required optional => do
    let first ← collect (required.attach.map fun ⟨(name, member), h⟩ =>
      have := sizeOf_lt_of_mem_pair h
      memberValues true name <$> member.sampleWithin options thunks limit depth)
    let rest ← collect (optional.attach.map fun ⟨(name, member), h⟩ =>
      have := sizeOf_lt_of_mem_pair h
      memberValues false name <$> member.sampleWithin options thunks limit depth)
    return distinct limit ((product limit (first ++ rest)).map fun members =>
      .object (Entries.ofList (members.filterMap id)))
  | .deferred thunk pointer =>
    match depth with
    | 0 => return []
    | depth + 1 => do
      let strategy ← forced options thunks thunk pointer
      strategy.sampleWithin options thunks limit depth
termination_by (depth, sizeOf strategy)

/-- Different values of a schema, as many as are asked for where there are as many. -/
def Schema.sample (options : OptionSection) (thunks : Thunks) (count : Int) (schema : Schema) :
    Planning (List Json) := do
  let strategy ← schema.plan options
  if count ≤ 0 then return []
  else strategy.sampleWithin options thunks count.toNat (thunks.length + 1)

end JsonSchema
