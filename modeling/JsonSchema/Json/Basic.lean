import JsonSchema.Number.Basic

/-!
# JSON values

The members of an object stand in the order in which they were first written. `Json.WellFormed` says
that no object has two members of one name, which `Json.put` keeps; every value that the reader
returns is well formed.
-/

namespace JsonSchema

/-- A JSON value. -/
inductive Json where
  | null
  | bool (value : Bool)
  | number (value : Number)
  | string (value : String)
  | array (items : List Json)
  | object (members : List (String × Json))

/-- The kinds of JSON values; a double is a number even where it equals an integer. -/
inductive Kind where
  | null | boolean | integer | number | string | array | object
deriving DecidableEq

namespace Kind

/-- The name of a kind. -/
def name : Kind → String
  | .null => "null"
  | .boolean => "boolean"
  | .integer => "integer"
  | .number => "number"
  | .string => "string"
  | .array => "array"
  | .object => "object"

end Kind

/-- Named entries in order of their first occurrence. -/
abbrev Entries (α : Type) := List (String × α)

namespace Entries

/-- Puts a value under a name: an entry of that name keeps its position, a new one comes last. -/
def put {α : Type} (name : String) (value : α) : Entries α → Entries α
  | [] => [(name, value)]
  | (key, old) :: rest => if key = name then (key, value) :: rest else (key, old) :: put name value rest

/-- The value under a name. -/
def find? {α : Type} (name : String) : Entries α → Option α
  | [] => none
  | (key, value) :: rest => if key = name then some value else find? name rest

/-- The names in order. -/
def names {α : Type} (entries : Entries α) : List String := entries.map Prod.fst

/-- The entries of a list, the last of equal names winning at the first position. -/
def ofList {α : Type} (entries : List (String × α)) : Entries α :=
  entries.foldl (fun built (name, value) => put name value built) []

/-- What is found under a name is an entry. -/
theorem mem_of_find? {α : Type} {name : String} {value : α} {entries : Entries α}
    (h : find? name entries = some value) : (name, value) ∈ entries := by
  induction entries with
  | nil => simp [find?] at h
  | cons entry rest ih =>
    obtain ⟨key, old⟩ := entry
    by_cases hkey : key = name
    · simp [find?, hkey] at h
      simp [hkey, h]
    · simp [find?, hkey] at h
      exact List.mem_cons_of_mem _ (ih h)

/-- The value under a name is smaller than the entries that hold it. -/
theorem sizeOf_lt_of_find? {α : Type} [SizeOf α] {name : String} {value : α} {entries : Entries α}
    (h : find? name entries = some value) : sizeOf value < sizeOf entries := by
  have hmem := List.sizeOf_lt_of_mem (mem_of_find? h)
  simp at hmem
  omega

end Entries

namespace Json

/-- The kind of a value. -/
def kind : Json → Kind
  | .null => .null
  | .bool _ => .boolean
  | .number (.int _) => .integer
  | .number (.double _) => .number
  | .string _ => .string
  | .array _ => .array
  | .object _ => .object

/-- Whether a value is not `null`, `false`, zero or empty. -/
def holds : Json → Bool
  | .null => false
  | .bool value => value
  | .number value => !value.isZero
  | .string value => value ≠ ""
  | .array items => !items.isEmpty
  | .object members => !members.isEmpty

mutual

/-- No object of the value has two members of one name. -/
def WellFormed : Json → Prop
  | .array items => AllWellFormed items
  | .object members => (Entries.names members).Nodup ∧ MembersWellFormed members
  | _ => True

/-- Every item is well formed. -/
def AllWellFormed : List Json → Prop
  | [] => True
  | item :: rest => WellFormed item ∧ AllWellFormed rest

/-- Every member is well formed. -/
def MembersWellFormed : List (String × Json) → Prop
  | [] => True
  | (_, value) :: rest => WellFormed value ∧ MembersWellFormed rest

end

/-- A boolean counts as one or zero where values are compared as numbers. -/
def number? : Json → Option Number
  | .bool value => some (.int (if value then 1 else 0))
  | .number value => some value
  | _ => none

mutual

/-- Equality of meaning: numbers by value, a boolean as one or zero, objects without regard to the
order of their members. -/
def same : Json → Json → Bool
  | .null, .null => true
  | .string a, .string b => a == b
  | .array a, .array b => sameItems a b
  | .object a, .object b => a.length == b.length && sameMembers a b
  | a, b =>
    match a.number?, b.number? with
    | some x, some y => x.same y
    | _, _ => false

/-- The items agree one by one. -/
def sameItems : List Json → List Json → Bool
  | [], [] => true
  | a :: as, b :: bs => same a b && sameItems as bs
  | _, _ => false

/-- Every member is found with an equal value among the other members. -/
def sameMembers : List (String × Json) → List (String × Json) → Bool
  | [], _ => true
  | (name, a) :: rest, members =>
    (match Entries.find? name members with
      | some b => same a b
      | none => false) && sameMembers rest members

end

end Json

end JsonSchema
