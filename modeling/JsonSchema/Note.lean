import JsonSchema.Document.Mismatch
import JsonSchema.Generation.Hindrance

/-!
# Notes

What is noted on the way to a result, for readers who follow how it came about. A value with its
notes is `Noted`; notes of steps in a row stand one after the other.
-/

namespace JsonSchema

/-- How much a note matters. -/
inductive NoteLevel where
  | debug | warning
deriving DecidableEq

/-- Something that is worth noting on the way to a result. -/
inductive Note where
  | redefined (name : String)
  | undefined (target : String) (count : Nat)
  | keptVerbatim (reason : Mismatch)
  | unchecked (target : String)
  | badPattern (pattern complaint : String)
  | refused (part : RefusedPart)
  | crossedLength (pointer : Pointer)
deriving DecidableEq

namespace Note

/-- How much a note matters. -/
def level : Note → NoteLevel
  | .unchecked _ | .badPattern .. => .warning
  | _ => .debug

/-- The wording of a note. -/
def message : Note → String
  | .redefined name => "Definition " ++ Text.quoted name ++ " redefined while merging"
  | .undefined target count =>
    "Reference " ++ Text.quoted target ++ " not found among " ++ toString count ++ " definitions"
  | .keptVerbatim reason => "Keeping schema verbatim: " ++ reason.message
  | .unchecked target =>
    "Unresolved reference " ++ Text.quoted target ++ " accepted without validation"
  | .badPattern pattern complaint =>
    "Invalid pattern " ++ Text.quoted pattern ++ " in schema: " ++ complaint
  | .refused part => "Refusing to generate: " ++ part.message
  | .crossedLength pointer =>
    "minItems > maxItems at " ++ pointer.text ++ ", generating an empty array"

end Note

/-- A value with the notes made on the way to it. -/
structure Noted (α : Type) where
  value : α
  notes : List Note := []

namespace Noted

/-- Goes on from a value, keeping the notes made before. -/
def andThen {α β : Type} (first : Noted α) (next : α → Noted β) : Noted β :=
  let second := next first.value
  ⟨second.value, first.notes ++ second.notes⟩

/-- Steps in a row make their notes one after the other. -/
instance : Monad Noted where
  pure value := ⟨value, []⟩
  bind := andThen

/-- The values of a list, with all their notes in order. -/
def all {α : Type} (items : List (Noted α)) : Noted (List α) :=
  ⟨items.map (·.value), items.flatMap (·.notes)⟩

end Noted

end JsonSchema
