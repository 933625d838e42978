import JsonSchema.Node.Basic
import JsonSchema.Note

/-!
# Suspended nodes

A table gives each name that deferred nodes speak of its body, with what is noted whenever the body
is built. Taking a body out of the table leaves a shorter one, which is why forcing comes to an end
where no body is forced inside itself.
-/

namespace JsonSchema

/-- The bodies of deferred nodes, each with what is noted when it is built. -/
abbrev Thunks := Entries (Noted Node)

namespace Thunks

/-- The bodies other than one. -/
def without (thunks : Thunks) (name : String) : Thunks := thunks.filter (·.1 ≠ name)

/-- A body that is found leaves fewer others. -/
theorem length_without_lt {thunks : Thunks} {name : String} {body : Noted Node}
    (h : Entries.find? name thunks = some body) : (without thunks name).length < thunks.length := by
  have hmem := Entries.mem_of_find? h
  refine Nat.lt_of_le_of_ne (List.length_filter_le _ _) fun heq => ?_
  have hall := (List.length_filter_eq_length_iff.mp heq) _ hmem
  simp at hall

/-- The reference strings in all bodies. -/
def references (thunks : Thunks) : List String := thunks.flatMap fun (_, body) => body.value.references

end Thunks

end JsonSchema
