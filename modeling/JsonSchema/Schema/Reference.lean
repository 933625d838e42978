import JsonSchema.Node.Equality
import JsonSchema.Note

/-!
# Definitions and references

Definitions of several schemas are merged into one mapping: of equal names the last body wins and
the first position stays. A reference names a definition after one of two path beginnings, and any
other text names it by its last segment.
-/

namespace JsonSchema

namespace Definitions

/-- The path that the names of definitions are written after. -/
def path : String := "#/definitions/"

/-- The paths that the names of definitions are read after. -/
def paths : List String := [path, "#/$defs/"]

/-- The reference string of a name. -/
def referenceTo (name : String) : String := path ++ name

/-- The text after the last slash. -/
def lastSegment (text : List Char) : List Char := (text.reverse.takeWhile (· ≠ '/')).reverse

/-- The name that a reference string speaks of. -/
def nameOf (target : String) : String :=
  match paths.findSome? fun start => start.toList.isPrefixOf? target.toList with
  | some name => String.ofList name
  | none => String.ofList (lastSegment target.toList)

/-- The body that a reference string speaks of. -/
def resolve? (definitions : Definitions) (target : String) : Option Node :=
  Entries.find? (nameOf target) definitions

/-- Looks a reference up and notes where nothing is found. -/
def lookUp (definitions : Definitions) (target : String) : Noted (Option Node) :=
  match resolve? definitions target with
  | some body => ⟨some body, []⟩
  | none => ⟨none, [.undefined target definitions.length]⟩

/-- The union of several definitions. -/
def merge (mappings : List Definitions) : Definitions := Entries.ofList mappings.flatten

/-- What is noted while entries are put after others: each change of a body. -/
def redefinitions : Definitions → List (String × Node) → List Note
  | _, [] => []
  | merged, (name, body) :: rest =>
    (match Entries.find? name merged with
      | some earlier => if earlier.same body then [] else [.redefined name]
      | none => []) ++ redefinitions (Entries.put name body merged) rest

/-- The union of several definitions with what is noted on the way. -/
def union (mappings : List Definitions) : Noted Definitions :=
  ⟨merge mappings, redefinitions [] mappings.flatten⟩

end Definitions

end JsonSchema
