import JsonSchema.Schema.Reference
import JsonSchema.Document.Size
import JsonSchema.Json.Reader

/-!
# Reading documents

Every JSON value can be read: a document of no known shape is kept verbatim. The definitions
of every level are hoisted into one mapping. `Document.parse` gives the node of a document with the
steps taken on the way, in order; `Document.read` lets the steps act on an empty mapping.
-/

namespace JsonSchema.Document

/-- A step of reading: definitions that are hoisted, or a document that is kept verbatim. -/
inductive Step where
  | hoist (definitions : Definitions)
  | keep (reason : Mismatch)

/-- The node of a document with the steps taken on the way. -/
structure Parsed where
  node : Node
  steps : List Step := []

/-- The named documents that a document defines. -/
def defined (members : Entries Json) : Option (Entries Json) :=
  match Entries.find? "definitions" members with
  | some (.object bodies) => some bodies
  | _ => none

/-- A body that a document defines is smaller than its members. -/
theorem sizeOf_lt_of_mem_defined {members bodies : Entries Json} {entry : String × Json}
    (h : defined members = some bodies) (hentry : entry ∈ bodies) :
    sizeOf entry.2 < sizeOf members := by
  unfold defined at h
  split at h
  · rename_i found hfound
    cases h
    have hlt := Entries.sizeOf_lt_of_find? hfound
    have hmem := List.sizeOf_lt_of_mem hentry
    obtain ⟨name, body⟩ := entry
    simp at hlt hmem ⊢
    omega
  · exact absurd h (by simp)

/-- The steps that hoist what a document defines, after the steps of the bodies. -/
def hoisting (bodies : Entries Parsed) : List Step :=
  bodies.flatMap (fun (_, parsed) => parsed.steps) ++
    [.hoist (Entries.ofList (bodies.map fun (name, parsed) => (name, parsed.node)))]

/-- What becomes of a document whose parts are parsed. -/
def conclude (document : Json) (outcome : Outcome) (parts : List Parsed) : Parsed :=
  let steps := parts.flatMap (·.steps)
  match outcome with
  | .node assemble => ⟨assemble (parts.map (·.node)), steps⟩
  | .mismatch reason => ⟨.verbatim document, steps ++ [.keep reason]⟩
  | .unrecognised => ⟨.verbatim document, steps⟩

/-- The node of a document: first what it defines is hoisted, then its parts are parsed. -/
def parse (document : Json) : Parsed :=
  match document with
  | .object members =>
    let hoisted := match hbodies : defined members with
      | some bodies =>
        hoisting (bodies.attach.map fun ⟨entry, hentry⟩ =>
          have := sizeOf_lt_of_mem_defined hbodies hentry
          (entry.1, parse entry.2))
      | none => []
    let shape := Shape.ofMembers members
    let parts := shape.parts.attach.map fun ⟨part, hpart⟩ =>
      have := Shape.sizeOf_part_lt hpart
      parse part
    let concluded := conclude document shape.outcome parts
    { concluded with steps := hoisted ++ concluded.steps }
  | document => ⟨.verbatim document, []⟩
termination_by sizeOf document
decreasing_by
  · simp
    omega
  · have := Shape.sizeOf_part_lt hpart
    simp
    omega

/-- What a document hoists before its parts are parsed. -/
def hoisted (members : Entries Json) : List Step :=
  match defined members with
  | some bodies => hoisting (bodies.map fun (name, body) => (name, parse body))
  | none => []

/-- The node of an object document, in terms of the nodes of its bodies and parts. -/
theorem parse_object (members : Entries Json) :
    parse (.object members) =
      let shape := Shape.ofMembers members
      let concluded := conclude (.object members) shape.outcome (shape.parts.map parse)
      { concluded with steps := hoisted members ++ concluded.steps } := by
  have hhoisted : (match hbodies : defined members with
      | some bodies => hoisting (bodies.attach.map fun ⟨entry, _⟩ => (entry.1, parse entry.2))
      | none => []) = hoisted members := by
    unfold hoisted
    split <;> rename_i h <;> simp [h]
    exact congrArg hoisting
      (@List.attach_map_val _ _ _ fun entry : String × Json => (entry.1, parse entry.2))
  rw [parse]
  simp [hhoisted]

/-- The steps acting on definitions, with what is noted on the way. -/
def follow : List Step → Definitions → Noted Definitions
  | [], definitions => ⟨definitions, []⟩
  | .hoist hoisted :: rest, definitions =>
    (Definitions.union [definitions, hoisted]).andThen (follow rest)
  | .keep reason :: rest, definitions => Noted.andThen ⟨definitions, [.keptVerbatim reason]⟩ (follow rest)

/-- The schema of a document, where definitions are given that its own are added to. -/
def readInto (definitions : Definitions) (document : Json) : Noted Schema :=
  let parsed := parse document
  (follow parsed.steps definitions).andThen fun definitions => ⟨⟨parsed.node, definitions⟩, []⟩

/-- The schema of a document. -/
def read (document : Json) : Noted Schema := readInto [] document

/-- The schema of a document that is given as text. -/
def readText (text : String) : Except ReadError (Noted Schema) := (Json.read text).map read

end JsonSchema.Document
