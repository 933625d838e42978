/-!
# Similar names

Two names are similar when the characters in their common blocks make up enough of both. The blocks
are found by taking the longest one, the earliest of several, and looking on both sides of it.
-/

namespace JsonSchema.Similar

/-- The number of equal characters at the starts of two names. -/
def commonStart : List Char → List Char → Nat
  | a :: as, b :: bs => if a = b then commonStart as bs + 1 else 0
  | _, _ => 0

/-- A common block: where it starts in both names, and its length. -/
structure Block where
  left : Nat
  right : Nat
  length : Nat

/-- The longest common block of two names, the earliest of several. -/
def longestBlock (a b : List Char) : Block :=
  let starts := (List.range a.length).flatMap fun i => (List.range b.length).map fun j => (i, j)
  starts.foldl (fun best (i, j) =>
    let length := commonStart (a.drop i) (b.drop j)
    if best.length < length then ⟨i, j, length⟩ else best) ⟨0, 0, 0⟩

/-- The number of characters in common blocks, for names of bounded length. -/
def matchedWithin : Nat → List Char → List Char → Nat
  | 0, _, _ => 0
  | bound + 1, a, b =>
    let block := longestBlock a b
    if block.length = 0 then 0
    else
      matchedWithin bound (a.take block.left) (b.take block.right) + block.length +
        matchedWithin bound (a.drop (block.left + block.length))
          (b.drop (block.right + block.length))

/-- The number of characters in common blocks. -/
def matched (a b : List Char) : Nat := matchedWithin a.length a b

/-- Whether the common blocks make up three fifths of both names together. -/
def isSimilar (a b : String) : Bool :=
  3 * (a.length + b.length) ≤ 10 * matched a.toList b.toList

/-- The names that are similar to a given one, in alphabetical order. -/
def similar (name : String) (names : List String) : List String :=
  (names.filter fun candidate => isSimilar candidate name).mergeSort (· ≤ ·)

end JsonSchema.Similar
