/-!
# Pointers

A pointer leads from a value to a part of it by member names and decimal item numbers. Its text
starts every segment with a slash and writes a tilde as `~0` and a slash as `~1`; the root is a lone
slash.
-/

namespace JsonSchema

/-- A path of member names and item numbers. -/
abbrev Pointer := List String

namespace Pointer

/-- A character of a segment. -/
def escape : Char → List Char
  | '~' => ['~', '0']
  | '/' => ['~', '1']
  | c => [c]

/-- The characters of a pointer's text, without the lone slash of the root. -/
def chars (pointer : Pointer) : List Char :=
  pointer.flatMap fun segment => '/' :: segment.toList.flatMap escape

/-- The text of a pointer. -/
def text (pointer : Pointer) : String :=
  if pointer.isEmpty then "/" else String.ofList pointer.chars

/-- The segment of an item number. -/
def index (i : Nat) : String := toString i

/-- Different items have different segments. -/
theorem index_injective {i j : Nat} (h : index i = index j) : i = j := by
  have hdigits : Nat.toDigits 10 i = Nat.toDigits 10 j := String.ofList_injective h
  rw [← Nat.ofDigitChars_ten_toDigits (n := i), hdigits, Nat.ofDigitChars_ten_toDigits]

end Pointer

end JsonSchema
