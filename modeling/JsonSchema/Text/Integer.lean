import JsonSchema.Number.Limits
import JsonSchema.Text.CharacterClass

/-!
# Integers in text

An integer is written with decimal digits of any script, a sign before them, blanks around them and
single underscores between digits.
-/

namespace JsonSchema.Text

/-- A text without the blanks at its start. -/
def dropBlanks (text : List Char) : List Char := text.dropWhile fun c => isSpace c.toNat

/-- The values of digits, with no underscore but single ones between digits. -/
def digitValues : List Char → Option (List Nat)
  | [] => none
  | [c] => (decimalValue? c.toNat).map fun value => [value]
  | c :: '_' :: rest =>
    match decimalValue? c.toNat, digitValues rest with
    | some value, some values => some (value :: values)
    | _, _ => none
  | c :: rest =>
    match decimalValue? c.toNat, digitValues rest with
    | some value, some values => some (value :: values)
    | _, _ => none

/-- The natural number that digits stand for. -/
def natural? (text : List Char) : Option Nat :=
  match digitValues text with
  | some values =>
    if values.length ≤ digitLimit then some (values.foldl (fun n value => 10 * n + value) 0)
    else none
  | none => none

/-- The integer that a text stands for. -/
def integer? (text : String) : Option Int :=
  match (dropBlanks (dropBlanks text.toList).reverse).reverse with
  | '-' :: rest => (natural? rest).map fun value => -(value : Int)
  | '+' :: rest => (natural? rest).map fun value => (value : Int)
  | rest => (natural? rest).map fun value => (value : Int)

end JsonSchema.Text
