import JsonSchema.Fault
import JsonSchema.Number.Shortest

/-!
# Writing JSON text

The text is ASCII: everything outside the printable ASCII range is escaped, characters beyond the
basic plane as two surrogates. Without an indentation the separators are a comma or colon with one
blank; with one, every item stands on its own line, and empty arrays and objects stay closed.
`Json.text` lays out any value, and `Json.print` refuses those that are beyond the limits on integers.
-/

namespace JsonSchema

namespace Number

/-- Spelling of the numbers that are not finite in JSON text. -/
def jsonSpelling : Double.Spelling := ⟨"NaN", "Infinity"⟩

/-- Spelling of the numbers that are not finite in messages. -/
def plainSpelling : Double.Spelling := ⟨"nan", "inf"⟩

/-- The text of a number. -/
def text (spelling : Double.Spelling) : Number → String
  | .int value => toString value
  | .double value => value.text spelling

/-- The integer that the text of a number spells. -/
def numeral? : Number → Option Int
  | .int value => some value
  | .double _ => none

end Number

namespace Json

/-- A hexadecimal digit, in lower case. -/
def hexLetter (digit : Nat) : Char := Nat.digitChar digit

/-- The last `width` hexadecimal digits of a number. -/
def hexText : Nat → Nat → List Char
  | 0, _ => []
  | width + 1, n => hexText width (n / 16) ++ [hexLetter (n % 16)]

/-- The escape of one 16-bit unit. -/
def unitEscape (unit : Nat) : List Char := '\\' :: 'u' :: hexText 4 unit

/-- A character inside a string. -/
def escape (c : Char) : List Char :=
  match c with
  | '"' => ['\\', '"']
  | '\\' => ['\\', '\\']
  | '\n' => ['\\', 'n']
  | '\r' => ['\\', 'r']
  | '\t' => ['\\', 't']
  | '\x0c' => ['\\', 'f']
  | '\x08' => ['\\', 'b']
  | c =>
    if ' ' ≤ c ∧ c ≤ '~' then [c]
    else if c.toNat < 0x10000 then unitEscape c.toNat
    else
      unitEscape (0xD800 + (c.toNat - 0x10000) / 0x400) ++
        unitEscape (0xDC00 + (c.toNat - 0x10000) % 0x400)

/-- A string with its quotes. -/
def quote (s : String) : List Char := '"' :: s.toList.flatMap escape ++ ['"']

/-- How items are set apart: on one line, or one a line with a number of blanks for each level. -/
inductive Layout where
  | line
  | block (indent : Nat)

namespace Layout

/-- The layout of an optional indentation; a negative one counts as none. -/
def ofIndent : Option Int → Layout
  | none => .line
  | some indent => .block indent.toNat

/-- A new line at a depth, if there is one: before the first item, and after the last at the depth
outside. -/
def newline : Layout → Nat → List Char
  | .line, _ => []
  | .block indent, depth => '\n' :: List.replicate (indent * depth) ' '

/-- What stands between two items at a depth. -/
def between (layout : Layout) (depth : Nat) : List Char :=
  match layout with
  | .line => [',', ' ']
  | .block _ => ',' :: layout.newline depth

end Layout

mutual

/-- The text of a value at a depth. -/
def write (layout : Layout) (depth : Nat) : Json → List Char
  | .null => "null".toList
  | .bool true => "true".toList
  | .bool false => "false".toList
  | .number value => (value.text Number.jsonSpelling).toList
  | .string value => quote value
  | .array [] => "[]".toList
  | .array (item :: rest) =>
    '[' :: layout.newline (depth + 1) ++ write layout (depth + 1) item ++
      writeItems layout (depth + 1) rest ++ layout.newline depth ++ [']']
  | .object [] => "\x7b\x7d".toList
  | .object ((name, value) :: rest) =>
    '{' :: layout.newline (depth + 1) ++ quote name ++ [':', ' '] ++ write layout (depth + 1) value ++
      writeMembers layout (depth + 1) rest ++ layout.newline depth ++ ['}']

/-- The items after the first. -/
def writeItems (layout : Layout) (depth : Nat) : List Json → List Char
  | [] => []
  | item :: rest => layout.between depth ++ write layout depth item ++ writeItems layout depth rest

/-- The members after the first. -/
def writeMembers (layout : Layout) (depth : Nat) : List (String × Json) → List Char
  | [] => []
  | (name, value) :: rest =>
    layout.between depth ++ quote name ++ [':', ' '] ++ write layout depth value ++
      writeMembers layout depth rest

end

/-- The text of a value, with integers of any size in full. -/
def text (layout : Layout) (value : Json) : String := String.ofList (write layout 0 value)

mutual

/-- All integers of a value are written as numerals. -/
def hasNumerals : Json → Bool
  | .number value => value.numeral?.all hasNumeral
  | .array items => itemsHaveNumerals items
  | .object members => membersHaveNumerals members
  | _ => true

/-- All integers of items are written as numerals. -/
def itemsHaveNumerals : List Json → Bool
  | [] => true
  | item :: rest => item.hasNumerals && itemsHaveNumerals rest

/-- All integers of members are written as numerals. -/
def membersHaveNumerals : List (String × Json) → Bool
  | [] => true
  | (_, value) :: rest => value.hasNumerals && membersHaveNumerals rest

end

/-- The text of a value with an optional indentation. The indentation has to count blanks, except that a
string is written without a look at it, and all integers have to be written as numerals. -/
def print (indent : Option Int) (value : Json) : Except Fault String :=
  if value.kind ≠ .string ∧ indent.any (!isCount ·) then .error .noCount
  else if value.hasNumerals then .ok (value.text (.ofIndent indent))
  else .error .noNumeral

end Json

end JsonSchema
