import JsonSchema.Json.Writer
import JsonSchema.Text.Printable

/-!
# Quoted text in messages

Messages quote names and patterns between single quotes, or between double quotes where the text has
a single quote and no double one. The backslash, the chosen quote and three blanks are escaped by a
letter, and a character that is not printable by the shortest of three hexadecimal forms.
-/

namespace JsonSchema.Text

/-- The quote that a text is put between. -/
def quoteFor (text : List Char) : Char :=
  if text.contains '\'' && !text.contains '"' then '"' else '\''

/-- A character between quotes. -/
def quotedChar (mark c : Char) : List Char :=
  if c = mark ∨ c = '\\' then ['\\', c]
  else if c = '\n' then ['\\', 'n']
  else if c = '\r' then ['\\', 'r']
  else if c = '\t' then ['\\', 't']
  else if isPrintable c then [c]
  else if c.toNat < 0x100 then '\\' :: 'x' :: Json.hexText 2 c.toNat
  else if c.toNat < 0x10000 then '\\' :: 'u' :: Json.hexText 4 c.toNat
  else '\\' :: 'U' :: Json.hexText 8 c.toNat

/-- A text between quotes. -/
def quotedChars (text : List Char) : List Char :=
  quoteFor text :: text.flatMap (quotedChar (quoteFor text)) ++ [quoteFor text]

/-- A string between quotes. -/
def quoted (text : String) : String := String.ofList (quotedChars text.toList)

end JsonSchema.Text
