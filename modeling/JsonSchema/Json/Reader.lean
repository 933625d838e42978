import JsonSchema.Json.Basic
import JsonSchema.Number.Limits

/-!
# Reading JSON text

`Json.read` accepts the JSON grammar and the three names `NaN`, `Infinity` and `-Infinity`. Of equal
keys in one object the last wins at the first position. Text that is not JSON is refused with a cause
and the place of the first character that cannot continue, and an integer literal of more than
`digitLimit` digits is refused by its size. Inside, the rest of the text stands for the place: a step
takes characters off its front, and a refusal says how many characters were left.

A surrogate that an escape spells without its other half is no character. It is kept as the private
character `0x100000` above it, so that different ones stay different and apart from all other characters
in use.
-/

namespace JsonSchema

/-- Why text is not JSON. -/
inductive SyntaxError where
  | value
  | name
  | colon
  | comma
  | extra
  | unterminated
  | control
  | escape
  | codePoint
  | byteOrderMark
deriving DecidableEq

namespace SyntaxError

/-- The wording of a cause. -/
def message : SyntaxError → String
  | .value => "Expecting value"
  | .name => "Expecting property name enclosed in double quotes"
  | .colon => "Expecting ':' delimiter"
  | .comma => "Expecting ',' delimiter"
  | .extra => "Extra data"
  | .unterminated => "Unterminated string starting at"
  | .control => "Invalid control character at"
  | .escape => "Invalid \\escape"
  | .codePoint => "Invalid \\uXXXX escape"
  | .byteOrderMark => "Unexpected UTF-8 BOM (decode using utf-8-sig)"

end SyntaxError

/-- A place in a text: characters before it, and line and column counted from one. -/
structure TextPlace where
  offset : Nat
  line : Nat
  column : Nat
deriving DecidableEq

namespace TextPlace

/-- The line and column reached after some characters; only a line feed starts a line. -/
def advance : List Char → Nat × Nat → Nat × Nat
  | [], reached => reached
  | c :: rest, (line, column) => advance rest (if c = '\n' then (line + 1, 1) else (line, column + 1))

/-- The place after `offset` characters of a text. -/
def ofOffset (text : List Char) (offset : Nat) : TextPlace :=
  let (line, column) := advance (text.take offset) (1, 1)
  ⟨offset, line, column⟩

/-- The wording of a place. -/
def text (place : TextPlace) : String :=
  s!"line {place.line} column {place.column} (char {place.offset})"

end TextPlace

/-- The refusals of the JSON reader. -/
inductive ReadError where
  | malformed (cause : SyntaxError) (place : TextPlace)
  | tooManyDigits (count : Nat)
deriving DecidableEq

namespace ReadError

/-- The wording of a refusal. -/
def message : ReadError → String
  | .malformed cause place => cause.message ++ ": " ++ place.text
  | .tooManyDigits count =>
    s!"Exceeds the limit ({digitLimit} digits) for integer string conversion: value has {count} " ++
      "digits; use sys.set_int_max_str_digits() to increase the limit"

end ReadError

namespace Json

/-- A refusal while reading: a cause with the number of characters left, or a literal's digits. -/
inductive Refusal where
  | malformed (cause : SyntaxError) (left : Nat)
  | tooManyDigits (count : Nat)

/-- The outcome of reading one part of a text: what was read, and the rest of the text. -/
abbrev Reading (α : Type) := Except Refusal (α × List Char)

namespace Reading

/-- The refusal of a rest of the text. -/
def refuse {α : Type} (cause : SyntaxError) (rest : List Char) : Reading α :=
  .error (.malformed cause rest.length)

/-- Reads on after a part that was read. -/
def next {α β : Type} (first : Reading α) (after : α → List Char → Reading β) : Reading β :=
  match first with
  | .ok (value, rest) => after value rest
  | .error refusal => .error refusal

end Reading

/-- The characters that may stand between tokens. -/
def isBlank (c : Char) : Bool := c = ' ' || c = '\t' || c = '\n' || c = '\r'

/-- Drops the blanks at the front of a text. -/
def skipBlank (text : List Char) : List Char := text.dropWhile isBlank

/-- The value of a hexadecimal digit. -/
def hexDigit? (c : Char) : Option Nat :=
  if '0' ≤ c ∧ c ≤ '9' then some (c.toNat - '0'.toNat)
  else if 'a' ≤ c ∧ c ≤ 'f' then some (c.toNat - 'a'.toNat + 10)
  else if 'A' ≤ c ∧ c ≤ 'F' then some (c.toNat - 'A'.toNat + 10)
  else none

/-- The value of four hexadecimal digits. -/
def fourHex? (a b c d : Char) : Option Nat := do
  return ((← hexDigit? a) * 16 + (← hexDigit? b)) * 256 + (← hexDigit? c) * 16 + (← hexDigit? d)

/-- The character that a one-letter escape stands for. -/
def shortEscape? : Char → Option Char
  | '"' => some '"'
  | '\\' => some '\\'
  | '/' => some '/'
  | 'b' => some '\x08'
  | 'f' => some '\x0c'
  | 'n' => some '\n'
  | 'r' => some '\r'
  | 't' => some '\t'
  | _ => none

/-- The code points of a string up to its closing quote, where `start` characters were left at the
opening quote. -/
def stringPoints (start : Nat) : List Char → Reading (List Nat)
  | [] => .error (.malformed .unterminated start)
  | '"' :: rest => .ok ([], rest)
  | ['\\'] => .error (.malformed .unterminated start)
  | '\\' :: 'u' :: a :: b :: c :: d :: rest =>
    match fourHex? a b c d, rest.isEmpty with
    | some point, false =>
      (stringPoints start rest).next fun points rest => .ok (point :: points, rest)
    | _, _ => .refuse .codePoint ('u' :: a :: b :: c :: d :: rest)
  | '\\' :: 'u' :: rest => .refuse .codePoint ('u' :: rest)
  | '\\' :: letter :: rest =>
    match shortEscape? letter with
    | some c => (stringPoints start rest).next fun points rest => .ok (c.toNat :: points, rest)
    | none => .refuse .escape ('\\' :: letter :: rest)
  | c :: rest =>
    if c.toNat < 0x20 then .refuse .control (c :: rest)
    else (stringPoints start rest).next fun points rest => .ok (c.toNat :: points, rest)

/-- The character of a code point; a surrogate is kept as a private character. -/
def pointChar (point : Nat) : Char :=
  if 0xD800 ≤ point ∧ point < 0xE000 then Char.ofNat (0x100000 + point) else Char.ofNat point

/-- The characters of code points, with each pair of surrogates joined. -/
def joinSurrogates : List Nat → List Char
  | [] => []
  | [point] => [pointChar point]
  | high :: low :: rest =>
    if 0xD800 ≤ high ∧ high < 0xDC00 ∧ 0xDC00 ≤ low ∧ low < 0xE000 then
      Char.ofNat (0x10000 + (high - 0xD800) * 0x400 + (low - 0xDC00)) :: joinSurrogates rest
    else pointChar high :: joinSurrogates (low :: rest)

/-- A string after its opening quote. -/
def stringBody (text : List Char) : Reading String :=
  (stringPoints (text.length + 1) text).next fun points rest =>
    .ok (String.ofList (joinSurrogates points), rest)

/-- A decimal digit. -/
def isDigit (c : Char) : Bool := '0' ≤ c && c ≤ '9'

/-- The number that decimal digits spell. -/
def natOfDigits (digits : List Char) : Nat :=
  digits.foldl (fun value c => value * 10 + (c.toNat - '0'.toNat)) 0

/-- The digits before the point: a lone zero, or digits that start with another one. -/
def wholeDigits : List Char → Option (List Char × List Char)
  | '0' :: rest => some (['0'], rest)
  | c :: rest => if isDigit c then some ((c :: rest).span isDigit) else none
  | [] => none

/-- The digits after a point; a point without digits is left alone. -/
def fractionDigits : List Char → Option (List Char × List Char)
  | '.' :: rest =>
    match rest.span isDigit with
    | ([], _) => none
    | found => some found
  | _ => none

/-- The exponent after an `e`; an `e` without digits is left alone. -/
def exponentPart : List Char → Option (Int × List Char)
  | e :: rest =>
    if e = 'e' ∨ e = 'E' then
      let (negative, rest) := match rest with
        | '-' :: rest => (true, rest)
        | '+' :: rest => (false, rest)
        | rest => (false, rest)
      match rest.span isDigit with
      | ([], _) => none
      | (digits, rest) =>
        some (if negative then -(natOfDigits digits : Int) else natOfDigits digits, rest)
    else none
  | [] => none

/-- A number: an integer where neither point nor exponent follows the digits, else a double. -/
def numberBody (text : List Char) : Reading Number :=
  let (negative, unsigned) := match text with
    | '-' :: rest => (true, rest)
    | rest => (false, rest)
  match wholeDigits unsigned with
  | none => .refuse .value text
  | some (whole, afterWhole) =>
    let fraction := fractionDigits afterWhole
    let (decimals, afterFraction) := fraction.getD ([], afterWhole)
    let exponent := exponentPart afterFraction
    let (shift, rest) := exponent.getD (0, afterFraction)
    if fraction.isNone && exponent.isNone then
      if digitLimit < whole.length then .error (.tooManyDigits whole.length)
      else
        let value : Int := natOfDigits whole
        .ok (.int (if negative then -value else value), rest)
    else
      .ok (.double (.ofDecimal negative (natOfDigits (whole ++ decimals)) (shift - decimals.length)),
        rest)

mutual

/-- A value. The first argument bounds the depth of the calls; `2 * length + 1` is always enough. -/
def readValue : Nat → List Char → Reading Json
  | 0, text => .refuse .value text
  | fuel + 1, text =>
    match text with
    | '"' :: rest => (stringBody rest).next fun value rest => .ok (.string value, rest)
    | '{' :: rest =>
      match skipBlank rest with
      | '}' :: rest => .ok (.object [], rest)
      | rest => (readMembers fuel [] rest).next fun members rest => .ok (.object members, rest)
    | '[' :: rest =>
      match skipBlank rest with
      | ']' :: rest => .ok (.array [], rest)
      | rest => (readItems fuel rest).next fun items rest => .ok (.array items, rest)
    | 'n' :: 'u' :: 'l' :: 'l' :: rest => .ok (.null, rest)
    | 't' :: 'r' :: 'u' :: 'e' :: rest => .ok (.bool true, rest)
    | 'f' :: 'a' :: 'l' :: 's' :: 'e' :: rest => .ok (.bool false, rest)
    | 'N' :: 'a' :: 'N' :: rest => .ok (.number (.double .nan), rest)
    | 'I' :: 'n' :: 'f' :: 'i' :: 'n' :: 'i' :: 't' :: 'y' :: rest =>
      .ok (.number (.double (.infinity false)), rest)
    | '-' :: 'I' :: 'n' :: 'f' :: 'i' :: 'n' :: 'i' :: 't' :: 'y' :: rest =>
      .ok (.number (.double (.infinity true)), rest)
    | text => (numberBody text).next fun value rest => .ok (.number value, rest)

/-- The items of an array after its bracket, up to the closing one. -/
def readItems : Nat → List Char → Reading (List Json)
  | 0, text => .refuse .value text
  | fuel + 1, text =>
    (readValue fuel text).next fun item rest =>
      match skipBlank rest with
      | ']' :: rest => .ok ([item], rest)
      | ',' :: rest => (readItems fuel (skipBlank rest)).next fun items rest => .ok (item :: items, rest)
      | rest => .refuse .comma rest

/-- The members of an object after its brace, up to the closing one, added to those before them. -/
def readMembers : Nat → Entries Json → List Char → Reading (Entries Json)
  | 0, _, text => .refuse .value text
  | fuel + 1, members, text =>
    match text with
    | '"' :: rest =>
      (stringBody rest).next fun name rest =>
        match skipBlank rest with
        | ':' :: rest =>
          (readValue fuel (skipBlank rest)).next fun value rest =>
            let members := Entries.put name value members
            match skipBlank rest with
            | '}' :: rest => .ok (members, rest)
            | ',' :: rest => readMembers fuel members (skipBlank rest)
            | rest => .refuse .comma rest
        | rest => .refuse .colon rest
    | text => .refuse .name text

end

/-- One value with nothing but blanks around it. -/
def readWhole (text : List Char) : Except Refusal Json :=
  match text with
  | '\uFEFF' :: _ => .error (.malformed .byteOrderMark text.length)
  | _ =>
    match readValue (2 * text.length + 2) (skipBlank text) with
    | .error refusal => .error refusal
    | .ok (value, rest) =>
      match skipBlank rest with
      | [] => .ok value
      | rest => .error (.malformed .extra rest.length)

/-- Reads JSON text. -/
def read (text : String) : Except ReadError Json :=
  match readWhole text.toList with
  | .ok value => .ok value
  | .error (.malformed cause left) =>
    .error (.malformed cause (.ofOffset text.toList (text.toList.length - left)))
  | .error (.tooManyDigits count) => .error (.tooManyDigits count)

end Json

end JsonSchema
