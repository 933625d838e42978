import JsonSchema.Json.Reader
import JsonSchema.Text.NameTable

/-!
# Names of characters

The Unicode names of characters, with their aliases. Names of Hangul syllables are composed of the names
of their letters, and names of ideographs end in the code of the ideograph. All other names are listed in a
table. They are found without regard to the case of ASCII letters, unlike the names of syllables and of
unified ideographs.
-/

namespace JsonSchema.Text

/-! ### Names that are composed -/

/-- The names of the consonants that a Hangul syllable may begin with, in order. -/
def leadingConsonants : List String :=
  ["G", "GG", "N", "D", "DD", "R", "M", "B", "BB", "S", "SS", "", "J", "JJ", "C", "K", "T", "P", "H"]

/-- The names of the vowels of Hangul syllables, in order. -/
def vowels : List String :=
  ["A", "AE", "YA", "YAE", "EO", "E", "YEO", "YE", "O", "WA", "WAE", "OE", "YO", "U", "WEO", "WE", "WI",
    "YU", "EU", "YI", "I"]

/-- The names of the consonants that a Hangul syllable may end with, in order. -/
def trailingConsonants : List String :=
  ["", "G", "GG", "GS", "N", "NJ", "NH", "D", "L", "LG", "LM", "LB", "LS", "LT", "LP", "LH", "M", "B", "BS",
    "S", "SS", "NG", "J", "C", "K", "T", "P", "H"]

/-- A letter of the name of a vowel. -/
def isVowel (c : Char) : Bool := c ∈ ['A', 'E', 'I', 'O', 'U', 'W', 'Y']

/-- The Hangul syllable that these letters spell. -/
def syllable? (letters : List Char) : Option Nat := do
  let middle := letters.dropWhile (!isVowel ·)
  let leading ← leadingConsonants.idxOf? (String.ofList (letters.takeWhile (!isVowel ·)))
  let vowel ← vowels.idxOf? (String.ofList (middle.takeWhile isVowel))
  let trailing ← trailingConsonants.idxOf? (String.ofList (middle.dropWhile isVowel))
  return 0xAC00 + (leading * vowels.length + vowel) * trailingConsonants.length + trailing

/-- The number that four or five hexadecimal digits spell, with capital letters. -/
def code? (digits : List Char) : Option Nat := do
  let values ← digits.mapM fun c => if c.isLower then none else Json.hexDigit? c
  if digits.length = 4 ∨ digits.length = 5 then
    return values.foldl (fun code value => 16 * code + value) 0
  else none

/-- Where the unified ideographs start and end. -/
def unifiedRanges : List (Nat × Nat) :=
  [(0x3400, 0x4DBF), (0x4E00, 0x9FFF), (0x20000, 0x2A6DF), (0x2A700, 0x2B738), (0x2B740, 0x2B81D),
    (0x2B820, 0x2CEA1), (0x2CEB0, 0x2EBE0), (0x30000, 0x3134A)]

/-- Where the other characters start and end whose names end in their codes, by what stands before the
codes. -/
def codedRanges : List (String × List (Nat × Nat)) :=
  [("CJK COMPATIBILITY IDEOGRAPH-", [(0xF900, 0xFA6D), (0xFA70, 0xFAD9), (0x2F800, 0x2FA1D)]),
    ("KHITAN SMALL SCRIPT CHARACTER-", [(0x18B00, 0x18CD5)]),
    ("NUSHU CHARACTER-", [(0x1B170, 0x1B2FB)])]

/-- What is left of a name after its front. -/
def after? (front : String) (name : List Char) : Option (List Char) :=
  if front.toList.isPrefixOf name then some (name.drop front.length) else none

/-- Whether one of the ranges holds a character. -/
def inRanges (ranges : List (Nat × Nat)) (c : Nat) : Bool :=
  ranges.any fun (first, last) => first ≤ c && c ≤ last

/-- The syllable or the unified ideograph of a name. -/
def composed? (name : List Char) : Option Nat :=
  match after? "HANGUL SYLLABLE " name, after? "CJK UNIFIED IDEOGRAPH-" name with
  | some letters, _ => syllable? letters
  | none, some digits => (code? digits).filter (inRanges unifiedRanges)
  | none, none => none

/-- The character of a name that ends in its code, which has no zeros in front of its four or five
digits. -/
def coded? (name : List Char) : Option Nat :=
  codedRanges.findSome? fun (front, ranges) => do
    let digits ← after? front name
    let c ← code? digits
    if inRanges ranges c ∧ (digits.length = 4 ↔ c < 0x10000) then return c else none

/-! ### Names that are listed -/

/-- The number that a letter of the table stands for. -/
def wordCount (letter : Char) : Nat := letter.toNat - 'a'.toNat

/-- The words of a name that is written after another one: those that it shares with the start of the
other name, its own, and those that it shares with the end. -/
def nameAfter (before : List String) : List Char → List String
  | [] => []
  | first :: written =>
    let own := written.takeWhile (!Char.isLower ·)
    let last := (written.dropWhile (!Char.isLower ·)).head?.elim 0 wordCount
    before.take (wordCount first) ++ (if own.isEmpty then [] else (String.ofList own).splitOn " ") ++
      before.drop (before.length - last)

/-- The names of a character that are written after another name, each after the one before it. -/
def namesAfter (before : List String) : List String → List (List String)
  | [] => []
  | written :: rest =>
    let name := nameAfter before written.toList
    name :: namesAfter name rest

/-- The first character with a name among cells of the table, from a character on and after a name. -/
def listedFrom? (wanted : List String) : Nat → List String → List String → Option Nat
  | _, _, [] => none
  | c, before, cell :: cells =>
    match cell.toNat? with
    | some unnamed => listedFrom? wanted (c + unnamed) before cells
    | none =>
      let names := namesAfter before (cell.splitOn "|")
      if names.contains wanted then some c
      else listedFrom? wanted (c + 1) (names.getLast?.getD before) cells

/-- The character of a name in the table. -/
def listed? (name : String) : Option Nat :=
  listedFrom? (name.splitOn " ") 0 [] ((nameTable.splitOn "\n").flatMap (·.splitOn ","))

/-- The character of a name. -/
def characterNamed? (name : String) : Option Nat :=
  let upper := name.toUpper
  (composed? name.toList).or ((coded? upper.toList).or (listed? upper))

end JsonSchema.Text
