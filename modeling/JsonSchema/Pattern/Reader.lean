import JsonSchema.Pattern.Refusal
import JsonSchema.Pattern.Syntax
import JsonSchema.Text.CharacterClass
import JsonSchema.Text.CharacterName

/-!
# Reading regular expressions

A pattern is read token by token, a token being a character or a backslash with the character after
it. The reader looks one token ahead, so a lone backslash at the end is met as soon as the token
before it is taken. Groups are numbered by their opening brackets, and a reference may only name a
group that is closed. `Pattern.read` gives the parts of the expression with the options that hold
for all of it.
-/

namespace JsonSchema.Pattern

/-- A character, or a backslash with the character after it. -/
inductive Token where
  | plain (c : Char)
  | escape (c : Char)
deriving DecidableEq

namespace Token

/-- The characters of a token. -/
def chars : Token → List Char
  | .plain c => [c]
  | .escape c => ['\\', c]

/-- The tokens of a pattern, and whether a lone backslash ends it. -/
def split : List Char → List Token × Bool
  | [] => ([], false)
  | ['\\'] => ([], true)
  | '\\' :: c :: rest => let (tokens, dangling) := split rest; (.escape c :: tokens, dangling)
  | c :: rest => let (tokens, dangling) := split rest; (.plain c :: tokens, dangling)

end Token

/-- What does not change while a pattern is read. -/
structure Source where
  length : Nat
  dangling : Bool

/-- How far a pattern is read. The widths are those of the groups by number, group zero standing for
the whole; an open group has none yet. -/
structure Progress where
  rest : List Token
  options : Options := {}
  names : List (String × Nat) := []
  widths : List (Option Width) := [none]
  lookbehind : Option Nat := none
  references : List (Nat × Nat) := []

/-- A step of reading a pattern. -/
abbrev Reader := ReaderT Source (StateT Progress (Except Refusal))

namespace Reader

/-- The number of characters before the next token. -/
def position : Reader Nat := do
  let source ← read
  let left := ((← get).rest.flatMap Token.chars).length + if source.dangling then 1 else 0
  return source.length - left

/-- Complains about a place. -/
def failAt {α : Type} (complaint : Complaint) (position : Nat) : Reader α :=
  throw (.complaint complaint (some position))

/-- Complains about the place some characters before the next token. -/
def fail {α : Type} (complaint : Complaint) (back : Nat) : Reader α := do
  failAt complaint ((← position) - back)

/-- Refuses to look at a lone backslash that ends the pattern. -/
def lookAhead (rest : List Token) : Reader Unit := do
  let source ← read
  if rest.isEmpty && source.dangling then failAt .danglingEscape (source.length - 1)

/-- The next token. -/
def peek : Reader (Option Token) := return (← get).rest.head?

/-- Takes the next token. -/
def take : Reader (Option Token) := do
  match (← get).rest with
  | [] => return none
  | token :: rest =>
    modify ({ · with rest })
    lookAhead rest
    return some token

/-- Takes the next token if it is the given character. -/
def accept (c : Char) : Reader Bool := do
  if (← peek) = some (.plain c) then
    discard take
    return true
  else return false

/-- Takes at most `count` characters of a kind. -/
def takeWhile (kind : Char → Bool) : Nat → Reader (List Char)
  | 0 => return []
  | count + 1 => do
    match ← peek with
    | some (.plain c) =>
      if kind c then
        discard take
        return c :: (← takeWhile kind count)
      else return []
    | _ => return []

/-- Takes the characters of a name up to its terminator. -/
def nameUntil (terminator : Char) (kind : NameKind) : Nat → List Char → Reader (List Char)
  | 0, _ => fail (.missingName kind) 0
  | fuel + 1, taken => do
    match ← take with
    | none =>
      if taken.isEmpty then fail (.missingName kind) 0
      else fail (.unterminatedName terminator) taken.length
    | some token =>
      if token = .plain terminator then
        if taken.isEmpty then fail (.missingName kind) 1 else return taken
      else nameUntil terminator kind fuel (taken ++ token.chars)

/-- Takes a name with its terminator. -/
def name (terminator : Char) (kind : NameKind) : Reader (List Char) := do
  nameUntil terminator kind ((← get).rest.length + 1) []

/-- Refuses a group name that is no identifier. -/
def checkName (name : List Char) : Reader Unit := do
  unless Text.isIdentifier name do
    fail (.badGroupName (String.ofList name)) (name.length + 1)

/-- Whether a group is closed. -/
def isClosed (number : Nat) : Reader Bool := do
  return ((← get).widths[number]?.getD none).isSome

/-- Refuses a reference inside a look behind to a group that is open or inside it too. -/
def checkLookbehind (number : Nat) : Reader Unit := do
  match (← get).lookbehind with
  | none => return
  | some limit =>
    unless ← isClosed number do fail .openGroup 0
    if limit ≤ number then fail .lookbehindGroup 0

/-- A reference to a closed group. -/
def reference (number : Nat) : Reader Part := do
  let width := ((← get).widths[number]?.getD none).getD ⟨0, 0⟩
  return .backreference number width

end Reader

/-- An octal digit. -/
def isOctal (c : Char) : Bool := '0' ≤ c && c ≤ '7'

/-- A hexadecimal digit. -/
def isHex (c : Char) : Bool := (Json.hexDigit? c).isSome

/-- An ASCII letter. -/
def isAsciiLetter (c : Char) : Bool := ('a' ≤ c && c ≤ 'z') || ('A' ≤ c && c ≤ 'Z')

/-- The number that digits of a base spell. -/
def numberOf (base : Nat) (digits : List Char) : Nat :=
  digits.foldl (fun value c => value * base + (Json.hexDigit? c).getD 0) 0

/-- The characters that a letter after a backslash stands for. -/
def letterEscape? : Char → Option Nat
  | 'a' => some 7
  | 'b' => some 8
  | 'f' => some 12
  | 'n' => some 10
  | 'r' => some 13
  | 't' => some 9
  | 'v' => some 11
  | '\\' => some 92
  | _ => none

/-- The classes that a letter after a backslash stands for. -/
def classEscape? : Char → Option CharacterClass
  | 'd' => some (.digit false)
  | 'D' => some (.digit true)
  | 's' => some (.space false)
  | 'S' => some (.space true)
  | 'w' => some (.word false)
  | 'W' => some (.word true)
  | _ => none

/-- The conditions that a letter after a backslash stands for. -/
def anchorEscape? : Char → Option Anchor
  | 'A' => some .textStart
  | 'Z' => some .textEnd
  | 'b' => some .wordEdge
  | 'B' => some .notWordEdge
  | _ => none

namespace Reader

/-- Complains about an escape that was just taken. -/
def badEscape {α : Type} (escape : List Char) : Reader α :=
  fail (.badEscape (String.ofList escape)) escape.length

/-- A character given by exactly `count` hexadecimal digits. -/
def hexEscape (letter : Char) (count : Nat) : Reader Nat := do
  let digits ← takeWhile isHex count
  let escape := '\\' :: letter :: digits
  if digits.length ≠ count then
    fail (.incompleteEscape (String.ofList escape)) escape.length
  else if 0x110000 ≤ numberOf 16 digits then badEscape escape
  else return numberOf 16 digits

/-- A character given by its name. -/
def namedEscape : Reader Nat := do
  unless ← accept '{' do fail .missingBrace 0
  let name ← name '}' .character
  match Text.characterNamed? (String.ofList name) with
  | some c => return c
  | none => fail (.undefinedCharacter (String.ofList name)) (name.length + 4)

/-- A character given by octal digits that were just taken. -/
def octalEscape (digits : List Char) : Reader Nat := do
  if 0o377 < numberOf 8 digits then
    fail (.octalRange (String.ofList ('\\' :: digits))) (digits.length + 1)
  else return numberOf 8 digits

/-- The character of an escape that means the same inside and outside sets. -/
def plainEscape (c : Char) : Reader Nat := do
  if c = 'x' then hexEscape c 2
  else if c = 'u' then hexEscape c 4
  else if c = 'U' then hexEscape c 8
  else if c = 'N' then namedEscape
  else if isAsciiLetter c || Json.isDigit c then badEscape ['\\', c]
  else return c.toNat

/-- An escape inside a character set. -/
def setEscape (c : Char) : Reader SetMember := do
  match letterEscape? c, classEscape? c with
  | some c, _ => return .single c
  | none, some c => return .named c
  | none, none =>
    if isOctal c then return .single (← octalEscape (c :: (← takeWhile isOctal 2)))
    else return .single (← plainEscape c)

/-- A reference to a group by its number, whose digits were just taken. -/
def numberedReference (digits : List Char) : Reader Part := do
  let number := numberOf 10 digits
  if number < (← get).widths.length then
    unless ← isClosed number do fail .openGroup (digits.length + 1)
    checkLookbehind number
    reference number
  else fail (.noSuchGroup number) digits.length

/-- An escape outside character sets. -/
def escape (c : Char) : Reader Part := do
  match anchorEscape? c, classEscape? c, letterEscape? c with
  | some kind, _, _ => return .anchor kind
  | none, some c, _ => return .set false [.named c]
  | none, none, some c => return .single c
  | none, none, none =>
    if c = '0' then return .single (numberOf 8 (c :: (← takeWhile isOctal 2)))
    else if Json.isDigit c then
      let second ← takeWhile Json.isDigit 1
      let third ← if isOctal c && !second.isEmpty && second.all isOctal then takeWhile isOctal 1
        else pure []
      if third.isEmpty then numberedReference (c :: second)
      else return .single (← octalEscape (c :: second ++ third))
    else return .single (← plainEscape c)

/-- The member of a set that a token stands for. -/
def setMember : Token → Reader SetMember
  | .plain c => return .single c.toNat
  | .escape c => setEscape c

/-- The members of a set after its bracket, added to those before them. -/
def setMembers (start : Nat) : Nat → List SetMember → Reader (List SetMember)
  | 0, _ => failAt .unterminatedSet start
  | fuel + 1, members => do
    match ← take with
    | none => failAt .unterminatedSet start
    | some low =>
      if low = .plain ']' && !members.isEmpty then return members
      else
        let first ← setMember low
        if ← accept '-' then
          match ← take with
          | none => failAt .unterminatedSet start
          | some high =>
            if high = .plain ']' then return members ++ [first, .single '-'.toNat]
            else
              let second ← setMember high
              match first, second with
              | .single a, .single b =>
                if b < a then badRange low high else setMembers start fuel (members ++ [.range a b])
              | _, _ => badRange low high
        else setMembers start fuel (members ++ [first])
where
  badRange {α : Type} (low high : Token) : Reader α :=
    fail (.badRange (String.ofList low.chars) (String.ofList high.chars))
      (low.chars.length + 1 + high.chars.length)

/-- A character set after its bracket, which stands at `start`. -/
def characterSet (start : Nat) : Reader Part := do
  let negated ← accept '^'
  let members ← setMembers start ((← get).rest.length + 1) []
  return .set negated members

/-- Repetition counts are refused from this one on. -/
def repetitionLimit : Nat := 4294967295

/-- A repetition count. -/
def count (digits : List Char) : Reader Nat := do
  if digitLimit < digits.length then throw (.digitLimit digits.length)
  else if repetitionLimit ≤ numberOf 10 digits then throw .repetitionLimit
  else return numberOf 10 digits

/-- The counts of a repetition after its first character; a brace that no counts follow is none. -/
def counts? (c : Char) : Reader (Option (Nat × Option Nat)) := do
  if c = '?' then return some (0, some 1)
  else if c = '*' then return some (0, none)
  else if c = '+' then return some (1, none)
  else if (← peek) = some (.plain '}') then return none
  else
    let before := (← get).rest
    let here ← position
    let low ← takeWhile Json.isDigit before.length
    let high ← if ← accept ',' then takeWhile Json.isDigit before.length else pure low
    if ← accept '}' then
      let least ← if low.isEmpty then pure 0 else count low
      if high.isEmpty then return some (least, none)
      else
        let greatest ← count high
        if greatest < least then failAt .crossedRepetition here
        else return some (least, some greatest)
    else
      modify ({ · with rest := before })
      return none

/-- How a repetition chooses its count, by the character after it. -/
def greediness : Reader Greed := do
  if ← accept '?' then return .lazy
  if ← accept '+' then return .possessive
  return .greedy

/-- Repeats the last part of those read so far, where the repetition starts at `start`. -/
def repeatLast (start : Nat) (parts : List Part) (least : Nat) (greatest : Option Nat) :
    Reader (List Part) := do
  match parts.getLast? with
  | none => failAt .nothingToRepeat start
  | some last =>
    if last.isAnchor then failAt .nothingToRepeat start
    else if last.isRepetition then failAt .multipleRepetition start
    else
      let greed ← greediness
      return parts.dropLast ++ [.repetition greed least greatest [last]]

/-- The option of a letter. -/
def option? : Token → Option Options
  | .plain 'i' => some { ignoreCase := true }
  | .plain 'm' => some { multiline := true }
  | .plain 's' => some { dotAll := true }
  | .plain 'x' => some { verbose := true }
  | .plain 'a' => some { ascii := true }
  | .plain 't' => some { template := true }
  | .plain 'u' => some { unicode := true }
  | _ => none

/-- Whether a token is a letter. -/
def isLetter : Token → Bool
  | .plain c => Text.isLetter c.toNat
  | .escape _ => false

/-- The options that are switched on, from the given token up to the one that ends them. -/
def optionsOn : Nat → Token → Options → Reader (Options × Char)
  | 0, _, _ => fail .optionsEnd 0
  | fuel + 1, token, on => do
    match option? token with
    | none => fail .localeOption 0
    | some option =>
      let on := on.union option
      if option.hasRepertoire && on.ascii && on.unicode then fail .repertoireClash 0
      match ← take with
      | none => fail .optionsEnd 0
      | some (.plain ')') => return (on, ')')
      | some (.plain '-') => return (on, '-')
      | some (.plain ':') => return (on, ':')
      | some next =>
        if (option? next).isSome || next = .plain 'L' then optionsOn fuel next on
        else fail (if isLetter next then .unknownOption else .optionsEnd) next.chars.length

/-- The options that are switched off, from the given token up to the colon. -/
def optionsOff : Nat → Token → Options → Reader Options
  | 0, _, _ => fail .missingColon 0
  | fuel + 1, token, off => do
    match option? token with
    | none => fail .repertoireOff 0
    | some option =>
      if option.hasRepertoire then fail .repertoireOff 0
      let off := off.union option
      match ← take with
      | none => fail .missingColon 0
      | some (.plain ':') => return off
      | some next =>
        if (option? next).isSome || next = .plain 'L' then optionsOff fuel next off
        else fail (if isLetter next then .unknownOption else .missingColon) next.chars.length

/-- The options of a group from their first token: those switched on and off inside it, or nothing
where they hold for the whole expression. -/
def groupOptions (token : Token) : Reader (Option (Options × Options)) := do
  let fuel := (← get).rest.length + 1
  let (on, stop) ← if token = .plain '-' then pure ({}, '-') else optionsOn fuel token {}
  if stop = ')' then
    modify fun progress => { progress with options := progress.options.union on }
    return none
  else
    if on.template then fail .globalOn 1
    let off ← if stop = '-' then
        match ← take with
        | none => fail .missingOption 0
        | some next =>
          if (option? next).isSome || next = .plain 'L' then optionsOff fuel next {}
          else fail (if isLetter next then .unknownOption else .missingOption) next.chars.length
      else pure {}
    if off.template then fail .globalOff 1
    if !(on.without (on.without off)).isEmpty then fail .onAndOff 1
    return some (on, off)

/-- Drops a blank of verbose patterns or the rest of a comment. -/
def skipComment : Nat → Reader Unit
  | 0 => return
  | fuel + 1 => do
    match ← take with
    | none => return
    | some (.plain '\n') => return
    | some _ => skipComment fuel

/-- Drops a bracketed comment up to its closing bracket. -/
def skipBracketed (start : Nat) : Nat → Reader Unit
  | 0 => failAt .unterminatedComment start
  | fuel + 1 => do
    match ← peek with
    | none => failAt .unterminatedComment start
    | some token =>
      discard take
      if token = .plain ')' then return else skipBracketed start fuel

/-- Opens a group, which gets the next number. -/
def openGroup (name : Option (List Char)) : Reader Nat := do
  let progress ← get
  let number := progress.widths.length
  set { progress with widths := progress.widths ++ [none] }
  match name with
  | none => return number
  | some name =>
    match progress.names.lookup (String.ofList name) with
    | some earlier => fail (.redefinedGroup (String.ofList name) number earlier) (name.length + 1)
    | none =>
      modify fun progress => { progress with names := (String.ofList name, number) :: progress.names }
      return number

/-- Closes a group with the parts it holds. -/
def closeGroup (number : Nat) (body : List Part) : Reader Unit :=
  modify fun progress =>
    { progress with widths := progress.widths.set number (some (sequenceWidth body)) }

/-- Takes the closing bracket of a group that starts at `start`. -/
def close (start : Nat) : Reader Unit := do
  unless ← accept ')' do failAt .unterminatedGroup start

/-- The blanks that verbose patterns ignore. -/
def isIgnored (c : Char) : Bool :=
  c = ' ' || c = '\t' || c = '\n' || c = '\r' || c = '\x0b' || c = '\x0c'

/-- Drops the white space around a text. -/
def strip (text : List Char) : List Char :=
  let blank := fun c : Char => Text.isSpace c.toNat
  ((text.dropWhile blank).reverse.dropWhile blank).reverse

/-- The value of decimal digits of any script, with single underscores between digits. -/
def groupedDigits? : List Char → Bool → Nat → Option Nat
  | [], afterDigit, value => if afterDigit then some value else none
  | '_' :: rest, afterDigit, value => if afterDigit then groupedDigits? rest false value else none
  | c :: rest, _, value =>
    match Text.decimalValue? c.toNat with
    | some digit => groupedDigits? rest true (value * 10 + digit)
    | none => none

/-- The number of a group that is given as text: digits with an optional sign, not below zero. -/
def groupNumber? (text : List Char) : Option Nat :=
  let (negative, digits) := match strip text with
    | '-' :: rest => (true, rest)
    | '+' :: rest => (false, rest)
    | rest => (false, rest)
  if digitLimit < (digits.filter (· ≠ '_')).length then none
  else
    match groupedDigits? digits false 0 with
    | some value => if negative ∧ value ≠ 0 then none else some value
    | none => none

/-- Group numbers are refused at once from this one on. -/
def groupLimit : Nat := 1073741823

/-- The group that a condition asks for. -/
def conditionGroup : Reader Nat := do
  let name ← name ')' .group
  if Text.isIdentifier name then
    match (← get).names.lookup (String.ofList name) with
    | some number => return number
    | none => fail (.unknownGroupName (String.ofList name)) (name.length + 1)
  else
    match groupNumber? name with
    | none => fail (.badGroupName (String.ofList name)) (name.length + 1)
    | some 0 => fail .badGroupNumber (name.length + 1)
    | some number =>
      let place := (← position) - (name.length + 1)
      if groupLimit ≤ number then failAt (.noSuchGroup number) place
      unless ((← get).references.lookup number).isSome do
        modify fun progress => { progress with references := progress.references ++ [(number, place)] }
      return number

/-- What the characters after an opening bracket say about the group. -/
inductive Opening where
  | body (capture : Option (Option (List Char))) (atomic : Bool) (on off : Options)
  | reference (part : Part)
  | comment
  | look (behind negated : Bool)
  | condition
  | options

/-- The opening of a group that starts at `start`. -/
def opening (start : Nat) : Reader Opening := do
  unless ← accept '?' do return .body (some none) false {} {}
  match ← take with
  | none => fail .unexpectedEnd 0
  | some (.plain 'P') =>
    if ← accept '<' then
      let name ← name '>' .group
      checkName name
      return .body (some (some name)) false {} {}
    else if ← accept '=' then
      let name ← name ')' .group
      checkName name
      match (← get).names.lookup (String.ofList name) with
      | none => fail (.unknownGroupName (String.ofList name)) (name.length + 1)
      | some number =>
        unless ← isClosed number do fail .openGroup (name.length + 1)
        checkLookbehind number
        return .reference (← reference number)
    else
      match ← take with
      | none => fail .unexpectedEnd 0
      | some token =>
        fail (.unknownExtension (String.ofList ('?' :: 'P' :: token.chars))) (token.chars.length + 2)
  | some (.plain ':') => return .body none false {} {}
  | some (.plain '#') =>
    skipBracketed start ((← get).rest.length + 1)
    return .comment
  | some (.plain '=') => return .look false false
  | some (.plain '!') => return .look false true
  | some (.plain '<') =>
    match ← take with
    | none => fail .unexpectedEnd 0
    | some (.plain '=') => return .look true false
    | some (.plain '!') => return .look true true
    | some token =>
      fail (.unknownExtension (String.ofList ('?' :: '<' :: token.chars))) (token.chars.length + 2)
  | some (.plain '(') => return .condition
  | some (.plain '>') => return .body none true {} {}
  | some token =>
    if (option? token).isSome || token = .plain 'L' || token = .plain '-' then
      match ← groupOptions token with
      | none => return .options
      | some (on, off) => return .body none false on off
    else
      fail (.unknownExtension (String.ofList ('?' :: token.chars))) (token.chars.length + 1)

mutual

/-- A choice between sequences. The first argument bounds the depth of the calls. -/
def choice : Nat → Bool → Bool → Reader (List Part)
  | 0, _, _ => fail .unexpectedEnd 0
  | fuel + 1, verbose, nested => do
    let first ← sequence fuel verbose (!nested) []
    let others ← branches fuel verbose nested
    if others.isEmpty then return first else return [.choice (first :: others)]

/-- The sequences after the first of a choice. -/
def branches : Nat → Bool → Bool → Reader (List (List Part))
  | 0, _, _ => fail .unexpectedEnd 0
  | fuel + 1, verbose, nested => do
    if ← accept '|' then
      let whole := (← get).options.verbose
      let verbose := if nested then verbose else whole
      let branch ← sequence fuel verbose false []
      return branch :: (← branches fuel verbose nested)
    else return []

/-- A sequence of parts, added to those before them; `first` tells the start of the expression. -/
def sequence : Nat → Bool → Bool → List Part → Reader (List Part)
  | 0, _, _, _ => fail .unexpectedEnd 0
  | fuel + 1, verbose, first, parts => do
    let start ← position
    match ← peek with
    | none => return parts
    | some (.plain '|') => return parts
    | some (.plain ')') => return parts
    | some token =>
      discard take
      match token with
      | .escape c => sequence fuel verbose first (parts ++ [← escape c])
      | .plain c =>
        if verbose && isIgnored c then sequence fuel verbose first parts
        else if verbose && c = '#' then
          skipComment ((← get).rest.length + 1)
          sequence fuel verbose first parts
        else if c = '[' then sequence fuel verbose first (parts ++ [← characterSet start])
        else if c = '*' || c = '+' || c = '?' || c = '{' then
          match ← counts? c with
          | none => sequence fuel verbose first (parts ++ [.single c.toNat])
          | some (least, greatest) =>
            sequence fuel verbose first (← repeatLast start parts least greatest)
        else if c = '.' then sequence fuel verbose first (parts ++ [.any])
        else if c = '^' then sequence fuel verbose first (parts ++ [.anchor .lineStart])
        else if c = '$' then sequence fuel verbose first (parts ++ [.anchor .lineEnd])
        else if c = '(' then
          match ← opening start with
          | .comment => sequence fuel verbose first parts
          | .options =>
            if !first || !parts.isEmpty then failAt .lateOptions start
            sequence fuel (← get).options.verbose first parts
          | .reference part => sequence fuel verbose first (parts ++ [part])
          | .look behind negated =>
            let outer := (← get).lookbehind
            if behind && outer.isNone then
              modify fun progress => { progress with lookbehind := some progress.widths.length }
            let body ← choice fuel verbose true
            if behind && outer.isNone then modify ({ · with lookbehind := none })
            close start
            sequence fuel verbose first (parts ++ [.look behind negated body])
          | .condition =>
            let number ← conditionGroup
            checkLookbehind number
            let yes ← sequence fuel verbose false []
            let no ← if ← accept '|' then
                let no ← sequence fuel verbose false []
                if (← peek) = some (.plain '|') then fail .tooManyBranches 0
                pure no
              else pure []
            close start
            sequence fuel verbose first (parts ++ [.conditional number yes no])
          | .body capture atomic on off =>
            let number ← match capture with
              | none => pure none
              | some name => some <$> openGroup name
            let body ← choice fuel ((verbose || on.verbose) && !off.verbose) true
            close start
            if let some number := number then closeGroup number body
            let part := if atomic then .atomic body else .group number on off body
            sequence fuel verbose first (parts ++ [part])
        else sequence fuel verbose first (parts ++ [.single c.toNat])

end

/-- The whole expression. -/
def expression : Reader (List Part) := do
  lookAhead (← get).rest
  let parts ← choice (3 * (← get).rest.length + 4) false false
  let options := (← get).options
  if options.ascii && options.unicode then throw .repertoireClash
  if (← peek).isSome then fail .unbalanced 0
  let progress ← get
  match progress.references.find? fun (number, _) => progress.widths.length ≤ number with
  | some (number, place) => failAt (.noSuchGroup number) place
  | none => return parts

end Reader

mutual

/-- Complaints about a part that only show once the whole expression is read: a look behind of more
than one width, and repetitions in a template. -/
def Part.check (template : Bool) : Part → Except Complaint Unit
  | .choice branches => checkBranches template branches
  | .group _ _ _ body | .atomic body => checkSequence template body
  | .repetition greed _ _ body =>
    if template then .error (.templateOperator greed.operator) else checkSequence template body
  | .look behind _ body =>
    let width := sequenceWidth body
    if behind && decide (Reader.repetitionLimit < width.least) then .error .longLookbehind
    else if behind && decide (width.least ≠ width.greatest) then .error .variableLookbehind
    else checkSequence template body
  | .conditional _ yes no => do
    checkSequence template yes
    checkSequence template no
  | _ => .ok ()

/-- Complaints about parts in a row. -/
def checkSequence (template : Bool) : List Part → Except Complaint Unit
  | [] => .ok ()
  | part :: rest => do
    part.check template
    checkSequence template rest

/-- Complaints about the branches of a choice. -/
def checkBranches (template : Bool) : List (List Part) → Except Complaint Unit
  | [] => .ok ()
  | branch :: rest => do
    checkSequence template branch
    checkBranches template rest

end

/-- A regular expression: its parts, the options that hold for all of it, and its number of groups. -/
structure Expression where
  parts : List Part
  options : Options
  groups : Nat

/-- Reads a pattern. -/
def read (pattern : List Char) : Except Refusal Expression :=
  let (tokens, dangling) := Token.split pattern
  match (Reader.expression ⟨pattern.length, dangling⟩).run { rest := tokens } with
  | .error refusal => .error refusal
  | .ok (parts, progress) =>
    match checkSequence progress.options.template parts with
    | .error complaint => .error (.complaint complaint none)
    | .ok () => .ok ⟨parts, progress.options, progress.widths.length - 1⟩

end JsonSchema.Pattern
