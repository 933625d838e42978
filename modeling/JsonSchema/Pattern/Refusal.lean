import JsonSchema.Json.Reader
import JsonSchema.Text.Quoted

/-!
# Refused patterns

A pattern that is no regular expression is refused with a complaint, mostly with the place of the
part that it is about. Three more refusals are limits or clashes and not complaints about the text.
-/

namespace JsonSchema.Pattern

/-- What a group's name was to be ended by. -/
inductive NameKind where
  | group
  | character
deriving DecidableEq

namespace NameKind

/-- The wording of a kind of name. -/
def wording : NameKind → String
  | .group => "group name"
  | .character => "character name"

end NameKind

/-- Why a pattern is no regular expression. -/
inductive Complaint where
  | danglingEscape
  | incompleteEscape (escape : String)
  | badEscape (escape : String)
  | octalRange (escape : String)
  | missingBrace
  | missingName (kind : NameKind)
  | unterminatedName (terminator : Char)
  | undefinedCharacter (name : String)
  | openGroup
  | lookbehindGroup
  | noSuchGroup (number : Nat)
  | unterminatedSet
  | badRange (low high : String)
  | crossedRepetition
  | nothingToRepeat
  | multipleRepetition
  | unexpectedEnd
  | unknownExtension (text : String)
  | badGroupName (name : String)
  | unknownGroupName (name : String)
  | badGroupNumber
  | redefinedGroup (name : String) (number earlier : Nat)
  | unterminatedComment
  | unterminatedGroup
  | tooManyBranches
  | lateOptions
  | localeOption
  | repertoireClash
  | optionsEnd
  | unknownOption
  | globalOn
  | missingOption
  | repertoireOff
  | missingColon
  | globalOff
  | onAndOff
  | unbalanced
  | variableLookbehind
  | longLookbehind
  | templateOperator (operator : String)

namespace Complaint

/-- The wording of a complaint. -/
def message : Complaint → String
  | .danglingEscape => "bad escape (end of pattern)"
  | .incompleteEscape escape => "incomplete escape " ++ escape
  | .badEscape escape => "bad escape " ++ escape
  | .octalRange escape => "octal escape value " ++ escape ++ " outside of range 0-0o377"
  | .missingBrace => "missing \x7b"
  | .missingName kind => "missing " ++ kind.wording
  | .unterminatedName terminator => "missing " ++ String.singleton terminator ++ ", unterminated name"
  | .undefinedCharacter name => "undefined character name " ++ Text.quoted name
  | .openGroup => "cannot refer to an open group"
  | .lookbehindGroup => "cannot refer to group defined in the same lookbehind subpattern"
  | .noSuchGroup number => "invalid group reference " ++ toString number
  | .unterminatedSet => "unterminated character set"
  | .badRange low high => "bad character range " ++ low ++ "-" ++ high
  | .crossedRepetition => "min repeat greater than max repeat"
  | .nothingToRepeat => "nothing to repeat"
  | .multipleRepetition => "multiple repeat"
  | .unexpectedEnd => "unexpected end of pattern"
  | .unknownExtension text => "unknown extension " ++ text
  | .badGroupName name => "bad character in group name " ++ Text.quoted name
  | .unknownGroupName name => "unknown group name " ++ Text.quoted name
  | .badGroupNumber => "bad group number"
  | .redefinedGroup name number earlier =>
    "redefinition of group name " ++ Text.quoted name ++ " as group " ++ toString number ++
      "; was group " ++ toString earlier
  | .unterminatedComment => "missing ), unterminated comment"
  | .unterminatedGroup => "missing ), unterminated subpattern"
  | .tooManyBranches => "conditional backref with more than two branches"
  | .lateOptions => "global flags not at the start of the expression"
  | .localeOption => "bad inline flags: cannot use 'L' flag with a str pattern"
  | .repertoireClash => "bad inline flags: flags 'a', 'u' and 'L' are incompatible"
  | .optionsEnd => "missing -, : or )"
  | .unknownOption => "unknown flag"
  | .globalOn => "bad inline flags: cannot turn on global flag"
  | .missingOption => "missing flag"
  | .repertoireOff => "bad inline flags: cannot turn off flags 'a', 'u' and 'L'"
  | .missingColon => "missing :"
  | .globalOff => "bad inline flags: cannot turn off global flag"
  | .onAndOff => "bad inline flags: flag turned on and off"
  | .unbalanced => "unbalanced parenthesis"
  | .variableLookbehind => "look-behind requires fixed-width pattern"
  | .longLookbehind => "looks too much behind"
  | .templateOperator operator => "internal: unsupported template operator " ++ operator

end Complaint

/-- Why a pattern cannot be used. -/
inductive Refusal where
  | complaint (complaint : Complaint) (position : Option Nat)
  | repetitionLimit
  | digitLimit (count : Nat)
  | repertoireClash

/-- The wording of a complaint about a pattern: its position, and also its line and column where the
pattern has a line feed. -/
def complaintText (pattern : List Char) (complaint : Complaint) : Option Nat → String
  | none => complaint.message
  | some position =>
    let place := TextPlace.ofOffset pattern position
    let lines :=
      if pattern.contains '\n' then s!" (line {place.line}, column {place.column})" else ""
    complaint.message ++ " at position " ++ toString position ++ lines

end JsonSchema.Pattern
