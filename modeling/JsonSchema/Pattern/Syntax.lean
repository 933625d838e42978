/-!
# Regular expressions

The parts of a regular expression, and the options that are switched on around them. Characters are
code points, so an escape may name one that no text contains.
-/

namespace JsonSchema.Pattern

/-- Options that change how parts of an expression are read or matched. -/
structure Options where
  ignoreCase : Bool := false
  multiline : Bool := false
  dotAll : Bool := false
  verbose : Bool := false
  ascii : Bool := false
  unicode : Bool := false
  template : Bool := false
deriving DecidableEq

namespace Options

/-- The options that are set in one of two. -/
def union (a b : Options) : Options where
  ignoreCase := a.ignoreCase || b.ignoreCase
  multiline := a.multiline || b.multiline
  dotAll := a.dotAll || b.dotAll
  verbose := a.verbose || b.verbose
  ascii := a.ascii || b.ascii
  unicode := a.unicode || b.unicode
  template := a.template || b.template

/-- The options that are set in the first and not in the second. -/
def without (a b : Options) : Options where
  ignoreCase := a.ignoreCase && !b.ignoreCase
  multiline := a.multiline && !b.multiline
  dotAll := a.dotAll && !b.dotAll
  verbose := a.verbose && !b.verbose
  ascii := a.ascii && !b.ascii
  unicode := a.unicode && !b.unicode
  template := a.template && !b.template

/-- Whether no option is set. -/
def isEmpty (a : Options) : Bool := a = {}

/-- Whether one of the two character repertoires is chosen. -/
def hasRepertoire (a : Options) : Bool := a.ascii || a.unicode

/-- The options inside a group that switches some on and some off; a repertoire that is switched on
replaces the one around the group. -/
def inside (around on off : Options) : Options :=
  let kept := if on.hasRepertoire then { around with ascii := false, unicode := false } else around
  (kept.union on).without off

end Options

/-- A class of characters; the second field tells a class from its complement. -/
inductive CharacterClass where
  | digit (outside : Bool)
  | space (outside : Bool)
  | word (outside : Bool)
deriving DecidableEq

/-- A member of a character set. -/
inductive SetMember where
  | single (c : Nat)
  | range (low high : Nat)
  | named (c : CharacterClass)
deriving DecidableEq

/-- A condition on a position. -/
inductive Anchor where
  | lineStart
  | lineEnd
  | textStart
  | textEnd
  | wordEdge
  | notWordEdge
deriving DecidableEq

/-- How a repetition chooses its count: as many as possible first, as few as possible first, or as
many as possible with no way back. -/
inductive Greed where
  | greedy
  | lazy
  | possessive
deriving DecidableEq

namespace Greed

/-- The name of a repetition's operator. -/
def operator : Greed → String
  | .greedy => "MAX_REPEAT"
  | .lazy => "MIN_REPEAT"
  | .possessive => "POSSESSIVE_REPEAT"

end Greed

/-- The least and the greatest number of characters that a part can match. -/
structure Width where
  least : Nat
  greatest : Nat
deriving DecidableEq

/-- A part of a regular expression. -/
inductive Part where
  | single (c : Nat)
  | any
  | set (negated : Bool) (members : List SetMember)
  | anchor (kind : Anchor)
  | choice (branches : List (List Part))
  | group (number : Option Nat) (on off : Options) (body : List Part)
  | atomic (body : List Part)
  | repetition (greed : Greed) (least : Nat) (greatest : Option Nat) (body : List Part)
  | backreference (number : Nat) (width : Width)
  | look (behind negated : Bool) (body : List Part)
  | conditional (number : Nat) (yes no : List Part)

namespace Part

/-- Whether a part is a condition on a position. -/
def isAnchor : Part → Bool
  | .anchor _ => true
  | _ => false

/-- Whether a part is a repetition. -/
def isRepetition : Part → Bool
  | .repetition .. => true
  | _ => false

end Part

namespace Width

/-- Widths are not told apart from this one on. -/
def cap : Nat := 18446744073709551616

/-- The width of two parts in a row. -/
def add (a b : Width) : Width := ⟨a.least + b.least, a.greatest + b.greatest⟩

/-- The width of one of two parts. -/
def either (a b : Width) : Width := ⟨min a.least b.least, max a.greatest b.greatest⟩

/-- The width of a repeated part. -/
def times (a : Width) (least : Nat) (greatest : Option Nat) : Width :=
  ⟨a.least * least,
    match greatest with
    | some n => a.greatest * n
    | none => if a.greatest = 0 then 0 else cap⟩

/-- A width with the cap applied. -/
def capped (a : Width) : Width := ⟨min a.least cap, min a.greatest cap⟩

end Width

mutual

/-- The width of a part. -/
def Part.width : Part → Width
  | .single _ | .any | .set .. => ⟨1, 1⟩
  | .anchor _ | .look .. => ⟨0, 0⟩
  | .choice branches => choiceWidth branches
  | .group _ _ _ body | .atomic body => sequenceWidth body
  | .repetition _ least greatest body => (sequenceWidth body).times least greatest
  | .backreference _ width => width
  | .conditional _ yes no => (sequenceWidth yes).either (sequenceWidth no)

/-- The width of parts in a row. -/
def sequenceWidth : List Part → Width
  | [] => ⟨0, 0⟩
  | part :: rest => (part.width.add (sequenceWidth rest)).capped

/-- The width of a choice. -/
def choiceWidth : List (List Part) → Width
  | [] => ⟨Width.cap, 0⟩
  | branch :: rest => (sequenceWidth branch).either (choiceWidth rest)

end

end JsonSchema.Pattern
