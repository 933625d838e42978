import JsonSchema.Pattern.Reader
import JsonSchema.Text.LetterCase
import Std.Data.HashSet

/-!
# Searching with regular expressions

A part of an expression takes a state, a position with the marks of the groups, to the list of the
states it can lead to, the preferred one first. Since a state decides all that follows, later copies
of it are dropped, which keeps the lists short. A repetition stops after an iteration that did not
move, so there are never more optional iterations than characters left.
-/

namespace JsonSchema.Pattern

/-- A position in the text, with the start and end marks of the groups in order of their numbers. -/
structure MatchState where
  position : Nat
  marks : List (Option Nat)
deriving DecidableEq, Hashable

namespace MatchState

/-- Sets a mark at the position. -/
def mark (state : MatchState) (index : Nat) : MatchState :=
  { state with marks := state.marks.set index (some state.position) }

/-- The start and the end of what a group matched. -/
def group? (state : MatchState) (number : Nat) : Option (Nat × Nat) :=
  match state.marks[2 * number - 2]?.getD none, state.marks[2 * number - 1]?.getD none with
  | some start, some stop => if start ≤ stop then some (start, stop) else none
  | _, _ => none

end MatchState

/-- The states without later copies. -/
def distinct (states : List MatchState) : List MatchState :=
  if states.length ≤ 4 then states.eraseDups
  else
    let kept : Std.HashSet MatchState × List MatchState := states.foldl (fun (seen, kept) state =>
      if seen.contains state then (seen, kept) else (seen.insert state, state :: kept)) ({}, [])
    kept.2.reverse

/-- Where a pattern is searched: the code points of a text. -/
abbrev Subject := Array Nat

namespace CharacterClass

/-- Whether a character belongs to a class of the chosen repertoire. -/
def holds (options : Options) : CharacterClass → Nat → Bool
  | .digit outside, c =>
    outside != if options.ascii then '0'.toNat ≤ c && c ≤ '9'.toNat else Text.isDecimal c
  | .space outside, c => outside != if options.ascii then asciiSpace c else Text.isSpace c
  | .word outside, c => outside != if options.ascii then asciiWord c else Text.isWord c
where
  asciiSpace (c : Nat) : Bool := c = 32 || (9 ≤ c && c ≤ 13)
  asciiWord (c : Nat) : Bool := c < 128 && Text.isWord c

end CharacterClass

/-- The characters that count as equal to one. -/
def variants (options : Options) (c : Nat) : List Nat :=
  if !options.ignoreCase then [c]
  else if options.ascii then Text.asciiCaseVariants c
  else Text.caseVariants c

/-- The character that stands for all that count as equal to it. -/
def folded (options : Options) (c : Nat) : Nat :=
  if !options.ignoreCase then c
  else if options.ascii then (if 'A'.toNat ≤ c ∧ c ≤ 'Z'.toNat then c + 32 else c)
  else Text.lower c

namespace SetMember

/-- Whether a character, or one that counts as equal to it, is a member. -/
def holds (options : Options) (c : Nat) : SetMember → Bool
  | .single d => (variants options c).contains d
  | .range low high => (variants options c).any fun d => low ≤ d && d ≤ high
  | .named kind => kind.holds options (folded options c)

end SetMember

namespace Anchor

/-- Whether the character before or after a position belongs to words. -/
def wordAt (options : Options) (subject : Subject) (index : Option Nat) : Bool :=
  match index.bind (subject[·]?) with
  | some c => (CharacterClass.word false).holds options c
  | none => false

/-- Whether a position is at the edge of a word. -/
def atWordEdge (options : Options) (subject : Subject) (position : Nat) : Bool :=
  let before := if position = 0 then none else some (position - 1)
  wordAt options subject before != wordAt options subject (some position)

/-- Whether a condition on a position holds; an empty text has no word edges and no other places. -/
def holds (options : Options) (subject : Subject) (position : Nat) : Anchor → Bool
  | .textStart => position = 0
  | .textEnd => position = subject.size
  | .lineStart =>
    position = 0 || (options.multiline && subject[position - 1]? = some '\n'.toNat)
  | .lineEnd =>
    position = subject.size || (subject[position]? = some '\n'.toNat &&
      (options.multiline || position + 1 = subject.size))
  | .wordEdge => !subject.isEmpty && atWordEdge options subject position
  | .notWordEdge => !subject.isEmpty && !atWordEdge options subject position

end Anchor

/-- The states after one more character, where the character at the position passes a test. -/
def step (subject : Subject) (state : MatchState) (test : Nat → Bool) : List MatchState :=
  match subject[state.position]? with
  | some c => if test c then [{ state with position := state.position + 1 }] else []
  | none => []

/-- Whether two pieces of a text of one length agree. -/
def agree (options : Options) (subject : Subject) (a b : Nat) : Nat → Bool
  | 0 => true
  | count + 1 =>
    (match subject[a]?, subject[b]? with
      | some c, some d => folded options c = folded options d
      | _, _ => false) && agree options subject (a + 1) (b + 1) count

/-- The states after a copy of what a group matched. -/
def copyOf (options : Options) (subject : Subject) (number : Nat) (state : MatchState) :
    List MatchState :=
  match state.group? number with
  | some (start, stop) =>
    let length := stop - start
    if agree options subject start state.position length then
      [{ state with position := state.position + length }]
    else []
  | none => []

/-- The states after the mandatory iterations of a repetition. No state or no change ends them. -/
def iterate (body : MatchState → List MatchState) : Nat → List MatchState → List MatchState
  | 0, states => states
  | count + 1, states =>
    let next := distinct (states.flatMap body)
    if next.isEmpty || next = states then next else iterate body count next

/-- What a walk through the optional iterations of a repetition has seen: the iterations already
taken, and the states found, the last one first. -/
structure Walk where
  taken : Std.HashSet (Nat × MatchState) := {}
  found : List MatchState := []

/-- Walks through the optional iterations from a state. The count is kept at zero where there is no
greatest one; `last` is where the iteration before started. -/
def walk (body : MatchState → List MatchState) (lazy : Bool) (greatest : Option Nat) :
    Nat → Nat → Option Nat → Walk → MatchState → Walk
  | 0, _, _, seen, state => { seen with found := state :: seen.found }
  | fuel + 1, count, last, seen, state =>
    let seen := if lazy then { seen with found := state :: seen.found } else seen
    let more := greatest.all (count < ·) && last ≠ some state.position &&
      !seen.taken.contains (count, state)
    let seen := if more then
        (body state).foldl (walk body lazy greatest fuel (if greatest.isSome then count + 1 else 0)
          (some state.position)) { seen with taken := seen.taken.insert (count, state) }
      else seen
    if lazy then seen else { seen with found := state :: seen.found }

/-- The state after as many iterations as possible, each in its preferred way. -/
def exhaust (body : MatchState → List MatchState) (greatest : Option Nat) :
    Nat → Nat → MatchState → MatchState
  | 0, _, state => state
  | fuel + 1, count, state =>
    if greatest.all (count < ·) then
      match body state with
      | [] => state
      | next :: _ =>
        if next.position = state.position then next
        else exhaust body greatest fuel (count + 1) next
    else state

/-- The states after a repetition. -/
def repeated (subject : Subject) (body : MatchState → List MatchState) (greed : Greed)
    (least : Nat) (greatest : Option Nat) (state : MatchState) : List MatchState :=
  let fuel := subject.size + 2
  match greed with
  | .possessive =>
    match iterate (fun state => (body state).take 1) least [state] with
    | [] => []
    | start :: _ => [exhaust body greatest fuel least start]
  | greed =>
    let starts := iterate body least [state]
    let walked := starts.foldl
      (walk body (greed = .lazy) greatest fuel (if greatest.isSome then least else 0) none) {}
    distinct walked.found.reverse

mutual

/-- The states after a part. -/
def Part.run (subject : Subject) (options : Options) : Part → MatchState → List MatchState
  | .single c, state => step subject state fun d => (variants options d).contains c
  | .any, state => step subject state fun c => options.dotAll || c ≠ '\n'.toNat
  | .set negated members, state =>
    step subject state fun c => negated != members.any fun member => member.holds options c
  | .anchor kind, state => if kind.holds options subject state.position then [state] else []
  | .choice branches, state => distinct (runBranches subject options branches state)
  | .group number on off body, state =>
    let inner := options.inside on off
    match number with
    | none => runSequence subject inner body [state]
    | some number =>
      (runSequence subject inner body [state.mark (2 * number - 2)]).map (·.mark (2 * number - 1))
  | .atomic body, state => (runSequence subject options body [state]).take 1
  | .repetition greed least greatest body, state =>
    repeated subject (fun state => runSequence subject options body [state]) greed least greatest
      state
  | .backreference number _, state => copyOf options subject number state
  | .look behind negated body, state =>
    let back := if behind then (sequenceWidth body).least else 0
    let found := if back ≤ state.position then
        runSequence subject options body [{ state with position := state.position - back }]
      else []
    match negated, found with
    | false, reached :: _ => [{ reached with position := state.position }]
    | true, [] => [state]
    | _, _ => []
  | .conditional number yes no, state =>
    if (state.group? number).isSome then runSequence subject options yes [state]
    else runSequence subject options no [state]

/-- The states after parts in a row. -/
def runSequence (subject : Subject) (options : Options) :
    List Part → List MatchState → List MatchState
  | [], states => states
  | part :: rest, states =>
    runSequence subject options rest (distinct (states.flatMap (part.run subject options)))

/-- The states after one of several branches. -/
def runBranches (subject : Subject) (options : Options) :
    List (List Part) → MatchState → List MatchState
  | [], _ => []
  | branch :: rest, state =>
    runSequence subject options branch [state] ++ runBranches subject options rest state

end

namespace Expression

/-- Whether the expression matches from a position on. -/
def matchesAt (expression : Expression) (subject : Subject) (position : Nat) : Bool :=
  let start : MatchState := ⟨position, List.replicate (2 * expression.groups) none⟩
  !(runSequence subject expression.options expression.parts [start]).isEmpty

/-- Whether the expression matches somewhere in a text. -/
def search (expression : Expression) (text : List Char) : Bool :=
  let subject : Subject := (text.map Char.toNat).toArray
  (List.range (subject.size + 1)).any (expression.matchesAt subject)

end Expression

/-- Whether a pattern is found in a text, or why the pattern cannot be used. -/
def search (pattern text : String) : Except Refusal Bool :=
  (read pattern.toList).map (·.search text.toList)

end JsonSchema.Pattern
