import JsonSchema.Json.Reader
import Mathlib.Data.List.Basic

/-!
# The grammar of JSON text

Which texts are well formed is said here without a reader. `Spells` relates a text that begins with
a phrase of the grammar to the content of the phrase and to what follows it, one constructor for each
production; the three names `NaN`, `Infinity` and `-Infinity` are values as well. The phrases are
values, items of an array after its bracket and members of an object after its brace, each of the
latter two up to the closing one. How long a literal may be is no matter of the grammar: `Overlong`
says of a text that, where its phrase is read from the left, an integer literal with more than
`digitLimit` digits is met before the first character that cannot continue.
-/

namespace JsonSchema.Json

/-! ### Tokens -/

/-- Nothing but blanks. -/
def Blanks (word : List Char) : Prop := ∀ c ∈ word, isBlank c

/-- One digit or more. -/
def Digits (word : List Char) : Prop := word ≠ [] ∧ ∀ c ∈ word, isDigit c

/-- The digits of a whole number: no zero in front of another digit. -/
def Whole (word : List Char) : Prop := word = ['0'] ∨ Digits word ∧ word.head? ≠ some '0'

/-- The sign of a number. -/
def minus (negative : Bool) : List Char := if negative then ['-'] else []

/-- A number with its sign. -/
def signed (negative : Bool) (value : Nat) : Int := if negative then -(value : Int) else value

/-- The exponent of a number, by the power of ten that it spells. -/
inductive Exponent : List Char → Int → Prop
  | bare {e : Char} {word : List Char} (he : e = 'e' ∨ e = 'E') (hword : Digits word) :
      Exponent (e :: word) (natOfDigits word)
  | plus {e : Char} {word : List Char} (he : e = 'e' ∨ e = 'E') (hword : Digits word) :
      Exponent (e :: '+' :: word) (natOfDigits word)
  | minus {e : Char} {word : List Char} (he : e = 'e' ∨ e = 'E') (hword : Digits word) :
      Exponent (e :: '-' :: word) (-(natOfDigits word : Int))

/-- What makes a number a double, by the digits after its point and the power of ten. -/
inductive Scale : List Char → List Char → Int → Prop
  | fraction {decimals : List Char} (hdecimals : Digits decimals) :
      Scale ('.' :: decimals) decimals 0
  | exponent {word : List Char} {shift : Int} (hword : Exponent word shift) : Scale word [] shift
  | both {decimals word : List Char} {shift : Int} (hdecimals : Digits decimals)
      (hword : Exponent word shift) : Scale ('.' :: (decimals ++ word)) decimals shift

/-- The characters of a string after its opening quote, by their code points, and what follows the
closing quote. -/
inductive Points : List Char → List Nat → List Char → Prop
  | close {rest : List Char} : Points ('"' :: rest) [] rest
  | plain {c : Char} {text rest : List Char} {points : List Nat} (hquote : c ≠ '"')
      (hescape : c ≠ '\\') (hcontrol : 0x20 ≤ c.toNat) (htext : Points text points rest) :
      Points (c :: text) (c.toNat :: points) rest
  | escape {letter c : Char} {text rest : List Char} {points : List Nat}
      (hletter : shortEscape? letter = some c) (htext : Points text points rest) :
      Points ('\\' :: letter :: text) (c.toNat :: points) rest
  | unit {a b c d : Char} {point : Nat} {text rest : List Char} {points : List Nat}
      (hpoint : fourHex? a b c d = some point) (htext : Points text points rest) :
      Points ('\\' :: 'u' :: a :: b :: c :: d :: text) (point :: points) rest

/-! ### Phrases -/

/-- The kinds of phrases. -/
inductive Phrase where
  | value | items | members

/-- What a phrase spells; members stand as they are written, equal names included. -/
abbrev Phrase.Content : Phrase → Type
  | .value => Json
  | .items => List Json
  | .members => List (String × Json)

/-- The text begins with a phrase of this content, and this follows it. -/
inductive Spells : (phrase : Phrase) → List Char → phrase.Content → List Char → Prop
  | null {rest : List Char} : Spells .value ('n' :: 'u' :: 'l' :: 'l' :: rest) Json.null rest
  | true {rest : List Char} : Spells .value ('t' :: 'r' :: 'u' :: 'e' :: rest) (Json.bool true) rest
  | false {rest : List Char} :
      Spells .value ('f' :: 'a' :: 'l' :: 's' :: 'e' :: rest) (Json.bool false) rest
  | nan {rest : List Char} :
      Spells .value ('N' :: 'a' :: 'N' :: rest) (Json.number (.double .nan)) rest
  | infinity {negative : Bool} {rest : List Char} :
      Spells .value
        (minus negative ++ 'I' :: 'n' :: 'f' :: 'i' :: 'n' :: 'i' :: 't' :: 'y' :: rest)
        (Json.number (.double (.infinity negative))) rest
  | string {text rest : List Char} {points : List Nat} (htext : Points text points rest) :
      Spells .value ('"' :: text) (Json.string (String.ofList (joinSurrogates points))) rest
  | integer {negative : Bool} {whole rest : List Char} (hwhole : Whole whole) :
      Spells .value (minus negative ++ (whole ++ rest))
        (Json.number (.int (signed negative (natOfDigits whole)))) rest
  | double {negative : Bool} {whole word decimals rest : List Char} {shift : Int}
      (hwhole : Whole whole) (hscale : Scale word decimals shift) :
      Spells .value (minus negative ++ (whole ++ (word ++ rest)))
        (Json.number (.double
          (.ofDecimal negative (natOfDigits (whole ++ decimals)) (shift - decimals.length)))) rest
  | emptyArray {blanks rest : List Char} (hblanks : Blanks blanks) :
      Spells .value ('[' :: (blanks ++ ']' :: rest)) (Json.array []) rest
  | array {blanks text rest : List Char} {items : List Json} (hblanks : Blanks blanks)
      (hitems : Spells .items text items rest) :
      Spells .value ('[' :: (blanks ++ text)) (Json.array items) rest
  | lastItem {text blanks rest : List Char} {item : Json} (hblanks : Blanks blanks)
      (hitem : Spells .value text item (blanks ++ ']' :: rest)) : Spells .items text [item] rest
  | nextItem {text before behind more rest : List Char} {item : Json} {items : List Json}
      (hbefore : Blanks before) (hbehind : Blanks behind)
      (hitem : Spells .value text item (before ++ ',' :: (behind ++ more)))
      (hmore : Spells .items more items rest) : Spells .items text (item :: items) rest
  | emptyObject {blanks rest : List Char} (hblanks : Blanks blanks) :
      Spells .value ('{' :: (blanks ++ '}' :: rest)) (Json.object []) rest
  | object {blanks text rest : List Char} {members : List (String × Json)}
      (hblanks : Blanks blanks) (hmembers : Spells .members text members rest) :
      Spells .value ('{' :: (blanks ++ text)) (Json.object (Entries.ofList members)) rest
  | lastMember {name before behind text blanks rest : List Char} {points : List Nat}
      {value : Json} (hbefore : Blanks before) (hbehind : Blanks behind) (hblanks : Blanks blanks)
      (hname : Points name points (before ++ ':' :: (behind ++ text)))
      (hvalue : Spells .value text value (blanks ++ '}' :: rest)) :
      Spells .members ('"' :: name) [(String.ofList (joinSurrogates points), value)] rest
  | nextMember {name before behind text blanks space more rest : List Char} {points : List Nat}
      {value : Json} {members : List (String × Json)} (hbefore : Blanks before)
      (hbehind : Blanks behind) (hblanks : Blanks blanks) (hspace : Blanks space)
      (hname : Points name points (before ++ ':' :: (behind ++ text)))
      (hvalue : Spells .value text value (blanks ++ ',' :: (space ++ more)))
      (hmore : Spells .members more members rest) :
      Spells .members ('"' :: name) ((String.ofList (joinSurrogates points), value) :: members) rest

/-- The text goes on with something that belongs to the number before it. -/
def Continues (text : List Char) : Prop :=
  (∃ c rest, text = c :: rest ∧ isDigit c) ∨
    ∃ word decimals shift rest, Scale word decimals shift ∧ text = word ++ rest

/-- In a phrase at the front of the text an integer literal has more than `digitLimit` digits, and
what stands before the literal is as the grammar asks. What follows the literal may be anything. -/
inductive Overlong : Phrase → List Char → Prop
  | literal {negative : Bool} {whole rest : List Char} (hwhole : Whole whole)
      (hrest : ¬ Continues rest) (hlong : digitLimit < whole.length) :
      Overlong .value (minus negative ++ (whole ++ rest))
  | array {blanks text : List Char} (hblanks : Blanks blanks) (hitems : Overlong .items text) :
      Overlong .value ('[' :: (blanks ++ text))
  | thisItem {text : List Char} (hitem : Overlong .value text) : Overlong .items text
  | laterItem {text before behind more : List Char} {item : Json} (hbefore : Blanks before)
      (hbehind : Blanks behind) (hitem : Spells .value text item (before ++ ',' :: (behind ++ more)))
      (hmore : Overlong .items more) : Overlong .items text
  | object {blanks text : List Char} (hblanks : Blanks blanks) (hmembers : Overlong .members text) :
      Overlong .value ('{' :: (blanks ++ text))
  | thisMember {name before behind text : List Char} {points : List Nat} (hbefore : Blanks before)
      (hbehind : Blanks behind) (hname : Points name points (before ++ ':' :: (behind ++ text)))
      (hvalue : Overlong .value text) : Overlong .members ('"' :: name)
  | laterMember {name before behind text blanks space more : List Char} {points : List Nat}
      {value : Json} (hbefore : Blanks before) (hbehind : Blanks behind) (hblanks : Blanks blanks)
      (hspace : Blanks space) (hname : Points name points (before ++ ':' :: (behind ++ text)))
      (hvalue : Spells .value text value (blanks ++ ',' :: (space ++ more)))
      (hmore : Overlong .members more) : Overlong .members ('"' :: name)

/-- The text is well-formed JSON and spells this value: one value with blanks around it. -/
def Spelled (text : List Char) (value : Json) : Prop :=
  ∃ before inner behind, Blanks before ∧ Blanks behind ∧ text = before ++ inner ∧
    Spells .value inner value behind

/-- An integer literal of the text is too long, and up to it the text is as the grammar asks. -/
def OverlongText (text : List Char) : Prop :=
  ∃ before inner, Blanks before ∧ text = before ++ inner ∧ Overlong .value inner

/-! ### How phrases begin and what they leave -/

/-- The characters that a phrase can begin with. -/
def startsPhrase (c : Char) : Bool := isDigit c || c ∈ ['"', '{', '[', 'n', 't', 'f', 'N', 'I', '-']

/-- No phrase begins with a blank, a closing bracket or brace or a byte order mark. -/
theorem eq_false_of_startsPhrase {c : Char} (h : startsPhrase c) :
    isBlank c = false ∧ c ≠ ']' ∧ c ≠ '}' ∧ c ≠ '\uFEFF' := by
  refine ⟨?_, ?_, ?_, ?_⟩
  · by_contra hblank
    simp only [isBlank, Bool.not_eq_false, Bool.or_eq_true, decide_eq_true_eq] at hblank
    obtain ((rfl | rfl) | rfl) | rfl := hblank <;> revert h <;> decide
  all_goals
    rintro rfl
    revert h
    decide

/-- The digits of a whole number begin with a digit. -/
theorem Whole.exists_cons {word : List Char} (h : Whole word) :
    ∃ c rest, word = c :: rest ∧ isDigit c := by
  obtain rfl | ⟨⟨hne, hall⟩, -⟩ := h
  · exact ⟨'0', [], rfl, by decide⟩
  · obtain ⟨c, rest, rfl⟩ := List.exists_cons_of_ne_nil hne
    exact ⟨c, rest, rfl, hall c (by simp)⟩

/-- A number begins with a digit or a minus. -/
theorem Whole.exists_start {word : List Char} (h : Whole word) (negative : Bool)
    (rest : List Char) :
    ∃ c after, minus negative ++ (word ++ rest) = c :: after ∧ startsPhrase c := by
  obtain ⟨c, more, rfl, hc⟩ := h.exists_cons
  cases negative with
  | true => exact ⟨'-', _, rfl, by decide⟩
  | false => exact ⟨c, _, rfl, by simp [startsPhrase, hc]⟩

/-- A phrase begins with one of the characters that phrases begin with. -/
theorem Spells.exists_start {phrase : Phrase} {text rest : List Char} {content : phrase.Content}
    (h : Spells phrase text content rest) : ∃ c after, text = c :: after ∧ startsPhrase c := by
  induction h with
  | infinity =>
    rename_i negative rest
    cases negative with
    | true => exact ⟨'-', _, rfl, by decide⟩
    | false => exact ⟨'I', _, rfl, by decide⟩
  | integer hwhole => exact hwhole.exists_start _ _
  | double hwhole => exact hwhole.exists_start _ _
  | lastItem _ _ ih => exact ih
  | nextItem _ _ _ _ ih => exact ih
  | _ => exact ⟨_, _, rfl, by decide⟩

/-- So does one with a literal that is too long. -/
theorem Overlong.exists_start {phrase : Phrase} {text : List Char} (h : Overlong phrase text) :
    ∃ c after, text = c :: after ∧ startsPhrase c := by
  induction h with
  | literal hwhole => exact hwhole.exists_start _ _
  | thisItem _ ih => exact ih
  | laterItem _ _ hitem => exact hitem.exists_start
  | _ => exact ⟨_, _, rfl, by decide⟩

/-- A string leaves less than it began with. -/
theorem Points.length_lt {text rest : List Char} {points : List Nat} (h : Points text points rest) :
    rest.length < text.length := by
  induction h with
  | close => simp
  | plain _ _ _ _ ih => exact Nat.lt_trans ih (by simp)
  | escape _ _ ih => exact Nat.lt_trans ih (by simp only [List.length_cons]; omega)
  | unit _ _ ih => exact Nat.lt_trans ih (by simp only [List.length_cons]; omega)

/-- A phrase leaves less than it began with. -/
theorem Spells.length_lt {phrase : Phrase} {text rest : List Char} {content : phrase.Content}
    (h : Spells phrase text content rest) : rest.length < text.length := by
  induction h with
  | string htext => exact Nat.lt_trans htext.length_lt (by simp)
  | integer hwhole =>
    obtain ⟨c, more, rfl, -⟩ := hwhole.exists_cons
    simp
    omega
  | double hwhole _ =>
    obtain ⟨c, more, rfl, -⟩ := hwhole.exists_cons
    simp
    omega
  | lastMember _ _ _ hname _ ih =>
    have hlt := hname.length_lt
    simp at hlt ih ⊢
    omega
  | nextMember _ _ _ _ hname _ _ ih ihmore =>
    have hlt := hname.length_lt
    simp at hlt ih ⊢
    omega
  | _ =>
    simp at *
    omega

end JsonSchema.Json
