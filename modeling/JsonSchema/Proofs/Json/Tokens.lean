import JsonSchema.Proofs.Json.Grammar
import Mathlib.Data.List.TakeDrop
import Mathlib.Data.List.TakeWhile

/-!
# Tokens as they are read

Blanks, numbers and strings of the grammar against the functions that read them. A grammar allows a
token to end anywhere, while the reader takes the longest one. The two agree where the end of the
token is in sight: for numbers this is `Ends`, which holds after each value of a well-formed text. A
string ends at its quote, so that reading one is an equivalence without any condition.
-/

namespace JsonSchema.Json

/-! ### Parts of a text read one after another -/

namespace Reading

variable {α β : Type}

/-- What is read and its rest are as told, and a literal is too long only where this is told. -/
def Grounds (reading : Reading α) (spelled : α → List Char → Prop) (overlong : Prop) : Prop :=
  match reading with
  | .ok (value, rest) => spelled value rest
  | .error (.tooManyDigits _) => overlong
  | .error (.malformed _ _) => True

section Grounds

variable {first : Reading α} {spelled : α → List Char → Prop} {overlong : Prop}

/-- What is told of a part tells it of what is read on after it. -/
theorem Grounds.next {after : α → List Char → Reading β} {spelled' : β → List Char → Prop}
    {overlong' : Prop} (hfirst : first.Grounds spelled overlong)
    (hafter : ∀ value rest, spelled value rest → (after value rest).Grounds spelled' overlong')
    (hoverlong : overlong → overlong') : (first.next after).Grounds spelled' overlong' := by
  cases first with
  | ok found => exact hafter found.1 found.2 hfirst
  | error refusal =>
    cases refusal with
    | malformed cause left => trivial
    | tooManyDigits count => exact hoverlong hfirst

/-- Grounds may be widened, for the value and for the excess. -/
theorem Grounds.mono {spelled' : α → List Char → Prop} {overlong' : Prop}
    (hfirst : first.Grounds spelled overlong)
    (hspelled : ∀ value rest, spelled value rest → spelled' value rest)
    (hoverlong : overlong → overlong') : first.Grounds spelled' overlong' := by
  cases first with
  | ok found => exact hspelled found.1 found.2 hfirst
  | error refusal =>
    cases refusal with
    | malformed cause left => trivial
    | tooManyDigits count => exact hoverlong hfirst

end Grounds

/-- What was read is a value with the rest, or an integer literal was too long. -/
def Yields (reading : Reading α) (value : α) (rest : List Char) : Prop :=
  reading = .ok (value, rest) ∨ ∃ count, reading = .error (.tooManyDigits count)

/-- An integer literal was too long. -/
def Overruns (reading : Reading α) : Prop := ∃ count, reading = .error (.tooManyDigits count)

/-- What yields goes on to what comes after it. -/
theorem Yields.next {first : Reading α} {after : α → List Char → Reading β} {value : α}
    {content : β} {rest more : List Char} (hfirst : first.Yields value rest)
    (hafter : (after value rest).Yields content more) : (first.next after).Yields content more := by
  obtain rfl | ⟨count, rfl⟩ := hfirst
  · exact hafter
  · exact .inr ⟨count, rfl⟩

/-- A literal that is too long in the first part ends the reading. -/
theorem Overruns.next {first : Reading α} (hfirst : first.Overruns)
    (after : α → List Char → Reading β) : (first.next after).Overruns := by
  obtain ⟨count, rfl⟩ := hfirst
  exact ⟨count, rfl⟩

/-- So does one in the part after it. -/
theorem Yields.next_overruns {first : Reading α} {after : α → List Char → Reading β} {value : α}
    {rest : List Char} (hfirst : first.Yields value rest) (hafter : (after value rest).Overruns) :
    (first.next after).Overruns := by
  obtain rfl | ⟨count, rfl⟩ := hfirst
  · exact hafter
  · exact ⟨count, rfl⟩

end Reading

/-! ### Blanks -/

/-- Blanks in front of the start of a phrase are dropped, and nothing else. -/
theorem skipBlank_append {blanks text : List Char} (hblanks : Blanks blanks)
    (htext : ∀ c ∈ text.head?, isBlank c = false) : skipBlank (blanks ++ text) = text := by
  rw [skipBlank, List.dropWhile_append_of_pos hblanks]
  cases text with
  | nil => rfl
  | cons c rest => exact List.dropWhile_cons_of_neg (by simp [htext c (by simp)])

/-- What is dropped are blanks. -/
theorem exists_blanks (text : List Char) :
    ∃ blanks, Blanks blanks ∧ text = blanks ++ skipBlank text :=
  ⟨text.takeWhile isBlank, fun _ hc => List.mem_takeWhile_imp hc,
    (List.takeWhile_append_dropWhile).symm⟩

/-- Where something is left after the blanks. -/
theorem exists_blanks_of_skipBlank {text rest : List Char} (h : skipBlank text = rest) :
    ∃ blanks, Blanks blanks ∧ text = blanks ++ rest := by
  obtain ⟨blanks, hblanks, htext⟩ := exists_blanks text
  exact ⟨blanks, hblanks, h ▸ htext⟩

/-! ### Numbers -/

/-- No digit comes next. -/
def NoDigit (text : List Char) : Prop := ∀ c ∈ text.head?, isDigit c = false

/-- The digits at the front of a text are those up to the first other character. -/
theorem span_isDigit_eq_iff {text digits rest : List Char} :
    text.span isDigit = (digits, rest) ↔
      (∀ c ∈ digits, isDigit c) ∧ text = digits ++ rest ∧ NoDigit rest := by
  rw [List.span_eq_takeWhile_dropWhile, Prod.mk.injEq]
  constructor
  · rintro ⟨rfl, rfl⟩
    refine ⟨fun _ hc => List.mem_takeWhile_imp hc, List.takeWhile_append_dropWhile.symm, ?_⟩
    intro c hc
    have hnot := List.head?_dropWhile_not isDigit text
    rw [Option.mem_def.1 hc] at hnot
    simpa using hnot
  · rintro ⟨hdigits, rfl, hrest⟩
    rw [List.takeWhile_append_of_pos hdigits, List.dropWhile_append_of_pos hdigits]
    cases rest with
    | nil => simp
    | cons c rest => simp [show isDigit c = false from hrest c (by simp)]

/-- The digits before the point, as they are read: after a lone zero anything may stand. -/
theorem wholeDigits_eq_some_iff {text digits rest : List Char} :
    wholeDigits text = some (digits, rest) ↔
      Whole digits ∧ text = digits ++ rest ∧ (digits = ['0'] ∨ NoDigit rest) := by
  constructor
  · intro h
    unfold wholeDigits at h
    split at h
    · cases h
      exact ⟨.inl rfl, rfl, .inl rfl⟩
    · rename_i c more hzero
      split at h
      · rename_i hc
        obtain ⟨hdigits, htext, hrest⟩ := span_isDigit_eq_iff.1 (Option.some.inj h)
        cases digits with
        | nil =>
          rw [List.nil_append] at htext
          exact absurd hc (by simp [hrest c (by simp [← htext])])
        | cons first others =>
          obtain ⟨rfl, rfl⟩ := List.cons.inj htext
          exact ⟨.inr ⟨⟨by simp, hdigits⟩, by simpa using hzero⟩, rfl, .inr hrest⟩
      · cases h
    · cases h
  · rintro ⟨hwhole, rfl, hrest⟩
    obtain rfl | ⟨⟨hne, hdigits⟩, hzero⟩ := hwhole
    · rfl
    · obtain ⟨c, more, rfl⟩ := List.exists_cons_of_ne_nil hne
      have hc : c ≠ '0' := by simpa using hzero
      have hspan : (c :: (more ++ rest)).span isDigit = (c :: more, rest) :=
        span_isDigit_eq_iff.2 ⟨hdigits, rfl, hrest.resolve_left fun h => hc (List.cons.inj h).1⟩
      rw [List.cons_append, wholeDigits, if_pos (hdigits c (by simp)), hspan]
      exact hc

/-- A fraction is read where digits stand after a point. -/
theorem fractionDigits_eq_some_iff {text decimals rest : List Char} :
    fractionDigits text = some (decimals, rest) ↔
      Digits decimals ∧ text = '.' :: (decimals ++ rest) ∧ NoDigit rest := by
  constructor
  · intro h
    unfold fractionDigits at h
    split at h
    · split at h
      · cases h
      · rename_i more found hfound
        rw [Option.some.injEq] at h
        obtain ⟨hdigits, rfl, hrest⟩ := span_isDigit_eq_iff.1 h
        refine ⟨⟨?_, hdigits⟩, rfl, hrest⟩
        rintro rfl
        exact hfound _ h
    · cases h
  · rintro ⟨⟨hne, hdigits⟩, rfl, hrest⟩
    obtain ⟨c, more, rfl⟩ := List.exists_cons_of_ne_nil hne
    simp only [fractionDigits, span_isDigit_eq_iff.2 ⟨hdigits, rfl, hrest⟩]

/-- The digits at the front of a text, as a number of this sign. -/
def digitsAs (negative : Bool) (text : List Char) : Option (Int × List Char) :=
  match text.span isDigit with
  | ([], _) => none
  | (digits, rest) => some (signed negative (natOfDigits digits), rest)

/-- Digits are read as far as they go, with the sign that stands before them. -/
theorem digitsAs_eq_some_iff {negative : Bool} {text rest : List Char} {shift : Int} :
    digitsAs negative text = some (shift, rest) ↔
      ∃ digits, Digits digits ∧ shift = signed negative (natOfDigits digits) ∧
        text = digits ++ rest ∧ NoDigit rest := by
  constructor
  · intro h
    unfold digitsAs at h
    split at h
    · cases h
    · rename_i digits after hnil hspan
      cases h
      obtain ⟨hdigits, htext, hrest⟩ := span_isDigit_eq_iff.1 hspan
      exact ⟨digits, ⟨hnil, hdigits⟩, rfl, htext, hrest⟩
  · rintro ⟨digits, ⟨hne, hdigits⟩, rfl, rfl, hrest⟩
    obtain ⟨c, more, rfl⟩ := List.exists_cons_of_ne_nil hne
    simp only [digitsAs, span_isDigit_eq_iff.2 ⟨hdigits, rfl, hrest⟩]

/-- The sign that an exponent may have after its `e`. -/
def exponentSign : List Char → Bool × List Char
  | '-' :: rest => (true, rest)
  | '+' :: rest => (false, rest)
  | rest => (false, rest)

/-- Where digits come next there is no sign. -/
theorem exponentSign_digits {digits : List Char} (h : Digits digits) (rest : List Char) :
    exponentSign (digits ++ rest) = (false, digits ++ rest) := by
  obtain ⟨hne, hall⟩ := h
  obtain ⟨c, more, rfl⟩ := List.exists_cons_of_ne_nil hne
  have hminus : c ≠ '-' := ne_of_apply_ne isDigit (by rw [hall c (by simp)]; decide)
  have hplus : c ≠ '+' := ne_of_apply_ne isDigit (by rw [hall c (by simp)]; decide)
  rw [List.cons_append, exponentSign]
  · exact fun _ h => hminus (List.cons.inj h).1
  · exact fun _ h => hplus (List.cons.inj h).1

/-- The exponent after its `e`. -/
theorem exponentPart_cons {e : Char} (he : e = 'e' ∨ e = 'E') (text : List Char) :
    exponentPart (e :: text) = digitsAs (exponentSign text).1 (exponentSign text).2 := by
  refine (if_pos he).trans ?_
  change (match (exponentSign text).2.span isDigit with
    | ([], _) => none
    | (digits, rest) => some (signed (exponentSign text).1 (natOfDigits digits), rest)) = _
  rfl

/-- An exponent is read where one stands at the front. -/
theorem exponentPart_eq_some_iff {text rest : List Char} {shift : Int} :
    exponentPart text = some (shift, rest) ↔
      ∃ word, Exponent word shift ∧ text = word ++ rest ∧ NoDigit rest := by
  constructor
  · intro h
    cases text with
    | nil => cases h
    | cons e text =>
      by_cases he : e = 'e' ∨ e = 'E'
      · rw [exponentPart_cons he] at h
        obtain ⟨digits, hdigits, rfl, htext, hrest⟩ := digitsAs_eq_some_iff.1 h
        unfold exponentSign at htext ⊢
        split at htext <;> obtain rfl := htext
        · exact ⟨_, .minus he hdigits, rfl, hrest⟩
        · exact ⟨_, .plus he hdigits, rfl, hrest⟩
        · exact ⟨_, .bare he hdigits, rfl, hrest⟩
      · simp only [exponentPart, if_neg he] at h
        cases h
  · rintro ⟨word, hword, rfl, hrest⟩
    cases hword with
    | bare he hdigits =>
      rw [List.cons_append, exponentPart_cons he, exponentSign_digits hdigits]
      exact digitsAs_eq_some_iff.2 ⟨_, hdigits, rfl, rfl, hrest⟩
    | plus he hdigits =>
      rw [List.cons_append, exponentPart_cons he]
      exact digitsAs_eq_some_iff.2 ⟨_, hdigits, rfl, rfl, hrest⟩
    | minus he hdigits =>
      rw [List.cons_append, exponentPart_cons he]
      exact digitsAs_eq_some_iff.2 ⟨_, hdigits, rfl, rfl, hrest⟩

/-- Digits are part of all the digits that stand there. -/
theorem Digits.exists_maximal {digits : List Char} (h : Digits digits) (rest : List Char) :
    ∃ all after, Digits all ∧ digits ++ rest = all ++ after ∧ NoDigit after := by
  obtain ⟨hne, hall⟩ := h
  obtain ⟨c, more, rfl⟩ := List.exists_cons_of_ne_nil hne
  obtain ⟨all, after, hspan⟩ : ∃ all after, (c :: more ++ rest).span isDigit = (all, after) :=
    ⟨_, _, rfl⟩
  obtain ⟨hdigits, htext, hrest⟩ := span_isDigit_eq_iff.1 hspan
  refine ⟨all, after, ⟨?_, hdigits⟩, htext, hrest⟩
  rintro rfl
  rw [List.nil_append] at htext
  have hc := hrest c (by simp [← htext])
  rw [hall c (by simp)] at hc
  cases hc

/-- What follows the digits of a whole number, where it makes the number a double. -/
def scale? (text : List Char) : Option (List Char × Int × List Char) :=
  match fractionDigits text with
  | none => (exponentPart text).map fun (shift, rest) => ([], shift, rest)
  | some (decimals, after) =>
    match exponentPart after with
    | none => some (decimals, 0, after)
    | some (shift, rest) => some (decimals, shift, rest)

/-- What is found there stands there. -/
theorem exists_scale {text decimals rest : List Char} {shift : Int}
    (h : scale? text = some (decimals, shift, rest)) :
    ∃ word, Scale word decimals shift ∧ text = word ++ rest := by
  unfold scale? at h
  split at h
  · obtain ⟨⟨found, after⟩, hexponent, hfound⟩ := Option.map_eq_some_iff.1 h
    cases hfound
    obtain ⟨word, hword, htext, -⟩ := exponentPart_eq_some_iff.1 hexponent
    exact ⟨word, .exponent hword, htext⟩
  · rename_i hfraction
    obtain ⟨hdecimals, rfl, -⟩ := fractionDigits_eq_some_iff.1 hfraction
    split at h
    · cases h
      exact ⟨_, .fraction hdecimals, rfl⟩
    · rename_i hexponent
      cases h
      obtain ⟨word, hword, rfl, -⟩ := exponentPart_eq_some_iff.1 hexponent
      exact ⟨_, .both hdecimals hword, by simp⟩

/-- The exponent of a number begins with its `e`. -/
theorem Exponent.exists_cons {word : List Char} {shift : Int} (h : Exponent word shift) :
    ∃ e more, word = e :: more ∧ (e = 'e' ∨ e = 'E') := by
  cases h with
  | bare he => exact ⟨_, _, rfl, he⟩
  | plus he => exact ⟨_, _, rfl, he⟩
  | minus he => exact ⟨_, _, rfl, he⟩

/-- Neither a digit nor a point begins an exponent. -/
theorem Exponent.noDigit {word : List Char} {shift : Int} (h : Exponent word shift)
    (rest : List Char) : NoDigit (word ++ rest) ∧ fractionDigits (word ++ rest) = none := by
  obtain ⟨e, more, rfl, rfl | rfl⟩ := h.exists_cons
  · exact ⟨by simp [NoDigit]; decide, rfl⟩
  · exact ⟨by simp [NoDigit]; decide, rfl⟩

/-- Where something makes the number a double, it is found. -/
theorem Scale.isSome {word decimals : List Char} {shift : Int} (h : Scale word decimals shift)
    (rest : List Char) : (scale? (word ++ rest)).isSome := by
  have hfraction {text : List Char} {found : List Char × List Char}
      (h : fractionDigits text = some found) : (scale? text).isSome := by
    simp only [scale?, h]
    split <;> rfl
  cases h with
  | fraction hdecimals =>
    obtain ⟨all, after, hall, htext, hafter⟩ := hdecimals.exists_maximal rest
    exact hfraction (fractionDigits_eq_some_iff.2 ⟨hall, by simp [htext], hafter⟩)
  | both hdecimals hword =>
    rename_i word
    obtain ⟨all, after, hall, htext, hafter⟩ := hdecimals.exists_maximal (word ++ rest)
    exact hfraction (fractionDigits_eq_some_iff.2 ⟨hall, by simp [htext], hafter⟩)
  | exponent hword =>
    have hnone := (hword.noDigit rest).2
    suffices hsome : (exponentPart (word ++ rest)).isSome by simpa [scale?, hnone] using hsome
    cases hword with
    | bare he hdigits =>
      obtain ⟨all, after, hall, htext, hafter⟩ := hdigits.exists_maximal rest
      exact Option.isSome_of_eq_some (exponentPart_eq_some_iff.2
        ⟨_, .bare he hall, by simp [htext], hafter⟩)
    | plus he hdigits =>
      obtain ⟨all, after, hall, htext, hafter⟩ := hdigits.exists_maximal rest
      exact Option.isSome_of_eq_some (exponentPart_eq_some_iff.2
        ⟨_, .plus he hall, by simp [htext], hafter⟩)
    | minus he hdigits =>
      obtain ⟨all, after, hall, htext, hafter⟩ := hdigits.exists_maximal rest
      exact Option.isSome_of_eq_some (exponentPart_eq_some_iff.2
        ⟨_, .minus he hall, by simp [htext], hafter⟩)

/-- Nothing that belongs to a number comes next. -/
theorem not_continues_iff {text : List Char} :
    ¬ Continues text ↔ NoDigit text ∧ scale? text = none := by
  constructor
  · intro h
    refine ⟨fun c hc => ?_, ?_⟩
    · obtain ⟨rest, rfl⟩ := List.head?_eq_some_iff.1 hc
      exact Bool.eq_false_iff.2 fun hdigit => h (.inl ⟨c, rest, rfl, hdigit⟩)
    · rw [← Option.not_isSome_iff_eq_none]
      intro hsome
      obtain ⟨⟨decimals, shift, rest⟩, hfound⟩ := Option.isSome_iff_exists.1 hsome
      obtain ⟨word, hword, htext⟩ := exists_scale hfound
      exact h (.inr ⟨word, decimals, shift, rest, hword, htext⟩)
  · rintro ⟨hdigit, hscale⟩ (⟨c, rest, rfl, hc⟩ | ⟨word, decimals, shift, rest, hword, rfl⟩)
    · exact absurd hc (by simp [hdigit c (by simp)])
    · have hsome := hword.isSome rest
      rw [hscale] at hsome
      cases hsome

/-- What a value of a well-formed text is followed by: a blank, a comma, a closing bracket or brace,
or nothing. -/
def Ends (text : List Char) : Prop :=
  ∀ c ∈ text.head?, isBlank c ∨ c = ',' ∨ c = ']' ∨ c = '}'

/-- What may follow a value does not belong to a number. -/
theorem Ends.tokens {rest : List Char} (h : Ends rest) :
    NoDigit rest ∧ fractionDigits rest = none ∧ exponentPart rest = none := by
  cases rest with
  | nil => exact ⟨by simp [NoDigit], rfl, rfl⟩
  | cons c more =>
    have hc := h c (by simp)
    simp only [isBlank, Bool.or_eq_true, decide_eq_true_eq] at hc
    obtain (((rfl | rfl) | rfl) | rfl) | rfl | rfl | rfl := hc
    all_goals exact ⟨by simp [NoDigit]; decide, rfl, rfl⟩

/-- A double is read as a whole where its end is in sight. -/
theorem Scale.eq_some {word decimals rest : List Char} {shift : Int}
    (h : Scale word decimals shift) (hrest : Ends rest) :
    scale? (word ++ rest) = some (decimals, shift, rest) := by
  obtain ⟨hdigit, -, hexponent⟩ := hrest.tokens
  cases h with
  | fraction hdecimals =>
    have hfraction := fractionDigits_eq_some_iff.2 ⟨hdecimals, rfl, hdigit⟩
    simp only [List.cons_append, scale?, hfraction, hexponent]
  | exponent hword =>
    have hfound := exponentPart_eq_some_iff.2 ⟨word, hword, rfl, hdigit⟩
    simp only [scale?, (hword.noDigit rest).2, hfound, Option.map_some]
  | both hdecimals hword =>
    have hfound := exponentPart_eq_some_iff.2 ⟨_, hword, rfl, hdigit⟩
    have hfraction := fractionDigits_eq_some_iff.2 ⟨hdecimals, rfl, (hword.noDigit rest).1⟩
    simp only [List.cons_append, List.append_assoc, scale?, hfraction, hfound]

/-- Neither does what makes a number a double begin with a digit. -/
theorem Scale.noDigit {word decimals : List Char} {shift : Int} (h : Scale word decimals shift)
    (rest : List Char) : NoDigit (word ++ rest) := by
  cases h with
  | fraction => simp [NoDigit]; decide
  | exponent hword => exact (hword.noDigit rest).1
  | both => simp [NoDigit]; decide

/-- The sign that a number may begin with. -/
def numberSign : List Char → Bool × List Char
  | '-' :: rest => (true, rest)
  | rest => (false, rest)

/-- A number after its sign and the digits before its point. -/
def numberAfter (negative : Bool) (whole after : List Char) : Reading Number :=
  match scale? after with
  | none =>
    if digitLimit < whole.length then .error (.tooManyDigits whole.length)
    else .ok (.int (signed negative (natOfDigits whole)), after)
  | some (decimals, shift, rest) =>
    .ok (.double (.ofDecimal negative (natOfDigits (whole ++ decimals)) (shift - decimals.length)),
      rest)

/-- A number is read part by part. -/
theorem numberBody_eq (text : List Char) :
    numberBody text =
      match wholeDigits (numberSign text).2 with
      | none => .refuse .value text
      | some (whole, after) => numberAfter (numberSign text).1 whole after := by
  change (match wholeDigits (numberSign text).2 with
    | none => Reading.refuse .value text
    | some (whole, after) => _) = _
  cases hwhole : wholeDigits (numberSign text).2 with
  | none => rfl
  | some found =>
    obtain ⟨whole, after⟩ := found
    unfold numberAfter scale?
    cases hfraction : fractionDigits after with
    | none =>
      cases hexponent : exponentPart after with
      | none =>
        simp [hfraction, hexponent, signed]
        rfl
      | some found =>
        simp [hfraction, hexponent]
        rfl
    | some found =>
      cases hexponent : exponentPart found.2 with
      | none =>
        simp [hfraction, hexponent]
        rfl
      | some found =>
        simp [hfraction, hexponent]
        rfl

/-- A text is its sign and what follows the sign. -/
theorem minus_numberSign (text : List Char) :
    text = minus (numberSign text).1 ++ (numberSign text).2 := by
  unfold numberSign
  split <;> rfl

/-- Digits follow the sign of a number. -/
theorem numberSign_minus {whole : List Char} (h : Whole whole) (negative : Bool)
    (rest : List Char) : numberSign (minus negative ++ (whole ++ rest)) = (negative, whole ++ rest) := by
  cases negative with
  | true => rfl
  | false =>
    obtain ⟨c, more, rfl, hc⟩ := h.exists_cons
    have hminus : c ≠ '-' := ne_of_apply_ne isDigit (by rw [hc]; decide)
    exact numberSign.eq_2 _ fun _ h => hminus (List.cons.inj h).1

/-- A number that is read is one of the grammar, and one that is refused for its digits is a literal that
is too long. -/
theorem grounds_numberBody (text : List Char) : (numberBody text).Grounds
    (fun value rest => Spells .value text (Json.number value) rest) (Overlong .value text) := by
  have htext := minus_numberSign text
  rw [numberBody_eq]
  generalize numberSign text = sign at htext ⊢
  subst htext
  split
  · trivial
  · rename_i whole after hdigits
    obtain ⟨hwhole, hunsigned, hafter⟩ := wholeDigits_eq_some_iff.1 hdigits
    rw [hunsigned]
    unfold numberAfter
    split
    · rename_i hscale
      split
      · rename_i hlong
        have hdigit : NoDigit after := by
          refine hafter.resolve_left ?_
          rintro rfl
          exact absurd hlong (by decide)
        exact .literal hwhole (not_continues_iff.2 ⟨hdigit, hscale⟩) hlong
      · exact .integer hwhole
    · rename_i hscale
      obtain ⟨word, hword, rfl⟩ := exists_scale hscale
      exact .double hwhole hword

/-- A whole number that nothing continues is read as an integer, unless it is too long. -/
theorem numberBody_integer {negative : Bool} {whole rest : List Char} (hwhole : Whole whole)
    (hrest : ¬ Continues rest) :
    numberBody (minus negative ++ (whole ++ rest)) =
      if digitLimit < whole.length then .error (.tooManyDigits whole.length)
      else .ok (.int (signed negative (natOfDigits whole)), rest) := by
  obtain ⟨hdigit, hscale⟩ := not_continues_iff.1 hrest
  simp only [numberBody_eq, numberSign_minus hwhole, numberAfter, hscale,
    wholeDigits_eq_some_iff.2 ⟨hwhole, rfl, .inr hdigit⟩]

/-- A double is read as such where its end is in sight. -/
theorem numberBody_double {negative : Bool} {whole word decimals rest : List Char} {shift : Int}
    (hwhole : Whole whole) (hscale : Scale word decimals shift) (hrest : Ends rest) :
    numberBody (minus negative ++ (whole ++ (word ++ rest))) =
      .ok (.double (.ofDecimal negative (natOfDigits (whole ++ decimals)) (shift - decimals.length)),
        rest) := by
  simp only [numberBody_eq, numberSign_minus hwhole, numberAfter, hscale.eq_some hrest,
    wholeDigits_eq_some_iff.2 ⟨hwhole, rfl, .inr (hscale.noDigit rest)⟩]

/-- What may follow a value does not continue a number. -/
theorem Ends.not_continues {rest : List Char} (h : Ends rest) : ¬ Continues rest := by
  obtain ⟨hdigit, hfraction, hexponent⟩ := h.tokens
  exact not_continues_iff.2 ⟨hdigit, by simp [scale?, hfraction, hexponent]⟩

/-! ### Strings -/

/-- The characters of a string that are read are those of the grammar, and none of them is refused for its
digits. -/
theorem grounds_stringPoints (start : Nat) (text : List Char) :
    (stringPoints start text).Grounds (Points text) False := by
  fun_induction stringPoints start text with
  | case2 => exact .close
  | case4 a b c d text point hmore hpoint ih => exact ih.next (fun _ _ => .unit hpoint) id
  | case7 letter text _ _ c hletter ih => exact ih.next (fun _ _ => .escape hletter) id
  | case10 c text hquote hlast _ _ hescape hcontrol ih =>
    refine ih.next (fun _ _ => .plain hquote ?_ (Nat.le_of_not_lt hcontrol)) id
    intro hc
    cases text with
    | nil => exact hlast hc rfl
    | cons letter rest => exact hescape letter rest hc rfl
  | _ => trivial

/-- The characters of a string of the grammar are read. -/
theorem Points.stringPoints_eq {start : Nat} {text rest : List Char} {points : List Nat}
    (h : Points text points rest) : stringPoints start text = .ok (points, rest) := by
  induction h with
  | close => rfl
  | plain hquote hescape hcontrol _ ih =>
    rw [stringPoints, if_neg (by omega), ih]
    · rfl
    all_goals simp_all
  | escape hletter _ ih =>
    rw [stringPoints, hletter, ih]
    · rfl
    · exact fun _ _ _ _ _ hu => absurd hletter (by simp [hu, shortEscape?])
    · exact fun hu => absurd hletter (by simp [hu, shortEscape?])
  | unit hpoint htext ih =>
    have hmore := htext.length_lt
    rename_i text rest points
    cases text with
    | nil => simp at hmore
    | cons c text =>
      rw [stringPoints, hpoint, ih]
      rfl

/-- A string that is read is one of the grammar. -/
theorem grounds_stringBody (text : List Char) : (stringBody text).Grounds
    (fun value rest =>
      ∃ points, Points text points rest ∧ value = String.ofList (joinSurrogates points)) False :=
  (grounds_stringPoints _ text).next (fun points _ hpoints => ⟨points, hpoints, rfl⟩) id

/-- A string of the grammar is read. -/
theorem Points.stringBody_eq {text rest : List Char} {points : List Nat} (h : Points text points rest) :
    stringBody text = .ok (String.ofList (joinSurrogates points), rest) := by
  rw [stringBody, h.stringPoints_eq]
  rfl

end JsonSchema.Json
