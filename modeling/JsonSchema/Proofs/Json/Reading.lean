import JsonSchema.Document.Read
import JsonSchema.Proofs.Entries
import JsonSchema.Proofs.Json.Tokens

/-!
# Reading agrees with the grammar

In one direction the fuel does not matter: whatever the reader returns is spelled by the text, and
where it refuses a text for its digits there is such a literal (`Grounded`, by induction on the
fuel). In the other direction the induction is on the grammar, with fuel that is enough for the length
of the text (`Reached`, `Overran`). A phrase of the grammar may hold a literal that is too long, which
ends the reading wherever it stands; so reading a phrase yields its content or is refused for its
digits. For whole texts this leaves three outcomes, each with exactly the texts that have it.
-/

namespace JsonSchema.Json

/-! ### What the reader does is what the grammar says -/

/-- What is read with so much fuel is what the text spells, and what is refused for its digits is a
literal that is too long. -/
structure Grounded (fuel : Nat) : Prop where
  value : ∀ text, (readValue fuel text).Grounds (Spells .value text) (Overlong .value text)
  items : ∀ text, (readItems fuel text).Grounds (Spells .items text) (Overlong .items text)
  members : ∀ before text, (readMembers fuel before text).Grounds
    (fun members rest =>
      ∃ written, Spells .members text written rest ∧ members = Entries.putAll before written)
    (Overlong .members text)

/-- The items of an array are its first one and those after it. -/
theorem readItems_succ (fuel : Nat) (text : List Char) : readItems (fuel + 1) text =
    (readValue fuel text).next fun item rest =>
      match skipBlank rest with
      | ']' :: rest => .ok ([item], rest)
      | ',' :: rest => (readItems fuel (skipBlank rest)).next fun items rest => .ok (item :: items, rest)
      | rest => .refuse .comma rest := rfl

namespace Grounded

variable {fuel : Nat} (hfuel : Grounded fuel) (text : List Char)
include hfuel

/-- A value is read with one more call where its parts are. -/
theorem value_succ :
    (readValue (fuel + 1) text).Grounds (Spells .value text) (Overlong .value text) := by
  unfold readValue
  split
  · refine (grounds_stringBody _).next (fun value rest hvalue => ?_) False.elim
    obtain ⟨points, hpoints, rfl⟩ := hvalue
    exact .string hpoints
  · rename_i more
    split
    · rename_i hblank
      obtain ⟨blanks, hblanks, rfl⟩ := exists_blanks_of_skipBlank hblank
      exact .emptyObject hblanks
    · obtain ⟨blanks, hblanks, htext⟩ := exists_blanks more
      generalize skipBlank more = inner at htext ⊢
      subst htext
      refine (hfuel.members _ _).next (fun members rest hmembers => ?_) (.object hblanks)
      obtain ⟨written, hwritten, rfl⟩ := hmembers
      exact .object hblanks hwritten
  · rename_i more
    split
    · rename_i hblank
      obtain ⟨blanks, hblanks, rfl⟩ := exists_blanks_of_skipBlank hblank
      exact .emptyArray hblanks
    · obtain ⟨blanks, hblanks, htext⟩ := exists_blanks more
      generalize skipBlank more = inner at htext ⊢
      subst htext
      exact (hfuel.items _).next (fun items rest hitems => .array hblanks hitems) (.array hblanks)
  · exact .null
  · exact .true
  · exact .false
  · exact .nan
  · exact @Spells.infinity false _
  · exact @Spells.infinity true _
  · exact (grounds_numberBody text).next (fun value rest hnumber => hnumber) id

/-- Items are read with one more call where the first one and the others are. -/
theorem items_succ :
    (readItems (fuel + 1) text).Grounds (Spells .items text) (Overlong .items text) := by
  rw [readItems_succ]
  refine (hfuel.value text).next (fun item after hitem => ?_) .thisItem
  split
  · rename_i hafter
    obtain ⟨blanks, hblanks, rfl⟩ := exists_blanks_of_skipBlank hafter
    exact .lastItem hblanks hitem
  · rename_i more hafter
    obtain ⟨before, hbefore, rfl⟩ := exists_blanks_of_skipBlank hafter
    obtain ⟨behind, hbehind, hmore⟩ := exists_blanks more
    rw [hmore] at hitem
    exact (hfuel.items _).next (fun items rest hitems => .nextItem hbefore hbehind hitem hitems)
      (.laterItem hbefore hbehind hitem)
  · trivial

/-- Members are put among those before them, the last of a name in the place of the first. -/
theorem members_succ (before : Entries Json) :
    (readMembers (fuel + 1) before text).Grounds
      (fun members rest =>
        ∃ written, Spells .members text written rest ∧ members = Entries.putAll before written)
      (Overlong .members text) := by
  unfold readMembers
  split
  · refine (grounds_stringBody _).next (fun name after hname => ?_) False.elim
    obtain ⟨points, hpoints, rfl⟩ := hname
    split
    · rename_i inner hafter
      obtain ⟨front, hfront, rfl⟩ := exists_blanks_of_skipBlank hafter
      obtain ⟨space, hspace, hinner⟩ := exists_blanks inner
      rw [hinner] at hpoints
      refine (hfuel.value _).next (fun value after hvalue => ?_) (.thisMember hfront hspace hpoints)
      split
      · rename_i hafter
        obtain ⟨blanks, hblanks, rfl⟩ := exists_blanks_of_skipBlank hafter
        exact ⟨_, .lastMember hfront hspace hblanks hpoints hvalue, rfl⟩
      · rename_i more hafter
        obtain ⟨blanks, hblanks, rfl⟩ := exists_blanks_of_skipBlank hafter
        obtain ⟨behind, hbehind, hmore⟩ := exists_blanks more
        rw [hmore] at hvalue
        refine (hfuel.members _ _).mono (fun members rest hmembers => ?_)
          (.laterMember hfront hspace hblanks hbehind hpoints hvalue)
        obtain ⟨written, hwritten, rfl⟩ := hmembers
        exact ⟨_, .nextMember hfront hspace hblanks hbehind hpoints hvalue hwritten, rfl⟩
      · trivial
    · trivial
  · trivial

end Grounded

/-- Whatever the reader does, the grammar says why. -/
theorem grounded (fuel : Nat) : Grounded fuel := by
  induction fuel with
  | zero => exact ⟨fun _ => trivial, fun _ => trivial, fun _ _ => trivial⟩
  | succ fuel ih => exact ⟨ih.value_succ, ih.items_succ, fun before text => ih.members_succ text before⟩

/-! ### What the grammar has is found -/

/-- Blanks and a comma or a closing bracket or brace may follow a value. -/
theorem ends_append {blanks rest : List Char} {c : Char} (hblanks : Blanks blanks)
    (hc : c = ',' ∨ c = ']' ∨ c = '}') : Ends (blanks ++ c :: rest) := by
  intro first hfirst
  cases blanks with
  | nil =>
    cases hfirst
    exact .inr hc
  | cons blank blanks =>
    cases hfirst
    exact .inl (hblanks _ (by simp))

/-- So may blanks up to the end of the text. -/
theorem ends_of_blanks {blanks : List Char} (hblanks : Blanks blanks) : Ends blanks :=
  fun _ hc => .inl (hblanks _ (List.mem_of_mem_head? hc))

/-- Blanks before the start of a phrase are skipped. -/
theorem skipBlank_start {blanks text : List Char} (hblanks : Blanks blanks)
    (htext : ∃ c rest, text = c :: rest ∧ startsPhrase c) : skipBlank (blanks ++ text) = text := by
  obtain ⟨c, rest, rfl, hc⟩ := htext
  refine skipBlank_append hblanks fun first hfirst => ?_
  cases hfirst
  exact (eq_false_of_startsPhrase hc).1

/-- Blanks before another character are skipped. -/
theorem skipBlank_cons {blanks rest : List Char} {c : Char} (hblanks : Blanks blanks)
    (hc : isBlank c = false) : skipBlank (blanks ++ c :: rest) = c :: rest := by
  refine skipBlank_append hblanks fun first hfirst => ?_
  cases hfirst
  exact hc

section Equations

variable (fuel : Nat) (text : List Char)

/-- A string follows a quote. -/
theorem readValue_quote : readValue (fuel + 1) ('"' :: text) =
    (stringBody text).next fun value rest => .ok (.string value, rest) := rfl

/-- An array follows a bracket. -/
theorem readValue_bracket : readValue (fuel + 1) ('[' :: text) =
    match skipBlank text with
    | ']' :: rest => .ok (.array [], rest)
    | rest => (readItems fuel rest).next fun items rest => .ok (.array items, rest) := rfl

/-- An object follows a brace. -/
theorem readValue_brace : readValue (fuel + 1) ('\x7b' :: text) =
    match skipBlank text with
    | '\x7d' :: rest => .ok (.object [], rest)
    | rest => (readMembers fuel [] rest).next fun members rest => .ok (.object members, rest) := rfl

/-- A member begins with the quote of its name. -/
theorem readMembers_quote (members : Entries Json) :
    readMembers (fuel + 1) members ('"' :: text) =
      (stringBody text).next fun name rest =>
        match skipBlank rest with
        | ':' :: rest =>
          (readValue fuel (skipBlank rest)).next fun value rest =>
            match skipBlank rest with
            | '\x7d' :: rest => .ok (Entries.put name value members, rest)
            | ',' :: rest => readMembers fuel (Entries.put name value members) (skipBlank rest)
            | rest => .refuse .comma rest
        | rest => .refuse .colon rest := rfl

end Equations

/-- A sign and digits are read as a number. -/
theorem readValue_number {whole : List Char} (hwhole : Whole whole) (negative : Bool)
    (rest : List Char) (fuel : Nat) :
    readValue (fuel + 1) (minus negative ++ (whole ++ rest)) =
      (numberBody (minus negative ++ (whole ++ rest))).next fun value rest =>
        .ok (.number value, rest) := by
  obtain ⟨c, more, rfl, hc⟩ := hwhole.exists_cons
  have hne {other : Char} (hother : isDigit other = false) : c ≠ other :=
    ne_of_apply_ne isDigit (by rw [hc, hother]; decide)
  cases negative with
  | true =>
    have hname : c ≠ 'I' := hne (by decide)
    rw [readValue]
    all_goals simp [minus, hname]
  | false =>
    rw [readValue]
    all_goals exact fun _ heq => absurd (List.cons.inj heq).1 (hne (by decide))

/-- What does not close an array at once are its items. -/
theorem readValue_array {blanks text : List Char} (hblanks : Blanks blanks)
    (htext : ∃ c rest, text = c :: rest ∧ startsPhrase c) (fuel : Nat) :
    readValue (fuel + 1) ('[' :: (blanks ++ text)) =
      (readItems fuel text).next fun items rest => .ok (.array items, rest) := by
  rw [readValue_bracket, skipBlank_start hblanks htext]
  obtain ⟨c, rest, rfl, hc⟩ := htext
  have hclose := (eq_false_of_startsPhrase hc).2.1
  split
  · rename_i heq
    exact absurd (List.cons.inj heq).1 hclose
  · rfl

/-- What does not close an object at once are its members. -/
theorem readValue_object {blanks text : List Char} (hblanks : Blanks blanks)
    (htext : ∃ c rest, text = c :: rest ∧ startsPhrase c) (fuel : Nat) :
    readValue (fuel + 1) ('{' :: (blanks ++ text)) =
      (readMembers fuel [] text).next fun members rest => .ok (.object members, rest) := by
  rw [readValue_brace, skipBlank_start hblanks htext]
  obtain ⟨c, rest, rfl, hc⟩ := htext
  have hclose := (eq_false_of_startsPhrase hc).2.2.1
  split
  · rename_i heq
    exact absurd (List.cons.inj heq).1 hclose
  · rfl

/-- A member is its name and its value, read up to what follows the value. -/
theorem readMembers_member {name before behind text : List Char} {points : List Nat}
    (hbefore : Blanks before) (hbehind : Blanks behind)
    (hname : Points name points (before ++ ':' :: (behind ++ text)))
    (htext : ∃ c rest, text = c :: rest ∧ startsPhrase c) (fuel : Nat) (members : Entries Json) :
    readMembers (fuel + 1) members ('"' :: name) =
      (readValue fuel text).next fun value rest =>
        match skipBlank rest with
        | '}' :: rest =>
          .ok (Entries.put (String.ofList (joinSurrogates points)) value members, rest)
        | ',' :: rest =>
          readMembers fuel (Entries.put (String.ofList (joinSurrogates points)) value members)
            (skipBlank rest)
        | rest => .refuse .comma rest := by
  rw [readMembers_quote, hname.stringBody_eq, Reading.next, skipBlank_cons hbefore (by decide)]
  exact congrArg (fun text => (readValue fuel text).next _) (skipBlank_start hbehind htext)

/-- Where something is to be read, there is fuel for one call and enough for the calls it makes. -/
theorem exists_fuel {size fuel : Nat} (h : size + 1 ≤ fuel) :
    ∃ left, fuel = left + 1 ∧ size ≤ left := ⟨fuel - 1, by omega, by omega⟩

/-- With fuel enough for its text a phrase is read, up to a literal that is too long. -/
def Reached : (phrase : Phrase) → List Char → phrase.Content → List Char → Prop
  | .value, text, value, rest =>
    Ends rest → ∀ fuel, 2 * text.length + 1 ≤ fuel → (readValue fuel text).Yields value rest
  | .items, text, items, rest =>
    ∀ fuel, 2 * text.length + 2 ≤ fuel → (readItems fuel text).Yields items rest
  | .members, text, members, rest =>
    ∀ fuel before, 2 * text.length + 2 ≤ fuel →
      (readMembers fuel before text).Yields (Entries.putAll before members) rest

/-! ### One more call -/

section

variable {fuel : Nat}

/-- A string is read with one call. -/
theorem yields_string {text rest : List Char} {points : List Nat} (htext : Points text points rest) :
    (readValue (fuel + 1) ('"' :: text)).Yields (.string (String.ofList (joinSurrogates points)))
      rest := by
  rw [readValue_quote, htext.stringBody_eq]
  exact .inl rfl

/-- An integer is read with one call, unless it is too long. -/
theorem yields_integer {negative : Bool} {whole rest : List Char} (hwhole : Whole whole)
    (hends : Ends rest) :
    (readValue (fuel + 1) (minus negative ++ (whole ++ rest))).Yields
      (.number (.int (signed negative (natOfDigits whole)))) rest := by
  rw [readValue_number hwhole, numberBody_integer hwhole hends.not_continues]
  split
  · exact .inr ⟨_, rfl⟩
  · exact .inl rfl

/-- A double is read with one call. -/
theorem yields_double {negative : Bool} {whole word decimals rest : List Char} {shift : Int}
    (hwhole : Whole whole) (hscale : Scale word decimals shift) (hends : Ends rest) :
    (readValue (fuel + 1) (minus negative ++ (whole ++ (word ++ rest)))).Yields
      (.number (.double
        (.ofDecimal negative (natOfDigits (whole ++ decimals)) (shift - decimals.length)))) rest := by
  rw [readValue_number hwhole, numberBody_double hwhole hscale hends]
  exact .inl rfl

/-- An array without items is read with one call. -/
theorem yields_emptyArray {blanks rest : List Char} (hblanks : Blanks blanks) :
    (readValue (fuel + 1) ('[' :: (blanks ++ ']' :: rest))).Yields (.array []) rest := by
  rw [readValue_bracket, skipBlank_cons hblanks (by decide)]
  exact .inl rfl

/-- An object without members is read with one call. -/
theorem yields_emptyObject {blanks rest : List Char} (hblanks : Blanks blanks) :
    (readValue (fuel + 1) ('{' :: (blanks ++ '}' :: rest))).Yields (.object []) rest := by
  rw [readValue_brace, skipBlank_cons hblanks (by decide)]
  exact .inl rfl

/-- A bracket after an item ends the items. -/
theorem yields_lastItem {text blanks rest : List Char} {item : Json} (hblanks : Blanks blanks)
    (hitem : (readValue fuel text).Yields item (blanks ++ ']' :: rest)) :
    (readItems (fuel + 1) text).Yields [item] rest := by
  rw [readItems_succ]
  refine hitem.next ?_
  rw [skipBlank_cons hblanks (by decide)]
  exact .inl rfl

/-- After a comma the items go on. -/
theorem yields_nextItem {text before behind more rest : List Char} {item : Json} {items : List Json}
    (hbefore : Blanks before) (hbehind : Blanks behind)
    (hstart : ∃ c after, more = c :: after ∧ startsPhrase c)
    (hitem : (readValue fuel text).Yields item (before ++ ',' :: (behind ++ more)))
    (hmore : (readItems fuel more).Yields items rest) :
    (readItems (fuel + 1) text).Yields (item :: items) rest := by
  rw [readItems_succ]
  refine hitem.next ?_
  rw [skipBlank_cons hbefore (by decide)]
  simp only [skipBlank_start hbehind hstart]
  exact hmore.next (.inl rfl)

/-- A brace after a value ends the members. -/
theorem yields_lastMember {name before behind text blanks rest : List Char} {points : List Nat}
    {value : Json} {members : Entries Json} (hbefore : Blanks before) (hbehind : Blanks behind)
    (hblanks : Blanks blanks) (hname : Points name points (before ++ ':' :: (behind ++ text)))
    (hstart : ∃ c after, text = c :: after ∧ startsPhrase c)
    (hvalue : (readValue fuel text).Yields value (blanks ++ '}' :: rest)) :
    (readMembers (fuel + 1) members ('"' :: name)).Yields
      (Entries.put (String.ofList (joinSurrogates points)) value members) rest := by
  rw [readMembers_member hbefore hbehind hname hstart]
  refine hvalue.next ?_
  rw [skipBlank_cons hblanks (by decide)]
  exact .inl rfl

/-- After a comma the members go on, with this one put among those before it. -/
theorem yields_nextMember {name before behind text blanks space more rest : List Char}
    {points : List Nat} {value : Json} {members others : Entries Json} (hbefore : Blanks before)
    (hbehind : Blanks behind) (hblanks : Blanks blanks) (hspace : Blanks space)
    (hname : Points name points (before ++ ':' :: (behind ++ text)))
    (hstart : ∃ c after, text = c :: after ∧ startsPhrase c)
    (hnext : ∃ c after, more = c :: after ∧ startsPhrase c)
    (hvalue : (readValue fuel text).Yields value (blanks ++ ',' :: (space ++ more)))
    (hmore : (readMembers fuel (Entries.put (String.ofList (joinSurrogates points)) value members)
      more).Yields others rest) :
    (readMembers (fuel + 1) members ('"' :: name)).Yields others rest := by
  rw [readMembers_member hbefore hbehind hname hstart]
  refine hvalue.next ?_
  rw [skipBlank_cons hblanks (by decide)]
  simp only [skipBlank_start hspace hnext]
  exact hmore

end

/-- What is read with one call is reached. -/
theorem Reached.of_call {text rest : List Char} {value : Json}
    (h : ∀ fuel, Ends rest → (readValue (fuel + 1) text).Yields value rest) :
    Reached .value text value rest := by
  intro hends fuel hfuel
  obtain ⟨fuel, rfl, -⟩ := exists_fuel hfuel
  exact h fuel hends

/-- Every phrase of the grammar is reached. -/
theorem Spells.reached {phrase : Phrase} {text rest : List Char} {content : phrase.Content}
    (h : Spells phrase text content rest) : Reached phrase text content rest := by
  induction h with
  | @infinity negative rest =>
    cases negative with
    | true => exact .of_call fun _ _ => .inl rfl
    | false => exact .of_call fun _ _ => .inl rfl
  | string htext => exact .of_call fun _ _ => yields_string htext
  | integer hwhole => exact .of_call fun _ => yields_integer hwhole
  | double hwhole hscale => exact .of_call fun _ => yields_double hwhole hscale
  | emptyArray hblanks => exact .of_call fun _ _ => yields_emptyArray hblanks
  | array hblanks hitems ih =>
    intro _ fuel hfuel
    obtain ⟨fuel, rfl, hleft⟩ := exists_fuel hfuel
    rw [readValue_array hblanks hitems.exists_start]
    exact (ih fuel (by simp at hleft; omega)).next (.inl rfl)
  | lastItem hblanks hitem ih =>
    intro fuel hfuel
    obtain ⟨fuel, rfl, hleft⟩ := exists_fuel hfuel
    exact yields_lastItem hblanks (ih (ends_append hblanks (by simp)) fuel hleft)
  | nextItem hbefore hbehind hitem hmore ih ihmore =>
    intro fuel hfuel
    obtain ⟨fuel, rfl, hleft⟩ := exists_fuel hfuel
    have hlt := hitem.length_lt
    simp at hlt
    exact yields_nextItem hbefore hbehind hmore.exists_start
      (ih (ends_append hbefore (by simp)) fuel hleft) (ihmore fuel (by omega))
  | emptyObject hblanks => exact .of_call fun _ _ => yields_emptyObject hblanks
  | object hblanks hmembers ih =>
    intro _ fuel hfuel
    obtain ⟨fuel, rfl, hleft⟩ := exists_fuel hfuel
    rw [readValue_object hblanks hmembers.exists_start]
    exact (ih fuel [] (by simp at hleft; omega)).next (.inl rfl)
  | lastMember hbefore hbehind hblanks hname hvalue ih =>
    intro fuel before hfuel
    obtain ⟨fuel, rfl, hleft⟩ := exists_fuel hfuel
    have hlt := hname.length_lt
    simp at hlt hleft
    exact yields_lastMember hbefore hbehind hblanks hname hvalue.exists_start
      (ih (ends_append hblanks (by simp)) fuel (by omega))
  | nextMember hbefore hbehind hblanks hspace hname hvalue hmore ih ihmore =>
    intro fuel before hfuel
    obtain ⟨fuel, rfl, hleft⟩ := exists_fuel hfuel
    have hlt := hname.length_lt
    have hltValue := hvalue.length_lt
    simp at hlt hltValue hleft
    exact yields_nextMember hbefore hbehind hblanks hspace hname hvalue.exists_start
      hmore.exists_start (ih (ends_append hblanks (by simp)) fuel (by omega))
      (ihmore fuel _ (by omega))
  | _ => exact .of_call fun _ _ => .inl rfl

/-- With fuel enough for its text a literal that is too long is met. -/
def Overran : Phrase → List Char → Prop
  | .value, text => ∀ fuel, 2 * text.length + 1 ≤ fuel → (readValue fuel text).Overruns
  | .items, text => ∀ fuel, 2 * text.length + 2 ≤ fuel → (readItems fuel text).Overruns
  | .members, text =>
    ∀ fuel before, 2 * text.length + 2 ≤ fuel → (readMembers fuel before text).Overruns

/-- Every literal that is too long is met, or another one before it. -/
theorem Overlong.overran {phrase : Phrase} {text : List Char} (h : Overlong phrase text) :
    Overran phrase text := by
  induction h with
  | literal hwhole hrest hlong =>
    intro fuel hfuel
    obtain ⟨fuel, rfl, -⟩ := exists_fuel hfuel
    rw [readValue_number hwhole, numberBody_integer hwhole hrest, if_pos hlong]
    exact ⟨_, rfl⟩
  | array hblanks hitems ih =>
    intro fuel hfuel
    obtain ⟨fuel, rfl, hleft⟩ := exists_fuel hfuel
    rw [readValue_array hblanks hitems.exists_start]
    exact (ih fuel (by simp at hleft; omega)).next _
  | thisItem hitem ih =>
    intro fuel hfuel
    obtain ⟨fuel, rfl, hleft⟩ := exists_fuel hfuel
    rw [readItems_succ]
    exact (ih fuel hleft).next _
  | laterItem hbefore hbehind hitem hmore ih =>
    intro fuel hfuel
    obtain ⟨fuel, rfl, hleft⟩ := exists_fuel hfuel
    have hlt := hitem.length_lt
    simp at hlt
    rw [readItems_succ]
    refine (hitem.reached (ends_append hbefore (by simp)) fuel hleft).next_overruns ?_
    rw [skipBlank_cons hbefore (by decide)]
    simp only [skipBlank_start hbehind hmore.exists_start]
    exact (ih fuel (by omega)).next _
  | object hblanks hmembers ih =>
    intro fuel hfuel
    obtain ⟨fuel, rfl, hleft⟩ := exists_fuel hfuel
    rw [readValue_object hblanks hmembers.exists_start]
    exact (ih fuel [] (by simp at hleft; omega)).next _
  | thisMember hbefore hbehind hname hvalue ih =>
    intro fuel before hfuel
    obtain ⟨fuel, rfl, hleft⟩ := exists_fuel hfuel
    have hlt := hname.length_lt
    simp at hlt hleft
    rw [readMembers_member hbefore hbehind hname hvalue.exists_start]
    exact (ih fuel (by omega)).next _
  | laterMember hbefore hbehind hblanks hspace hname hvalue hmore ih =>
    intro fuel before hfuel
    obtain ⟨fuel, rfl, hleft⟩ := exists_fuel hfuel
    have hlt := hname.length_lt
    have hltValue := hvalue.length_lt
    simp at hlt hltValue hleft
    rw [readMembers_member hbefore hbehind hname hvalue.exists_start]
    refine (hvalue.reached (ends_append hblanks (by simp)) fuel (by omega)).next_overruns ?_
    rw [skipBlank_cons hblanks (by decide)]
    simp only [skipBlank_start hspace hmore.exists_start]
    exact ih fuel _ (by omega)

/-! ### Whole texts -/

/-- A text that is read is well-formed and spells what is read. -/
theorem spelled_of_readWhole {text : List Char} {value : Json} (h : readWhole text = .ok value) :
    Spelled text value := by
  unfold readWhole at h
  split at h
  · cases h
  · split at h
    · cases h
    · rename_i found rest hfound
      split at h
      · rename_i hrest
        cases h
        obtain ⟨before, hbefore, htext⟩ := exists_blanks text
        obtain ⟨behind, hbehind, hrest⟩ := exists_blanks_of_skipBlank hrest
        rw [List.append_nil] at hrest
        have hvalue := (grounded (2 * text.length + 2)).value (skipBlank text)
        rw [hfound] at hvalue
        exact ⟨before, _, behind, hbefore, hbehind, htext, hrest ▸ hvalue⟩
      · cases h

/-- A text that is refused for its digits has a literal that is too long. -/
theorem overlongText_of_readWhole {text : List Char} {count : Nat}
    (h : readWhole text = .error (.tooManyDigits count)) : OverlongText text := by
  unfold readWhole at h
  split at h
  · cases h
  · split at h
    · rename_i hfound
      cases h
      obtain ⟨before, hbefore, htext⟩ := exists_blanks text
      have hvalue := (grounded (2 * text.length + 2)).value (skipBlank text)
      rw [hfound] at hvalue
      exact ⟨before, _, hbefore, htext, hvalue⟩
    · split at h
      · cases h
      · cases h

/-- Blanks and the start of a phrase do not begin with a byte order mark. -/
theorem readWhole_append {before inner : List Char} (hbefore : Blanks before)
    (hinner : ∃ c rest, inner = c :: rest ∧ startsPhrase c) :
    readWhole (before ++ inner) =
      match readValue (2 * (before ++ inner).length + 2) inner with
      | .error refusal => .error refusal
      | .ok (value, rest) =>
        match skipBlank rest with
        | [] => .ok value
        | rest => .error (.malformed .extra rest.length) := by
  have hmark : ∀ rest, before ++ inner ≠ '\uFEFF' :: rest := by
    intro rest heq
    cases before with
    | nil =>
      obtain ⟨c, more, rfl, hc⟩ := hinner
      exact (eq_false_of_startsPhrase hc).2.2.2 (List.cons.inj heq).1
    | cons blank before =>
      have hblank := hbefore blank (by simp)
      rw [(List.cons.inj heq).1] at hblank
      revert hblank
      decide
  have hskip := skipBlank_start hbefore hinner
  generalize before ++ inner = text at hmark hskip ⊢
  subst hskip
  unfold readWhole
  split
  · exact absurd rfl (hmark _)
  · rfl

/-- A well-formed text is read, up to a literal that is too long. -/
theorem Spelled.readWhole {text : List Char} {value : Json} (h : Spelled text value) :
    readWhole text = .ok value ∨ ∃ count, readWhole text = .error (.tooManyDigits count) := by
  obtain ⟨before, inner, behind, hbefore, hbehind, rfl, hinner⟩ := h
  rw [readWhole_append hbefore hinner.exists_start]
  obtain hvalue | ⟨count, hvalue⟩ :=
    hinner.reached (ends_of_blanks hbehind) (2 * (before ++ inner).length + 2) (by simp; omega)
  · rw [hvalue]
    have hskip : skipBlank (behind ++ []) = [] := skipBlank_append hbehind (by simp)
    rw [List.append_nil] at hskip
    simp [hskip]
  · rw [hvalue]
    exact .inr ⟨count, rfl⟩

/-- A text with a literal that is too long is refused for its digits. -/
theorem OverlongText.readWhole {text : List Char} (h : OverlongText text) :
    ∃ count, readWhole text = .error (.tooManyDigits count) := by
  obtain ⟨before, inner, hbefore, rfl, hinner⟩ := h
  rw [readWhole_append hbefore hinner.exists_start]
  obtain ⟨count, hvalue⟩ := hinner.overran (2 * (before ++ inner).length + 2) (by simp; omega)
  rw [hvalue]
  exact ⟨count, rfl⟩

end JsonSchema.Json

namespace JsonSchema.Document

open Json

/-- A schema is that of the document in the text. -/
theorem readText_eq_ok_iff {text : String} {schema : Noted Schema} :
    readText text = .ok schema ↔ ∃ value, readWhole text.toList = .ok value ∧ schema = read value := by
  unfold readText Json.read
  cases readWhole text.toList with
  | ok value => simp [Except.map, eq_comm]
  | error refusal => cases refusal <;> simp [Except.map]

/-- A text is refused as the document in it is. -/
theorem readText_eq_tooManyDigits_iff {text : String} {count : Nat} :
    readText text = .error (.tooManyDigits count) ↔
      readWhole text.toList = .error (.tooManyDigits count) := by
  unfold readText Json.read
  cases readWhole text.toList with
  | ok value => simp [Except.map]
  | error refusal => cases refusal <;> simp [Except.map]

/-- Exactly what is malformed as characters is malformed as a text. -/
theorem readText_malformed_iff {text : String} :
    (∃ cause place, readText text = .error (.malformed cause place)) ↔
      ∃ cause left, readWhole text.toList = .error (.malformed cause left) := by
  unfold readText Json.read
  cases readWhole text.toList with
  | ok value => simp [Except.map]
  | error refusal => cases refusal <;> simp [Except.map]

/-- A text that spells a document gives the schema of the document, unless one of its integer literals
is too long; a text that spells none is malformed, unless such a literal comes before the place where
it cannot continue; and it is such a literal that is refused for its digits. -/
theorem readText_outcome (text : String) :
    (∀ schema, readText text = .ok schema ↔
      ¬ OverlongText text.toList ∧ ∃ value, Spelled text.toList value ∧ schema = read value) ∧
    ((∃ cause place, readText text = .error (.malformed cause place)) ↔
      ¬ OverlongText text.toList ∧ ∀ value, ¬ Spelled text.toList value) ∧
    ((∃ count, readText text = .error (.tooManyDigits count)) ↔ OverlongText text.toList) := by
  refine ⟨fun schema => ?_, ?_, ?_⟩
  · rw [readText_eq_ok_iff]
    constructor
    · rintro ⟨value, hread, rfl⟩
      refine ⟨fun hlong => ?_, value, spelled_of_readWhole hread, rfl⟩
      obtain ⟨count, herror⟩ := hlong.readWhole
      rw [hread] at herror
      cases herror
    · rintro ⟨hlong, value, hspelled, rfl⟩
      obtain hread | ⟨count, herror⟩ := hspelled.readWhole
      · exact ⟨value, hread, rfl⟩
      · exact absurd (overlongText_of_readWhole herror) hlong
  · rw [readText_malformed_iff]
    constructor
    · rintro ⟨cause, left, hread⟩
      refine ⟨fun hlong => ?_, fun value hspelled => ?_⟩
      · obtain ⟨count, herror⟩ := hlong.readWhole
        rw [hread] at herror
        cases herror
      · obtain hok | ⟨count, herror⟩ := hspelled.readWhole
        · rw [hread] at hok
          cases hok
        · rw [hread] at herror
          cases herror
    · rintro ⟨hlong, hspelled⟩
      cases hread : readWhole text.toList with
      | ok value => exact absurd (spelled_of_readWhole hread) (hspelled value)
      | error refusal =>
        cases refusal with
        | malformed cause left => exact ⟨cause, left, rfl⟩
        | tooManyDigits count => exact absurd (overlongText_of_readWhole hread) hlong
  · simp only [readText_eq_tooManyDigits_iff]
    constructor
    · rintro ⟨count, hread⟩
      exact overlongText_of_readWhole hread
    · exact OverlongText.readWhole

/-- Characters without an escape spell themselves. -/
theorem points_append {letters : List Char}
    (h : ∀ c ∈ letters, c ≠ '"' ∧ c ≠ '\\' ∧ 0x20 ≤ c.toNat) (rest : List Char) :
    Points (letters ++ '"' :: rest) (letters.map Char.toNat) rest := by
  induction letters with
  | nil => exact .close
  | cons c letters ih =>
    obtain ⟨hquote, hescape, hcontrol⟩ := h c (by simp)
    exact .plain hquote hescape hcontrol (ih fun other hother => h other (by simp [hother]))

/-- The text of an object of the type null with a number beside its type. -/
def numbered (digits : List Char) : List Char :=
  '{' :: '"' :: (['t', 'y', 'p', 'e'] ++ '"' :: ':' :: '"' :: (['n', 'u', 'l', 'l'] ++ '"' :: ',' ::
    '"' :: (['x'] ++ '"' :: ':' :: (digits ++ ['}']))))

/-- A document with a number of any length spells a value. -/
theorem spelled_numbered {digits : List Char} (h : Whole digits) :
    ∃ value, Spelled (numbered digits) value := by
  have hnone : Blanks [] := by simp [Blanks]
  have hnull := Spells.string (points_append (by simp : ∀ c ∈ ['n', 'u', 'l', 'l'], _)
    (',' :: '"' :: (['x'] ++ '"' :: ':' :: (digits ++ ['}']))))
  have hnumber : Spells .value (minus false ++ (digits ++ ['}'])) _ ['}'] := .integer h
  have hlast := Spells.lastMember hnone hnone hnone
    (points_append (by simp : ∀ c ∈ ['x'], _) _) hnumber
  exact ⟨_, [], _, [], hnone, hnone, rfl, .object hnone
    (.nextMember hnone hnone hnone hnone (points_append (by simp) _) hnull hlast)⟩

/-- A document is overlong where its number is. -/
theorem overlongText_numbered {digits : List Char} (h : Whole digits)
    (hlong : digitLimit < digits.length) : OverlongText (numbered digits) := by
  have hnone : Blanks [] := by simp [Blanks]
  have hnull := Spells.string (points_append (by simp : ∀ c ∈ ['n', 'u', 'l', 'l'], _)
    (',' :: '"' :: (['x'] ++ '"' :: ':' :: (digits ++ ['}']))))
  have hend : Ends ['}'] := ends_append hnone (by simp)
  have hnumber : Overlong .value (minus false ++ (digits ++ ['}'])) :=
    .literal h hend.not_continues hlong
  exact ⟨[], _, hnone, rfl, .object hnone
    (.laterMember hnone hnone hnone hnone (points_append (by simp) _) hnull
      (.thisMember hnone hnone (points_append (by simp) _) hnumber))⟩

/-- Ones are the digits of a whole number. -/
theorem whole_replicate (count : Nat) : Whole (List.replicate (count + 1) '1') := by
  refine .inr ⟨⟨by simp, fun c hc => ?_⟩, by simp [List.replicate_succ]⟩
  rw [List.eq_of_mem_replicate hc]
  decide

/-- A text that is well formed can be refused all the same, and not as malformed. -/
theorem readText_numbered_overlong :
    let text := String.ofList (numbered (List.replicate 4301 '1'))
    (∃ value, Spelled text.toList value) ∧ ∃ count, readText text = .error (.tooManyDigits count) := by
  have hwhole := whole_replicate 4300
  have hlong : digitLimit < (List.replicate 4301 '1').length := by
    rw [List.length_replicate]
    decide
  simp only [readText_eq_tooManyDigits_iff, String.toList_ofList]
  exact ⟨spelled_numbered hwhole, (overlongText_numbered hwhole hlong).readWhole⟩

end JsonSchema.Document
