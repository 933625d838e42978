import JsonSchema.Pattern.Reader
import JsonSchema.Proofs.Text.Lines

/-!
# What complaints take over from a pattern

Most complaints are made of fixed words, numbers and quoted names. A few repeat characters of the
pattern as they stand there: an escape, the ends of a range, what follows a question mark after an
opening bracket. `Complaint.raw` tells these characters, and `known_of_read` that each is one of the
pattern or an ASCII character of the wording. The reader is followed step by step: `Keeps` is kept by
sequencing, so that each function of the reader keeps it because the functions that it calls do. What
it is kept of is the tokens that are left: they are tokens of the pattern, and so is what is taken.
-/

namespace JsonSchema.Pattern

open Text Text.LineEnds

/-- The characters of a pattern, and those that every wording may have. -/
def Known (pattern : List Char) (c : Char) : Prop := c ∈ pattern ∨ isPlain c

namespace Complaint

/-- The characters that a complaint does not put between quotes and that depend on the pattern. -/
def raw : Complaint → List Char
  | .incompleteEscape escape | .badEscape escape | .octalRange escape => escape.toList
  | .unterminatedName terminator => [terminator]
  | .badRange low high => low.toList ++ high.toList
  | .unknownExtension text => text.toList
  | .templateOperator operator => operator.toList
  | _ => []

end Complaint

section

variable (pattern : List Char)

/-- The characters of a token are those of the pattern. -/
def Token.Known (token : Token) : Prop := ∀ c ∈ token.chars, Pattern.Known pattern c

/-- A complaint takes over nothing but characters of the pattern. -/
def Refusal.Known : Refusal → Prop
  | .complaint words _ => ∀ c ∈ words.raw, Pattern.Known pattern c
  | _ => True

/-- Reading a part of the pattern leaves tokens of the pattern, gives a result of this kind, or
complains with characters of the pattern. -/
def Reader.Keeps {α : Type} (reader : Reader α) (kind : α → Prop) : Prop :=
  ∀ source progress, (∀ token ∈ progress.rest, token.Known pattern) →
    match reader source progress with
    | .ok (value, after) => (∀ token ∈ after.rest, token.Known pattern) ∧ kind value
    | .error refusal => refusal.Known pattern

end

/-- A complaint of fixed words takes over nothing. -/
theorem known_of_raw {pattern : List Char} {complaint : Complaint} (h : complaint.raw = []) :
    ∀ c ∈ complaint.raw, Known pattern c := by simp [h]

/-- What is taken over from characters is those characters. -/
theorem known_ofList {pattern chars : List Char} (h : ∀ c ∈ chars, Known pattern c) :
    ∀ c ∈ (String.ofList chars).toList, Known pattern c := by rwa [String.toList_ofList]

namespace Reader

variable {pattern : List Char} {α β : Type}

namespace Keeps

/-- A value at hand leaves the tokens as they are. -/
theorem pure {value : α} {kind : α → Prop} (h : kind value) :
    Keeps pattern (pure value) kind := fun _ _ hrest => ⟨hrest, h⟩

/-- So does any value, of which nothing is asked. -/
theorem done {value : α} : Keeps pattern (Pure.pure value) fun _ => True := pure trivial

/-- What one reader gives is what the next one may rely on. -/
theorem bind {first : Reader α} {after : α → Reader β} {kind : α → Prop} {kind' : β → Prop}
    (hfirst : Keeps pattern first kind)
    (hafter : ∀ value, kind value → Keeps pattern (after value) kind') :
    Keeps pattern (first >>= after) kind' := by
  intro source progress hrest
  have hread := hfirst source progress hrest
  change match (first source progress).bind fun (value, progress) => after value source progress with
    | .ok (value, after) => _
    | .error refusal => _
  cases h : first source progress with
  | error refusal =>
    rw [h] at hread
    exact hread
  | ok found =>
    obtain ⟨value, reached⟩ := found
    rw [h] at hread
    exact hafter value hread.2 source reached hread.1

/-- A refusal has to be known itself, and no value is promised. -/
theorem throw {refusal : Refusal} {kind : α → Prop} (h : refusal.Known pattern) :
    Keeps pattern (throw refusal) kind := fun _ _ _ => h

/-- The progress has known tokens left. -/
theorem get : Keeps pattern get fun progress => ∀ token ∈ progress.rest, token.Known pattern :=
  fun _ _ hrest => ⟨hrest, hrest⟩

/-- Progress may be replaced by one that has known tokens left. -/
theorem set {progress : Progress} (h : ∀ token ∈ progress.rest, token.Known pattern) :
    Keeps pattern (set progress) fun _ => True := fun _ _ _ => ⟨h, trivial⟩

/-- The source says nothing of the tokens. -/
theorem read : Keeps pattern (MonadReader.read : Reader Source) fun _ => True :=
  fun _ _ hrest => ⟨hrest, trivial⟩

/-- Progress may be changed as long as known tokens stay known. -/
theorem modify {change : Progress → Progress}
    (h : ∀ progress, (∀ token ∈ progress.rest, token.Known pattern) →
      ∀ token ∈ (change progress).rest, token.Known pattern) :
    Keeps pattern (modify change) fun _ => True :=
  fun _ progress hrest => ⟨h progress hrest, trivial⟩

/-- Of two ways each has to keep it under its own condition. -/
theorem ite {condition : Prop} [Decidable condition] {yes no : Reader α} {kind : α → Prop}
    (hyes : condition → Keeps pattern yes kind) (hno : ¬ condition → Keeps pattern no kind) :
    Keeps pattern (if condition then yes else no) kind := by
  by_cases h : condition
  · rw [if_pos h]
    exact hyes h
  · rw [if_neg h]
    exact hno h

/-- Two ways that go on alike. -/
theorem ite_bind {condition : Prop} [Decidable condition] {yes no : Reader α} {after : α → Reader β}
    {kind : α → Prop} {kind' : β → Prop} (hyes : condition → Keeps pattern yes kind)
    (hno : ¬ condition → Keeps pattern no kind)
    (hafter : ∀ value, kind value → Keeps pattern (after value) kind') :
    Keeps pattern (if condition then yes >>= after else no >>= after) kind' :=
  ite (fun h => bind (hyes h) hafter) fun h => bind (hno h) hafter

/-- A result of one kind is one of every wider kind. -/
theorem mono {reader : Reader α} {kind kind' : α → Prop} (h : Keeps pattern reader kind)
    (hkind : ∀ value, kind value → kind' value) : Keeps pattern reader kind' := by
  intro source progress hrest
  have hread := h source progress hrest
  cases hresult : reader source progress with
  | ok found =>
    rw [hresult] at hread
    exact ⟨hread.1, hkind _ hread.2⟩
  | error refusal =>
    rw [hresult] at hread
    exact hread

/-- What becomes of the result does not matter to the tokens. -/
theorem map {reader : Reader α} {kind : α → Prop} (h : Keeps pattern reader kind) {f : α → β} :
    Keeps pattern (f <$> reader) fun _ => True := by
  change Keeps pattern (reader >>= fun value => Pure.pure (f value)) _
  exact bind h fun _ _ => done

/-- Nor does it matter that the result is thrown away. -/
theorem discard {reader : Reader α} {kind : α → Prop} (h : Keeps pattern reader kind) :
    Keeps pattern (discard reader) fun _ => True := by
  change Keeps pattern (reader >>= fun _ => Pure.pure ()) _
  exact bind h fun _ _ => done

end Keeps

/-- Counting what is left takes nothing. -/
theorem keeps_position : Keeps pattern position fun _ => True := by
  unfold position
  refine .bind .read fun source _ => ?_
  refine .bind .get fun progress _ => ?_
  exact .done

/-- Complaining takes over what the complaint does. -/
theorem keeps_failAt {complaint : Complaint} {kind : α → Prop} {place : Nat}
    (h : ∀ c ∈ complaint.raw, Known pattern c) : Keeps pattern (failAt complaint place) kind :=
  .throw h

/-- The same at a place counted back from here. -/
theorem keeps_fail {complaint : Complaint} {kind : α → Prop} {back : Nat}
    (h : ∀ c ∈ complaint.raw, Known pattern c) : Keeps pattern (fail complaint back) kind :=
  .bind keeps_position fun _ _ => keeps_failAt h

/-- Nothing comes after a complaint. -/
theorem keeps_fail_bind {complaint : Complaint} {after : α → Reader β} {kind : β → Prop}
    {back : Nat} (h : ∀ c ∈ complaint.raw, Known pattern c) :
    Keeps pattern (fail complaint back >>= after) kind :=
  .bind (keeps_fail h : Keeps pattern _ fun _ => False) fun _ hnever => hnever.elim

/-- Nothing comes after a complaint about a place. -/
theorem keeps_failAt_bind {complaint : Complaint} {after : α → Reader β} {kind : β → Prop}
    {place : Nat} (h : ∀ c ∈ complaint.raw, Known pattern c) :
    Keeps pattern (failAt complaint place >>= after) kind :=
  .bind (keeps_failAt h : Keeps pattern _ fun _ => False) fun _ hnever => hnever.elim

/-- Nothing comes after any other refusal. -/
theorem keeps_throw_bind {refusal : Refusal} {after : α → Reader β} {kind : β → Prop}
    (h : refusal.Known pattern) : Keeps pattern (throw refusal >>= after) kind :=
  .bind (.throw h : Keeps pattern _ fun _ => False) fun _ hnever => hnever.elim

/-- A lone backslash at the end is complained of in fixed words. -/
theorem keeps_lookAhead {rest : List Token} : Keeps pattern (lookAhead rest) fun _ => True := by
  unfold lookAhead
  refine .bind .read fun source _ => ?_
  refine .ite (fun _ => keeps_failAt (known_of_raw rfl)) fun _ => .done

/-- A token that is looked at is known. -/
theorem keeps_peek :
    Keeps pattern peek fun next => ∀ token ∈ next, token.Known pattern := by
  unfold peek
  refine .bind .get fun progress hrest => .pure fun token htoken => ?_
  exact hrest token (List.mem_of_mem_head? htoken)

/-- A token that is taken is known, and so are those after it. -/
theorem keeps_take :
    Keeps pattern take fun next => ∀ token ∈ next, token.Known pattern := by
  unfold take
  refine .bind .get fun progress hrest => ?_
  split
  · exact .pure (by simp)
  · rename_i token rest heq
    rw [heq] at hrest
    have hmore : ∀ other ∈ rest, other.Known pattern :=
      fun other hother => hrest other (List.mem_cons_of_mem _ hother)
    refine .bind (.modify fun _ _ => hmore) fun _ _ => .bind keeps_lookAhead fun _ _ => .pure ?_
    simpa using hrest token (by simp)

/-- Taking an expected character says only whether it was there. -/
theorem keeps_accept {c : Char} : Keeps pattern (accept c) fun _ => True := by
  unfold accept
  refine .bind keeps_peek fun next _ => ?_
  exact .ite (fun _ => .bind (.discard keeps_take) fun _ _ => .done) fun _ => .done

/-- The characters of a kind that are taken are known. -/
theorem keeps_takeWhile {kind : Char → Bool} {count : Nat} :
    Keeps pattern (takeWhile kind count) fun taken => ∀ c ∈ taken, Known pattern c := by
  induction count with
  | zero => exact .pure (by simp)
  | succ count ih =>
    unfold takeWhile
    refine .bind keeps_peek fun next hnext => ?_
    split
    · rename_i c
      refine .ite (fun _ => ?_) fun _ => .pure (by simp)
      refine .bind (.discard keeps_take) fun _ _ => .bind ih fun taken htaken => .pure ?_
      intro other hother
      obtain rfl | hother := List.mem_cons.1 hother
      · exact hnext (.plain other) rfl other (by simp [Token.chars])
      · exact htaken other hother
    · exact .pure (by simp)

/-- Reading a name repeats no more than the terminator that is missing. -/
theorem keeps_nameUntil {terminator : Char} (h : Known pattern terminator) {kind : NameKind}
    {fuel : Nat} {taken : List Char} :
    Keeps pattern (nameUntil terminator kind fuel taken) fun _ => True := by
  induction fuel generalizing taken with
  | zero => exact keeps_fail (known_of_raw rfl)
  | succ fuel ih =>
    unfold nameUntil
    refine .bind keeps_take fun next _ => ?_
    split
    · refine .ite (fun _ => keeps_fail (known_of_raw rfl)) fun _ => keeps_fail ?_
      exact List.forall_mem_singleton.2 h
    · refine .ite (fun _ => ?_) fun _ => ih
      exact .ite (fun _ => keeps_fail (known_of_raw rfl)) fun _ => .done

/-- The same from the start of the name. -/
theorem keeps_name {terminator : Char} (h : Known pattern terminator) {kind : NameKind} :
    Keeps pattern (name terminator kind) fun _ => True := by
  unfold name
  exact .bind .get fun _ _ => keeps_nameUntil h

/-- A bad name is put between quotes. -/
theorem keeps_checkName {name : List Char} : Keeps pattern (checkName name) fun _ => True := by
  unfold checkName
  exact .ite (fun _ => .done) fun _ => keeps_fail (known_of_raw rfl)

/-- Asking for a group takes nothing. -/
theorem keeps_isClosed {number : Nat} : Keeps pattern (isClosed number) fun _ => True := by
  unfold isClosed
  exact .bind .get fun _ _ => .done

/-- References that a look behind forbids are complained of in fixed words. -/
theorem keeps_checkLookbehind {number : Nat} :
    Keeps pattern (checkLookbehind number) fun _ => True := by
  unfold checkLookbehind
  refine .bind .get fun progress _ => ?_
  split
  · exact .done
  · refine .bind keeps_isClosed fun closed _ => ?_
    refine .ite (fun _ => ?_) fun _ => keeps_fail_bind (known_of_raw rfl)
    exact .ite (fun _ => keeps_fail (known_of_raw rfl)) fun _ => .done

/-- Making a reference takes nothing. -/
theorem keeps_reference {number : Nat} : Keeps pattern (reference number) fun _ => True := by
  unfold reference
  exact .bind .get fun _ _ => .done

/-- An escape is repeated as it stands. -/
theorem keeps_badEscape {escape : List Char} {kind : α → Prop} (h : ∀ c ∈ escape, Known pattern c) :
    Keeps pattern (badEscape escape) kind :=
  keeps_fail (known_ofList h)

/-- An escape in hexadecimal repeats its letter and its digits. -/
theorem keeps_hexEscape {letter : Char} (h : Known pattern letter) {count : Nat} :
    Keeps pattern (hexEscape letter count) fun _ => True := by
  unfold hexEscape
  refine .bind keeps_takeWhile fun digits hdigits => ?_
  have hescape : ∀ c ∈ '\\' :: letter :: digits, Known pattern c :=
    List.forall_mem_cons.2 ⟨.inr (by decide), List.forall_mem_cons.2 ⟨h, hdigits⟩⟩
  exact .ite (fun _ => keeps_fail (known_ofList hescape)) fun _ =>
    .ite (fun _ => keeps_badEscape hescape) fun _ => .done

/-- An escape by name puts the name between quotes, or misses a brace of its own. -/
theorem keeps_namedEscape : Keeps pattern namedEscape fun _ => True := by
  unfold namedEscape
  refine .bind keeps_accept fun _ _ => ?_
  refine .ite (fun _ => .bind (keeps_name (.inr (by decide))) fun _ _ => ?_) fun _ =>
    keeps_fail_bind (known_of_raw rfl)
  split
  · exact .done
  · exact keeps_fail (known_of_raw rfl)

/-- An escape in octal repeats its digits. -/
theorem keeps_octalEscape {digits : List Char} (h : ∀ c ∈ digits, Known pattern c) :
    Keeps pattern (octalEscape digits) fun _ => True := by
  unfold octalEscape
  refine .ite (fun _ => keeps_fail ?_) fun _ => .done
  exact known_ofList (List.forall_mem_cons.2 ⟨.inr (by decide), h⟩)

/-- Any other escape repeats its character. -/
theorem keeps_plainEscape {c : Char} (h : Known pattern c) :
    Keeps pattern (plainEscape c) fun _ => True := by
  unfold plainEscape
  refine .ite (fun _ => keeps_hexEscape h) fun _ => ?_
  refine .ite (fun _ => keeps_hexEscape h) fun _ => ?_
  refine .ite (fun _ => keeps_hexEscape h) fun _ => ?_
  refine .ite (fun _ => keeps_namedEscape) fun _ => ?_
  refine .ite (fun _ => keeps_badEscape ?_) fun _ => .done
  simpa using ⟨.inr (by decide), h⟩

/-- An escape in a set is one of these. -/
theorem keeps_setEscape {c : Char} (h : Known pattern c) :
    Keeps pattern (setEscape c) fun _ => True := by
  unfold setEscape
  split
  · exact .done
  · exact .done
  · refine .ite (fun _ => ?_) fun _ => .bind (keeps_plainEscape h) fun _ _ => .done
    refine .bind keeps_takeWhile fun digits hdigits => ?_
    refine .bind (keeps_octalEscape ?_) fun _ _ => .done
    exact List.forall_mem_cons.2 ⟨h, hdigits⟩

/-- A reference by number repeats nothing but the number. -/
theorem keeps_numberedReference {digits : List Char} :
    Keeps pattern (numberedReference digits) fun _ => True := by
  unfold numberedReference
  refine .bind .get fun progress _ => .ite (fun _ => ?_) fun _ => keeps_fail (known_of_raw rfl)
  refine .bind keeps_isClosed fun _ _ => .ite (fun _ => ?_) fun _ =>
    keeps_fail_bind (known_of_raw rfl)
  exact .bind keeps_checkLookbehind fun _ _ => keeps_reference

/-- An escape outside sets is one of these, or a reference. -/
theorem keeps_escape {c : Char} (h : Known pattern c) : Keeps pattern (escape c) fun _ => True := by
  unfold escape
  split
  · exact .done
  · exact .done
  · exact .done
  · refine .ite (fun _ => .bind keeps_takeWhile fun _ _ => .done) fun _ => ?_
    refine .ite (fun _ => ?_) fun _ => .bind (keeps_plainEscape h) fun _ _ => .done
    refine .bind keeps_takeWhile fun second hsecond => ?_
    refine .ite_bind (fun _ => keeps_takeWhile) (fun _ => .pure (by simp)) fun third hthird => ?_
    refine .ite (fun _ => keeps_numberedReference) fun _ => ?_
    refine .bind (keeps_octalEscape ?_) fun _ _ => .done
    exact List.forall_mem_append.2 ⟨List.forall_mem_cons.2 ⟨h, hsecond⟩, hthird⟩

/-- A member of a set is a character or an escape of the pattern. -/
theorem keeps_setMember {token : Token} (h : token.Known pattern) :
    Keeps pattern (setMember token) fun _ => True := by
  cases token with
  | plain c => exact .done
  | escape c => exact keeps_setEscape (h c (by simp [Token.chars]))

/-- A range that is none repeats the two tokens at its ends. -/
theorem keeps_badRange {low high : Token} (hlow : low.Known pattern) (hhigh : high.Known pattern)
    {kind : α → Prop} : Keeps pattern (setMembers.badRange low high) kind := by
  unfold setMembers.badRange
  exact keeps_fail (List.forall_mem_append.2 ⟨known_ofList hlow, known_ofList hhigh⟩)

/-- The members of a set are read one by one, each from known tokens. -/
theorem keeps_setMembers {start fuel : Nat} {members : List SetMember} :
    Keeps pattern (setMembers start fuel members) fun _ => True := by
  induction fuel generalizing members with
  | zero => exact keeps_failAt (known_of_raw rfl)
  | succ fuel ih =>
    unfold setMembers
    refine .bind keeps_take fun next hnext => ?_
    split
    · exact keeps_failAt (known_of_raw rfl)
    · rename_i low
      have hlow := hnext low rfl
      refine .ite (fun _ => .done) fun _ => ?_
      refine .bind (keeps_setMember hlow) fun first _ => .bind keeps_accept fun _ _ => ?_
      refine .ite (fun _ => ?_) fun _ => ih
      refine .bind keeps_take fun next hnext => ?_
      split
      · exact keeps_failAt (known_of_raw rfl)
      · rename_i high
        have hhigh := hnext high rfl
        refine .ite (fun _ => .done) fun _ => ?_
        refine .bind (keeps_setMember hhigh) fun second _ => ?_
        split
        · exact .ite (fun _ => keeps_badRange hlow hhigh) fun _ => ih
        · exact keeps_badRange hlow hhigh

/-- A set is its members, negated or not. -/
theorem keeps_characterSet {start : Nat} : Keeps pattern (characterSet start) fun _ => True := by
  unfold characterSet
  refine .bind keeps_accept fun _ _ => .bind .get fun _ _ => ?_
  exact .bind keeps_setMembers fun _ _ => .done

/-- A count beyond a limit is refused without a complaint. -/
theorem keeps_count {digits : List Char} : Keeps pattern (count digits) fun _ => True := by
  unfold count
  exact .ite (fun _ => .throw trivial) fun _ => .ite (fun _ => .throw trivial) fun _ => .done

/-- Counts that are none leave the tokens that were there before them. -/
theorem keeps_counts? {c : Char} : Keeps pattern (counts? c) fun _ => True := by
  unfold counts?
  refine .ite (fun _ => .done) fun _ => .ite (fun _ => .done) fun _ =>
    .ite (fun _ => .done) fun _ => ?_
  refine .bind keeps_peek fun _ _ => .ite (fun _ => .done) fun _ => ?_
  refine .bind .get fun progress hrest => .bind keeps_position fun here _ => ?_
  refine .bind keeps_takeWhile fun low hlow => .bind keeps_accept fun _ _ => ?_
  refine .ite_bind (fun _ => keeps_takeWhile) (fun _ => .pure hlow) fun high _ => ?_
  refine .bind keeps_accept fun _ _ => .ite (fun _ => ?_) fun _ => ?_
  · refine .ite_bind (fun _ => .done) (fun _ => keeps_count) fun least _ => ?_
    refine .ite (fun _ => .done) fun _ => .bind keeps_count fun greatest _ => ?_
    exact .ite (fun _ => keeps_failAt (known_of_raw rfl)) fun _ => .done
  · exact .bind (.modify fun _ _ => hrest) fun _ _ => .done

/-- How a repetition chooses is told by one more character. -/
theorem keeps_greediness : Keeps pattern greediness fun _ => True := by
  unfold greediness
  refine .bind keeps_accept fun _ _ => .ite (fun _ => .done) fun _ => ?_
  exact .bind keeps_accept fun _ _ => .ite (fun _ => .done) fun _ => .done

/-- A repetition of nothing is complained of in fixed words. -/
theorem keeps_repeatLast {start least : Nat} {parts : List Part} {greatest : Option Nat} :
    Keeps pattern (repeatLast start parts least greatest) fun _ => True := by
  unfold repeatLast
  split
  · exact keeps_failAt (known_of_raw rfl)
  · refine .ite (fun _ => keeps_failAt (known_of_raw rfl)) fun _ =>
      .ite (fun _ => keeps_failAt (known_of_raw rfl)) fun _ => ?_
    exact .bind keeps_greediness fun _ _ => .done

/-- Neither of two complaints of fixed words takes over anything. -/
theorem known_of_letter {condition : Prop} [Decidable condition] {first second : Complaint}
    (hfirst : first.raw = [] := by rfl) (hsecond : second.raw = [] := by rfl) :
    ∀ c ∈ (if condition then first else second).raw, Known pattern c := by
  split
  · exact known_of_raw hfirst
  · exact known_of_raw hsecond

/-- Options to switch on are read letter by letter. -/
theorem keeps_optionsOn {fuel : Nat} {token : Token} {on : Options} :
    Keeps pattern (optionsOn fuel token on) fun _ => True := by
  induction fuel generalizing token on with
  | zero => exact keeps_fail (known_of_raw rfl)
  | succ fuel ih =>
    unfold optionsOn
    split
    · exact keeps_fail (known_of_raw rfl)
    · refine .ite (fun _ => keeps_fail_bind (known_of_raw rfl)) fun _ => ?_
      refine .bind keeps_take fun next _ => ?_
      split
      · exact keeps_fail (known_of_raw rfl)
      · exact .done
      · exact .done
      · exact .done
      · exact .ite (fun _ => ih) fun _ => keeps_fail known_of_letter

/-- Options to switch off are read letter by letter. -/
theorem keeps_optionsOff {fuel : Nat} {token : Token} {off : Options} :
    Keeps pattern (optionsOff fuel token off) fun _ => True := by
  induction fuel generalizing token off with
  | zero => exact keeps_fail (known_of_raw rfl)
  | succ fuel ih =>
    unfold optionsOff
    split
    · exact keeps_fail (known_of_raw rfl)
    · refine .ite (fun _ => keeps_fail_bind (known_of_raw rfl)) fun _ => ?_
      refine .bind keeps_take fun next _ => ?_
      split
      · exact keeps_fail (known_of_raw rfl)
      · exact .done
      · exact .ite (fun _ => ih) fun _ => keeps_fail known_of_letter

/-- The options of a group are those two, and their clashes are complained of in fixed words. -/
theorem keeps_groupOptions {token : Token} :
    Keeps pattern (groupOptions token) fun _ => True := by
  unfold groupOptions
  refine .bind .get fun _ _ => ?_
  refine .ite_bind (fun _ => .done) (fun _ => keeps_optionsOn) fun found _ => ?_
  obtain ⟨on, stop⟩ := found
  refine .ite (fun _ => ?_) fun _ => ?_
  · exact .bind (.modify fun _ hrest => hrest) fun _ _ => .done
  · refine .ite (fun _ => keeps_fail_bind (known_of_raw rfl)) fun _ => ?_
    have hafter (off : Options) : Keeps pattern (do
        if off.template then fail .globalOff 1
        if !(on.without (on.without off)).isEmpty then fail .onAndOff 1
        return some (on, off)) fun _ => True := by
      refine .ite (fun _ => keeps_fail_bind (known_of_raw rfl)) fun _ => ?_
      exact .ite (fun _ => keeps_fail_bind (known_of_raw rfl)) fun _ => .done
    refine .ite (fun _ => .bind keeps_take fun next _ => ?_) fun _ =>
      .bind (.done) fun _ _ => hafter _
    split
    · exact keeps_fail_bind (known_of_raw rfl)
    · exact .ite (fun _ => .bind keeps_optionsOff fun _ _ => hafter _) fun _ =>
        keeps_fail_bind known_of_letter

/-- A comment is left out up to its line feed. -/
theorem keeps_skipComment {fuel : Nat} : Keeps pattern (skipComment fuel) fun _ => True := by
  induction fuel with
  | zero => exact .done
  | succ fuel ih =>
    unfold skipComment
    refine .bind keeps_take fun next _ => ?_
    split
    · exact .done
    · exact .done
    · exact ih

/-- A comment in brackets is left out up to its bracket. -/
theorem keeps_skipBracketed {start fuel : Nat} :
    Keeps pattern (skipBracketed start fuel) fun _ => True := by
  induction fuel with
  | zero => exact keeps_failAt (known_of_raw rfl)
  | succ fuel ih =>
    unfold skipBracketed
    refine .bind keeps_peek fun next _ => ?_
    split
    · exact keeps_failAt (known_of_raw rfl)
    · exact .bind (.discard keeps_take) fun _ _ => .ite (fun _ => .done) fun _ => ih

/-- A new group changes the names and the widths only. -/
theorem keeps_openGroup {name : Option (List Char)} :
    Keeps pattern (openGroup name) fun _ => True := by
  unfold openGroup
  refine .bind .get fun progress hrest => .bind (.set hrest) fun _ _ => ?_
  split
  · exact .done
  · split
    · exact keeps_fail (known_of_raw rfl)
    · exact .bind (.modify fun _ hrest => hrest) fun _ _ => .done

/-- Closing a group changes the widths only. -/
theorem keeps_closeGroup {number : Nat} {body : List Part} :
    Keeps pattern (closeGroup number body) fun _ => True := .modify fun _ hrest => hrest

/-- A missing bracket is complained of in fixed words. -/
theorem keeps_close {start : Nat} : Keeps pattern (close start) fun _ => True := by
  unfold close
  exact .bind keeps_accept fun _ _ => .ite (fun _ => .done) fun _ => keeps_failAt (known_of_raw rfl)

/-- A condition puts a bad name between quotes and spells a bad number. -/
theorem keeps_conditionGroup : Keeps pattern conditionGroup fun _ => True := by
  unfold conditionGroup
  refine .bind (keeps_name (.inr (by decide))) fun name _ => .ite (fun _ => ?_) fun _ => ?_
  · refine .bind .get fun progress _ => ?_
    split
    · exact .done
    · exact keeps_fail (known_of_raw rfl)
  · split
    · exact keeps_fail (known_of_raw rfl)
    · exact keeps_fail (known_of_raw rfl)
    · refine .bind keeps_position fun place _ => ?_
      refine .ite (fun _ => keeps_failAt_bind (known_of_raw rfl)) fun _ => .bind .get fun _ _ => ?_
      refine .ite (fun _ => .done) fun _ => ?_
      exact .bind (.modify fun _ hrest => hrest) fun _ _ => .done

/-- What stands in front of a token in a complaint belongs to its wording. -/
theorem known_behind {token : Token} (front : List Char) (hfront : front.all isPlain = true)
    (h : token.Known pattern) : ∀ c ∈ front ++ token.chars, Known pattern c :=
  List.forall_mem_append.2 ⟨fun c hc => .inr (List.all_eq_true.mp hfront c hc), h⟩

/-- An unknown extension is repeated as it stands. -/
theorem keeps_unknownExtension {text : List Char} {back : Nat} {kind : α → Prop}
    (h : ∀ c ∈ text, Known pattern c) :
    Keeps pattern (fail (.unknownExtension (String.ofList text)) back) kind :=
  keeps_fail (known_ofList h)

/-- What follows an opening bracket is repeated only where it is no extension. -/
theorem keeps_opening {start : Nat} : Keeps pattern (opening start) fun _ => True := by
  unfold opening
  refine .bind keeps_accept fun _ _ => .ite (fun _ => ?_) fun _ => .done
  refine .bind keeps_take fun next hnext => ?_
  split
  · exact keeps_fail (known_of_raw rfl)
  -- A named group, a reference by name, or neither.
  · refine .bind keeps_accept fun _ _ => .ite (fun _ => ?_) fun _ => ?_
    · refine .bind (keeps_name (.inr (by decide))) fun name _ => ?_
      exact .bind keeps_checkName fun _ _ => .done
    refine .bind keeps_accept fun _ _ => .ite (fun _ => ?_) fun _ => ?_
    · refine .bind (keeps_name (.inr (by decide))) fun name _ => .bind keeps_checkName fun _ _ => ?_
      refine .bind .get fun _ _ => ?_
      split
      · exact keeps_fail (known_of_raw rfl)
      · refine .bind keeps_isClosed fun _ _ => .ite (fun _ => ?_) fun _ =>
          keeps_fail_bind (known_of_raw rfl)
        exact .bind keeps_checkLookbehind fun _ _ => .bind keeps_reference fun _ _ => .done
    · refine .bind keeps_take fun next hnext => ?_
      split
      · exact keeps_fail (known_of_raw rfl)
      · rename_i token
        exact keeps_unknownExtension (known_behind ['?', 'P'] rfl (hnext token rfl))
  · exact .done
  · exact .bind .get fun _ _ => .bind keeps_skipBracketed fun _ _ => .done
  · exact .done
  · exact .done
  · refine .bind keeps_take fun next hnext => ?_
    split
    · exact keeps_fail (known_of_raw rfl)
    · exact .done
    · exact .done
    · rename_i token _ _
      exact keeps_unknownExtension (known_behind ['?', '<'] rfl (hnext token rfl))
  · exact .done
  · exact .done
  · rename_i token _ _ _ _ _ _ _ _
    refine .ite (fun _ => .bind keeps_groupOptions fun found _ => ?_) fun _ =>
      keeps_unknownExtension (known_behind ['?'] rfl (hnext token rfl))
    split
    · exact .done
    · exact .done

/-- What calls with so much fuel keep. -/
structure PhrasesKeep (pattern : List Char) (fuel : Nat) : Prop where
  choice : ∀ verbose nested, Keeps pattern (choice fuel verbose nested) fun _ => True
  branches : ∀ verbose nested, Keeps pattern (branches fuel verbose nested) fun _ => True
  sequence : ∀ verbose first parts, Keeps pattern (sequence fuel verbose first parts) fun _ => True

namespace PhrasesKeep

variable {fuel : Nat} (hfuel : PhrasesKeep pattern fuel) (verbose : Bool)
include hfuel

/-- A choice is a sequence and the branches after it. -/
theorem choice_succ (nested : Bool) :
    Keeps pattern (Reader.choice (fuel + 1) verbose nested) fun _ => True := by
  unfold Reader.choice
  refine .bind (hfuel.sequence _ _ _) fun _ _ => .bind (hfuel.branches _ _) fun _ _ => ?_
  exact .ite (fun _ => .done) fun _ => .done

/-- A branch is a sequence, and more branches follow it. -/
theorem branches_succ (nested : Bool) :
    Keeps pattern (Reader.branches (fuel + 1) verbose nested) fun _ => True := by
  unfold Reader.branches
  refine .bind keeps_accept fun _ _ => .ite (fun _ => ?_) fun _ => .done
  refine .bind .get fun _ _ => .bind (hfuel.sequence _ _ _) fun _ _ => ?_
  exact .bind (hfuel.branches _ _) fun _ _ => .done

/-- A sequence takes one part after the other, whatever kind of part it is. -/
theorem sequence_succ (first : Bool) (parts : List Part) :
    Keeps pattern (Reader.sequence (fuel + 1) verbose first parts) fun _ => True := by
  have hnext (verbose first : Bool) (parts : List Part) := hfuel.sequence verbose first parts
  unfold Reader.sequence
  refine .bind keeps_position fun start _ => .bind keeps_peek fun next hpeeked => ?_
  split
  · exact .done
  · exact .done
  · exact .done
  rename_i token _ _
  have htoken := hpeeked token rfl
  refine .bind (.discard keeps_take) fun _ _ => ?_
  split
  · rename_i c _ _
    exact .bind (keeps_escape (htoken c (by simp [Token.chars]))) fun _ _ => hnext _ _ _
  refine .ite (fun _ => hnext _ _ _) fun _ => .ite (fun _ => ?_) fun _ => ?_
  · exact .bind .get fun _ _ => .bind keeps_skipComment fun _ _ => hnext _ _ _
  refine .ite (fun _ => .bind keeps_characterSet fun _ _ => hnext _ _ _) fun _ => ?_
  refine .ite (fun _ => .bind keeps_counts? fun found _ => ?_) fun _ => ?_
  · split
    · exact hnext _ _ _
    · exact .bind keeps_repeatLast fun _ _ => hnext _ _ _
  refine .ite (fun _ => hnext _ _ _) fun _ => .ite (fun _ => hnext _ _ _) fun _ => ?_
  refine .ite (fun _ => hnext _ _ _) fun _ => .ite (fun _ => ?_) fun _ => hnext _ _ _
  -- A bracket opens a group: what follows depends on the kind of the group.
  have hclosed {start : Nat} {verbose first : Bool} {parts : List Part} :
      Keeps pattern (do close start; Reader.sequence fuel verbose first parts) fun _ => True :=
    .bind keeps_close fun _ _ => hnext _ _ _
  refine .bind keeps_opening fun found _ => ?_
  split
  · exact hnext _ _ _
  · refine .ite (fun _ => keeps_failAt_bind (known_of_raw rfl)) fun _ => ?_
    exact .bind .get fun _ _ => hnext _ _ _
  · exact hnext _ _ _
  · refine .bind .get fun _ _ => ?_
    refine .ite (fun _ => .bind (.modify fun _ h => h) fun _ _ => ?_) fun _ => ?_
    all_goals
      refine .bind (hfuel.choice _ _) fun _ _ => ?_
      exact .ite (fun _ => .bind (.modify fun _ h => h) fun _ _ => hclosed) fun _ => hclosed
  · refine .bind keeps_conditionGroup fun _ _ => .bind keeps_checkLookbehind fun _ _ => ?_
    refine .bind (hnext _ _ _) fun _ _ => .bind keeps_accept fun _ _ => .ite (fun _ => ?_) fun _ =>
      .bind .done fun _ _ => hclosed
    refine .bind (hnext _ _ _) fun _ _ => .bind keeps_peek fun _ _ => ?_
    exact .ite (fun _ => keeps_fail_bind (known_of_raw rfl)) fun _ => .bind .done fun _ _ => hclosed
  · rename_i capture atomic on off
    cases capture
    case' none => refine .bind .done fun number _ => ?_
    case' some name => refine .bind (.map keeps_openGroup) fun number _ => ?_
    all_goals
      refine .bind (hfuel.choice _ _) fun _ _ => .bind keeps_close fun _ _ => ?_
      cases number with
      | none => exact hnext _ _ _
      | some number => exact .bind keeps_closeGroup fun _ _ => hnext _ _ _

end PhrasesKeep

/-- Phrases keep it with any fuel. -/
theorem phrasesKeep (fuel : Nat) : PhrasesKeep pattern fuel := by
  induction fuel with
  | zero =>
    constructor
    all_goals intros
    all_goals exact keeps_fail (known_of_raw rfl)
  | succ fuel ih => exact ⟨ih.choice_succ, ih.branches_succ, ih.sequence_succ⟩

/-- The whole expression. -/
theorem keeps_expression : Keeps pattern expression fun _ => True := by
  unfold expression
  refine .bind .get fun _ _ => .bind keeps_lookAhead fun _ _ => ?_
  refine .bind .get fun _ _ => .bind ((phrasesKeep _).choice _ _) fun _ _ => ?_
  refine .bind .get fun _ _ => ?_
  refine .ite (fun _ => keeps_throw_bind trivial) fun _ => .bind keeps_peek fun _ _ => ?_
  refine .ite (fun _ => keeps_fail_bind (known_of_raw rfl)) fun _ => .bind .get fun _ _ => ?_
  split
  · exact keeps_failAt (known_of_raw rfl)
  · exact .done

end Reader

/-- Tokens are made of the characters of the pattern. -/
theorem known_of_mem_split {text : List Char} {token : Token} (h : token ∈ (Token.split text).1) :
    ∀ c ∈ token.chars, c ∈ text := by
  fun_induction Token.split text generalizing token with
  | case1 => simp at h
  | case2 => simp at h
  | case3 c rest tokens dangling heq ih =>
    obtain rfl | h := List.mem_cons.1 h
    · simp [Token.chars]
    · exact fun other hother =>
        List.mem_cons_of_mem _ (List.mem_cons_of_mem _ (ih (by rwa [heq]) other hother))
  | case4 c rest _ _ tokens dangling heq ih =>
    obtain rfl | h := List.mem_cons.1 h
    · simp [Token.chars]
    · exact fun other hother => List.mem_cons_of_mem _ (ih (by rwa [heq]) other hother)

/-- Two checks in a row complain as one of them does. -/
theorem eq_error_of_then {first second : Except Complaint Unit} {complaint : Complaint}
    (h : (do first; second) = .error complaint) :
    first = .error complaint ∨ second = .error complaint := by
  cases first with
  | error found => exact .inl h
  | ok value => exact .inr h

mutual

/-- A complaint about a part that is read takes over nothing from the pattern. -/
theorem Part.plain_of_check {template : Bool} {complaint : Complaint} :
    ∀ part : Part, part.check template = .error complaint → ∀ c ∈ complaint.raw, isPlain c
  | .choice branches, h => plain_of_checkBranches branches (by simpa [Part.check] using h)
  | .group _ _ _ body, h => plain_of_checkSequence body (by simpa [Part.check] using h)
  | .atomic body, h => plain_of_checkSequence body (by simpa [Part.check] using h)
  | .repetition greed _ _ body, h => by
    rw [Part.check] at h
    split at h
    · cases h
      cases greed <;> exact List.all_eq_true.mp rfl
    · exact plain_of_checkSequence body h
  | .look behind _ body, h => by
    rw [Part.check] at h
    split at h
    · cases h
      exact List.all_eq_true.mp rfl
    · split at h
      · cases h
        exact List.all_eq_true.mp rfl
      · exact plain_of_checkSequence body h
  | .conditional _ yes no, h => by
    rw [Part.check] at h
    obtain h | h := eq_error_of_then h
    · exact plain_of_checkSequence yes h
    · exact plain_of_checkSequence no h
  | .single _, h => by cases h
  | .any, h => by cases h
  | .set _ _, h => by cases h
  | .anchor _, h => by cases h
  | .backreference _ _, h => by cases h

/-- The same of parts in a row, where the first complaint counts. -/
theorem plain_of_checkSequence {template : Bool} {complaint : Complaint} :
    ∀ parts : List Part, checkSequence template parts = .error complaint →
      ∀ c ∈ complaint.raw, isPlain c
  | [], h => by cases h
  | part :: rest, h => by
    rw [checkSequence] at h
    obtain h | h := eq_error_of_then h
    · exact part.plain_of_check h
    · exact plain_of_checkSequence rest h

/-- The same of the branches of a choice. -/
theorem plain_of_checkBranches {template : Bool} {complaint : Complaint} :
    ∀ branches : List (List Part), checkBranches template branches = .error complaint →
      ∀ c ∈ complaint.raw, isPlain c
  | [], h => by cases h
  | branch :: rest, h => by
    rw [checkBranches] at h
    obtain h | h := eq_error_of_then h
    · exact plain_of_checkSequence branch h
    · exact plain_of_checkBranches rest h

end

/-- What a complaint about a pattern does not put between quotes is taken from the pattern or belongs
to its wording. -/
theorem known_of_read {pattern : List Char} {complaint : Complaint} {place : Option Nat}
    (h : read pattern = .error (.complaint complaint place)) :
    ∀ c ∈ complaint.raw, Known pattern c := by
  obtain ⟨tokens, dangling, hsplit⟩ : ∃ tokens dangling, Token.split pattern = (tokens, dangling) :=
    ⟨_, _, rfl⟩
  have htokens : ∀ token ∈ tokens, token.Known pattern := by
    intro token htoken c hc
    exact .inl (known_of_mem_split (by rwa [hsplit]) c hc)
  have hread := Reader.keeps_expression ⟨pattern.length, dangling⟩ { rest := tokens } htokens
  simp only [read, hsplit, StateT.run] at h
  cases hrun : Reader.expression ⟨pattern.length, dangling⟩ { rest := tokens } with
  | error refusal =>
    rw [hrun] at h hread
    cases h
    exact hread
  | ok found =>
    obtain ⟨parts, progress⟩ := found
    simp only [hrun] at h
    split at h
    · rename_i complaint hcomplaint
      cases h
      exact fun c hc => .inr (plain_of_checkSequence parts hcomplaint c hc)
    · cases h

/-! ### What complaints are written as -/

variable {lineEnds : LineEnds}

/-- A complaint is written on one line where what it takes over as it stands is. -/
theorem Complaint.unbroken_message {complaint : Complaint}
    (h : ∀ c ∈ complaint.raw, lineEnds.ends c = false) : lineEnds.Unbroken complaint.message := by
  cases complaint with
  | incompleteEscape escape => exact .append (unbroken_words rfl) h
  | badEscape escape => exact .append (unbroken_words rfl) h
  | octalRange escape => exact .append (.append (unbroken_words rfl) h) (unbroken_words rfl)
  | missingName kind =>
    refine .append (unbroken_words rfl) ?_
    cases kind <;> exact unbroken_words rfl
  | unterminatedName terminator =>
    refine .append (.append (unbroken_words rfl) ?_) (unbroken_words rfl)
    simpa [LineEnds.Unbroken, raw] using h
  | undefinedCharacter name => exact .append (unbroken_words rfl) (unbroken_quoted name)
  | noSuchGroup number => exact .append (unbroken_words rfl) (unbroken_nat number)
  | badRange low high =>
    obtain ⟨hlow, hhigh⟩ := List.forall_mem_append.mp h
    exact .append (.append (.append (unbroken_words rfl) hlow) (unbroken_words rfl)) hhigh
  | unknownExtension text => exact .append (unbroken_words rfl) h
  | badGroupName name => exact .append (unbroken_words rfl) (unbroken_quoted name)
  | unknownGroupName name => exact .append (unbroken_words rfl) (unbroken_quoted name)
  | redefinedGroup name number earlier =>
    refine .append (.append ?_ (unbroken_words rfl)) (unbroken_nat earlier)
    refine .append (.append ?_ (unbroken_words rfl)) (unbroken_nat number)
    exact .append (unbroken_words rfl) (unbroken_quoted name)
  | templateOperator operator => exact .append (unbroken_words rfl) h
  | _ => exact unbroken_words rfl

/-- The wording of a complaint about a pattern of one line is one line. -/
theorem unbroken_complaintText {pattern : List Char} {complaint : Complaint} {place : Option Nat}
    (h : read pattern = .error (.complaint complaint place))
    (hpattern : ∀ c ∈ pattern, lineEnds.ends c = false) :
    lineEnds.Unbroken (complaintText pattern complaint place) := by
  have hmessage : lineEnds.Unbroken complaint.message := by
    refine Complaint.unbroken_message fun c hc => ?_
    obtain hmem | hplain := known_of_read h c hc
    · exact hpattern c hmem
    · exact lineEnds.unprintable c (isPrintable_of_isPlain hplain)
  cases place with
  | none => exact hmessage
  | some position =>
    refine .append (.append (.append hmessage (unbroken_words rfl)) (unbroken_nat position)) ?_
    split
    · refine .append (.append (.append ?_ (unbroken_words rfl)) (unbroken_nat _)) (unbroken_words rfl)
      exact .append (unbroken_words rfl) (unbroken_nat _)
    · exact unbroken_words rfl

end JsonSchema.Pattern
