import JsonSchema.Text.Quoted

/-!
# Lines and what cannot break them

A text is cut into lines at the characters that end one. Which these are is left open between the line
feed alone and any set of characters that are not printable, so that what is proved of lines holds of
all these readings at once. Printable texts have no line ends: the texts of numbers are made of digits
and a few signs, and a quoted text writes whatever is not printable as an escape.
-/

namespace JsonSchema.Text

/-- A printable character of ASCII. -/
def isPlain (c : Char) : Bool := decide (0x20 ≤ c.toNat) && decide (c.toNat < 0x7f)

/-- The printable characters begin with those of ASCII. -/
theorem isPrintable_of_isPlain {c : Char} (h : isPlain c) : isPrintable c := by
  have hbounds : printableBounds = 0x20 :: 0x7f :: printableBounds.drop 2 := rfl
  simp only [isPlain, Bool.and_eq_true, decide_eq_true_eq] at h
  have hlow : 0x20 ≤ c.toNat := h.1
  have hhigh : ¬ 0x7f ≤ c.toNat := by omega
  rw [isPrintable, inTurns, hbounds, List.takeWhile_cons_of_pos (by simpa using hlow),
    List.takeWhile_cons_of_neg (by simpa using hhigh)]
  rfl

/-- All characters of a text are printable. -/
def Printable (text : String) : Prop := ∀ c ∈ text.toList, isPrintable c

section Printable

variable {first second : String}

/-- Texts in a row are printable where each of them is. -/
theorem Printable.append (hfirst : Printable first) (hsecond : Printable second) :
    Printable (first ++ second) := by
  intro c hc
  rw [String.toList_append] at hc
  obtain hc | hc := List.mem_append.mp hc
  · exact hfirst c hc
  · exact hsecond c hc

/-- A text of plain characters is printable. -/
theorem printable_ofList {chars : List Char} (h : ∀ c ∈ chars, isPlain c) :
    Printable (String.ofList chars) := by
  intro c hc
  rw [String.toList_ofList] at hc
  exact isPrintable_of_isPlain (h c hc)

/-- The wordings of the program are in ASCII. -/
theorem printable_words {chars : List Char} (h : chars.all isPlain = true) :
    Printable (String.ofList chars) := printable_ofList (List.all_eq_true.mp h)

/-- Digits are plain. -/
theorem isPlain_of_isDigit {c : Char} (h : c.isDigit) : isPlain c := by
  simp only [Char.isDigit, Bool.and_eq_true, decide_eq_true_eq] at h
  simp only [isPlain, Bool.and_eq_true, decide_eq_true_eq, Char.toNat]
  have hlow : (48 : Nat) ≤ c.val.toNat := h.1
  have hhigh : c.val.toNat ≤ 57 := h.2
  omega

/-- Decimal digits are written for a natural number. -/
theorem isPlain_of_mem_toDigits {n : Nat} {c : Char} (h : c ∈ Nat.toDigits 10 n) : isPlain c :=
  isPlain_of_isDigit (Nat.isDigit_of_mem_toDigits (by decide) (by decide) h)

/-- A number is spelled with digits. -/
theorem printable_nat (n : Nat) : Printable (toString n) :=
  printable_ofList fun _ => isPlain_of_mem_toDigits

/-- An integer is spelled with digits and a sign. -/
theorem printable_int (n : Int) : Printable (toString n) := by
  cases n with
  | ofNat n => exact printable_nat n
  | negSucc n => exact .append (printable_words rfl) (printable_nat (n + 1))

end Printable

end JsonSchema.Text

namespace JsonSchema

open Text

/-- Digits, a point, a sign and an exponent are written for a finite double. -/
theorem Double.printable_exponentText (exponent : Int) : Printable (exponentText exponent) := by
  unfold exponentText
  refine .append (.append ?_ ?_) (printable_nat _)
  all_goals
    split
    all_goals exact printable_words rfl

/-- The digits of a double are laid out with plain characters. -/
theorem Double.printable_layout (d : Decimal) : Printable (layout d) := by
  have hdigits : ∀ c ∈ Nat.toDigits 10 d.digits, isPlain c := fun _ => isPlain_of_mem_toDigits
  have htake (count : Nat) : ∀ c ∈ (Nat.toDigits 10 d.digits).take count, isPlain c :=
    fun c hc => hdigits c (List.mem_of_mem_take hc)
  have hdrop (count : Nat) : ∀ c ∈ (Nat.toDigits 10 d.digits).drop count, isPlain c :=
    fun c hc => hdigits c (List.mem_of_mem_drop hc)
  have hzeros (count : Nat) : ∀ c ∈ List.replicate count '0', isPlain c := by
    intro c hc
    rw [List.eq_of_mem_replicate hc]
    decide
  unfold layout
  simp only
  split
  · refine .append (printable_ofList ?_) (printable_exponentText _)
    refine List.forall_mem_append.mpr ⟨htake 1, ?_⟩
    split
    · exact List.forall_mem_nil _
    · exact List.forall_mem_cons.mpr ⟨by decide, hdrop 1⟩
  · split
    · refine printable_ofList (List.forall_mem_append.mpr ⟨?_, hdigits⟩)
      exact List.forall_mem_cons.mpr ⟨by decide, List.forall_mem_cons.mpr ⟨by decide, hzeros _⟩⟩
    · refine printable_ofList (List.forall_mem_append.mpr ⟨?_, ?_⟩)
      · exact List.forall_mem_append.mpr ⟨htake _, hzeros _⟩
      · refine List.forall_mem_cons.mpr ⟨by decide, ?_⟩
        split
        · exact List.forall_mem_singleton.mpr (by decide)
        · exact hdrop _

/-- The text of a number is printable where the spelling of the special doubles is. -/
theorem Number.printable_text (number : Number) : Printable (number.text plainSpelling) := by
  cases number with
  | int value => exact printable_int value
  | double value =>
    cases value with
    | nan => exact printable_words rfl
    | infinity negative =>
      refine .append ?_ (printable_words rfl)
      split
      all_goals exact printable_words rfl
    | finite negative units h =>
      refine .append ?_ ?_
      · split
        all_goals exact printable_words rfl
      · split
        · exact printable_words rfl
        · exact Double.printable_layout _

namespace Text

/-- A hexadecimal digit. -/
theorem isPlain_of_mem_hexText {width n : Nat} {c : Char} (h : c ∈ Json.hexText width n) :
    isPlain c := by
  induction width generalizing n with
  | zero => simp [Json.hexText] at h
  | succ width ih =>
    obtain h | h := List.mem_append.mp h
    · exact ih h
    · obtain rfl := List.mem_singleton.mp h
      have hall : ∀ digit < 16, isPlain (Json.hexLetter digit) := by decide
      exact hall _ (Nat.mod_lt _ (by decide))

/-- Between quotes a character is written as it is only if it is printable. -/
theorem printable_quotedChar {mark : Char} (hmark : isPlain mark) (c : Char) :
    ∀ written ∈ quotedChar mark c, isPrintable written := by
  have hplain {word : List Char} (h : ∀ written ∈ word, isPlain written) :
      ∀ written ∈ '\\' :: word, isPrintable written :=
    fun written hmem =>
      isPrintable_of_isPlain (List.forall_mem_cons.mpr ⟨by decide, h⟩ written hmem)
  have hhex (letter : Char) (hletter : isPlain letter) (width : Nat) :
      ∀ written ∈ letter :: Json.hexText width c.toNat, isPlain written :=
    List.forall_mem_cons.mpr ⟨hletter, fun _ => isPlain_of_mem_hexText⟩
  unfold quotedChar
  split
  · rename_i h
    refine hplain (List.forall_mem_singleton.mpr ?_)
    obtain rfl | rfl := h
    · exact hmark
    · decide
  split
  · exact hplain (List.forall_mem_singleton.mpr (by decide))
  split
  · exact hplain (List.forall_mem_singleton.mpr (by decide))
  split
  · exact hplain (List.forall_mem_singleton.mpr (by decide))
  split
  · rename_i h
    exact List.forall_mem_singleton.mpr h
  split
  · exact hplain (hhex 'x' (by decide) 2)
  split
  · exact hplain (hhex 'u' (by decide) 4)
  · exact hplain (hhex 'U' (by decide) 8)

/-- A quoted text is printable, whatever it is a text of. -/
theorem printable_quoted (text : String) : Printable (quoted text) := by
  have hquote : isPlain (quoteFor text.toList) := by
    unfold quoteFor
    split <;> decide
  intro c hc
  rw [quoted, String.toList_ofList, quotedChars] at hc
  obtain hc | hc := List.mem_append.mp hc
  · obtain rfl | hc := List.mem_cons.mp hc
    · exact isPrintable_of_isPlain hquote
    · obtain ⟨original, -, hwritten⟩ := List.mem_flatMap.mp hc
      exact printable_quotedChar hquote original c hwritten
  · obtain rfl := List.mem_singleton.mp hc
    exact isPrintable_of_isPlain hquote

/-! ### Lines -/

/-- Which characters end a line: the line feed, and none that is printable. -/
structure LineEnds where
  ends : Char → Bool
  lineFeed : ends '\n' = true
  unprintable : ∀ c, isPrintable c → ends c = false

namespace LineEnds

/-- Lines that are ended by line feeds alone. -/
def feeds : LineEnds where
  ends c := c = '\n'
  lineFeed := rfl
  unprintable c h := by
    refine decide_eq_false ?_
    rintro rfl
    revert h
    decide +kernel

/-- The line boundaries of Unicode. -/
def boundaries : List Char :=
  ['\n', '\r', '\x0b', '\x0c', '\x1c', '\x1d', '\x1e', '\x85', '\u2028', '\u2029']

/-- Lines that are ended by any line boundary of Unicode. -/
def unicode : LineEnds where
  ends c := c ∈ boundaries
  lineFeed := rfl
  unprintable c h := by
    refine decide_eq_false fun hmem => ?_
    have hall : boundaries.all (fun other => !isPrintable other) = true := by decide +kernel
    simpa [h] using List.all_eq_true.mp hall c hmem

variable (lineEnds : LineEnds)

/-- The lines of characters; after the last end there is a line only if something stands there. -/
def linesOf : List Char → List (List Char)
  | [] => []
  | c :: rest =>
    if lineEnds.ends c then [] :: linesOf rest
    else
      match linesOf rest with
      | [] => [[c]]
      | line :: others => (c :: line) :: others

/-- The lines of a text. -/
def lines (text : String) : List String := (lineEnds.linesOf text.toList).map String.ofList

/-- A text of one line. -/
def Unbroken (text : String) : Prop := ∀ c ∈ text.toList, lineEnds.ends c = false

variable {lineEnds}

/-- Texts in a row are of one line exactly if each of them is. -/
theorem unbroken_append {first second : String} :
    lineEnds.Unbroken (first ++ second) ↔ lineEnds.Unbroken first ∧ lineEnds.Unbroken second := by
  simp only [Unbroken, String.toList_append, List.forall_mem_append]

/-- Nothing printable ends a line. -/
theorem unbroken_of_printable {text : String} (h : Printable text) : lineEnds.Unbroken text :=
  fun c hc => lineEnds.unprintable c (h c hc)

/-- Texts of one line in a row are of one line. -/
theorem Unbroken.append {first second : String} (hfirst : lineEnds.Unbroken first)
    (hsecond : lineEnds.Unbroken second) : lineEnds.Unbroken (first ++ second) :=
  unbroken_append.mpr ⟨hfirst, hsecond⟩

/-- The wordings of the program are one line each. -/
theorem unbroken_words {chars : List Char} (h : chars.all isPlain = true) :
    lineEnds.Unbroken (String.ofList chars) := unbroken_of_printable (printable_words h)

/-- A quoted text is of one line, whatever it says. -/
theorem unbroken_quoted (text : String) : lineEnds.Unbroken (quoted text) :=
  unbroken_of_printable (printable_quoted text)

/-- A number is of one line. -/
theorem unbroken_nat (n : Nat) : lineEnds.Unbroken (toString n) :=
  unbroken_of_printable (printable_nat n)

/-- So is an integer. -/
theorem unbroken_int (n : Int) : lineEnds.Unbroken (toString n) :=
  unbroken_of_printable (printable_int n)

/-- A line has no line end. -/
theorem ends_of_mem_linesOf {text line : List Char} (h : line ∈ lineEnds.linesOf text) :
    ∀ c ∈ line, lineEnds.ends c = false := by
  induction text generalizing line with
  | nil => simp [linesOf] at h
  | cons c rest ih =>
    rw [linesOf] at h
    split at h
    · obtain rfl | h := List.mem_cons.mp h
      · exact List.forall_mem_nil _
      · exact ih h
    · rename_i hc
      have hc : lineEnds.ends c = false := by simpa using hc
      split at h
      · obtain rfl := List.mem_singleton.mp h
        exact List.forall_mem_singleton.mpr hc
      · rename_i first others heq
        rw [heq] at ih
        obtain rfl | h := List.mem_cons.mp h
        · exact List.forall_mem_cons.mpr ⟨hc, ih (by simp)⟩
        · exact ih (List.mem_cons_of_mem _ h)

/-- Up to its end a line is the first line. -/
theorem linesOf_append {line rest : List Char} {stop : Char}
    (hline : ∀ c ∈ line, lineEnds.ends c = false) (hstop : lineEnds.ends stop = true) :
    lineEnds.linesOf (line ++ stop :: rest) = line :: lineEnds.linesOf rest := by
  induction line with
  | nil => simp [linesOf, hstop]
  | cons c line ih =>
    have hc := hline c (by simp)
    simp [linesOf, hc, ih fun other hother => hline other (List.mem_cons_of_mem _ hother)]

/-- Texts of which each is followed by a line feed are the lines of the whole exactly if each of them is
one line. -/
theorem lines_join_eq_iff {texts : List String} :
    lineEnds.lines (String.join (texts.map (· ++ "\n"))) = texts ↔
      ∀ text ∈ texts, lineEnds.Unbroken text := by
  constructor
  · intro h text htext
    rw [← h] at htext
    obtain ⟨line, hline, rfl⟩ := List.mem_map.mp htext
    intro c hc
    rw [String.toList_ofList] at hc
    exact ends_of_mem_linesOf hline c hc
  · intro h
    induction texts with
    | nil => rfl
    | cons text texts ih =>
      obtain ⟨htext, htexts⟩ := List.forall_mem_cons.mp h
      have hchars : (String.join ((text :: texts).map (· ++ "\n"))).toList =
          text.toList ++ '\n' :: (String.join (texts.map (· ++ "\n"))).toList := by
        rw [List.map_cons, String.join_cons, String.toList_append, String.toList_append,
          List.append_assoc]
        rfl
      rw [lines, hchars, linesOf_append htext lineEnds.lineFeed, List.map_cons, String.ofList_toList]
      exact congrArg (text :: ·) (ih htexts)

end LineEnds

end Text

end JsonSchema
