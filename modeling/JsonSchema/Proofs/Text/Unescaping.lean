import Mathlib.Data.Set.Insert
import JsonSchema.Pointer

/-!
# Pointers read back from their texts

Escaping a segment is two replacements in a row, of the tilde and then of the slash. An escaped segment
has no slash, so the slashes of a text are those that start the segments, and the replacements are undone
in the reverse order: every slash comes from a `~1`, and the tildes that are left each stand before a zero.
A text therefore tells the segments of its pointer, except that the root has no segment and is written as
a pointer with one empty segment.
-/

namespace JsonSchema

namespace Text

/-- A text with another one in place of each occurrence of a given one, from the front and without
overlaps. -/
def replaceAll (old new : List Char) : List Char → List Char
  | [] => []
  | c :: rest =>
    if old <+: c :: rest then new ++ replaceAll old new (rest.drop (old.length - 1))
    else c :: replaceAll old new rest
termination_by text => text.length
decreasing_by
  · simp only [List.length_drop, List.length_cons]
    omega
  · exact Nat.lt_succ_self _

section Replacing

variable {a b x : Char} {new rest : List Char}

/-- There is nothing to replace in the empty text. -/
@[simp] theorem replaceAll_nil (old new : List Char) : replaceAll old new [] = [] := by rw [replaceAll]

/-- Another character than the first of what is replaced is kept. -/
theorem replaceAll_cons_of_ne {old : List Char} (h : x ≠ a) :
    replaceAll (a :: old) new (x :: rest) = x :: replaceAll (a :: old) new rest := by
  have hprefix : ¬ a :: old <+: x :: rest := fun hmem => h (List.cons_prefix_cons.mp hmem).1.symm
  rw [replaceAll, if_neg hprefix]

/-- Two characters that are replaced. -/
theorem replaceAll_pair : replaceAll [a, b] new (a :: b :: rest) = new ++ replaceAll [a, b] new rest := by
  have hprefix : [a, b] <+: a :: b :: rest := ⟨rest, rfl⟩
  rw [replaceAll, if_pos hprefix]
  rfl

/-- The first of two characters is kept where the second one does not follow. -/
theorem replaceAll_pair_of_ne (h : x ≠ b) :
    replaceAll [a, b] new (a :: x :: rest) = a :: replaceAll [a, b] new (x :: rest) := by
  have hprefix : ¬ [a, b] <+: a :: x :: rest := fun hmem =>
    h (List.cons_prefix_cons.mp (List.cons_prefix_cons.mp hmem).2).1.symm
  rw [replaceAll, if_neg hprefix]

/-- One character is replaced wherever it stands. -/
theorem replaceAll_singleton (a : Char) (new text : List Char) :
    replaceAll [a] new text = text.flatMap fun c => if c = a then new else [c] := by
  induction text with
  | nil => exact replaceAll_nil _ _
  | cons c rest ih =>
    by_cases h : c = a
    · subst h
      have hprefix : [c] <+: c :: rest := ⟨rest, rfl⟩
      rw [replaceAll, if_pos hprefix, List.flatMap_cons, if_pos rfl, ← ih]
      rfl
    · rw [replaceAll_cons_of_ne h, List.flatMap_cons, if_neg h, ih]
      rfl

end Replacing

end Text

namespace Pointer

open Text

/-- A segment with its tildes escaped, and not yet its slashes. -/
def escapeTildes (segment : List Char) : List Char := replaceAll ['~'] ['~', '0'] segment

/-- A segment is escaped by two replacements in a row. -/
theorem flatMap_escape (segment : List Char) :
    segment.flatMap escape = replaceAll ['/'] ['~', '1'] (escapeTildes segment) := by
  rw [escapeTildes, replaceAll_singleton, replaceAll_singleton, List.flatMap_assoc]
  congr 1
  funext c
  by_cases htilde : c = '~'
  · subst htilde
    rfl
  · by_cases hslash : c = '/'
    · subst hslash
      rfl
    · rw [escape] <;> simp_all

/-- Escaped segments have no slash. -/
theorem not_mem_flatMap_escape (segment : List Char) : '/' ∉ segment.flatMap escape := by
  rw [flatMap_escape, replaceAll_singleton]
  intro hmem
  obtain ⟨c, -, hc⟩ := List.mem_flatMap.mp hmem
  split at hc
  · simp at hc
  · rename_i hslash
    exact hslash (List.mem_singleton.mp hc).symm

/-- The segment that a part of a text stands for: first `~1` is undone, then `~0`. -/
def unescape (part : List Char) : List Char :=
  replaceAll ['~', '0'] ['~'] (replaceAll ['~', '1'] ['/'] part)

/-- There are no tildes in the empty text. -/
@[simp] theorem escapeTildes_nil : escapeTildes [] = [] := replaceAll_nil _ _

/-- A tilde becomes two characters, and any other character stays. -/
theorem escapeTildes_cons (c : Char) (rest : List Char) :
    escapeTildes (c :: rest) = (if c = '~' then ['~', '0'] else [c]) ++ escapeTildes rest := by
  simp only [escapeTildes, replaceAll_singleton, List.flatMap_cons]

/-- Where `~1` is undone in an escaped segment, its tildes are still escaped. -/
theorem replaceAll_flatMap_escape (segment : List Char) :
    replaceAll ['~', '1'] ['/'] (segment.flatMap escape) = escapeTildes segment := by
  induction segment with
  | nil => rw [List.flatMap_nil, replaceAll_nil, escapeTildes_nil]
  | cons c rest ih =>
    rw [List.flatMap_cons, escapeTildes_cons, ← ih]
    by_cases htilde : c = '~'
    · subst htilde
      -- The zero keeps the escaped tilde from being taken for an escaped slash.
      change replaceAll _ _ ('~' :: '0' :: rest.flatMap escape) = '~' :: '0' :: replaceAll _ _ _
      rw [replaceAll_pair_of_ne (by decide), replaceAll_cons_of_ne (by decide)]
    · rw [if_neg htilde]
      by_cases hslash : c = '/'
      · subst hslash
        exact replaceAll_pair
      · have hplain : escape c = [c] := by rw [escape] <;> simp_all
        rw [hplain]
        exact replaceAll_cons_of_ne htilde

/-- Escaped tildes are undone. -/
theorem replaceAll_escapeTildes (segment : List Char) :
    replaceAll ['~', '0'] ['~'] (escapeTildes segment) = segment := by
  induction segment with
  | nil => rw [escapeTildes_nil, replaceAll_nil]
  | cons c rest ih =>
    rw [escapeTildes_cons]
    by_cases htilde : c = '~'
    · subst htilde
      change replaceAll _ _ ('~' :: '0' :: escapeTildes rest) = _
      rw [replaceAll_pair, ih]
      rfl
    · rw [if_neg htilde]
      change replaceAll _ _ (c :: escapeTildes rest) = _
      rw [replaceAll_cons_of_ne htilde, ih]

/-- An escaped segment stands for the segment. -/
theorem unescape_flatMap_escape (segment : List Char) :
    unescape (segment.flatMap escape) = segment := by
  rw [unescape, replaceAll_flatMap_escape, replaceAll_escapeTildes]

/-- The pointer of a text: what stands after the first slash is split at the slashes, and each part
stands for a segment. -/
def read (text : String) : Pointer :=
  (((text.toList.dropWhile (· ≠ '/')).drop 1).splitOn '/').map fun part =>
    String.ofList (unescape part)

/-- After its first slash a text has the escaped segments with slashes between them. -/
theorem chars_cons (first : String) (rest : Pointer) : chars (first :: rest) =
    '/' :: List.intercalate ['/'] ((first :: rest).map fun segment => segment.toList.flatMap escape) := by
  induction rest generalizing first with
  | nil => simp [chars, List.intercalate]
  | cons second rest ih =>
    rw [List.map_cons, List.map_cons, List.intercalate_cons_cons]
    change '/' :: (first.toList.flatMap escape ++ chars (second :: rest)) = _
    rw [ih, List.map_cons, List.append_assoc, List.singleton_append]

/-- A pointer with segments is read back from its text. -/
theorem read_text_cons (first : String) (rest : Pointer) :
    read (text (first :: rest)) = first :: rest := by
  have hslash : ∀ part ∈ (first :: rest).map fun segment => segment.toList.flatMap escape,
      '/' ∉ part := by
    intro part hpart
    obtain ⟨segment, -, rfl⟩ := List.mem_map.mp hpart
    exact not_mem_flatMap_escape _
  have hchars : (text (first :: rest)).toList = '/' ::
      List.intercalate ['/'] ((first :: rest).map fun segment => segment.toList.flatMap escape) := by
    rw [← chars_cons]
    exact String.toList_ofList
  rw [read, hchars, List.dropWhile_cons_of_neg (by simp), List.drop_one, List.tail_cons,
    List.splitOn_intercalate _ hslash (by simp), List.map_map]
  conv_rhs => rw [← List.map_id (first :: rest)]
  congr 1
  funext segment
  change String.ofList (unescape (segment.toList.flatMap escape)) = segment
  rw [unescape_flatMap_escape, String.ofList_toList]

/-- The root is written as one empty segment is. -/
theorem text_nil : text [] = text [""] := by decide

/-- A text is read as the pointer that it was written for, the root as one empty segment. -/
theorem read_text (p : Pointer) : read p.text = if p = [] then [""] else p := by
  cases p with
  | nil => rw [if_pos rfl, text_nil, read_text_cons]
  | cons first rest => rw [if_neg (List.cons_ne_nil _ _), read_text_cons]

/-- Pointers have the same text exactly where they are the same or one is the root and the other one has
one empty segment, and every pointer with segments is read back from its text. -/
theorem text_eq_text_iff_and_read_text (p q : Pointer) :
    (p.text = q.text ↔ p = q ∨ ({p, q} : Set Pointer) = {[], [""]}) ∧
      ∀ first rest, read (text (first :: rest)) = first :: rest := by
  refine ⟨⟨fun htext => ?_, fun h => ?_⟩, read_text_cons⟩
  · have hread := congrArg read htext
    rw [read_text, read_text] at hread
    rw [Set.pair_eq_pair_iff]
    by_cases hp : p = []
    · rw [if_pos hp] at hread
      by_cases hq : q = []
      · exact .inl (hp.trans hq.symm)
      · rw [if_neg hq] at hread
        exact .inr (.inl ⟨hp, hread.symm⟩)
    · rw [if_neg hp] at hread
      by_cases hq : q = []
      · rw [if_pos hq] at hread
        exact .inr (.inr ⟨hread, hq⟩)
      · rw [if_neg hq] at hread
        exact .inl hread
  · rw [Set.pair_eq_pair_iff] at h
    rcases h with rfl | ⟨rfl, rfl⟩ | ⟨rfl, rfl⟩
    · rfl
    · exact text_nil
    · exact text_nil.symm

/-- Escapes that stand in segments already are escaped once more. -/
example : text ["~1", "/", "", "~0~"] = "/~01/~1//~00~0" := by decide

end Pointer

end JsonSchema
