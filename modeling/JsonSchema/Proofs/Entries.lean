import JsonSchema.Thunks
import Mathlib.Data.List.Forall2
import Mathlib.Data.List.Nodup

/-!
# Named entries

Looking a name up in entries that were appended, put one after the other or mapped. Entries of
different names are kept as they are when they are put together from a list. Entries that are related one
by one are a case of rows, which come first.
-/

namespace JsonSchema

section Rows

variable {α β : Type} {R : α → β → Prop} {first : List α} {second : List β}

/-- Each item of one row is related to an item of the other. -/
theorem exists_of_mem_left (h : List.Forall₂ R first second) {a : α} (ha : a ∈ first) :
    ∃ b ∈ second, R a b := by
  induction h with
  | nil => simp at ha
  | cons hhead _ ih =>
    rcases List.mem_cons.mp ha with rfl | ha
    · exact ⟨_, List.mem_cons_self, hhead⟩
    · obtain ⟨b, hb, hrel⟩ := ih ha
      exact ⟨b, List.mem_cons_of_mem _ hb, hrel⟩

/-- Each item of the other row is related to an item of the one. -/
theorem exists_of_mem_right (h : List.Forall₂ R first second) {b : β} (hb : b ∈ second) :
    ∃ a ∈ first, R a b :=
  exists_of_mem_left (R := flip R) h.flip hb

/-- Related items are items of the two rows. -/
theorem forall₂_mem (h : List.Forall₂ R first second) :
    List.Forall₂ (fun a b => a ∈ first ∧ b ∈ second ∧ R a b) first second := by
  induction h with
  | nil => exact .nil
  | cons hhead _ ih =>
    refine .cons ⟨List.mem_cons_self, List.mem_cons_self, hhead⟩ (ih.imp fun _ _ hmem => ?_)
    exact ⟨List.mem_cons_of_mem _ hmem.1, List.mem_cons_of_mem _ hmem.2.1, hmem.2.2⟩

/-- Related items that give the same lists give the same lists in a row. -/
theorem flatMap_eq_of_forall₂ {γ : Type} {f : α → List γ} {g : β → List γ}
    (h : List.Forall₂ (fun a b => f a = g b) first second) :
    first.flatMap f = second.flatMap g := by
  induction h with
  | nil => rfl
  | cons hhead _ ih => rw [List.flatMap_cons, List.flatMap_cons, hhead, ih]

/-- Nothing is related to nothing only. -/
theorem eq_none_of_rel {other : Option β} (h : Option.Rel R none other) : other = none := by
  cases h
  rfl

/-- Something is related to something. -/
theorem exists_of_rel_some {a : α} {other : Option β} (h : Option.Rel R (some a) other) :
    ∃ b, other = some b ∧ R a b := by
  cases h with
  | some h => exact ⟨_, rfl, h⟩

end Rows

end JsonSchema

namespace JsonSchema.Entries

variable {α β : Type}

/-- Nothing is found among no entries. -/
@[simp] theorem find?_nil (name : String) : find? name ([] : Entries α) = none := rfl

/-- The first entry of a name is the one that is found. -/
@[simp] theorem find?_cons (name key : String) (value : α) (rest : Entries α) :
    find? name ((key, value) :: rest) = if key = name then some value else find? name rest := rfl

/-- Entries in two rows have the names of the first, then those of the second. -/
@[simp] theorem names_append (first second : Entries α) :
    names (first ++ second) = names first ++ names second := List.map_append

/-- A name is looked up in the first of two rows of entries, then in the second. -/
@[simp] theorem find?_append (name : String) (first second : Entries α) :
    find? name (first ++ second) = (find? name first).or (find? name second) := by
  induction first with
  | nil => rfl
  | cons entry rest ih =>
    obtain ⟨key, value⟩ := entry
    by_cases hkey : key = name
    · simp [hkey]
    · simp [hkey, ih]

/-- A name that is put is found with its new value, and other names as before. -/
@[simp] theorem find?_put (name key : String) (value : α) (entries : Entries α) :
    find? name (put key value entries) = if key = name then some value else find? name entries := by
  induction entries with
  | nil => rfl
  | cons entry rest ih =>
    obtain ⟨first, old⟩ := entry
    by_cases hfirst : first = key
    · subst hfirst
      by_cases hname : first = name
      · simp [put, hname]
      · simp [put, hname]
    · by_cases hname : first = name
      · have hne : key ≠ name := fun h => hfirst (hname.trans h.symm)
        rw [put, if_neg hfirst, find?_cons, find?_cons, if_pos hname, if_neg hne, if_pos hname]
      · simp [put, hfirst, hname, ih]

/-- Values that are changed one by one are found changed. -/
theorem find?_map (f : α → β) (name : String) (entries : Entries α) :
    find? name (entries.map fun (key, value) => (key, f value)) = (find? name entries).map f := by
  induction entries with
  | nil => rfl
  | cons entry rest ih =>
    obtain ⟨key, value⟩ := entry
    by_cases hkey : key = name
    · simp [hkey]
    · simpa [hkey] using ih

/-- A name is not found where it does not stand. -/
theorem find?_eq_none_iff {name : String} {entries : Entries α} :
    find? name entries = none ↔ name ∉ names entries := by
  induction entries with
  | nil => simp [names]
  | cons entry rest ih =>
    obtain ⟨key, value⟩ := entry
    by_cases hkey : key = name
    · simp [names, hkey]
    · have hne : name ≠ key := Ne.symm hkey
      simpa [names, hkey, hne] using ih

/-- A name under which something is found is a name of an entry. -/
theorem mem_names_of_find? {name : String} {value : α} {entries : Entries α}
    (h : find? name entries = some value) : name ∈ names entries :=
  List.mem_map_of_mem (f := Prod.fst) (mem_of_find? h)

/-- Under the name of an entry something is found. -/
theorem exists_find?_of_mem_names {name : String} {entries : Entries α} (h : name ∈ names entries) :
    ∃ value, find? name entries = some value :=
  Option.ne_none_iff_exists'.mp fun hnone => find?_eq_none_iff.mp hnone h

/-- An entry is found under its name where names differ. -/
theorem find?_of_mem {name : String} {value : α} {entries : Entries α}
    (hnames : (names entries).Nodup) (h : (name, value) ∈ entries) :
    find? name entries = some value := by
  induction entries with
  | nil => simp at h
  | cons entry rest ih =>
    obtain ⟨key, first⟩ := entry
    obtain ⟨hkey, hrest⟩ := List.nodup_cons.mp hnames
    rcases List.mem_cons.mp h with heq | hmem
    · cases heq
      simp
    · have hne : key ≠ name := by
        rintro rfl
        exact hkey (List.mem_map.mpr ⟨_, hmem, rfl⟩)
      rw [find?_cons, if_neg hne]
      exact ih hrest hmem

/-- Entries with a name put among them are not empty. -/
theorem put_ne_nil (name : String) (value : α) (entries : Entries α) :
    put name value entries ≠ [] := by
  cases entries with
  | nil => simp [put]
  | cons entry rest =>
    obtain ⟨key, old⟩ := entry
    by_cases hkey : key = name <;> simp [put, hkey]

/-- A value that stands beside the name of an entry stands beside its value. -/
theorem exists_of_mem_zip {entries : Entries α} {others : List β}
    (hlength : others.length = (entries.map Prod.snd).length) {pair : String × β}
    (h : pair ∈ (names entries).zip others) :
    ∃ value, (pair.1, value) ∈ entries ∧ (value, pair.2) ∈ (entries.map Prod.snd).zip others := by
  obtain ⟨i, hi, rfl⟩ := List.mem_iff_getElem.mp h
  rw [List.length_zip] at hi
  have hbound : i < entries.length := by
    rw [List.length_map] at hlength
    omega
  refine ⟨entries[i].2, ?_, ?_⟩
  · simp only [List.getElem_zip, names, List.getElem_map]
    exact List.getElem_mem hbound
  · rw [List.mem_iff_getElem]
    exact ⟨i, by simp [hbound, hlength], by simp⟩

/-- An entry has a value that stands beside its name and beside its value. -/
theorem exists_mem_zip_of_mem {entries : Entries α} {others : List β}
    (hlength : others.length = (entries.map Prod.snd).length) {name : String} {value : α}
    (h : (name, value) ∈ entries) :
    ∃ other, (name, other) ∈ (names entries).zip others ∧
      (value, other) ∈ (entries.map Prod.snd).zip others := by
  obtain ⟨i, hi, hentry⟩ := List.mem_iff_getElem.mp h
  have hbound : i < others.length := by
    rw [hlength, List.length_map]
    exact hi
  refine ⟨others[i], ?_, ?_⟩ <;> rw [List.mem_iff_getElem]
  · exact ⟨i, by simpa [names] using Nat.lt_min.mpr ⟨hi, hbound⟩, by simp [names, hentry]⟩
  · exact ⟨i, by simpa using Nat.lt_min.mpr ⟨hi, hbound⟩, by simp [hentry]⟩

/-- A new name comes last. -/
theorem put_of_not_mem {name : String} {entries : Entries α} (value : α)
    (h : name ∉ names entries) : put name value entries = entries ++ [(name, value)] := by
  induction entries with
  | nil => rfl
  | cons entry rest ih =>
    obtain ⟨key, first⟩ := entry
    simp only [names, List.map_cons, List.mem_cons, not_or] at h
    have hne : key ≠ name := Ne.symm h.1
    simp only [put, hne, ↓reduceIte, List.cons_append]
    exact congrArg _ (ih h.2)

/-- A new name leaves names different. -/
theorem nodup_names_concat {name : String} {entries : Entries α} (hnames : (names entries).Nodup)
    (h : name ∉ names entries) (value : α) : (names (entries ++ [(name, value)])).Nodup := by
  rw [names_append]
  refine List.nodup_append.mpr ⟨hnames, List.nodup_singleton _, ?_⟩
  rintro other hother last hlast rfl
  obtain rfl : other = name := List.mem_singleton.mp hlast
  exact h hother

/-- Entries of different names are put one after the other. -/
theorem foldl_put_of_nodup {entries built : Entries α}
    (h : (names (built ++ entries)).Nodup) :
    entries.foldl (fun built (name, value) => put name value built) built = built ++ entries := by
  induction entries generalizing built with
  | nil => simp
  | cons entry rest ih =>
    obtain ⟨key, value⟩ := entry
    have hnew : key ∉ names built := by
      simp only [names, List.map_append, List.map_cons] at h
      exact fun hmem => (List.nodup_append.mp h).2.2 _ hmem _ List.mem_cons_self rfl
    change rest.foldl _ (put key value built) = _
    rw [put_of_not_mem value hnew, ih (by simpa [names] using h)]
    simp

/-- Entries of different names are kept as they are. -/
theorem ofList_of_nodup {entries : Entries α} (h : (names entries).Nodup) :
    ofList entries = entries :=
  foldl_put_of_nodup (show (names ([] ++ entries)).Nodup from h)

/-- Only no entries give none when they are put together. -/
theorem eq_nil_of_ofList {entries : Entries α} (h : ofList entries = []) : entries = [] := by
  have hput : ∀ (rest : Entries α) (built : Entries α), built ≠ [] →
      rest.foldl (fun built (name, value) => put name value built) built ≠ [] := by
    intro rest
    induction rest with
    | nil => exact fun _ hbuilt => hbuilt
    | cons entry rest ih => exact fun built _ => ih _ (put_ne_nil entry.1 entry.2 built)
  cases entries with
  | nil => rfl
  | cons entry rest => exact absurd h (hput rest _ (put_ne_nil entry.1 entry.2 []))

/-- An entry that is found where one was put is that one or was there before. -/
theorem mem_of_mem_put {name : String} {value : α} {entries : Entries α} {entry : String × α}
    (h : entry ∈ put name value entries) : entry = (name, value) ∨ entry ∈ entries := by
  induction entries with
  | nil => exact .inl (List.mem_singleton.mp h)
  | cons first rest ih =>
    obtain ⟨key, old⟩ := first
    by_cases hkey : key = name
    · subst hkey
      rw [put, if_pos rfl] at h
      exact (List.mem_cons.mp h).imp_right (List.mem_cons_of_mem _)
    · rw [put, if_neg hkey] at h
      rcases List.mem_cons.mp h with rfl | hmem
      · exact .inr List.mem_cons_self
      · exact (ih hmem).imp_right (List.mem_cons_of_mem _)

/-- A name that is put stands where it stood, or comes last. -/
theorem names_put (name : String) (value : α) (entries : Entries α) :
    names (put name value entries) =
      if name ∈ names entries then names entries else names entries ++ [name] := by
  induction entries with
  | nil => rfl
  | cons entry rest ih =>
    obtain ⟨key, old⟩ := entry
    by_cases hkey : key = name
    · simp [put, names, hkey]
    · have hname : name ≠ key := Ne.symm hkey
      rw [put, if_neg hkey]
      simp only [names, List.map_cons] at ih ⊢
      rw [ih]
      by_cases hmem : name ∈ rest.map Prod.fst <;> simp [hmem, hname]

/-- A name that is put is there, and so are those that were. -/
theorem mem_names_put {key name : String} {value : α} {entries : Entries α} :
    key ∈ names (put name value entries) ↔ key = name ∨ key ∈ names entries := by
  rw [names_put]
  split
  · rename_i hname
    exact ⟨.inr, fun h => h.elim (fun heq => heq ▸ hname) id⟩
  · rw [List.mem_append, List.mem_singleton, or_comm]

/-- Names that differ still do where one is put among them. -/
theorem nodup_names_put {name : String} {value : α} {entries : Entries α}
    (h : (names entries).Nodup) : (names (put name value entries)).Nodup := by
  rw [names_put]
  split
  · exact h
  · rename_i hnew
    refine List.nodup_append.mpr ⟨h, List.nodup_singleton _, fun first hfirst last hlast heq => ?_⟩
    obtain rfl := List.mem_singleton.mp hlast
    exact hnew (heq ▸ hfirst)

/-- The number of entries does not depend on the value that is put among them. -/
theorem length_put (name : String) (first second : α) (entries : Entries α) :
    (put name first entries).length = (put name second entries).length := by
  have hlength : ∀ value, (put name value entries).length = (names (put name value entries)).length :=
    fun value => List.length_map _ |>.symm
  rw [hlength, hlength, names_put, names_put]

/-- A name that is put twice has the value put last. -/
@[simp] theorem put_put (name : String) (first second : α) (entries : Entries α) :
    put name second (put name first entries) = put name second entries := by
  induction entries with
  | nil => simp [put]
  | cons entry rest ih =>
    obtain ⟨key, old⟩ := entry
    by_cases hkey : key = name <;> simp [put, hkey, ih]

/-- A name that is there already may be put before another one or after it. -/
theorem put_comm {first second : String} (hne : first ≠ second) (a b : α) {entries : Entries α}
    (h : first ∈ names entries) :
    put first a (put second b entries) = put second b (put first a entries) := by
  induction entries with
  | nil => simp [names] at h
  | cons entry rest ih =>
    obtain ⟨key, old⟩ := entry
    by_cases hfirst : key = first
    · subst hfirst
      simp [put, hne]
    · have hrest : first ∈ names rest := (List.mem_cons.mp h).resolve_left (Ne.symm hfirst)
      by_cases hsecond : key = second
      · subst hsecond
        simp [put, hfirst]
      · simp [put, hfirst, hsecond, ih hrest]

/-- Entries put one after the other among others. -/
def putAll (built entries : Entries α) : Entries α :=
  entries.foldl (fun built (name, value) => put name value built) built

/-- Two rows of entries are put one after the other. -/
theorem putAll_append (built first second : Entries α) :
    putAll built (first ++ second) = putAll (putAll built first) second := List.foldl_append

/-- Entries put together from two rows are those of the first with the second put among them. -/
theorem ofList_append (first second : Entries α) :
    ofList (first ++ second) = putAll (ofList first) second := putAll_append [] first second

/-- Of equal names that are put one after the other the last one is found, before those put among. -/
theorem find?_putAll (name : String) (built entries : Entries α) :
    find? name (putAll built entries) = (find? name entries.reverse).or (find? name built) := by
  induction entries generalizing built with
  | nil => rfl
  | cons entry rest ih =>
    obtain ⟨key, value⟩ := entry
    rw [putAll, List.foldl_cons, ← putAll, ih, List.reverse_cons, find?_append, find?_put]
    by_cases hkey : key = name <;> simp [hkey]

/-- Names that differ still do where others are put among them. -/
theorem nodup_names_putAll {built entries : Entries α} (h : (names built).Nodup) :
    (names (putAll built entries)).Nodup := by
  induction entries generalizing built with
  | nil => exact h
  | cons entry rest ih => exact ih (nodup_names_put h)

/-- A name that is there already may be put before entries of other names or after them. -/
theorem put_putAll {name : String} (value : α) {built entries : Entries α}
    (hbuilt : name ∈ names built) (h : name ∉ names entries) :
    put name value (putAll built entries) = putAll (put name value built) entries := by
  induction entries generalizing built with
  | nil => rfl
  | cons entry rest ih =>
    obtain ⟨key, other⟩ := entry
    obtain ⟨hkey, hrest⟩ := not_or.mp (mt List.mem_cons.mpr h)
    calc put name value (putAll (put key other built) rest)
        = putAll (put name value (put key other built)) rest :=
          ih (mem_names_put.mpr (.inr hbuilt)) hrest
      _ = putAll (put key other (put name value built)) rest := by rw [put_comm hkey _ _ hbuilt]

/-- A name that is put among entries of different names is put last where these are put among others. -/
theorem putAll_put (name : String) (value : α) (built : Entries α) {entries : Entries α}
    (h : (names entries).Nodup) :
    putAll built (put name value entries) = put name value (putAll built entries) := by
  induction entries generalizing built with
  | nil => rfl
  | cons entry rest ih =>
    obtain ⟨key, old⟩ := entry
    obtain ⟨hkey, hrest⟩ := List.nodup_cons.mp h
    by_cases hname : key = name
    · subst hname
      -- the old value under the name marks the position, so the new one may come after all others
      have hthere : key ∈ names (put key old built) := mem_names_put.mpr (.inl rfl)
      calc putAll built (put key value ((key, old) :: rest))
          = putAll (put key value built) rest := by rw [put, if_pos rfl]; rfl
        _ = putAll (put key value (put key old built)) rest := by rw [put_put]
        _ = put key value (putAll (put key old built) rest) := (put_putAll value hthere hkey).symm
    · rw [put, if_neg hname]
      exact ih _ hrest

/-- Entries that are put among others in two rounds may be put together first. -/
theorem putAll_putAll (built entries : Entries α) {between : Entries α}
    (h : (names between).Nodup) :
    putAll built (putAll between entries) = putAll (putAll built between) entries := by
  induction entries generalizing between with
  | nil => rfl
  | cons entry rest ih =>
    obtain ⟨name, value⟩ := entry
    calc putAll built (putAll (put name value between) rest)
        = putAll (putAll built (put name value between)) rest := ih (nodup_names_put h)
      _ = putAll (put name value (putAll built between)) rest := by rw [putAll_put _ _ _ h]

/-- Entries with the same names in the same order are the same where the same is found under each name. -/
theorem eq_of_find?_eq {first second : Entries α} (hnames : names first = names second)
    (hnodup : (names second).Nodup) (h : ∀ name, find? name first = find? name second) :
    first = second := by
  induction first generalizing second with
  | nil => exact (List.map_eq_nil_iff.mp hnames.symm).symm
  | cons entry rest ih =>
    obtain ⟨key, value⟩ := entry
    cases second with
    | nil => cases hnames
    | cons other others =>
      obtain ⟨key', value'⟩ := other
      obtain ⟨rfl, hrest⟩ : key = key' ∧ names rest = names others := List.cons.inj hnames
      obtain ⟨hnew, hothers⟩ := List.nodup_cons.mp hnodup
      obtain rfl : value = value' := by simpa using h key
      refine congrArg _ (ih hrest hothers fun name => ?_)
      by_cases hname : key = name
      · subst hname
        have hnew' : key ∉ names rest := hrest ▸ hnew
        rw [find?_eq_none_iff.mpr hnew', find?_eq_none_iff.mpr hnew]
      · simpa [hname] using h name

/-- New names come after those that were there, in the order of their first occurrences. -/
theorem names_putAll (built entries : Entries α) : names (putAll built entries) =
    names built ++ ((names entries).removeAll (names built)).eraseDups := by
  induction entries generalizing built with
  | nil => simp [putAll, names]
  | cons entry rest ih =>
    obtain ⟨name, value⟩ := entry
    have hput := ih (put name value built)
    rw [names_put] at hput
    change names (putAll (put name value built) rest) =
      names built ++ ((name :: names rest).removeAll (names built)).eraseDups
    by_cases hname : name ∈ names built
    · rw [hput, if_pos hname, List.cons_removeAll, if_neg (by simpa using hname)]
    · have hlater : (names rest).removeAll (names built ++ [name]) =
          ((names rest).removeAll (names built)).filter (fun other => !other == name) := by
        simp [List.removeAll, List.filter_filter, Bool.and_comm, Bool.beq_eq_decide_eq]
      rw [hput, if_neg hname, List.cons_removeAll, if_pos (by simpa using hname),
        List.eraseDups_cons, hlater, List.append_assoc, List.singleton_append]

/-- Names that were there before stand where they stood. -/
theorem names_putAll_of_subset {built entries : Entries α} (h : names entries ⊆ names built) :
    names (putAll built entries) = names built := by
  have hnone : (names entries).removeAll (names built) = [] :=
    List.filter_eq_nil_iff.mpr fun name hname => by simpa using h hname
  rw [names_putAll, hnone, List.eraseDups_nil, List.append_nil]

/-- Entries that are put among others change nothing exactly where the last of each name is there. -/
theorem putAll_eq_self_iff {built entries : Entries α} (hnodup : (names built).Nodup) :
    putAll built entries = built ↔
      ∀ name value, find? name entries.reverse = some value → find? name built = some value := by
  constructor
  · intro heq name value hvalue
    rw [← heq, find?_putAll, hvalue, Option.some_or]
  · intro h
    have hsubset : names entries ⊆ names built := by
      intro name hname
      cases hlast : find? name entries.reverse with
      | none => exact absurd (by simpa [names] using hname) (find?_eq_none_iff.mp hlast)
      | some value => exact List.mem_map_of_mem (mem_of_find? (h name value hlast))
    refine eq_of_find?_eq (names_putAll_of_subset hsubset) hnodup fun name => ?_
    rw [find?_putAll]
    cases hlast : find? name entries.reverse with
    | none => rw [Option.none_or]
    | some value => rw [h name value hlast, Option.some_or]

/-- An entry among entries that were put together is one of them. -/
theorem mem_of_mem_putAll {built entries : Entries α} {entry : String × α}
    (h : entry ∈ putAll built entries) : entry ∈ built ∨ entry ∈ entries := by
  induction entries generalizing built with
  | nil => exact .inl h
  | cons first rest ih =>
    rcases ih h with hput | hrest
    · rcases mem_of_mem_put hput with rfl | hbuilt
      · exact .inr List.mem_cons_self
      · exact .inl hbuilt
    · exact .inr (List.mem_cons_of_mem _ hrest)

/-- Of equal names in a list the last one is found among the entries put together from it. -/
theorem find?_ofList (name : String) (entries : Entries α) :
    find? name (ofList entries) = find? name entries.reverse := by
  rw [show ofList entries = putAll [] entries from rfl, find?_putAll, find?_nil, Option.or_none]

/-- The names of entries that are put together stand in the order of their first occurrences. -/
theorem names_ofList (entries : Entries α) : names (ofList entries) = (names entries).eraseDups := by
  change names (putAll [] entries) = _
  rw [names_putAll, show names ([] : Entries α) = [] from rfl, List.nil_append, List.removeAll_nil]

/-- The names of entries stay where they are put together. -/
theorem mem_names_ofList {name : String} {entries : Entries α} :
    name ∈ names (ofList entries) ↔ name ∈ names entries := by
  rw [names_ofList, List.mem_eraseDups]

/-- Entries that are put together from a list have different names. -/
theorem nodup_names_ofList (entries : Entries α) : (names (ofList entries)).Nodup :=
  nodup_names_putAll (show (names ([] : Entries α)).Nodup from List.nodup_nil)

/-- Rows of entries may each be put together before they are put among others. -/
theorem putAll_flatMap_ofList (built : Entries α) (rows : List (Entries α)) :
    putAll built (rows.flatMap ofList) = putAll built rows.flatten := by
  induction rows generalizing built with
  | nil => rfl
  | cons row rest ih =>
    have hrow : putAll built (ofList row) = putAll built row := putAll_putAll built row List.nodup_nil
    rw [List.flatMap_cons, List.flatten_cons, putAll_append, putAll_append, hrow, ih]

/-- An entry of those put together from a list is one of the list. -/
theorem mem_of_mem_ofList {entries : Entries α} {entry : String × α} (h : entry ∈ ofList entries) :
    entry ∈ entries :=
  (mem_of_mem_putAll h).resolve_left List.not_mem_nil

/-- Entries of different names under which the same is found differ in their order only. -/
theorem perm_of_find?_eq {first second : Entries α} (hfirst : (names first).Nodup)
    (hsecond : (names second).Nodup) (h : ∀ name, find? name first = find? name second) :
    first.Perm second := by
  rw [List.perm_ext_iff_of_nodup (List.Nodup.of_map _ hfirst) (List.Nodup.of_map _ hsecond)]
  rintro ⟨name, value⟩
  constructor
  · intro hmem
    exact mem_of_find? (h name ▸ find?_of_mem hfirst hmem)
  · intro hmem
    exact mem_of_find? ((h name).symm ▸ find?_of_mem hsecond hmem)

/-- The same is found among entries of different names whatever their order is. -/
theorem find?_perm {first second : Entries α} (h : first.Perm second) (hnames : (names second).Nodup)
    (name : String) : find? name first = find? name second := by
  have hfirst : (names first).Nodup := (h.map Prod.fst).nodup_iff.mpr hnames
  refine Option.ext fun value => ⟨fun hvalue => ?_, fun hvalue => ?_⟩
  · exact find?_of_mem hnames (h.mem_iff.mp (mem_of_find? hvalue))
  · exact find?_of_mem hfirst (h.mem_iff.mpr (mem_of_find? hvalue))

/-- In rows of different names the last row that has a name gives what is found last under it. -/
theorem find?_reverse_flatten (name : String) {rows : List (Entries α)}
    (h : ∀ row ∈ rows, (names row).Nodup) :
    find? name rows.flatten.reverse = rows.reverse.findSome? (find? name) := by
  induction rows with
  | nil => rfl
  | cons row rest ih =>
    obtain ⟨hrow, hrest⟩ := List.forall_mem_cons.mp h
    rw [List.flatten_cons, List.reverse_append, find?_append, ih hrest, List.reverse_cons,
      List.findSome?_append, find?_perm (List.reverse_perm row) hrow]
    cases rest.reverse.findSome? (find? name) <;> simp

/-- There are as many entries of different names as others where the same names are found. -/
theorem length_eq_of_find? {first : Entries α} {second : Entries β} (hfirst : (names first).Nodup)
    (hsecond : (names second).Nodup)
    (h : ∀ name, find? name first = none ↔ find? name second = none) : first.length = second.length := by
  have hperm : (names first).Perm (names second) :=
    (List.perm_ext_iff_of_nodup hfirst hsecond).mpr fun name => by
      rw [← not_iff_not, ← find?_eq_none_iff, ← find?_eq_none_iff, h]
  simpa [names] using hperm.length_eq

/-- Entries are related one by one where they have the same names and their values are related. -/
theorem forall₂_of_names {related : α → β → Prop} {first : Entries α} {second : Entries β}
    (hnames : names first = names second)
    (h : List.Forall₂ related (first.map Prod.snd) (second.map Prod.snd)) :
    List.Forall₂ (fun a b => a.1 = b.1 ∧ related a.2 b.2) first second := by
  induction first generalizing second with
  | nil =>
    obtain rfl := List.map_eq_nil_iff.mp hnames.symm
    exact .nil
  | cons entry rest ih =>
    cases second with
    | nil => cases h
    | cons other others =>
      obtain ⟨hname, hnames⟩ := List.cons.inj hnames
      obtain ⟨hvalue, hvalues⟩ := List.forall₂_cons.mp h
      exact .cons ⟨hname, hvalue⟩ (ih hnames hvalues)

/-- Names are looked up alike where entries are related one by one. -/
theorem rel_find? {related : α → β → Prop} {first : Entries α} {second : Entries β}
    (h : List.Forall₂ (fun a b => a.1 = b.1 ∧ related a.2 b.2) first second) (name : String) :
    Option.Rel related (find? name first) (find? name second) := by
  induction h with
  | nil => exact .none
  | @cons a b _ _ hhead _ ih =>
    obtain ⟨key, value⟩ := a
    obtain ⟨_, value'⟩ := b
    obtain ⟨rfl, hvalue⟩ := hhead
    by_cases hkey : key = name
    · simpa [hkey] using hvalue
    · simpa [hkey] using ih

/-- What is found without one entry is found in the whole where it is another one. -/
theorem find?_without {thunk name : String} (thunks : Thunks) (h : name ≠ thunk) :
    find? name (Thunks.without thunks thunk) = find? name thunks := by
  induction thunks with
  | nil => rfl
  | cons entry rest ih =>
    obtain ⟨key, body⟩ := entry
    by_cases hkey : key = thunk
    · subst hkey
      simpa [Thunks.without, h.symm] using ih
    · rw [Thunks.without, List.filter_cons_of_pos (by simpa using hkey), find?_cons, find?_cons]
      exact congrArg _ ih

/-- What is found without one entry is found in the whole. -/
theorem find?_of_find?_without {thunk name : String} {thunks : Thunks} {body : Noted Node}
    (h : find? name (Thunks.without thunks thunk) = some body) : find? name thunks = some body := by
  by_cases hname : name = thunk
  · have hmem := List.of_mem_filter (mem_of_find? h)
    simp [hname] at hmem
  · rwa [find?_without thunks hname] at h

end JsonSchema.Entries
