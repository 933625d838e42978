import JsonSchema.Options
import JsonSchema.Proofs.Document.WellFormed

/-!
# Which members of an object count as options

An object is read member by member, and a member is kept if a value can be stored under its name. The
names of options are such names, and so is the name under which a section is written. Three more names
speak of the section itself: two are refused, and one replaces everything that was stored before.
`storeAll_eq_ok_iff` says what reading does where nothing is replaced.

Without any of the four names an object counts as its members with names of options: it is read, each option
has the value given for it or its default, and what is written for the section is read back as an equal one.
Where nothing is replaced this is so only without the other three names.
-/

namespace JsonSchema

namespace SectionKind

/-- The names that name no option but a part of the section itself. -/
def reserved : List String := ["__class__", "__weakref__", "__dict__", exportName]

/-- The names of the options of a section. -/
def options (kind : SectionKind) : List String := Entries.names kind.defaults

/-- The members under the names of options. -/
def declared (kind : SectionKind) (members : Entries Json) : Entries Json :=
  members.filter fun entry => entry.1 ∈ kind.options

/-- The name of a section. -/
def title : SectionKind → String
  | .validation => "validator"
  | .generation => "fuzz"

/-- The section of a name. -/
def ofTitle? (name : String) : Option SectionKind :=
  if name = title .validation then some .validation
  else if name = title .generation then some .generation
  else none

/-- No option stands twice in a section. -/
theorem nodup_options (kind : SectionKind) : kind.options.Nodup := by
  cases kind <;> decide

/-- The name of an option is not reserved. -/
theorem not_mem_reserved {kind : SectionKind} {name : String} (h : name ∈ kind.options) :
    name ∉ reserved := by
  have hall : ∀ name ∈ kind.options, name ∉ reserved := by cases kind <;> decide
  exact hall name h

/-- A section is found under its own title. -/
@[simp] theorem ofTitle?_title (kind : SectionKind) : ofTitle? kind.title = some kind := by
  cases kind <;> decide

/-- Each default is well formed. -/
theorem wellFormed_default {kind : SectionKind} {entry : String × Json} (h : entry ∈ kind.defaults) :
    entry.2.WellFormed := by
  have hall : ∀ entry ∈ kind.defaults, entry.2.WellFormed := by cases kind <;> simp [defaults]
  exact hall entry h

end SectionKind

/-- Members without reserved names. -/
def Entries.Plain (members : Entries Json) : Prop :=
  ∀ name ∈ SectionKind.reserved, name ∉ Entries.names members

/-- Whether members are plain is decided member by member. -/
instance (members : Entries Json) : Decidable members.Plain :=
  inferInstanceAs (Decidable (∀ name ∈ SectionKind.reserved, name ∉ Entries.names members))

namespace OptionSection

open SectionKind

/-- Other names than the one that replaces everything are stored or passed over, and two are refused. -/
theorem store_eq_ok_iff {options final : OptionSection} {name : String} {given : Json}
    (h : name ≠ "__dict__") : options.store name given = .ok final ↔
      name ≠ "__class__" ∧ name ≠ "__weakref__" ∧ final = { options with
        stored := if options.kind.knows name then Entries.put name given options.stored
          else options.stored } := by
  unfold store
  by_cases hclass : name = "__class__"
  · simp [hclass]
  · by_cases hweak : name = "__weakref__"
    · simp [hweak]
    · rw [if_neg hclass, if_neg hweak, if_neg h]
      by_cases hknows : options.kind.knows name = true
      · simp [hclass, hweak, hknows, eq_comm]
      · rw [if_neg hknows, if_neg hknows, Except.ok.injEq]
        exact ⟨fun h => ⟨hclass, hweak, h.symm⟩, fun h => h.2.2.symm⟩

/-- Where nothing is replaced, members that can be stored are put one after the other, unless one of them
is refused. -/
theorem storeAll_eq_ok_iff {options final : OptionSection} {members : Entries Json}
    (hdict : "__dict__" ∉ Entries.names members) : options.storeAll members = .ok final ↔
      "__class__" ∉ Entries.names members ∧ "__weakref__" ∉ Entries.names members ∧
        final = { options with
          stored := Entries.putAll options.stored (members.filter fun entry =>
            options.kind.knows entry.1) } := by
  induction members generalizing options with
  | nil => simp [storeAll, Entries.names, Entries.putAll, eq_comm]
  | cons entry rest ih =>
    obtain ⟨name, given⟩ := entry
    obtain ⟨hname, hrest⟩ := List.ne_and_not_mem_of_not_mem_cons hdict
    rw [storeAll]
    cases hstore : options.store name given with
    | error error =>
      refine iff_of_false (by simp) ?_
      rintro ⟨hclass, hweak, -⟩
      have hclass := Ne.symm (List.ne_of_not_mem_cons hclass)
      have hweak := Ne.symm (List.ne_of_not_mem_cons hweak)
      rw [(store_eq_ok_iff (Ne.symm hname)).mpr ⟨hclass, hweak, rfl⟩] at hstore
      cases hstore
    | ok next =>
      obtain ⟨hclass, hweak, rfl⟩ := (store_eq_ok_iff (Ne.symm hname)).mp hstore
      have hcons : ∀ other, other ≠ name → (other ∉ Entries.names ((name, given) :: rest) ↔
          other ∉ Entries.names rest) := fun other hother => by
        simp [Entries.names, hother]
      rw [ih hrest, hcons _ (Ne.symm hclass), hcons _ (Ne.symm hweak)]
      by_cases hknows : options.kind.knows name = true
      · rw [List.filter_cons_of_pos (by simpa using hknows), if_pos hknows]
        rfl
      · rw [List.filter_cons_of_neg (by simpa using hknows), if_neg hknows]

/-- A section is written unless a value is stored under the name that it is written under. -/
theorem write_eq_ok_iff {options : OptionSection} {written : Json} : options.write = .ok written ↔
    Entries.find? exportName options.stored = none ∧ written = .object options.toEntries := by
  unfold write
  cases Entries.find? exportName options.stored with
  | none => simp [eq_comm]
  | some given => simp

/-- What is written for a section has the names of the options. -/
theorem names_toEntries (options : OptionSection) :
    Entries.names options.toEntries = options.kind.options := by
  rw [toEntries, Entries.names, List.map_map]
  rfl

/-- What is written under the name of an option is its value. -/
theorem find?_toEntries {options : OptionSection} {name : String} (h : name ∈ options.kind.options) :
    Entries.find? name options.toEntries = some (options.value name) := by
  apply Entries.find?_of_mem
  · rw [names_toEntries]
    exact nodup_options _
  · obtain ⟨entry, hentry, rfl⟩ := List.mem_map.mp h
    exact List.mem_map.mpr ⟨entry, hentry, rfl⟩

/-- What is written for a section is read back as a section with the values that were written. -/
theorem read_toEntries (options : OptionSection) :
    read options.kind options.toEntries =
      .ok { kind := options.kind, stored := options.toEntries } := by
  have hplain : ∀ name ∈ reserved, name ∉ Entries.names options.toEntries := fun name hreserved hname =>
    not_mem_reserved (names_toEntries options ▸ hname) hreserved
  have hknown : ∀ entry ∈ options.toEntries, options.kind.knows entry.1 = true := fun entry hentry => by
    have hname : entry.1 ∈ Entries.names options.toEntries := List.mem_map_of_mem hentry
    rw [names_toEntries] at hname
    simp only [knows, Bool.or_eq_true, List.contains_iff_mem]
    exact .inl hname
  have hnodup : (Entries.names options.toEntries).Nodup := by
    rw [names_toEntries]
    exact nodup_options _
  rw [read, storeAll_eq_ok_iff (hplain _ (by decide)), List.filter_eq_self.mpr hknown]
  refine ⟨hplain _ (by decide), hplain _ (by decide), ?_⟩
  rw [show Entries.putAll [] options.toEntries = Entries.ofList options.toEntries from rfl,
    Entries.ofList_of_nodup hnodup]

/-- A section that is read back from what was written for it has the same values. -/
theorem toEntries_toEntries (options : OptionSection) :
    toEntries { kind := options.kind, stored := options.toEntries } = options.toEntries := by
  apply List.map_congr_left
  intro entry hentry
  have hoption : entry.1 ∈ options.kind.options := List.mem_map_of_mem (f := Prod.fst) hentry
  have hvalue : value { kind := options.kind, stored := options.toEntries } entry.1 =
      options.value entry.1 := by
    rw [value, find?_toEntries hoption, Option.some_or, Option.getD_some]
  exact congrArg (Prod.mk entry.1) hvalue

/-- The value of an option is a stored one or a default, so it is well formed where the stored ones are. -/
theorem wellFormed_value {options : OptionSection} (h : ∀ entry ∈ options.stored, entry.2.WellFormed)
    (name : String) : (options.value name).WellFormed := by
  unfold value
  cases hstored : Entries.find? name options.stored with
  | some given => exact h _ (Entries.mem_of_find? hstored)
  | none =>
    cases hdefault : Entries.find? name options.kind.defaults with
    | some default => exact wellFormed_default (Entries.mem_of_find? hdefault)
    | none => exact Json.wellFormed_null

/-- A section of well-formed values is read back from what is written for it as an equal one. -/
theorem exists_same_read_toEntries {options : OptionSection}
    (h : ∀ entry ∈ options.stored, entry.2.WellFormed) :
    ∃ back, read options.kind options.toEntries = .ok back ∧ back.same options = true := by
  refine ⟨_, read_toEntries options, ?_⟩
  rw [same, toEntries_toEntries]
  apply Json.sameMembers_self
  · apply Json.membersWellFormed_iff.mpr
    intro entry hentry
    obtain ⟨option, -, rfl⟩ := List.mem_map.mp hentry
    exact wellFormed_value h option.1
  · rw [names_toEntries]
    exact nodup_options _
  · exact fun entry hentry => hentry

/-- Only what stands under the names of options counts in members: they are read like those alone, each
option has the value given for it or else its default, and the section is written and read back. -/
structure Takes (kind : SectionKind) (members : Entries Json) (options : OptionSection) : Prop where
  reads : read kind members = .ok options
  restricted : read kind (kind.declared members) = .ok options
  writes : options.write = .ok (.object options.toEntries)
  names : Entries.names options.toEntries = kind.options
  values : ∀ name default, (name, default) ∈ kind.defaults →
    Entries.find? name options.toEntries = some ((Entries.find? name members).getD default)
  again : ∃ back, read kind options.toEntries = .ok back ∧ back.same options = true

/-- The section with the members under the names of options. -/
def taken (kind : SectionKind) (members : Entries Json) : OptionSection where
  kind := kind
  stored := Entries.putAll [] (kind.declared members)

section Plain

variable {kind : SectionKind} {members : Entries Json}

/-- Without reserved names the members that can be stored are those under the names of options. -/
theorem filter_knows (h : members.Plain) :
    (members.filter fun entry => kind.knows entry.1) = kind.declared members := by
  apply List.filter_congr
  intro entry hentry
  have hname : entry.1 ≠ exportName := fun heq =>
    h exportName (by decide) (heq ▸ List.mem_map_of_mem hentry)
  rw [knows, decide_eq_false hname, Bool.or_false, SectionKind.options]
  exact Bool.eq_iff_iff.mpr (by simp)

/-- Members without reserved names are read, and those under the names of options are stored. -/
theorem read_of_plain (h : members.Plain) : read kind members = .ok (taken kind members) := by
  rw [read, storeAll_eq_ok_iff (h _ (by decide))]
  exact ⟨h _ (by decide), h _ (by decide), by rw [filter_knows h, taken]⟩

/-- Members under the names of options have no reserved name. -/
theorem plain_declared (kind : SectionKind) (members : Entries Json) :
    (kind.declared members).Plain := by
  intro name hreserved hname
  obtain ⟨entry, hentry, rfl⟩ := List.mem_map.mp hname
  exact not_mem_reserved (of_decide_eq_true (List.mem_filter.mp hentry).2) hreserved

/-- What counts in the members under the names of options is all of them. -/
theorem taken_declared (kind : SectionKind) (members : Entries Json) :
    taken kind (kind.declared members) = taken kind members := by
  simp only [taken, declared, List.filter_filter, Bool.and_self]

/-- A member under the name of an option is found among those that count. -/
theorem find?_declared {name : String} (h : name ∈ kind.options) (members : Entries Json) :
    Entries.find? name (kind.declared members) = Entries.find? name members := by
  induction members with
  | nil => rfl
  | cons entry rest ih =>
    obtain ⟨key, given⟩ := entry
    by_cases hkey : key ∈ kind.options
    · rw [declared, List.filter_cons_of_pos (by simpa using hkey), Entries.find?_cons,
        Entries.find?_cons]
      exact congrArg _ ih
    · have hne : key ≠ name := fun heq => hkey (heq ▸ h)
      rw [declared, List.filter_cons_of_neg (by simpa using hkey), Entries.find?_cons, if_neg hne]
      exact ih

/-- The value of an option is the one given for it, or else its default. -/
theorem value_taken (hnames : (Entries.names members).Nodup) {name : String} {default : Json}
    (h : (name, default) ∈ kind.defaults) :
    (taken kind members).value name = (Entries.find? name members).getD default := by
  have hoption : name ∈ kind.options := List.mem_map_of_mem (f := Prod.fst) h
  have hdeclared : (Entries.names (kind.declared members)).Nodup :=
    hnames.sublist (List.filter_sublist.map Prod.fst)
  have hstored : Entries.find? name (taken kind members).stored = Entries.find? name members := by
    rw [taken, Entries.find?_putAll, Entries.find?_nil, Option.or_none,
      Entries.find?_perm (List.reverse_perm _) hdeclared, find?_declared hoption]
  have hdefault : Entries.find? name (taken kind members).kind.defaults = some default :=
    Entries.find?_of_mem (nodup_options kind) h
  rw [value, hstored, hdefault]
  cases Entries.find? name members <;> rfl

/-- What is stored of members is one of them, under the name of an option. -/
theorem mem_declared_of_mem_taken {entry : String × Json} (h : entry ∈ (taken kind members).stored) :
    entry ∈ kind.declared members :=
  (Entries.mem_of_mem_putAll h).resolve_left List.not_mem_nil

/-- Members without reserved names count as their members under the names of options. -/
theorem takes_taken (hmembers : (Json.object members).WellFormed) (h : members.Plain) :
    Takes kind members (taken kind members) where
  reads := read_of_plain h
  restricted := by rw [read_of_plain (plain_declared kind members), taken_declared]
  writes := by
    rw [write_eq_ok_iff]
    refine ⟨Entries.find?_eq_none_iff.mpr fun hmem => ?_, rfl⟩
    obtain ⟨entry, hentry, hname⟩ := List.mem_map.mp hmem
    apply plain_declared kind members exportName (by decide)
    exact hname ▸ List.mem_map_of_mem (mem_declared_of_mem_taken hentry)
  names := names_toEntries _
  values := by
    intro name default hdefault
    have hoption : name ∈ (taken kind members).kind.options :=
      List.mem_map_of_mem (f := Prod.fst) hdefault
    rw [find?_toEntries hoption, value_taken (Json.wellFormed_object.mp hmembers).1 hdefault]
  again := by
    have hstored : ∀ entry ∈ (taken kind members).stored, entry.2.WellFormed := fun entry hentry =>
      (Json.wellFormed_object.mp hmembers).2 entry
        (List.mem_filter.mp (mem_declared_of_mem_taken hentry)).1
    exact exists_same_read_toEntries hstored

/-- Where nothing is replaced, members count as their members under the names of options exactly without
reserved names. -/
theorem exists_takes_iff (hmembers : (Json.object members).WellFormed)
    (hdict : "__dict__" ∉ Entries.names members) :
    (∃ options, Takes kind members options) ↔ members.Plain := by
  refine ⟨fun ⟨options, htakes⟩ => ?_, fun h => ⟨_, takes_taken hmembers h⟩⟩
  obtain ⟨hclass, hweak, rfl⟩ := (storeAll_eq_ok_iff hdict).mp htakes.reads
  have hexport : exportName ∉ Entries.names members := by
    intro hmem
    -- A member under this name is stored, and then nothing is written.
    have hnone := (write_eq_ok_iff.mp htakes.writes).1
    rw [Entries.find?_putAll, Entries.find?_nil, Option.or_none, Entries.find?_eq_none_iff] at hnone
    obtain ⟨entry, hentry, hname⟩ := List.mem_map.mp hmem
    apply hnone
    rw [← hname]
    apply List.mem_map_of_mem
    rw [List.mem_reverse, List.mem_filter]
    exact ⟨hentry, by simp [knows, hname]⟩
  intro name hreserved
  simp only [reserved, List.mem_cons, List.not_mem_nil, or_false] at hreserved
  rcases hreserved with rfl | rfl | rfl | rfl
  · exact hclass
  · exact hweak
  · exact hdict
  · exact hexport

end Plain

end OptionSection

namespace Options

/-- The section of a kind. -/
def part (options : Options) : SectionKind → OptionSection
  | .validation => options.validation
  | .generation => options.generation

/-- The members that are given for a section, none where no object is given for it. -/
def given (members : Entries Json) (kind : SectionKind) : Entries Json :=
  match Entries.find? kind.title members with
  | some (.object inner) => inner
  | _ => []

/-- What counts of a member: of an object under the name of a section its members under the names of
options, and nothing else. -/
def counted (name : String) (value : Json) : Option Json :=
  match SectionKind.ofTitle? name, value with
  | some kind, .object inner => some (.object (kind.declared inner))
  | _, _ => none

/-- What counts of members. -/
def declared (members : Entries Json) : Entries Json :=
  members.filterMap fun (name, value) => (counted name value).map fun kept => (name, kept)

/-- The members that are written for options. -/
def toEntries (options : Options) : Entries Json :=
  [SectionKind.validation, .generation].map fun kind =>
    (kind.title, .object (options.part kind).toEntries)

/-- Only what stands under the names of options in the objects under the names of sections counts in
members: they are read like those alone, each section is taken from what is given for it, and the options
are written and read back. -/
structure Takes (members : Entries Json) (options : Options) : Prop where
  reads : read members = .ok options
  restricted : read (declared members) = .ok options
  sections : ∀ kind, OptionSection.Takes kind (given members kind) (options.part kind)
  writes : options.write = .ok (.object options.toEntries)
  again : ∃ back, read options.toEntries = .ok back ∧ back.same options = true

variable {members : Entries Json} {options : Options}

/-- A section is read from what is given for it. -/
theorem readSection_eq (members : Entries Json) (kind : SectionKind) :
    readSection members kind.title kind = OptionSection.read kind (given members kind) := by
  unfold readSection given
  cases Entries.find? kind.title members with
  | none => rfl
  | some value => cases value <;> rfl

/-- Options are read section by section. -/
theorem read_eq_ok_iff : read members = .ok options ↔
    ∀ kind, OptionSection.read kind (given members kind) = .ok (options.part kind) := by
  have hread : read members = (OptionSection.read .validation (given members .validation)).bind
      fun validation => (OptionSection.read .generation (given members .generation)).bind
        fun generation => .ok ⟨validation, generation⟩ := by
    rw [← readSection_eq, ← readSection_eq]
    rfl
  have hparts : (∀ kind, OptionSection.read kind (given members kind) = .ok (options.part kind)) ↔
      OptionSection.read .validation (given members .validation) = .ok options.validation ∧
        OptionSection.read .generation (given members .generation) = .ok options.generation :=
    ⟨fun h => ⟨h .validation, h .generation⟩, fun h kind => by cases kind; exacts [h.1, h.2]⟩
  rw [hread, hparts]
  cases OptionSection.read .validation (given members .validation) with
  | error error => simp [Except.bind]
  | ok validation =>
    cases OptionSection.read .generation (given members .generation) with
    | error error => simp [Except.bind]
    | ok generation =>
      obtain ⟨first, second⟩ := options
      simp [Except.bind]

/-- Options are written section by section. -/
theorem write_of_sections
    (h : ∀ kind, (options.part kind).write = .ok (.object (options.part kind).toEntries)) :
    options.write = .ok (.object options.toEntries) := by
  have hwrite : options.write = (options.part .validation).write.bind fun validation =>
      (options.part .generation).write.bind fun generation =>
        .ok (.object [("validator", validation), ("fuzz", generation)]) := rfl
  rw [hwrite, h, h]
  rfl

/-- What is written for a section is given for it where options are read back. -/
theorem given_toEntries (options : Options) (kind : SectionKind) :
    given options.toEntries kind = (options.part kind).toEntries := by
  cases kind <;> rfl

/-- A member that counts is found under its name. -/
theorem find?_declared (hnames : (Entries.names members).Nodup) (name : String) :
    Entries.find? name (declared members) = (Entries.find? name members).bind (counted name) := by
  induction members with
  | nil => rfl
  | cons entry rest ih =>
    obtain ⟨key, value⟩ := entry
    obtain ⟨hkey, hrest⟩ := List.nodup_cons.mp hnames
    have hcons : Entries.find? name (declared ((key, value) :: rest)) =
        if key = name then (counted key value).or (Entries.find? name (declared rest))
        else Entries.find? name (declared rest) := by
      unfold declared
      rw [List.filterMap_cons]
      cases hcounted : counted key value with
      | none => simp [hcounted]
      | some kept => simp [hcounted]
    rw [hcons, ih hrest, Entries.find?_cons]
    by_cases hname : key = name
    · subst hname
      have hnone : Entries.find? key rest = none := Entries.find?_eq_none_iff.mpr hkey
      rw [if_pos rfl, if_pos rfl, hnone, Option.bind_none, Option.or_none, Option.bind_some]
    · rw [if_neg hname, if_neg hname]

/-- What is given for a section among the members that count is what counts in it. -/
theorem given_declared (hnames : (Entries.names members).Nodup) (kind : SectionKind) :
    given (declared members) kind = kind.declared (given members kind) := by
  unfold given
  rw [find?_declared hnames]
  cases Entries.find? kind.title members with
  | none => rfl
  | some value =>
    cases value <;> simp [counted, SectionKind.declared]

/-- What is given for a section is well formed where the members are. -/
theorem wellFormed_given (hmembers : (Json.object members).WellFormed) (kind : SectionKind) :
    (Json.object (given members kind)).WellFormed := by
  unfold given
  split
  · rename_i inner hinner
    exact (Json.wellFormed_object.mp hmembers).2 _ (Entries.mem_of_find? hinner)
  · exact Json.wellFormed_object.mpr ⟨List.nodup_nil, List.forall_mem_nil _⟩

/-- Options count as their sections do. -/
theorem takes_of_sections (hnames : (Entries.names members).Nodup)
    (h : ∀ kind, OptionSection.Takes kind (given members kind) (options.part kind)) :
    Takes members options where
  reads := read_eq_ok_iff.mpr fun kind => (h kind).reads
  restricted := read_eq_ok_iff.mpr fun kind => by
    rw [given_declared hnames]
    exact (h kind).restricted
  sections := h
  writes := write_of_sections fun kind => (h kind).writes
  again := by
    obtain ⟨validation, hvalidation, hsameValidation⟩ := (h .validation).again
    obtain ⟨generation, hgeneration, hsameGeneration⟩ := (h .generation).again
    refine ⟨⟨validation, generation⟩, read_eq_ok_iff.mpr fun kind => ?_, ?_⟩
    · rw [given_toEntries]
      cases kind with
      | validation => exact hvalidation
      | generation => exact hgeneration
    · exact Bool.and_eq_true_iff.mpr ⟨hsameValidation, hsameGeneration⟩

/-- Where nothing is replaced, an object counts as its members under the names of options exactly if none of
its members has a reserved name. The same holds for both sections at once, of the members given for each. -/
theorem exists_takes_iff_plain (members : Entries Json) (hmembers : (Json.object members).WellFormed) :
    (∀ kind, "__dict__" ∉ Entries.names members →
      ((∃ options, OptionSection.Takes kind members options) ↔ members.Plain)) ∧
    ((∀ kind, "__dict__" ∉ Entries.names (given members kind)) →
      ((∃ options, Takes members options) ↔ ∀ kind, (given members kind).Plain)) := by
  refine ⟨fun kind hdict => OptionSection.exists_takes_iff hmembers hdict, fun hdict => ?_⟩
  have hsections : ∀ kind, (∃ options, OptionSection.Takes kind (given members kind) options) ↔
      (given members kind).Plain := fun kind =>
    OptionSection.exists_takes_iff (wellFormed_given hmembers kind) (hdict kind)
  constructor
  · rintro ⟨options, htakes⟩ kind
    exact (hsections kind).mp ⟨_, htakes.sections kind⟩
  · intro hplain
    obtain ⟨validation, hvalidation⟩ := (hsections .validation).mpr (hplain .validation)
    obtain ⟨generation, hgeneration⟩ := (hsections .generation).mpr (hplain .generation)
    refine ⟨⟨validation, generation⟩, takes_of_sections (Json.wellFormed_object.mp hmembers).1 ?_⟩
    intro kind
    cases kind with
    | validation => exact hvalidation
    | generation => exact hgeneration

/-- An object with options, other members and a section that is no object. -/
def mixed : Entries Json :=
  [("fuzz", .null), ("note", .string "kept by hand"),
    ("validator", .object [("from_dict", .null), ("strict_refs", .bool true), ("__eq__", .null)])]

/-- The object counts as the one option that it gives. -/
theorem exists_takes_mixed :
    (Json.object mixed).WellFormed ∧ (∀ kind, (given mixed kind).Plain) ∧
      (∃ options, Takes mixed options) ∧
        ∃ options, OptionSection.Takes .validation (given mixed .validation) options := by
  have hmixed : (Json.object mixed).WellFormed := by simp [mixed, Entries.names]
  have hplain : ∀ kind, (given mixed kind).Plain := fun kind => by cases kind <;> decide
  have hgiven : (Json.object (given mixed .validation)).WellFormed := wellFormed_given hmixed _
  have hdict : ∀ kind, "__dict__" ∉ Entries.names (given mixed kind) := fun kind =>
    hplain kind _ (by decide)
  exact ⟨hmixed, hplain, ((exists_takes_iff_plain mixed hmixed).2 hdict).mpr hplain,
    ((exists_takes_iff_plain _ hgiven).1 _ (hdict _)).mpr (hplain _)⟩

/-- A member under the name that a section is written under is no option, but it is stored, and then the
section is not written. -/
theorem not_takes_exported :
    (Json.object [("to_dict", .number (.int 1))]).WellFormed ∧
    (∃ options, OptionSection.read .validation [("to_dict", .number (.int 1))] = .ok options ∧
      options.write = .error (.notCallable .integer)) ∧
    SectionKind.declared .validation [("to_dict", .number (.int 1))] = [] ∧
    ¬ ∃ options, OptionSection.Takes .validation [("to_dict", .number (.int 1))] options := by
  refine ⟨by simp [Entries.names], ⟨_, rfl, rfl⟩, by decide, ?_⟩
  rintro ⟨options, htakes⟩
  obtain rfl := Except.ok.inj htakes.reads
  cases htakes.writes

/-- A member that replaces what is stored gives a value for an option. -/
example : (OptionSection.read .validation [("__dict__", .object [("strict_refs", .bool true)])]).map
    (fun options => options.value "strict_refs") = .ok (.bool true) := rfl

end Options

end JsonSchema
