import JsonSchema.Proofs.Document.Rows

/-!
# Lifting the bodies of deferred nodes

While a schema is written, every name is reserved for one body at a time: a definition of the schema,
a body that is being written, or one that was lifted. A name that was referred to is never free
again, so the references that were written keep their meaning. `Ready` is what holds before and after
each step, and `Writes.ready` says that every step keeps it and gives documents that represent the nodes.
-/

namespace JsonSchema.Document

/-- Names of different numbers differ. -/
theorem lazyName_injective {i j : Nat} (h : lazyName i = lazyName j) : i = j :=
  Pointer.index_injective ((String.append_right_inj "lazy").mp h)

/-- A fresh name is a name of some number. -/
theorem exists_freshName (reserved : List String) (fuel index : Nat) :
    ∃ k, freshName reserved fuel index = lazyName k := by
  induction fuel generalizing index with
  | zero => exact ⟨index, rfl⟩
  | succ fuel ih =>
    rw [freshName]
    split
    · exact ih (index + 1)
    · exact ⟨index, rfl⟩

/-- A fresh name that is reserved was the last one of which none was free. -/
theorem lazyName_mem_of_freshName_mem {reserved : List String} {fuel index : Nat}
    (h : freshName reserved fuel index ∈ reserved) :
    ∀ k, index ≤ k → k ≤ index + fuel → lazyName k ∈ reserved := by
  induction fuel generalizing index with
  | zero =>
    intro k hlow hhigh
    obtain rfl : k = index := by omega
    exact h
  | succ fuel ih =>
    intro k hlow hhigh
    rw [freshName] at h
    split at h
    · rename_i hreserved
      rcases Nat.eq_or_lt_of_le hlow with rfl | hlow
      · exact List.contains_iff_mem.mp hreserved
      · exact ih h k (by omega) (by omega)
    · rename_i hfree
      exact absurd (List.contains_iff_mem.mpr h) hfree

/-- A fresh name is not reserved: there are more names to try than reserved ones. -/
theorem freshName_not_mem (reserved : List String) :
    freshName reserved reserved.length 0 ∉ reserved := by
  intro h
  have hall := lazyName_mem_of_freshName_mem h
  have hnodup : ((List.range (reserved.length + 1)).map lazyName).Nodup :=
    List.Nodup.map (fun _ _ => lazyName_injective) List.nodup_range
  have hsubset : (List.range (reserved.length + 1)).map lazyName ⊆ reserved := by
    intro name hname
    obtain ⟨k, hk, rfl⟩ := List.mem_map.mp hname
    exact hall k (Nat.zero_le k) (by have := List.mem_range.mp hk; omega)
  have hlength := hnodup.length_le_of_subset hsubset
  rw [List.length_map, List.length_range] at hlength
  omega

/-- A deferred node is known by a name where its body is lifted under it, or is being written and was
referred to by it. -/
def Named (active : Active) (state : Lifting) (thunk name : String) : Prop :=
  (thunk, name) ∈ state.lifted ∨ (some thunk, name) ∈ active ∧ name ∈ state.reentered

/-- A name that was not referred to is no name that a deferred node is known by. -/
theorem Named.of_not_mem {active : Active} {state : Lifting} {thunk name other name' : String}
    (hname : name ∉ state.reentered)
    (h : Named ((some thunk, name) :: active) state other name') :
    Named active state other name' := by
  rcases h with hlifted | ⟨hmem, hreferred⟩
  · exact .inl hlifted
  · rcases List.mem_cons.mp hmem with heq | hmem
    · cases heq
      exact absurd hreferred hname
    · exact .inr ⟨hmem, hreferred⟩

/-- Where a body is lifted, its deferred node stays known by its name, and the others by theirs. -/
theorem Named.of_lifted {active : Active} {state : Lifting} {thunk name other name' : String}
    (h : Named ((some thunk, name) :: active) state other name') (definitions : Entries Json) :
    Named active { state with definitions := definitions, lifted := state.lifted ++ [(thunk, name)] }
      other name' := by
  rcases h with hlifted | ⟨hmem, hreferred⟩
  · exact .inl (List.mem_append_left _ hlifted)
  · rcases List.mem_cons.mp hmem with heq | hmem
    · cases heq
      exact .inl (List.mem_append_right _ (List.mem_singleton_self _))
    · exact .inr ⟨hmem, hreferred⟩

/-- What holds of names while a schema with definitions of its own is written. -/
structure Ready (schema : Schema) (thunks : Thunks) (active : Active) (pending : Thunks)
    (state : Lifting) : Prop where
  table : ∀ thunk, active.lookup (some thunk) = none →
    Entries.find? thunk pending = Entries.find? thunk thunks
  suspended : ∀ entry ∈ active, entry.1 ≠ none
  own : ∀ name ∈ Entries.names schema.definitions, name ∈ state.reserved
  busy : ∀ entry ∈ active, entry.2 ∈ state.reserved ∧
    entry.2 ∉ Entries.names schema.definitions ∧ ∃ k, entry.2 = lazyName k
  apart : ∀ thunk name, (some thunk, name) ∈ active →
    thunk ∉ Entries.names state.lifted ∧ name ∉ Entries.names state.definitions
  distinct : (active.map Prod.snd).Nodup
  referred : ∀ name ∈ state.reentered, name ∈ state.reserved
  shared : ∀ thunk name, (thunk, name) ∈ state.lifted → name ∈ state.reserved ∧
    name ∉ Entries.names schema.definitions ∧ ∃ k, name = lazyName k
  names : Entries.names state.definitions = state.lifted.map Prod.snd
  nodup : (Entries.names state.definitions).Nodup
  single : (Entries.names state.lifted).Nodup
  bodies : ∀ thunk name, (thunk, name) ∈ state.lifted → ∃ body document,
    Entries.find? thunk thunks = some body ∧ schema.Contains thunks body.value ∧
      Entries.find? name state.definitions = some document ∧
        Represents thunks (Named active state) body.value document

/-- What is lifted and what was referred to stays so. -/
structure Grows (state final : Lifting) : Prop where
  lifted : ∀ entry ∈ state.lifted, entry ∈ final.lifted
  reentered : ∀ name ∈ state.reentered, name ∈ final.reentered

/-- What is known of a state that does not change. -/
theorem Grows.refl (state : Lifting) : Grows state state := ⟨fun _ h => h, fun _ h => h⟩

/-- What stays over two steps stays over both. -/
theorem Grows.trans {state between final : Lifting} (h : Grows state between)
    (h' : Grows between final) : Grows state final :=
  ⟨fun entry hentry => h'.lifted entry (h.lifted entry hentry),
    fun name hname => h'.reentered name (h.reentered name hname)⟩

/-- Deferred nodes stay known by their names. -/
theorem Grows.named {state final : Lifting} (h : Grows state final) {active : Active} {thunk : String}
    {name : String} (hnamed : Named active state thunk name) : Named active final thunk name :=
  hnamed.imp (h.lifted _) (And.imp_right (h.reentered name))

section Steps

variable {schema : Schema} {thunks : Thunks} {active : Active} {pending : Thunks}
  {state final : Lifting}

/-- A name is looked up among the bodies that are being written, and then among the lifted ones. -/
theorem knownName_eq_some {thunk : String} {name : String}
    (h : knownName active (some thunk) state = some name) :
    (some thunk, name) ∈ active ∨ (thunk, name) ∈ state.lifted := by
  rcases Option.or_eq_some_iff.mp h with hactive | ⟨-, hlifted⟩
  · obtain ⟨first, rest, rfl, -⟩ := List.lookup_eq_some_iff.mp hactive
    exact .inl (by simp)
  · exact .inr (Entries.mem_of_find? hlifted)

/-- Referring to a known name keeps what holds of names. -/
theorem Ready.refer {thunk name : String} (hready : Ready schema thunks active pending state)
    (h : knownName active (some thunk) state = some name) :
    Ready schema thunks active pending { state with reentered := name :: state.reentered } := by
  have hgrows : Grows state { state with reentered := name :: state.reentered } :=
    ⟨fun _ h => h, fun _ h => List.mem_cons_of_mem _ h⟩
  refine { hready with referred := ?_, bodies := ?_ }
  · intro other hother
    rcases List.mem_cons.mp hother with rfl | hother
    · rcases knownName_eq_some h with hactive | hlifted
      · exact (hready.busy _ hactive).1
      · exact (hready.shared _ _ hlifted).1
    · exact hready.referred other hother
  · intro thunk name hlifted
    obtain ⟨body, document, hbody, hcontains, hdocument, hrepresents⟩ :=
      hready.bodies thunk name hlifted
    exact ⟨body, document, hbody, hcontains, hdocument,
      hrepresents.mono fun _ _ => hgrows.named⟩

/-- The lifted names are reserved. -/
theorem Ready.mem_reserved (hready : Ready schema thunks active pending state) {name : String}
    (h : name ∈ Entries.names state.definitions) : name ∈ state.reserved := by
  rw [hready.names] at h
  obtain ⟨entry, hentry, rfl⟩ := List.mem_map.mp h
  exact (hready.shared _ _ hentry).1

/-- A thunk that is not looked up is not being written. -/
theorem not_mem_of_lookup_eq_none {thunk : String} (h : active.lookup (some thunk) = none)
    (name : String) : (some thunk, name) ∉ active := fun hmem => by
  simpa using List.lookup_eq_none_iff.mp h _ hmem

/-- The bodies that are not being written are given, also while one more is written. -/
theorem table_without {thunk name : String} (h : ∀ thunk, active.lookup (some thunk) = none →
    Entries.find? thunk pending = Entries.find? thunk thunks) (other : String)
    (hother : ((some thunk, name) :: active).lookup (some other) = none) :
    Entries.find? other (Thunks.without pending thunk) = Entries.find? other thunks := by
  rw [List.lookup_cons] at hother
  split at hother
  · cases hother
  · rename_i hne
    rw [Entries.find?_without _ (by simpa using hne)]
    exact h other hother

/-- What holds while the body of a deferred node that is not known is written under a fresh name. -/
theorem Ready.enter {thunk : String} (hready : Ready schema thunks active pending state)
    (hunknown : knownName active (some thunk) state = none) (notes : List Note) :
    Ready schema thunks
      ((some thunk, freshName state.reserved state.reserved.length 0) :: active)
      (Thunks.without pending thunk)
      { state with
        reserved := freshName state.reserved state.reserved.length 0 :: state.reserved
        notes := notes } := by
  obtain ⟨hactive, hlifted⟩ := Option.or_eq_none_iff.mp hunknown
  have hfresh := freshName_not_mem state.reserved
  obtain ⟨k, hk⟩ := exists_freshName state.reserved state.reserved.length 0
  generalize freshName state.reserved state.reserved.length 0 = name at *
  refine ⟨table_without hready.table, ?_, ?_, ?_, ?_, ?_, ?_, ?_, hready.names, hready.nodup,
    hready.single, ?_⟩
  · exact List.forall_mem_cons.mpr ⟨by simp, hready.suspended⟩
  · exact fun own hown => List.mem_cons_of_mem _ (hready.own own hown)
  · intro entry hentry
    rcases List.mem_cons.mp hentry with rfl | hentry
    · exact ⟨List.mem_cons_self, fun hown => hfresh (hready.own _ hown), k, hk⟩
    · exact (hready.busy entry hentry).imp_left (List.mem_cons_of_mem _)
  · intro other name' hentry
    rcases List.mem_cons.mp hentry with heq | hentry
    · cases heq
      exact ⟨Entries.find?_eq_none_iff.mp hlifted, fun h => hfresh (hready.mem_reserved h)⟩
    · exact hready.apart other name' hentry
  · refine List.nodup_cons.mpr ⟨fun hmem => ?_, hready.distinct⟩
    obtain ⟨entry, hentry, heq⟩ := List.mem_map.mp hmem
    have hreserved := (hready.busy entry hentry).1
    rw [heq] at hreserved
    exact hfresh hreserved
  · exact fun other hother => List.mem_cons_of_mem _ (hready.referred other hother)
  · exact fun other name' hother =>
      (hready.shared other name' hother).imp_left (List.mem_cons_of_mem _)
  · intro other name' hother
    obtain ⟨body, document, hbody, hcontains, hdocument, hrepresents⟩ :=
      hready.bodies other name' hother
    exact ⟨body, document, hbody, hcontains, hdocument, hrepresents.mono fun _ _ hnamed =>
      hnamed.imp_right (And.imp_left (List.mem_cons_of_mem _))⟩

section Settling

variable {thunk name : String} {body : Noted Node} {document : Json}
  (hready : Ready schema thunks ((some thunk, name) :: active) (Thunks.without pending thunk) state)
  (htable : ∀ thunk, active.lookup (some thunk) = none →
    Entries.find? thunk pending = Entries.find? thunk thunks)
  (hactive : active.lookup (some thunk) = none)

include hready htable

/-- A body that was not referred to gives its name back. -/
theorem Ready.release (hname : name ∉ state.reentered) :
    Ready schema thunks active pending
      { state with reserved := state.reserved.filter (· ≠ name) } := by
  have hkeep : ∀ other ∈ state.reserved, other ≠ name →
      other ∈ state.reserved.filter (· ≠ name) := fun other hother hne =>
    List.mem_filter.mpr ⟨hother, by simpa using hne⟩
  obtain ⟨hreserved, hown, -⟩ := hready.busy (some thunk, name) List.mem_cons_self
  obtain ⟨-, hdefinitions⟩ := hready.apart thunk name List.mem_cons_self
  obtain ⟨hdistinct, hrest⟩ := List.nodup_cons.mp hready.distinct
  refine ⟨htable, (List.forall_mem_cons.mp hready.suspended).2, ?_, ?_, ?_, hrest, ?_, ?_,
    hready.names, hready.nodup, hready.single, ?_⟩
  · intro own hmem
    refine hkeep own (hready.own own hmem) ?_
    rintro rfl
    exact hown hmem
  · intro entry hentry
    refine (hready.busy entry (List.mem_cons_of_mem _ hentry)).imp_left fun hmem =>
      hkeep _ hmem fun heq => hdistinct ?_
    exact List.mem_map.mpr ⟨entry, hentry, heq⟩
  · exact fun other name' hentry => hready.apart other name' (List.mem_cons_of_mem _ hentry)
  · intro other hother
    refine hkeep other (hready.referred other hother) ?_
    rintro rfl
    exact hname hother
  · intro other name' hother
    refine (hready.shared other name' hother).imp_left fun hmem => hkeep _ hmem ?_
    rintro rfl
    rw [hready.names] at hdefinitions
    exact hdefinitions (List.mem_map.mpr ⟨_, hother, rfl⟩)
  · intro other name' hother
    obtain ⟨body, document, hbody, hcontains, hdocument, hrepresents⟩ :=
      hready.bodies other name' hother
    exact ⟨body, document, hbody, hcontains, hdocument,
      hrepresents.mono fun _ _ hnamed => hnamed.of_not_mem hname⟩

include hactive

/-- A body that was referred to is lifted, and its name stays reserved. -/
theorem Ready.lift (hbody : Entries.find? thunk thunks = some body)
    (hcontains : schema.Contains thunks body.value)
    (hrepresents : Represents thunks (Named ((some thunk, name) :: active) state) body.value document) :
    Ready schema thunks active pending
      { state with
        definitions := Entries.put name document state.definitions
        lifted := Entries.put thunk name state.lifted } := by
  obtain ⟨hbusy, hown⟩ := hready.busy (some thunk, name) List.mem_cons_self
  obtain ⟨hthunk, hdefinitions⟩ := hready.apart thunk name List.mem_cons_self
  obtain ⟨hdistinct, hrest⟩ := List.nodup_cons.mp hready.distinct
  rw [Entries.put_of_not_mem _ hdefinitions, Entries.put_of_not_mem _ hthunk]
  refine ⟨htable, (List.forall_mem_cons.mp hready.suspended).2, hready.own, ?_, ?_, hrest,
    hready.referred, ?_, ?_, ?_, ?_, ?_⟩
  · exact fun entry hentry => hready.busy entry (List.mem_cons_of_mem _ hentry)
  · intro other name' hentry
    obtain ⟨hother, hname⟩ := hready.apart other name' (List.mem_cons_of_mem _ hentry)
    have hne : other ≠ thunk := by
      rintro rfl
      exact not_mem_of_lookup_eq_none hactive name' hentry
    have hne' : name' ≠ name := by
      rintro rfl
      exact hdistinct (List.mem_map.mpr ⟨_, hentry, rfl⟩)
    simp only [Entries.names, List.map_append, List.mem_append] at hother hname ⊢
    simp [hother, hname, hne, hne']
  · intro other name' hother
    rcases List.mem_append.mp hother with hother | hother
    · exact hready.shared other name' hother
    · cases List.mem_singleton.mp hother
      exact ⟨hbusy, hown⟩
  · have hnames := hready.names
    simp only [Entries.names] at hnames
    simp [Entries.names, hnames]
  · exact Entries.nodup_names_concat hready.nodup hdefinitions document
  · exact Entries.nodup_names_concat hready.single hthunk name
  · intro other name' hother
    rcases List.mem_append.mp hother with hother | hother
    · obtain ⟨body, document', hbody, hcontains, hdocument, hrepresents⟩ :=
        hready.bodies other name' hother
      exact ⟨body, document', hbody, hcontains, by simp [hdocument],
        hrepresents.mono fun _ _ hnamed => hnamed.of_lifted _⟩
    · cases List.mem_singleton.mp hother
      have hnone : Entries.find? name state.definitions = none :=
        Entries.find?_eq_none_iff.mpr hdefinitions
      exact ⟨body, document, hbody, hcontains, by simp [hnone],
        hrepresents.mono fun _ _ hnamed => hnamed.of_lifted _⟩

end Settling

/-- Documents represent the nodes of a row where the first one does and the others do. -/
theorem represents_cons {named : String → String → Prop} {node : Node} {document : Json}
    {rest : List Node} {documents : List Json} (hhead : Represents thunks named node document)
    (hrest : ∀ pair ∈ rest.zip documents, Represents thunks named pair.1 pair.2) :
    ∀ pair ∈ (node :: rest).zip (document :: documents), Represents thunks named pair.1 pair.2 := by
  intro pair hpair
  rcases List.mem_cons.mp hpair with rfl | hmem
  · exact hhead
  · exact hrest pair hmem

/-- Writing nodes of a schema keeps what holds of names and gives documents that represent the nodes. -/
theorem Writes.ready {nodes : List Node} {events : List Event} {documents : List Json}
    (h : Writes active pending nodes state events documents final)
    (hnodes : ∀ node ∈ nodes, schema.Contains thunks node)
    (hready : Ready schema thunks active pending state) :
    Ready schema thunks active pending final ∧ Grows state final ∧
      ∀ pair ∈ nodes.zip documents, Represents thunks (Named active final) pair.1 pair.2 := by
  induction h with
  | nil => exact ⟨hready, .refl _, by simp⟩
  | composed hcomposes hinside _ ihinside ihrest =>
    obtain ⟨hnode, hnodes⟩ := List.forall_mem_cons.mp hnodes
    obtain ⟨hbetween, hgrows, hparts⟩ := ihinside (fun child => .child hnode) hready
    obtain ⟨hfinal, hgrows', hrest⟩ := ihrest hnodes hbetween
    exact ⟨hfinal, hgrows.trans hgrows', represents_cons
      (.composed hcomposes (length_of_writeNodes hinside.eq_ok) fun pair hpair =>
        (hparts pair hpair).mono fun _ _ => hgrows'.named) hrest⟩
  | verbatim _ ihrest =>
    obtain ⟨hfinal, hgrows, hrest⟩ := ihrest (List.forall_mem_cons.mp hnodes).2 hready
    exact ⟨hfinal, hgrows, represents_cons (.verbatim _) hrest⟩
  | @known active pending thunk name _ state _ _ _ hname _ ihrest =>
    obtain ⟨hfinal, hgrows, hrest⟩ :=
      ihrest (List.forall_mem_cons.mp hnodes).2 (hready.refer hname)
    have hnamed : Named active { state with reentered := name :: state.reentered } thunk name :=
      (knownName_eq_some hname).elim (fun hactive => .inr ⟨hactive, List.mem_cons_self⟩) .inl
    exact ⟨hfinal, ⟨hgrows.lifted, fun other hother =>
        hgrows.reentered other (List.mem_cons_of_mem _ hother)⟩,
      represents_cons (.cut (hgrows.named hnamed)) hrest⟩
  | lifted hunknown hbody hname _ _ _ ihinside ihrest =>
    subst hname
    obtain ⟨hnode, hnodes⟩ := List.forall_mem_cons.mp hnodes
    have hactive := (Option.or_eq_none_iff.mp hunknown).1
    have hbody := (hready.table _ hactive).symm.trans hbody
    obtain ⟨hbetween, hgrows, hdocument⟩ := ihinside
      (List.forall_mem_singleton.mpr (hnode.forced hbody)) (hready.enter hunknown _)
    obtain ⟨hthunk, -⟩ := hbetween.apart _ _ List.mem_cons_self
    obtain ⟨hfinal, hgrows', hrest⟩ := ihrest hnodes
      (hbetween.lift hready.table hactive hbody (hnode.forced hbody) (hdocument _ List.mem_cons_self))
    rw [Entries.put_of_not_mem _ hthunk] at hgrows'
    refine ⟨hfinal, ⟨fun entry hentry => ?_, fun other hother => ?_⟩,
      represents_cons (.cut (hgrows'.named (.inl ?_))) hrest⟩
    · exact hgrows'.lifted entry (List.mem_append_left _ (hgrows.lifted entry hentry))
    · exact hgrows'.reentered other (hgrows.reentered other hother)
    · exact List.mem_append_right _ (List.mem_singleton_self _)
  | inlined hunknown hbody hname _ hreferred _ ihinside ihrest =>
    subst hname
    obtain ⟨hnode, hnodes⟩ := List.forall_mem_cons.mp hnodes
    have hbody := (hready.table _ (Option.or_eq_none_iff.mp hunknown).1).symm.trans hbody
    obtain ⟨hbetween, hgrows, hdocument⟩ := ihinside
      (List.forall_mem_singleton.mpr (hnode.forced hbody)) (hready.enter hunknown _)
    obtain ⟨hfinal, hgrows', hrest⟩ := ihrest hnodes (hbetween.release hready.table hreferred)
    refine ⟨hfinal, ⟨fun entry hentry => ?_, fun other hother => ?_⟩,
      represents_cons (.inlined hbody ((hdocument _ List.mem_cons_self).mono
        fun _ _ hnamed => hgrows'.named (hnamed.of_not_mem hreferred))) hrest⟩
    · exact hgrows'.lifted entry (hgrows.lifted entry hentry)
    · exact hgrows'.reentered other (hgrows.reentered other hother)

/-- Nodes in a row are written where each of them is, whatever is known. -/
theorem exists_writeNodes_eq_ok {nodes : List Node} (h : ∀ node ∈ nodes, ∀ state, ∃ document final,
    writeNode active pending node state = (.ok document, final)) (state : Lifting) :
    ∃ parts final, writeNodes active pending nodes state = (.ok parts, final) := by
  induction nodes generalizing state with
  | nil => exact ⟨[], state, writeNodes_nil_eq_ok.mpr ⟨rfl, rfl⟩⟩
  | cons node rest ih =>
    obtain ⟨part, between, hpart⟩ := h node List.mem_cons_self state
    obtain ⟨parts, final, hparts⟩ :=
      ih (fun other hother => h other (List.mem_cons_of_mem _ hother)) between
    exact ⟨part :: parts, final,
      writeNodes_cons_eq_ok.mpr ⟨part, parts, between, hpart, hparts, rfl⟩⟩

/-- Every node of a schema of known kinds is written. -/
theorem exists_writeNode_eq_ok (hknown : ∀ node, schema.Contains thunks node → node.Known thunks)
    {node : Node} (hnode : schema.Contains thunks node) (active : Active) (pending : Thunks)
    (htable : ∀ thunk, active.lookup (some thunk) = none →
      Entries.find? thunk pending = Entries.find? thunk thunks) (state : Lifting) :
    ∃ document final, writeNode active pending node state = (.ok document, final) := by
  induction hlength : pending.length using Nat.strongRecOn
    generalizing node active pending state with
  | ind length ihpending =>
    induction node using Node.induction_children generalizing state with
    | step node ihnode =>
      by_cases hcomposes : node.composes
      · obtain ⟨parts, final, hparts⟩ := exists_writeNodes_eq_ok
          (fun child hchild => ihnode child hchild (.child hnode hchild)) state
        exact ⟨_, final, (writeNode_eq_ok hcomposes).mpr ⟨parts, hparts, rfl⟩⟩
      · cases node with
        | verbatim document => exact ⟨document, state, by rw [writeNode]; rfl⟩
        | deferred thunk =>
          obtain ⟨thunk, rfl, hsome⟩ := hknown _ hnode
          obtain ⟨body, hbody⟩ := Option.isSome_iff_exists.mp hsome
          cases hname : knownName active (some thunk) state with
          | some name => exact ⟨_, _, writeNode_known hname⟩
          | none =>
            have hpending := (htable thunk (Option.or_eq_none_iff.mp hname).1).trans hbody
            rw [writeNode_deferred hname hpending]
            obtain ⟨document, between, hwrite⟩ := ihpending _
              (hlength ▸ Thunks.length_without_lt hpending) (hnode.forced hbody)
              ((some thunk, freshName state.reserved state.reserved.length 0) :: active)
              (Thunks.without pending thunk) (table_without htable) _ rfl
            rw [andThen_of_eq_ok hwrite, settle]
            split <;> exact ⟨_, _, rfl⟩
        | unknown => exact (hknown _ hnode).elim
        | _ => exact absurd rfl hcomposes

/-- Before anything is written only the names of the definitions are reserved. -/
theorem ready_start (schema : Schema) (thunks : Thunks) (notes : List Note) :
    Ready schema thunks [] thunks
      { reserved := Entries.names schema.definitions, notes := notes } := by
  refine ⟨fun _ _ => rfl, ?_, fun _ h => h, ?_, ?_, List.nodup_nil, ?_, ?_, rfl, List.nodup_nil,
    List.nodup_nil, ?_⟩ <;> simp

end Steps

end JsonSchema.Document
