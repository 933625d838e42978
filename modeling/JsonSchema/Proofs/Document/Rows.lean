import JsonSchema.Proofs.Document.Represent

/-!
# Writing nodes in a row

`Writes` says once what becomes of each node in a row that is written: it is composed of the documents of
the nodes inside, kept verbatim, or deferred, and then cut to a reference, lifted or written in place. A
record is kept of what happens to deferred nodes on the way. `writes_iff` says that this is what the writer
does, so what holds of documents and of names is proved along `Writes`.
-/

namespace JsonSchema.Document

/-- What happens to a deferred node: it is cut to a reference to a name, or its body is defined under a
name. -/
inductive Event
  | cut (thunk name : String)
  | defined (thunk name : String) (body : Json)

/-- Documents are written for nodes in a row, with a record of what happens on the way, from what is known
at first to what is known in the end. -/
inductive Writes : Active → Thunks → List Node → Lifting → List Event → List Json → Lifting → Prop
  | nil {active : Active} {pending : Thunks} {state : Lifting} :
      Writes active pending [] state [] [] state
  | composed {active : Active} {pending : Thunks} {node : Node} {rest : List Node}
      {state between final : Lifting} {inside others : List Event} {parts documents : List Json}
      (hcomposes : node.composes)
      (hinside : Writes active pending node.children state inside parts between)
      (hrest : Writes active pending rest between others documents final) :
      Writes active pending (node :: rest) state (inside ++ others)
        (.object (compose node parts) :: documents) final
  | verbatim {active : Active} {pending : Thunks} {document : Json} {rest : List Node}
      {state final : Lifting} {others : List Event} {documents : List Json}
      (hrest : Writes active pending rest state others documents final) :
      Writes active pending (.verbatim document :: rest) state others (document :: documents) final
  | known {active : Active} {pending : Thunks} {thunk name : String} {rest : List Node}
      {state final : Lifting} {others : List Event} {documents : List Json}
      (hname : knownName active (some thunk) state = some name)
      (hrest : Writes active pending rest { state with reentered := name :: state.reentered } others
        documents final) :
      Writes active pending (.deferred (some thunk) :: rest) state (.cut thunk name :: others)
        (lazyReference name :: documents) final
  | lifted {active : Active} {pending : Thunks} {thunk name : String} {body : Noted Node}
      {document : Json} {rest : List Node} {state between final : Lifting}
      {inside others : List Event} {documents : List Json}
      (hunknown : knownName active (some thunk) state = none)
      (hbody : Entries.find? thunk pending = some body)
      (hname : freshName state.reserved state.reserved.length 0 = name)
      (hinside : Writes ((some thunk, name) :: active) (Thunks.without pending thunk) [body.value]
        { state with reserved := name :: state.reserved, notes := state.notes ++ body.notes }
        inside [document] between)
      (hreferred : name ∈ between.reentered)
      (hrest : Writes active pending rest
        { between with
          definitions := Entries.put name document between.definitions
          lifted := Entries.put thunk name between.lifted } others documents final) :
      Writes active pending (.deferred (some thunk) :: rest) state
        (inside ++ .defined thunk name document :: .cut thunk name :: others)
        (lazyReference name :: documents) final
  | inlined {active : Active} {pending : Thunks} {thunk name : String} {body : Noted Node}
      {document : Json} {rest : List Node} {state between final : Lifting}
      {inside others : List Event} {documents : List Json}
      (hunknown : knownName active (some thunk) state = none)
      (hbody : Entries.find? thunk pending = some body)
      (hname : freshName state.reserved state.reserved.length 0 = name)
      (hinside : Writes ((some thunk, name) :: active) (Thunks.without pending thunk) [body.value]
        { state with reserved := name :: state.reserved, notes := state.notes ++ body.notes }
        inside [document] between)
      (hreferred : name ∉ between.reentered)
      (hrest : Writes active pending rest
        { between with reserved := between.reserved.filter (· ≠ name) } others documents final) :
      Writes active pending (.deferred (some thunk) :: rest) state (inside ++ others)
        (document :: documents) final

section Steps

variable {active : Active} {pending : Thunks} {state final : Lifting}

/-- A deferred node that is known is written as a reference to its name. -/
theorem writeNode_known {thunk : Option String} {name : String}
    (h : knownName active thunk state = some name) :
    writeNode active pending (.deferred thunk) state =
      (.ok (lazyReference name), { state with reentered := name :: state.reentered }) := by
  rw [writeNode]
  simp only [h]

/-- A deferred node that is not known and has no body cannot be written; a name is reserved for it. -/
theorem writeNode_missing {thunk : Option String} (h : knownName active thunk state = none)
    (hbody : ∀ name, thunk = some name → Entries.find? name pending = none) :
    writeNode active pending (.deferred thunk) state = (.error .noThunk, (reserveName state).2) := by
  cases thunk with
  | none =>
    rw [writeNode]
    simp only [h]
    rfl
  | some thunk =>
    rw [writeNode]
    simp only [h]
    calc
      _ = (reserveName.andThen fun _ => Writing.stop .noThunk : Writing Json) state := by
          refine congrArg (fun next => Writing.andThen reserveName next state)
            (funext fun name => ?_)
          split
          · rfl
          · rename_i hfound
            exact absurd ((hbody thunk rfl).symm.trans hfound) (by simp)
      _ = _ := rfl

/-- A deferred node that is not known has its body written under a fresh name, and settled. -/
theorem writeNode_deferred {thunk : String} {body : Noted Node}
    (h : knownName active (some thunk) state = none)
    (hbody : Entries.find? thunk pending = some body) :
    writeNode active pending (.deferred (some thunk)) state =
      (writeNode ((some thunk, freshName state.reserved state.reserved.length 0) :: active)
          (Thunks.without pending thunk) body.value).andThen
        (settle thunk (freshName state.reserved state.reserved.length 0))
        { state with
          reserved := freshName state.reserved state.reserved.length 0 :: state.reserved
          notes := state.notes ++ body.notes } := by
  rw [writeNode]
  simp only [h]
  calc
    _ = (reserveName.andThen fun name =>
          (Writing.change fun state => { state with notes := state.notes ++ body.notes }).andThen
            fun () => (writeNode ((some thunk, name) :: active) (Thunks.without pending thunk)
              body.value).andThen (settle thunk name)) state := by
        refine congrArg (fun next => Writing.andThen reserveName next state) (funext fun name => ?_)
        split
        · rename_i hnone
          exact absurd (hnone.symm.trans hbody) (by simp)
        · rename_i found hfound
          obtain rfl := Option.some_inj.mp (hfound.symm.trans hbody)
          rfl
    _ = _ := rfl

/-- What is written for nodes in a row is what the writer gives. -/
theorem Writes.eq_ok {nodes : List Node} {events : List Event} {documents : List Json}
    (h : Writes active pending nodes state events documents final) :
    writeNodes active pending nodes state = (.ok documents, final) := by
  induction h with
  | nil => exact writeNodes_nil_eq_ok.mpr ⟨rfl, rfl⟩
  | composed hcomposes _ _ ihinside ihrest =>
    exact writeNodes_cons_eq_ok.mpr
      ⟨_, _, _, (writeNode_eq_ok hcomposes).mpr ⟨_, ihinside, rfl⟩, ihrest, rfl⟩
  | verbatim _ ihrest =>
    exact writeNodes_cons_eq_ok.mpr ⟨_, _, _, by rw [writeNode]; rfl, ihrest, rfl⟩
  | known hname _ ihrest =>
    exact writeNodes_cons_eq_ok.mpr ⟨_, _, _, writeNode_known hname, ihrest, rfl⟩
  | lifted hunknown hbody hname _ hreferred _ ihinside ihrest =>
    obtain ⟨_, hdocument, heq⟩ := writeNodes_singleton_eq_ok.mp ihinside
    cases heq
    refine writeNodes_cons_eq_ok.mpr ⟨_, _, _, ?_, ihrest, rfl⟩
    rw [writeNode_deferred hunknown hbody, hname, andThen_of_eq_ok hdocument, settle,
      if_pos (List.contains_iff_mem.mpr hreferred)]
  | inlined hunknown hbody hname _ hreferred _ ihinside ihrest =>
    obtain ⟨_, hdocument, heq⟩ := writeNodes_singleton_eq_ok.mp ihinside
    cases heq
    refine writeNodes_cons_eq_ok.mpr ⟨_, _, _, ?_, ihrest, rfl⟩
    rw [writeNode_deferred hunknown hbody, hname, andThen_of_eq_ok hdocument, settle,
      if_neg (by simpa using hreferred)]

/-- Where a node is written at the head of a row, the row is. -/
def Heads (active : Active) (pending : Thunks) (node : Node) : Prop :=
  ∀ ⦃state document between rest others documents final⦄,
    writeNode active pending node state = (.ok document, between) →
      Writes active pending rest between others documents final →
        ∃ events, Writes active pending (node :: rest) state events (document :: documents) final

/-- Nodes that each can be at the head of a row are written in a row. -/
theorem exists_writes_of_heads {nodes : List Node} (h : ∀ node ∈ nodes, Heads active pending node)
    {documents : List Json}
    (hwrite : writeNodes active pending nodes state = (.ok documents, final)) :
    ∃ events, Writes active pending nodes state events documents final := by
  induction nodes generalizing state documents with
  | nil =>
    obtain ⟨rfl, rfl⟩ := writeNodes_nil_eq_ok.mp hwrite
    exact ⟨[], .nil⟩
  | cons node rest ih =>
    obtain ⟨document, others, between, hdocument, hothers, rfl⟩ := writeNodes_cons_eq_ok.mp hwrite
    obtain ⟨events, hevents⟩ := ih (fun other hother => h other (List.mem_cons_of_mem _ hother)) hothers
    exact h node List.mem_cons_self hdocument hevents

/-- A composed node is written at the head of a row where the nodes inside are. -/
theorem heads_composed {node : Node} (hcomposes : node.composes)
    (h : ∀ child ∈ node.children, Heads active pending child) : Heads active pending node := by
  intro state document between rest others documents final hwrite hrest
  obtain ⟨parts, hparts, rfl⟩ := (writeNode_eq_ok hcomposes).mp hwrite
  obtain ⟨inside, hinside⟩ := exists_writes_of_heads h hparts
  exact ⟨_, .composed hcomposes hinside hrest⟩

/-- A deferred node is written at the head of a row where its body is, if that is not known. -/
theorem heads_deferred {thunk : String}
    (h : ∀ body name, Entries.find? thunk pending = some body →
      Heads ((some thunk, name) :: active) (Thunks.without pending thunk) body.value) :
    Heads active pending (.deferred (some thunk)) := by
  intro state document between rest others documents final hwrite hrest
  cases hunknown : knownName active (some thunk) state with
  | some name =>
    rw [writeNode_known hunknown] at hwrite
    cases hwrite
    exact ⟨_, .known hunknown hrest⟩
  | none =>
    cases hbody : Entries.find? thunk pending with
    | none =>
      rw [writeNode_missing hunknown fun _ heq => Option.some_inj.mp heq ▸ hbody] at hwrite
      cases hwrite
    | some body =>
      rw [writeNode_deferred hunknown hbody] at hwrite
      obtain ⟨inner, last, hinner, hsettle⟩ := andThen_eq_ok.mp hwrite
      obtain ⟨inside, hinside⟩ := h body _ hbody hinner .nil
      rw [settle] at hsettle
      split at hsettle <;> cases hsettle
      · rename_i hreferred
        exact ⟨_, .lifted hunknown hbody rfl hinside (List.contains_iff_mem.mp hreferred) hrest⟩
      · rename_i hreferred
        exact ⟨_, .inlined hunknown hbody rfl hinside
          (fun hmem => hreferred (List.contains_iff_mem.mpr hmem)) hrest⟩

/-- Every node is written at the head of a row, where it is written. -/
theorem heads (hsuspended : ∀ entry ∈ active, entry.1 ≠ none) (node : Node) :
    Heads active pending node := by
  -- A body leaves fewer bodies to write, and otherwise the nodes inside are smaller.
  induction hlength : pending.length using Nat.strongRecOn generalizing node active pending with
  | ind length ihpending =>
    induction node using Node.induction_children with
    | step node ihnode =>
      by_cases hcomposes : node.composes
      · exact heads_composed hcomposes ihnode
      · cases node with
        | verbatim document =>
          intro state written between rest others documents final hwrite hrest
          rw [writeNode] at hwrite
          cases hwrite
          exact ⟨_, .verbatim hrest⟩
        | deferred thunk =>
          cases thunk with
          | none =>
            intro state written between rest others documents final hwrite hrest
            have hunknown : knownName active none state = none :=
              Option.or_eq_none_iff.mpr ⟨List.lookup_eq_none_iff.mpr fun entry hentry => by
                simpa using (hsuspended entry hentry).symm, rfl⟩
            rw [writeNode_missing hunknown (by simp)] at hwrite
            cases hwrite
          | some thunk =>
            exact heads_deferred fun body name hbody => ihpending _
              (hlength ▸ Thunks.length_without_lt hbody)
              (List.forall_mem_cons.mpr ⟨by simp, hsuspended⟩) _ rfl
        | unknown =>
          intro state written between rest others documents final hwrite hrest
          rw [writeNode] at hwrite
          cases hwrite
        | _ => exact absurd rfl hcomposes

/-- The writer ends well exactly where documents are written, with some record. -/
theorem writes_iff (hsuspended : ∀ entry ∈ active, entry.1 ≠ none) {nodes : List Node}
    {documents : List Json} :
    writeNodes active pending nodes state = (.ok documents, final) ↔
      ∃ events, Writes active pending nodes state events documents final :=
  ⟨exists_writes_of_heads fun node _ => heads hsuspended node, fun ⟨_, h⟩ => h.eq_ok⟩

end Steps

end JsonSchema.Document
