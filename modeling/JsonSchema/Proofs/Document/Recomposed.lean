import JsonSchema.Proofs.Document.Represent
import JsonSchema.Proofs.Validation.Traces
import JsonSchema.Validation.Check

/-!
# Checks of recomposed nodes

A node that is put together again asks the same of a value itself, and it has schemas for the same
parts of the value. So its check differs only as the checks of these parts do. A schema that a null
document stands for is not read, and may only be left out where it asks nothing.
-/

namespace JsonSchema.Document

variable {check check' : Node → Json → Trace}

/-- The trace of parts that are checked one by one. -/
def partsTrace (check : Node → Json → Trace) (parts : List Check.Part) : Trace :=
  parts.flatMap fun part => (check part.node part.value).under part.segment

/-- No parts leave no trace. -/
@[simp] theorem partsTrace_nil : partsTrace check [] = [] := rfl

/-- The first part leaves its trace under its segment, before the others. -/
@[simp] theorem partsTrace_cons (part : Check.Part) (rest : List Check.Part) :
    partsTrace check (part :: rest) =
      (check part.node part.value).under part.segment ++ partsTrace check rest := List.flatMap_cons

/-- Properties with other schemas are checked as they were where each schema is. -/
theorem partsTrace_propertyParts {properties : List (Property Node)} {nodes : List Node}
    {members : Entries Json} (hlength : nodes.length = properties.length)
    (h : ∀ part ∈ Check.propertyParts properties members, ∀ node,
      (part.node, node) ∈ (properties.map (·.schema)).zip nodes →
        check' node part.value = check part.node part.value) :
    partsTrace check' (Check.propertyParts
        (properties.zipWith (fun property node => { property with schema := node }) nodes) members) =
      partsTrace check (Check.propertyParts properties members) := by
  induction properties generalizing nodes with
  | nil => simp [Check.propertyParts]
  | cons property rest ih =>
    cases nodes with
    | nil => cases hlength
    | cons node others =>
      simp only [Check.propertyParts, List.zipWith_cons_cons, List.filterMap_cons] at h ih ⊢
      cases hvalue : Entries.find? property.name members with
      | none =>
        simp only [hvalue, Option.map_none] at h ⊢
        exact ih (Nat.succ.inj hlength) fun part hpart node' hpair =>
          h part hpart node' (List.mem_cons_of_mem _ hpair)
      | some value =>
        simp only [hvalue, Option.map_some, partsTrace_cons] at h ⊢
        have hhead := h ⟨property.name, property.schema, value⟩ List.mem_cons_self node
          List.mem_cons_self
        have htail := ih (Nat.succ.inj hlength) fun part hpart node' hpair =>
          h part (List.mem_cons_of_mem _ hpart) node' (List.mem_cons_of_mem _ hpair)
        rw [htail]
        exact congrArg (·.under property.name ++ _) hhead

/-- Items with other schemas are checked as they were where each schema is; a schema for the other
items may be left out where it asks nothing. -/
theorem partsTrace_itemParts {nodes others : List Node} {additional other : Option Node}
    {index : Nat} {items : List Json} (hlength : others.length = nodes.length)
    (hnone : additional = none → other = none)
    (hitem : ∀ part ∈ Check.itemParts nodes additional index items, ∀ node,
      (part.node, node) ∈ nodes.zip others → check' node part.value = check part.node part.value)
    (hother : ∀ part ∈ Check.itemParts nodes additional index items, additional = some part.node →
      (other.elim [] fun node => check' node part.value) = check part.node part.value) :
    partsTrace check' (Check.itemParts others other index items) =
      partsTrace check (Check.itemParts nodes additional index items) := by
  induction items generalizing nodes others index with
  | nil => simp [Check.itemParts]
  | cons item items ih =>
    cases nodes with
    | cons node nodes =>
      cases others with
      | nil => cases hlength
      | cons node' others =>
        simp only [Check.itemParts, partsTrace_cons] at hitem hother ⊢
        have hhead := hitem ⟨Pointer.index index, node, item⟩ List.mem_cons_self node'
          List.mem_cons_self
        have htail := ih (Nat.succ.inj hlength)
          (fun part hpart node hpair =>
            hitem part (List.mem_cons_of_mem _ hpart) node (List.mem_cons_of_mem _ hpair))
          fun part hpart => hother part (List.mem_cons_of_mem _ hpart)
        rw [htail]
        exact congrArg (·.under (Pointer.index index) ++ _) hhead
    | nil =>
      obtain rfl := List.eq_nil_of_length_eq_zero hlength
      cases additional with
      | none =>
        obtain rfl := hnone rfl
        rfl
      | some node =>
        simp only [Check.itemParts, partsTrace_cons] at hitem hother ⊢
        have hhead := hother ⟨Pointer.index index, node, item⟩ List.mem_cons_self rfl
        have htail := ih hlength
          (fun part (hpart : part ∈ Check.itemParts [] (some node) (index + 1) items) node
            hpair => by simp at hpair)
          fun part hpart => hother part (List.mem_cons_of_mem _ hpart)
        rw [← htail, ← hhead]
        cases other with
        | none => cases items <;> rfl
        | some node' => simp [Check.itemParts]

/-- What is read of a schema that may be absent is nothing or one node. -/
theorem toList_head?_present {α : Type} (f : Json → α) (part : Option Json) :
    ((present part).map f).head?.toList = (present part).map f := by
  unfold present
  generalize part.filter _ = found
  cases found <;> rfl

/-- The first documents of a tuple that are read are those of its items. -/
theorem take_readable {docs : Documentation} {items : List Node} {additional : Option Node}
    {length : Bounds Int} {parts : List Json} (hlength : items.length ≤ parts.length) {α : Type}
    (f : Json → α) :
    ((readable (.tuple docs items additional length) parts).map f).take items.length =
      (parts.take items.length).map f := by
  rw [readable, List.map_append, List.take_left' (by simp [hlength])]

/-- The other document of a tuple that is read is the one for its other items. -/
theorem drop_readable {docs : Documentation} {items : List Node} {additional : Option Node}
    {length : Bounds Int} {parts : List Json} (hlength : items.length ≤ parts.length) {α : Type}
    (f : Json → α) :
    ((readable (.tuple docs items additional length) parts).map f).drop items.length =
      (present (parts.drop items.length).head?).map f := by
  rw [readable, List.map_append, List.drop_left' (by simp [hlength])]

/-- The nodes that a node is put together from are those inside it. -/
theorem children_recompose {node : Node} {parts : List Json} (hcomposes : node.composes)
    (hlength : parts.length = node.children.length) (f : Json → Node) :
    (recompose node ((readable node parts).map f)).children = (readable node parts).map f := by
  cases node with
  | object docs properties count =>
    have hparts : (parts.map f).length ≤ properties.length := by
      simpa [Node.children] using Nat.le_of_eq hlength
    simp only [recompose, readable, Node.children, List.map_zipWith]
    rw [← List.map_uncurry_zip_eq_zipWith]
    exact List.map_snd_zip hparts
  | array docs items length => exact toList_head?_present f _
  | tuple docs items additional length =>
    have hitems : items.length ≤ parts.length := by simp [hlength, Node.children]
    rw [recompose, Node.children, take_readable hitems, drop_readable hitems,
      toList_head?_present]
    simp [readable]
  | combined docs how members => rfl
  | deferred thunk => simp [Node.composes] at hcomposes
  | verbatim document => simp [Node.composes] at hcomposes
  | unknown => simp [Node.composes] at hcomposes
  | _ =>
    obtain rfl := List.eq_nil_of_length_eq_zero hlength
    rfl

/-- What an object misses depends on the names of its properties. -/
theorem missingTrace_zipWith {properties : List (Property Node)} {nodes : List Node}
    (hlength : nodes.length = properties.length) (members : Entries Json) :
    Check.missingTrace
        (properties.zipWith (fun property node => { property with schema := node }) nodes) members =
      Check.missingTrace properties members := by
  induction properties generalizing nodes with
  | nil => simp [Check.missingTrace]
  | cons property rest ih =>
    cases nodes with
    | nil => cases hlength
    | cons node others =>
      have htail := ih (Nat.succ.inj hlength)
      simp only [Check.missingTrace, List.zipWith_cons_cons, List.filter_cons] at htail ⊢
      split <;> simp [htail]

/-- What a node asks of the value itself does not depend on the nodes inside. -/
theorem ownTrace_recompose {node : Node} {parts : List Json} {strictness : Strictness} {value : Json}
    (hlength : parts.length = node.children.length) (f : Json → Node) :
    Check.ownTrace strictness (recompose node ((readable node parts).map f)) value =
      Check.ownTrace strictness node value := by
  cases node with
  | object docs properties count =>
    cases value with
    | object members =>
      have hnodes : (parts.map f).length = properties.length := by
        simpa [Node.children] using hlength
      have hmissing := missingTrace_zipWith hnodes members
      simp [recompose, readable, Check.ownTrace, hmissing]
    | _ => rfl
  | string docs rules => cases value <;> rfl
  | _ => cases value <;> rfl

/-- A schema that may be absent is checked as what is read of it, where null asks nothing. -/
theorem elim_present {f : Json → Node} {node : Node} {value : Json} {documents : List Json}
    (hlength : documents.length = 1)
    (h : ∀ document ∈ documents, document ≠ .null → check' (f document) value = check node value)
    (hnull : .null ∈ documents → check node value = []) :
    ((((present documents.head?).map f).head?).elim [] fun node => check' node value) =
      check node value := by
  obtain ⟨document, rfl⟩ := List.length_eq_one_iff.mp hlength
  cases document with
  | null => exact (hnull List.mem_cons_self).symm
  | _ => exact h _ List.mem_cons_self (by simp)

/-- The document of a schema that may be absent is read where it is not null. -/
theorem mem_present {documents : List Json} {document : Json} (hlength : documents.length = 1)
    (hmem : document ∈ documents) (hnull : document ≠ .null) :
    document ∈ present documents.head? := by
  obtain ⟨other, rfl⟩ := List.length_eq_one_iff.mp hlength
  obtain rfl := List.mem_singleton.mp hmem
  cases document with
  | null => exact absurd rfl hnull
  | _ => exact List.mem_singleton_self _

/-- The items of a tuple are checked as they were where each schema is; a schema for the other items
with a null document may be left out where it asks nothing. -/
theorem partsTrace_recompose_tuple {check check' : Node → Json → Trace} {f : Json → Node}
    {items : List Node} {additional : Option Node} {first rest values : List Json} {index : Nat}
    (hfirst : items.length = first.length) (hrest : rest.length = additional.toList.length)
    (h : ∀ part ∈ Check.itemParts items additional index values,
      ∀ document ∈ first ++ present rest.head?,
        (part.node, document) ∈ items.zip first ++ additional.toList.zip rest →
          check' (f document) part.value = check part.node part.value)
    (hnull : ∀ part ∈ Check.itemParts items additional index values,
      (part.node, .null) ∈ items.zip first ++ additional.toList.zip rest →
        check part.node part.value = []) :
    partsTrace check' (Check.itemParts (first.map f) ((present rest.head?).map f).head? index values) =
      partsTrace check (Check.itemParts items additional index values) := by
  refine partsTrace_itemParts (by simp [hfirst]) (fun hnone => ?_) ?_ ?_
  · subst hnone
    obtain rfl := List.eq_nil_of_length_eq_zero hrest
    rfl
  · intro part hpart node' hpair
    rw [List.zip_map_right] at hpair
    obtain ⟨⟨child, document⟩, hmem, heq⟩ := List.mem_map.mp hpair
    cases heq
    exact h part hpart document (List.mem_append_left _ (List.of_mem_zip hmem).2)
      (List.mem_append_left _ hmem)
  · intro part hpart hsome
    subst hsome
    have hpair : ∀ document ∈ rest, (part.node, document) ∈ [part.node].zip rest := by
      obtain ⟨document, rfl⟩ := List.length_eq_one_iff.mp hrest
      simp
    exact elim_present hrest
      (fun document hmem hnot => h part hpart document
        (List.mem_append_right _ (mem_present hrest hmem hnot))
        (List.mem_append_right _ (hpair document hmem)))
      fun hmem => hnull part hpart (List.mem_append_right _ (hpair _ hmem))

/-- The parts of a value are checked as they were where each schema is; a schema with a null document
may be left out where it asks nothing. -/
theorem partsTrace_recompose (check check' : Node → Json → Trace) (f : Json → Node) {node : Node}
    {parts : List Json} {value : Json} (hcomposes : node.composes)
    (hlength : parts.length = node.children.length)
    (h : ∀ part ∈ Check.parts node value, ∀ document ∈ readable node parts,
      (part.node, document) ∈ node.children.zip parts →
        check' (f document) part.value = check part.node part.value)
    (hnull : ∀ part ∈ Check.parts node value, (part.node, .null) ∈ node.children.zip parts →
      check part.node part.value = []) :
    partsTrace check' (Check.parts (recompose node ((readable node parts).map f)) value) =
      partsTrace check (Check.parts node value) := by
  cases node with
  | object docs properties count =>
    cases value with
    | object members =>
      refine partsTrace_propertyParts (by simpa [Node.children, readable] using hlength)
        fun part hpart node' hpair => ?_
      change (part.node, node') ∈ (properties.map (·.schema)).zip (parts.map f) at hpair
      rw [List.zip_map_right] at hpair
      obtain ⟨⟨child, document⟩, hmem, heq⟩ := List.mem_map.mp hpair
      cases heq
      exact h part hpart document (List.of_mem_zip hmem).2 hmem
    | _ => rfl
  | array docs items length =>
    cases value with
    | array values =>
      exact @partsTrace_recompose_tuple check check' f [] items [] parts values 0 rfl hlength h hnull
    | _ => rfl
  | tuple docs items additional length =>
    cases value with
    | array values =>
      obtain ⟨first, rest, rfl, hfirst⟩ : ∃ first rest : List Json, parts = first ++ rest ∧
          items.length = first.length :=
        ⟨_, _, (List.take_append_drop items.length parts).symm,
          by simp [hlength, Node.children]⟩
      have hrest : rest.length = additional.toList.length := by
        simpa [Node.children, hfirst] using hlength
      have hzip : (items ++ additional.toList).zip (first ++ rest) =
          items.zip first ++ additional.toList.zip rest := List.zip_append hfirst
      have hread : readable (.tuple docs items additional length) (first ++ rest) =
          first ++ present rest.head? := by simp [readable, hfirst]
      rw [Node.children, hzip] at h hnull
      rw [hread] at h ⊢
      have hnodes : recompose (.tuple docs items additional length)
          ((first ++ present rest.head?).map f) = .tuple docs (first.map f)
            ((present rest.head?).map f).head? length := by
        simp [recompose, hfirst]
      rw [hnodes]
      exact partsTrace_recompose_tuple hfirst hrest h hnull
    | _ => rfl
  | combined docs how members => cases value <;> rfl
  | deferred thunk => simp [Node.composes] at hcomposes
  | verbatim document => simp [Node.composes] at hcomposes
  | unknown => simp [Node.composes] at hcomposes
  | _ => cases value <;> rfl

end JsonSchema.Document
