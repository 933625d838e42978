import JsonSchema.Schema.Reference
import JsonSchema.Thunks
import Mathlib.Logic.Relation

/-!
# What a schema contains

The nodes of a schema are its root, the bodies of its definitions, the bodies that its deferred
nodes are forced to, and all nodes inside those. A requirement on a schema is mostly a requirement
on each node that it contains.

A reference and a deferred node hand a value on to another node without going into the value, and a
combination does so with its members. `Node.links` lists what a node reaches in that way before any
property or item is entered, and a schema is contractive when no link leads back to itself.
-/

namespace JsonSchema

namespace Node

/-- A node of a known kind, with a body if it is deferred. -/
def Known (thunks : Thunks) : Node → Prop
  | .unknown => False
  | .deferred thunk => ∃ name, thunk = some name ∧ (Entries.find? name thunks).isSome
  | _ => True

/-- The names of the properties that a node declares. -/
def propertyNames : Node → List String
  | .object _ properties _ => properties.map (·.name)
  | _ => []

/-- The nodes directly inside a node. -/
def children : Node → List Node
  | .object _ properties _ => properties.map (·.schema)
  | .array _ items _ => items.toList
  | .tuple _ items additional _ => items ++ additional.toList
  | .combined _ _ members => members
  | _ => []

/-- A node inside another one is smaller. -/
theorem sizeOf_lt_of_mem_children {node child : Node} (h : child ∈ node.children) :
    sizeOf child < sizeOf node := by
  cases node with
  | object docs properties count =>
    obtain ⟨property, hmem, rfl⟩ := List.mem_map.mp h
    have hlt := List.sizeOf_lt_of_mem hmem
    obtain ⟨name, schema, required⟩ := property
    simp at hlt ⊢
    omega
  | array docs items length =>
    obtain rfl := Option.mem_toList.mp h
    simp
    omega
  | tuple docs items additional length =>
    rcases List.mem_append.mp h with hitem | hother
    · have hlt := List.sizeOf_lt_of_mem hitem
      simp
      omega
    · obtain rfl := Option.mem_toList.mp hother
      simp
      omega
  | combined docs how members =>
    have hlt : sizeOf child < sizeOf members := List.sizeOf_lt_of_mem h
    simp
    omega
  | _ => simp [children] at h

/-- What holds of a node whenever it holds of the nodes inside holds of every node. -/
@[elab_as_elim]
theorem induction_children {motive : Node → Prop}
    (step : ∀ node, (∀ child ∈ node.children, motive child) → motive node) (node : Node) :
    motive node :=
  step node fun child h =>
    have := sizeOf_lt_of_mem_children h
    induction_children step child
termination_by sizeOf node

end Node

/-- The references in a list of nodes are those of its nodes. -/
theorem mem_listReferences {nodes : List Node} {target : String} :
    target ∈ listReferences nodes ↔ ∃ node ∈ nodes, target ∈ node.references := by
  induction nodes with
  | nil => simp [listReferences]
  | cons node rest ih => simp [listReferences, ih]

/-- The references in properties are those of their schemas. -/
theorem mem_propertyReferences {properties : List (Property Node)} {target : String} :
    target ∈ propertyReferences properties ↔
      ∃ property ∈ properties, target ∈ property.schema.references := by
  induction properties with
  | nil => simp [propertyReferences]
  | cons property rest ih => simp [propertyReferences, ih]

/-- A reference in a node inside another one is a reference in that one. -/
theorem Node.mem_references_of_mem_children {node child : Node} {target : String}
    (hchild : child ∈ node.children) (h : target ∈ child.references) :
    target ∈ node.references := by
  cases node with
  | object docs properties count =>
    obtain ⟨property, hmem, rfl⟩ := List.mem_map.mp hchild
    exact mem_propertyReferences.mpr ⟨property, hmem, h⟩
  | array docs items length =>
    obtain rfl := Option.mem_toList.mp hchild
    simpa [Node.references] using h
  | tuple docs items additional length =>
    cases additional with
    | none => exact mem_listReferences.mpr ⟨child, by simpa [Node.children] using hchild, h⟩
    | some other =>
      rcases List.mem_append.mp hchild with hitem | hother
      · exact List.mem_append_left _ (mem_listReferences.mpr ⟨child, hitem, h⟩)
      · obtain rfl : child = other := by simpa using hother
        exact List.mem_append_right _ h
  | combined docs how members => exact mem_listReferences.mpr ⟨child, hchild, h⟩
  | _ => simp [Node.children] at hchild

/-- The references in a node are its own or those in the nodes inside. -/
theorem Node.mem_references_iff {node : Node} {target : String} :
    target ∈ node.references ↔
      (∃ docs, node = .reference docs target) ∨ ∃ child ∈ node.children, target ∈ child.references := by
  constructor
  · intro h
    cases node with
    | reference docs other =>
      obtain rfl := List.mem_singleton.mp h
      exact .inl ⟨docs, rfl⟩
    | object docs properties count =>
      obtain ⟨property, hmem, h⟩ := mem_propertyReferences.mp h
      exact .inr ⟨_, List.mem_map_of_mem hmem, h⟩
    | array docs items length =>
      cases items with
      | none => simp [references] at h
      | some items => exact .inr ⟨items, List.mem_singleton_self _, h⟩
    | tuple docs items additional length =>
      cases additional with
      | none =>
        obtain ⟨child, hmem, h⟩ := mem_listReferences.mp h
        exact .inr ⟨child, by simp [children, hmem], h⟩
      | some other =>
        rcases List.mem_append.mp h with h | h
        · obtain ⟨child, hmem, h⟩ := mem_listReferences.mp h
          exact .inr ⟨child, by simp [children, hmem], h⟩
        · exact .inr ⟨other, by simp [children], h⟩
    | combined docs how members =>
      obtain ⟨child, hmem, h⟩ := mem_listReferences.mp h
      exact .inr ⟨child, hmem, h⟩
    | _ => simp [references] at h
  · rintro (⟨docs, rfl⟩ | ⟨child, hchild, h⟩)
    · exact List.mem_singleton_self _
    · exact Node.mem_references_of_mem_children hchild h

/-- The nodes of a schema, with the bodies that its deferred nodes are forced to. -/
inductive Schema.Contains (schema : Schema) (thunks : Thunks) : Node → Prop
  | root : Contains schema thunks schema.root
  | definition {name : String} {body : Node} (h : (name, body) ∈ schema.definitions) :
      Contains schema thunks body
  | child {node child : Node} (hnode : Contains schema thunks node) (h : child ∈ node.children) :
      Contains schema thunks child
  | forced {thunk : String} {body : Noted Node}
      (hnode : Contains schema thunks (.deferred (some thunk)))
      (h : Entries.find? thunk thunks = some body) : Contains schema thunks body.value

/-- Nodes that hold the root, all bodies and their own children are all that a schema contains. -/
theorem Schema.Contains.mem_of_closed {schema : Schema} {thunks : Thunks} {nodes : List Node}
    (hroot : schema.root ∈ nodes) (hdefinitions : ∀ entry ∈ schema.definitions, entry.2 ∈ nodes)
    (hthunks : ∀ entry ∈ thunks, entry.2.value ∈ nodes)
    (hchildren : ∀ node ∈ nodes, ∀ child ∈ node.children, child ∈ nodes) {node : Node}
    (h : schema.Contains thunks node) : node ∈ nodes := by
  induction h with
  | root => exact hroot
  | definition hmem => exact hdefinitions _ hmem
  | child _ hmem ih => exact hchildren _ ih _ hmem
  | forced _ hbody => exact hthunks _ (Entries.mem_of_find? hbody)

/-- What leads from a node to another node for the same value. -/
inductive Link where
  | reference (target : String)
  | deferred (thunk : String)
deriving DecidableEq

namespace Link

/-- The node that a link leads to. -/
def body? (definitions : Definitions) (thunks : Thunks) : Link → Option Node
  | .reference target => definitions.resolve? target
  | .deferred thunk => (Entries.find? thunk thunks).map (·.value)

end Link

mutual

/-- The references and deferred nodes that are met before a property or an item is entered. -/
def Node.links : Node → List Link
  | .reference _ target => [.reference target]
  | .deferred (some thunk) => [.deferred thunk]
  | .combined _ _ members => listLinks members
  | _ => []

/-- The links of nodes. -/
def listLinks : List Node → List Link
  | [] => []
  | node :: rest => node.links ++ listLinks rest

end

/-- The links of a list of nodes are those of its nodes. -/
theorem mem_listLinks {nodes : List Node} {link : Link} :
    link ∈ listLinks nodes ↔ ∃ node ∈ nodes, link ∈ node.links := by
  induction nodes with
  | nil => simp [listLinks]
  | cons node rest ih => simp [listLinks, ih]

/-- A reference that is met at once is a reference in the node. -/
theorem Node.mem_references_of_mem_links {node : Node} {target : String}
    (h : .reference target ∈ node.links) : target ∈ node.references := by
  induction node using Node.induction_children with
  | step node ih =>
    cases node with
    | reference docs other => simpa [Node.links, Node.references] using h
    | deferred thunk => cases thunk <;> simp [Node.links] at h
    | combined docs how members =>
      obtain ⟨member, hmember, hlink⟩ := mem_listLinks.mp h
      exact mem_listReferences.mpr ⟨member, hmember, ih member hmember hlink⟩
    | _ => simp [Node.links] at h

/-- A link leads to the links of its node. -/
def Link.Leads (definitions : Definitions) (thunks : Thunks) (a b : Link) : Prop :=
  ∃ body, a.body? definitions thunks = some body ∧ b ∈ body.links

/-- A node reaches its links and all that they lead to. -/
def Node.Reaches (definitions : Definitions) (thunks : Thunks) (node : Node) (link : Link) : Prop :=
  ∃ first ∈ node.links, Relation.ReflTransGen (Link.Leads definitions thunks) first link

namespace Schema

/-- Every cycle of references and deferred nodes passes through a property or an item. -/
def Contractive (schema : Schema) (thunks : Thunks) : Prop :=
  ∀ node, schema.Contains thunks node → ∀ link ∈ node.links,
    ¬ Relation.TransGen (Link.Leads schema.definitions thunks) link link

/-- Every cycle of deferred nodes alone passes through a property or an item. -/
def LazilyContractive (schema : Schema) (thunks : Thunks) : Prop :=
  ∀ node, schema.Contains thunks node → ∀ link ∈ node.links,
    ¬ Relation.TransGen (Link.Leads [] thunks) link link

/-- A schema is contractive where links lead to links of a lower rank. -/
theorem contractive_of_rank {schema : Schema} {thunks : Thunks} (rank : Link → Nat)
    (h : ∀ first next, Link.Leads schema.definitions thunks first next → rank next < rank first) :
    schema.Contractive thunks := by
  intro node _ link _ hcycle
  have hrank : ∀ last, Relation.TransGen (Link.Leads schema.definitions thunks) link last →
      rank last < rank link := by
    intro last hpath
    induction hpath with
    | single hleads => exact h _ _ hleads
    | tail _ hleads ih => exact Nat.lt_trans (h _ _ hleads) ih
  exact Nat.lt_irrefl _ (hrank link hcycle)

/-- A schema is contractive where no reference and no deferred node leads to another one. -/
theorem contractive_of_links_eq_nil {schema : Schema} {thunks : Thunks}
    (hdefinitions : ∀ entry ∈ schema.definitions, entry.2.links = [])
    (hthunks : ∀ entry ∈ thunks, entry.2.value.links = []) : schema.Contractive thunks := by
  refine contractive_of_rank (fun _ => 0) ?_
  rintro (target | thunk) next ⟨body, hbody, hnext⟩
  · have hnil : body.links = [] := hdefinitions _ (Entries.mem_of_find? hbody)
    simp [hnil] at hnext
  · obtain ⟨found, hfound, rfl⟩ := Option.map_eq_some_iff.mp hbody
    have hnil : found.value.links = [] := hthunks _ (Entries.mem_of_find? hfound)
    simp [hnil] at hnext

end Schema

end JsonSchema
