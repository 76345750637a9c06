import WordGrid.Grammar.Binding
import WordGrid.Grammar.Declaration
import WordGrid.Grammar.Generics

/-!
# What lies inside a node

`node.Inside root` says that a node is the root or lies below it, and `node.Below root` that it
lies strictly below. Every question that is asked of a node is answered by nodes below it or by
their texts: this module goes through the questions in the order of the grammar. A node below
another one is less high, which is what makes reading a type end.
-/

namespace WordGrid

namespace Node

/-- The node is the root or lies below it. -/
inductive Inside : Node → Node → Prop where
  | self (root : Node) : Inside root root
  | child {node parent root : Node} :
      node ∈ parent.children → Inside parent root → Inside node root

/-- The node lies below the root. -/
def Below (node root : Node) : Prop :=
  ∃ child ∈ root.children, node.Inside child

/-- What lies inside a node lies inside every node that this one lies inside. -/
theorem Inside.trans {node middle root : Node} (h : node.Inside middle)
    (hroot : middle.Inside root) : node.Inside root := by
  induction h with
  | self => exact hroot
  | child hmem _ ih => exact .child hmem (ih hroot)

/-- A node below the root lies inside it. -/
theorem Below.inside {node root : Node} (h : node.Below root) : node.Inside root := by
  obtain ⟨child, hmem, hinside⟩ := h
  exact hinside.trans (.child hmem (.self root))

/-- What lies inside a node below the root lies below the root. -/
theorem Inside.trans_below {node middle root : Node} (h : node.Inside middle)
    (hroot : middle.Below root) : node.Below root := by
  obtain ⟨child, hmem, hinside⟩ := hroot
  exact ⟨child, hmem, h.trans hinside⟩

/-- What lies below a node below the root lies below the root. -/
theorem Below.trans {node middle root : Node} (h : node.Below middle)
    (hroot : middle.Below root) : node.Below root :=
  h.inside.trans_below hroot

/-- A child lies below its parent. -/
theorem below_of_mem_children {node root : Node} (hmem : node ∈ root.children) :
    node.Below root :=
  ⟨node, hmem, .self node⟩

/-- A node inside the root is the root or lies below it. -/
theorem Inside.eq_or_below {node root : Node} (h : node.Inside root) :
    node = root ∨ node.Below root := by
  induction h with
  | self => exact .inl rfl
  | child hmem _ ih =>
      rcases ih with rfl | hbelow
      · exact .inr (below_of_mem_children hmem)
      · exact .inr ((below_of_mem_children hmem).trans hbelow)

/-! ## Heights -/

/-- A node in a list is at most as high as the list. -/
theorem height_le_heights {node : Node} {nodes : List Node} (hmem : node ∈ nodes) :
    node.height ≤ heights nodes := by
  induction nodes with
  | nil => simp at hmem
  | cons first rest ih =>
      rw [heights]
      rcases List.mem_cons.mp hmem with rfl | hrest
      · exact Nat.le_max_left _ _
      · exact Nat.le_trans (ih hrest) (Nat.le_max_right _ _)

/-- A child is less high than its parent. -/
theorem height_lt_of_mem_children {node child : Node} (hmem : child ∈ node.children) :
    child.height < node.height := by
  obtain ⟨label, children⟩ := node
  rw [height]
  exact Nat.lt_succ_of_le (height_le_heights hmem)

/-- A node inside the root is at most as high as the root. -/
theorem Inside.height_le {node root : Node} (h : node.Inside root) :
    node.height ≤ root.height := by
  induction h with
  | self => exact Nat.le_refl _
  | child hmem _ ih => exact Nat.le_trans (Nat.le_of_lt (height_lt_of_mem_children hmem)) ih

/-- A node below the root is less high than the root. -/
theorem Below.height_lt {node root : Node} (h : node.Below root) : node.height < root.height := by
  obtain ⟨child, hmem, hinside⟩ := h
  exact Nat.lt_of_le_of_lt hinside.height_le (height_lt_of_mem_children hmem)

/-- Every node has a positive height. -/
theorem height_pos (node : Node) : 0 < node.height := by
  obtain ⟨label, children⟩ := node
  rw [height]
  exact Nat.succ_pos _

/-! ## Children -/

theorem below_of_mem_namedChildren {node root : Node} (hmem : node ∈ root.namedChildren) :
    node.Below root :=
  below_of_mem_children (List.mem_filter.mp hmem).1

theorem below_of_mem_namedOf {kinds : List String} {node root : Node}
    (hmem : node ∈ root.namedOf kinds) : node.Below root :=
  below_of_mem_namedChildren (List.mem_filter.mp hmem).1

theorem below_of_firstNamedOf? {kinds : List String} {node root : Node}
    (h : root.firstNamedOf? kinds = some node) : node.Below root :=
  below_of_mem_namedChildren (List.mem_of_find?_eq_some h)

theorem below_of_fieldChild? {role : String} {node root : Node}
    (h : root.fieldChild? role = some node) : node.Below root := by
  obtain ⟨positions, _, h⟩ := Option.bind_eq_some_iff.mp h
  obtain ⟨position, _, h⟩ := Option.bind_eq_some_iff.mp h
  exact below_of_mem_children (List.mem_of_getElem? h)

theorem below_of_mem_wrappedTypes {node root : Node} (hmem : node ∈ root.wrappedTypes) :
    node.Below root :=
  below_of_mem_namedChildren (List.mem_filter.mp hmem).1

theorem below_of_firstType? {node root : Node} (h : root.firstType? = some node) :
    node.Below root :=
  below_of_mem_namedChildren (List.mem_of_find?_eq_some h)

end Node

/-! ## Types -/

/-- A component has its name from one of the nodes it was read from, and its arguments are types
wrapped by such nodes. -/
theorem Component.of_mem_ofNodes {component : Component} {nodes : List Node}
    (hmem : component ∈ Component.ofNodes nodes) :
    (∃ node ∈ nodes, node.text = component.name) ∧
      ∀ type ∈ component.arguments, ∃ list ∈ nodes, type ∈ list.wrappedTypes := by
  induction nodes with
  | nil => simp [Component.ofNodes] at hmem
  | cons first rest ih =>
      have htail (hrest : component ∈ Component.ofNodes rest) :
          (∃ node ∈ first :: rest, node.text = component.name) ∧
            ∀ type ∈ component.arguments, ∃ list ∈ first :: rest, type ∈ list.wrappedTypes := by
        obtain ⟨⟨node, hnode, hname⟩, harguments⟩ := ih hrest
        refine ⟨⟨node, List.mem_cons_of_mem _ hnode, hname⟩, fun type htype => ?_⟩
        obtain ⟨list, hlist, hwrapped⟩ := harguments type htype
        exact ⟨list, List.mem_cons_of_mem _ hlist, hwrapped⟩
      rw [Component.ofNodes] at hmem
      split at hmem
      · rcases List.mem_cons.mp hmem with rfl | hrest
        · refine ⟨⟨first, List.mem_cons_self, rfl⟩, fun type htype => ?_⟩
          simp only [List.mem_flatMap, List.mem_filter] at htype
          obtain ⟨list, ⟨hlist, _⟩, hwrapped⟩ := htype
          exact ⟨list, List.mem_cons_of_mem _ ((List.takeWhile_sublist _).subset hlist), hwrapped⟩
        · exact htail hrest
      · exact htail hmem

namespace Node

/-- The name of a component is the text of a node below. -/
theorem name_of_mem_components {root : Node} {component : Component}
    (hmem : component ∈ root.components) :
    ∃ node : Node, node.Below root ∧ node.text = component.name := by
  obtain ⟨⟨node, hnode, hname⟩, _⟩ := Component.of_mem_ofNodes hmem
  exact ⟨node, below_of_mem_namedChildren hnode, hname⟩

theorem below_of_mem_components {root type : Node} {component : Component}
    (hmem : component ∈ root.components) (htype : type ∈ component.arguments) :
    type.Below root := by
  obtain ⟨list, hlist, hwrapped⟩ := (Component.of_mem_ofNodes hmem).2 type htype
  exact (below_of_mem_wrappedTypes hwrapped).trans (below_of_mem_namedChildren hlist)

/-- What `firstMarked?` finds is one of the nodes it searched. -/
theorem mem_of_firstMarked? {accept : Node → Bool} {nodes : List Node} {node : Node} {marked : Bool}
    (h : firstMarked? accept nodes = some (node, marked)) : node ∈ nodes := by
  induction nodes with
  | nil => simp [firstMarked?] at h
  | cons first rest ih =>
      rw [firstMarked?] at h
      split at h
      · obtain ⟨rfl, _⟩ := Prod.mk.inj (Option.some.inj h)
        exact List.mem_cons_self
      · exact List.mem_cons_of_mem _ (ih h)

theorem below_of_slot? {root : Node} {slot : TypeSlot} (h : root.slot? = some slot) :
    slot.node.Below root := by
  obtain ⟨⟨type, marked⟩, hfirst, rfl⟩ := Option.map_eq_some_iff.mp h
  exact below_of_mem_children (mem_of_firstMarked? hfirst)

/-- The children after a token are children. -/
theorem mem_children_of_mem_childrenAfter {token : String} {node root : Node}
    (hmem : node ∈ root.childrenAfter token) : node ∈ root.children :=
  (List.dropWhile_sublist _).subset (List.mem_of_mem_drop hmem)

theorem below_of_slotAfter? {token : String} {root : Node} {slot : TypeSlot}
    (h : root.slotAfter? token = some slot) : slot.node.Below root := by
  obtain ⟨⟨type, marked⟩, hfirst, rfl⟩ := Option.map_eq_some_iff.mp h
  exact below_of_mem_children (mem_children_of_mem_childrenAfter (mem_of_firstMarked? hfirst))

/-- The entries of a list of nodes are among them. -/
theorem mem_of_mem_entries {afterEquals : Bool} {nodes : List Node} {entry : Node × Bool}
    (hmem : entry ∈ entries afterEquals nodes) : entry.1 ∈ nodes := by
  induction nodes generalizing afterEquals with
  | nil => simp [entries] at hmem
  | cons first rest ih =>
      rw [entries] at hmem
      split at hmem
      · exact List.mem_cons_of_mem _ (ih hmem)
      · split at hmem
        · exact List.mem_cons_of_mem _ (ih hmem)
        · rcases List.mem_cons.mp hmem with rfl | hrest
          · exact List.mem_cons_self
          · exact List.mem_cons_of_mem _ (ih hrest)

theorem below_of_mem_elementSlots {root : Node} {slot : TypeSlot}
    (hmem : some slot ∈ root.elementSlots) : slot.node.Below root := by
  obtain ⟨entry, hentry, hslot⟩ := List.mem_filterMap.mp hmem
  have hchild : entry.1.Below root := below_of_mem_children (mem_of_mem_entries hentry)
  unfold entrySlot? at hslot
  split at hslot
  · exact (below_of_slot? (Option.some.inj hslot)).trans hchild
  · split at hslot
    · obtain rfl := Option.some.inj (Option.some.inj hslot)
      exact hchild
    · simp at hslot

theorem below_of_functionSlots? {root : Node} {slots : List (Option TypeSlot)} {slot : TypeSlot}
    (h : root.functionSlots? = some slots) (hmem : some slot ∈ slots) : slot.node.Below root := by
  obtain ⟨holder, hholder, h⟩ := Option.bind_eq_some_iff.mp h
  have hchild : holder.Below root :=
    below_of_mem_children ((List.takeWhile_sublist _).subset (List.mem_of_find?_eq_some hholder))
  unfold heldSlots? at h
  split at h
  · obtain rfl := Option.some.inj h
    exact (below_of_mem_elementSlots hmem).trans hchild
  · split at h
    · obtain rfl := Option.some.inj h
      obtain rfl := Option.some.inj (List.mem_singleton.mp hmem)
      exact hchild
    · simp at h

theorem below_of_functionResult? {root result : Node} (h : root.functionResult? = some result) :
    result.Below root :=
  below_of_mem_children (mem_children_of_mem_childrenAfter (List.mem_of_find?_eq_some h))

/-! ## Generic parameters and constraints -/

/-- A generic parameter has its name and its bound from nodes below. -/
theorem of_mem_genericParameters {root : Node} {parameter : GenericParameter}
    (hmem : parameter ∈ root.genericParameters) :
    (∃ node : Node, node.Below root ∧ node.text = parameter.name) ∧
      ∀ bound, parameter.bound = some bound → bound.Below root := by
  unfold genericParameters at hmem
  split at hmem
  · simp at hmem
  · next list hlist =>
    obtain ⟨node, hnode, hparameter⟩ := List.mem_filterMap.mp hmem
    obtain ⟨name, hname, hparameter⟩ := Option.bind_eq_some_iff.mp hparameter
    obtain rfl := Option.some.inj hparameter
    have hbelow : node.Below root :=
      (below_of_mem_namedOf hnode).trans (below_of_firstNamedOf? hlist)
    refine ⟨⟨name, (below_of_firstNamedOf? hname).trans hbelow, rfl⟩, fun bound hbound => ?_⟩
    exact (below_of_firstType? hbound).trans hbelow

theorem below_of_mem_clauseConstraints {clause constraint : Node}
    (hmem : constraint ∈ clause.clauseConstraints) : constraint.Below clause := by
  obtain ⟨child, hchild, hconstraint⟩ := List.mem_flatMap.mp hmem
  have hbelow : child.Below clause := below_of_mem_namedChildren hchild
  split at hconstraint
  · exact (below_of_mem_namedChildren (List.mem_filter.mp hconstraint).1).trans hbelow
  · split at hconstraint
    · exact List.mem_singleton.mp hconstraint ▸ hbelow
    · simp at hconstraint

theorem below_of_mem_whereConstraints {root constraint : Node}
    (hmem : constraint ∈ root.whereConstraints) : constraint.Below root := by
  obtain ⟨clause, hclause, hconstraint⟩ := List.mem_flatMap.mp hmem
  refine (below_of_mem_clauseConstraints hconstraint).trans ?_
  rcases List.mem_append.mp hclause with hinner | houter
  · split at hinner
    · next list hlist => exact (below_of_mem_namedOf hinner).trans (below_of_firstNamedOf? hlist)
    · simp at hinner
  · exact below_of_mem_namedOf houter

/-- Both sides of a constraint lie below it. -/
theorem below_of_mem_constraintParts {root node : Node}
    (hmem : node ∈ root.constraintParts.left ∨ node ∈ root.constraintParts.right) :
    node.Below root := by
  unfold constraintParts at hmem
  split at hmem
  · rcases hmem with hleft | hright
    · exact below_of_mem_children
        ((List.takeWhile_sublist _).subset (List.mem_filter.mp hleft).1)
    · exact below_of_mem_children
        ((List.dropWhile_sublist _).subset (List.mem_of_mem_drop (List.mem_filter.mp hright).1))
  · simp at hmem

theorem mem_of_soleName? {nodes : List Node} {name : Node} (h : soleName? nodes = some name) :
    name ∈ nodes := by
  unfold soleName? at h
  split at h
  · split at h
    · exact Option.some.inj h ▸ List.mem_singleton_self _
    · cases h
  · cases h

/-- The name on the left of a constraint is the text of a node inside one of the nodes there. -/
theorem text_of_constrainedName? {nodes : List Node} {name : String}
    (h : constrainedName? nodes = some name) :
    ∃ side ∈ nodes, ∃ node : Node, node.Inside side ∧ node.text = name := by
  obtain ⟨node, hnode, htext⟩ := Option.map_eq_some_iff.mp h
  unfold constrainedNode? at hnode
  split at hnode
  · next side =>
    refine ⟨side, List.mem_singleton_self side, node, ?_, htext⟩
    split at hnode
    · exact Option.some.inj hnode ▸ .self side
    · split at hnode
      · exact (below_of_mem_namedChildren (mem_of_soleName? hnode)).inside
      · cases hnode
  · cases hnode

/-! ## Declarations -/

theorem below_of_nameNode? {root name : Node} (h : root.nameNode? = some name) :
    name.Below root := by
  unfold nameNode? at h
  split at h
  · next child hchild =>
    split at h
    · exact Option.some.inj h ▸ below_of_fieldChild? hchild
    · exact below_of_firstNamedOf? h
  · exact below_of_firstNamedOf? h

theorem below_of_extendedType? {root type : Node} (h : root.extendedType? = some type) :
    type.Below root := by
  unfold extendedType? at h
  split at h
  · next name hname =>
    split at h
    · exact Option.some.inj h ▸ below_of_fieldChild? hname
    · exact below_of_firstType? h
  · exact below_of_firstType? h

/-- An inheritance clause has at least one entry, and its entries lie below the declaration. -/
theorem of_inheritedTypes? {root : Node} {entries : List Node}
    (h : root.inheritedTypes? = some entries) :
    entries ≠ [] ∧ ∀ node ∈ entries, node.Below root := by
  simp only [inheritedTypes?] at h
  split at h
  · next hspecifiers =>
    obtain rfl := Option.some.inj h
    exact ⟨by simpa using hspecifiers, fun node hmem => below_of_mem_namedOf hmem⟩
  · split at h
    · split at h
      · simp at h
      · next hbounds =>
        obtain rfl := Option.some.inj h
        refine ⟨by simpa using hbounds, fun node hmem => below_of_mem_children ?_⟩
        exact (List.takeWhile_sublist _).subset (List.mem_filter.mp hmem).1
    · simp at h

/-! ## Bindings and case elements -/

/-- The annotation of a binding is a slot of one of the nodes searched for it. -/
theorem slot_of_annotation? {isName : Node → Bool} {nodes : List Node} {slot : TypeSlot}
    (h : annotation? isName nodes = some slot) : ∃ node ∈ nodes, node.slot? = some slot := by
  induction nodes with
  | nil => simp [annotation?] at h
  | cons first rest ih =>
      have htail (hrest : annotation? isName rest = some slot) :
          ∃ node ∈ first :: rest, node.slot? = some slot := by
        obtain ⟨node, hmem, hslot⟩ := ih hrest
        exact ⟨node, List.mem_cons_of_mem _ hmem, hslot⟩
      rw [annotation?] at h
      split at h
      · simp at h
      · split at h
        · rcases Option.or_eq_some_iff.mp h with hslot | ⟨_, hrest⟩
          · exact ⟨first, List.mem_cons_self, hslot⟩
          · exact htail hrest
        · exact htail h

/-- The pattern of a binding is one of the nodes, and its slot belongs to one of them. -/
theorem of_mem_bindingsAmong {isName : Node → Bool} {nodes : List Node} {binding : Binding}
    (hmem : binding ∈ bindingsAmong isName nodes) :
    binding.pattern ∈ nodes ∧
      ∀ slot, binding.slot = some slot → ∃ node ∈ nodes, node.slot? = some slot := by
  induction nodes with
  | nil => simp [bindingsAmong] at hmem
  | cons first rest ih =>
      have htail (hrest : binding ∈ bindingsAmong isName rest) :
          binding.pattern ∈ first :: rest ∧
            ∀ slot, binding.slot = some slot → ∃ node ∈ first :: rest, node.slot? = some slot := by
        obtain ⟨hpattern, hslots⟩ := ih hrest
        refine ⟨List.mem_cons_of_mem _ hpattern, fun slot hslot => ?_⟩
        obtain ⟨node, hnode, hslot⟩ := hslots slot hslot
        exact ⟨node, List.mem_cons_of_mem _ hnode, hslot⟩
      rw [bindingsAmong] at hmem
      split at hmem
      · rcases List.mem_cons.mp hmem with rfl | hrest
        · refine ⟨List.mem_cons_self, fun slot hslot => ?_⟩
          obtain ⟨node, hnode, hslot⟩ := slot_of_annotation? hslot
          exact ⟨node, List.mem_cons_of_mem _ hnode, hslot⟩
        · exact htail hrest
      · exact htail hmem

/-- A binding has its pattern and the type of its slot from nodes below. -/
theorem below_of_mem_bindings {root : Node} {binding : Binding} (hmem : binding ∈ root.bindings) :
    binding.pattern.Below root ∧ ∀ slot, binding.slot = some slot → slot.node.Below root := by
  obtain ⟨hpattern, hslots⟩ := of_mem_bindingsAmong hmem
  refine ⟨below_of_mem_children hpattern, fun slot hslot => ?_⟩
  obtain ⟨node, hnode, hslot⟩ := hslots slot hslot
  exact (below_of_slot? hslot).trans (below_of_mem_children hnode)

/-- The list of values of a case element is one of the nodes. -/
theorem mem_of_mem_caseElementsAmong {nodes : List Node} {element : CaseElement} {values : Node}
    (hmem : element ∈ caseElementsAmong nodes) (hvalues : element.values = some values) :
    values ∈ nodes := by
  induction nodes with
  | nil => simp [caseElementsAmong] at hmem
  | cons first rest ih =>
      rw [caseElementsAmong] at hmem
      split at hmem
      · rcases List.mem_cons.mp hmem with rfl | hrest
        · have hown := (List.mem_filter.mp (List.mem_of_getLast? hvalues)).1
          exact List.mem_cons_of_mem _ ((List.takeWhile_sublist _).subset hown)
        · exact List.mem_cons_of_mem _ (ih hrest)
      · exact List.mem_cons_of_mem _ (ih hmem)

theorem below_of_mem_caseElements {root values : Node} {element : CaseElement}
    (hmem : element ∈ root.caseElements) (hvalues : element.values = some values) :
    values.Below root := by
  obtain ⟨entry, hentry, rfl⟩ := List.mem_map.mp (mem_of_mem_caseElementsAmong hmem hvalues)
  exact below_of_mem_children (mem_of_mem_entries hentry)

end Node

end WordGrid
