import WordGrid.Outline.Types
import WordGrid.Proofs.Results

/-!
# Labels that readers cannot tell apart

Whoever reads a type looks at the kind, the roles and the text of nodes, and at whether they are
named. A change of labels keeps these (`Label.Keeps`) if it changes nothing but where a node
stands. Then every question gets the same answer from a tree with changed labels, up to the labels
of the nodes in the answer, and `Node.typeExpr` gives the same type (`Label.Keeps.typeExpr`). A
failure holds the node that caused it, so its labels are changed too.
-/

namespace WordGrid

/-! ## Changing the labels in a result -/

/-- A reason to drop with other labels in its node. -/
def Drop.relabel (change : Label → Label) (cause : Drop) : Drop :=
  { cause with node := cause.node.map (Node.relabel change) }

/-- A failure with other labels in its node. -/
def Failure.relabel (change : Label → Label) : Failure → Failure
  | .drop cause => .drop (cause.relabel change)
  | .shape error => .shape error
  | .layout error => .layout error

/-- A slot with other labels in its node. -/
def TypeSlot.relabel (change : Label → Label) (slot : TypeSlot) : TypeSlot :=
  { slot with node := slot.node.relabel change }

/-- A component with other labels in its arguments. -/
def Component.relabel (change : Label → Label) (component : Component) : Component :=
  { component with arguments := component.arguments.map (Node.relabel change) }

section Except

variable {α β ε ε' : Type}

/-- The failures of two computations in a row are changed in both. -/
theorem mapError_bind (change : ε → ε') (first : Except ε α) (next : α → Except ε β) :
    (first >>= next).mapError change =
      first.mapError change >>= fun value => (next value).mapError change := by
  cases first <;> rfl

/-- The failures of a list of computations are changed in each. -/
theorem mapError_mapM (change : ε → ε') (f : α → Except ε β) (items : List α) :
    (items.mapM f).mapError change = items.mapM fun item => (f item).mapError change := by
  induction items with
  | nil => rfl
  | cons first rest ih =>
      rw [List.mapM_cons, List.mapM_cons, mapError_bind]
      congr 1
      funext value
      rw [mapError_bind, ih]
      rfl

/-- A change of failures leaves a value alone. -/
theorem mapError_eq_ok {change : ε → ε'} {result : Except ε α} {value : α} :
    result.mapError change = .ok value ↔ result = .ok value := by
  cases result <;> simp [Except.mapError]

end Except

/-- A change of labels that keeps what readers look at. -/
structure Label.Keeps (change : Label → Label) : Prop where
  kind (label : Label) : (change label).kind = label.kind
  named (label : Label) : (change label).named = label.named
  fields (label : Label) : (change label).fields = label.fields
  text (label : Label) : (change label).text = label.text

namespace Node

/-- A node with other labels has the children of the node with other labels. -/
@[simp]
theorem children_relabel (change : Label → Label) (node : Node) :
    (node.relabel change).children = node.children.map (relabel change) := by
  obtain ⟨label, children⟩ := node
  exact relabelAll_eq_map change children

@[simp]
theorem label_relabel (change : Label → Label) (node : Node) :
    (node.relabel change).label = change node.label := by
  obtain ⟨label, children⟩ := node
  rfl

mutual

/-- To change labels twice is to change them once by both changes. -/
theorem relabel_relabel (first second : Label → Label) : (node : Node) →
    (node.relabel first).relabel second = node.relabel (second ∘ first)
  | ⟨label, children⟩ => by
      rw [relabel, relabel, relabel, relabelAll_relabelAll first second children]
      rfl

theorem relabelAll_relabelAll (first second : Label → Label) : (nodes : List Node) →
    relabelAll second (relabelAll first nodes) = relabelAll (second ∘ first) nodes
  | [] => rfl
  | node :: rest => by
      rw [relabelAll, relabelAll, relabelAll, relabel_relabel first second node,
        relabelAll_relabelAll first second rest]

end

mutual

/-- Other labels do not make a tree higher. -/
theorem height_relabel (change : Label → Label) : (node : Node) →
    (node.relabel change).height = node.height
  | ⟨label, children⟩ => by rw [relabel, height, height, heights_relabelAll change children]

theorem heights_relabelAll (change : Label → Label) : (nodes : List Node) →
    heights (relabelAll change nodes) = heights nodes
  | [] => rfl
  | node :: rest => by
      rw [relabelAll, heights, heights, height_relabel change node, heights_relabelAll change rest]

end

end Node

namespace Label.Keeps

open Node

variable {change : Label → Label} (keeps : Label.Keeps change)
include keeps

/-! ## Nodes -/

@[simp]
theorem node_kind (node : Node) : (node.relabel change).kind = node.kind := by
  simp [Node.kind, keeps.kind]

@[simp]
theorem node_text (node : Node) : (node.relabel change).text = node.text := by
  simp [Node.text, keeps.text]

@[simp]
theorem isNamed (node : Node) : (node.relabel change).isNamed = node.isNamed := by
  simp [Node.isNamed, keeps.named]

@[simp]
theorem isOneOf (kinds : List String) (node : Node) :
    (node.relabel change).isOneOf kinds = node.isOneOf kinds := by
  simp [Node.isOneOf, keeps]

@[simp]
theorem isToken (token : String) (node : Node) :
    (node.relabel change).isToken token = node.isToken token := by
  simp [Node.isToken, keeps]

theorem namedChildren (node : Node) :
    (node.relabel change).namedChildren = node.namedChildren.map (relabel change) := by
  simp [Node.namedChildren, List.filter_map, Function.comp_def, keeps]

theorem namedOf (kinds : List String) (node : Node) :
    (node.relabel change).namedOf kinds = (node.namedOf kinds).map (relabel change) := by
  simp [Node.namedOf, keeps.namedChildren, List.filter_map, Function.comp_def, keeps]

omit keeps in
/-- A test that does not see the change finds the node in the same place. -/
theorem find?_map_relabel {accept : Node → Bool}
    (haccept : ∀ node : Node, accept (node.relabel change) = accept node) (nodes : List Node) :
    (nodes.map (relabel change)).find? accept = (nodes.find? accept).map (relabel change) := by
  have hsame : accept ∘ relabel change = accept := funext haccept
  rw [List.find?_map, hsame]

theorem firstNamedOf? (kinds : List String) (node : Node) :
    (node.relabel change).firstNamedOf? kinds =
      (node.firstNamedOf? kinds).map (relabel change) := by
  rw [Node.firstNamedOf?, Node.firstNamedOf?, keeps.namedChildren,
    find?_map_relabel (keeps.isOneOf kinds)]

theorem fieldChildren (role : String) (node : Node) :
    (node.relabel change).fieldChildren role =
      (node.fieldChildren role).map (relabel change) := by
  simp [Node.fieldChildren, keeps.fields, List.map_filterMap]

theorem fieldChild? (role : String) (node : Node) :
    (node.relabel change).fieldChild? role = (node.fieldChild? role).map (relabel change) := by
  rw [Node.fieldChild?, Node.fieldChild?, label_relabel, keeps.fields, children_relabel]
  rcases node.label.fields.lookup role with _ | _ | ⟨position, rest⟩
  · rfl
  · rfl
  · exact List.getElem?_map ..

/-! ## Types -/

@[simp]
theorem typeForm? (node : Node) : (node.relabel change).typeForm? = node.typeForm? := by
  simp [Node.typeForm?, keeps]

@[simp]
theorem isType (node : Node) : (node.relabel change).isType = node.isType := by
  simp [Node.isType, keeps]

@[simp]
theorem isIdentifier (node : Node) : (node.relabel change).isIdentifier = node.isIdentifier := by
  simp [Node.isIdentifier, keeps]

theorem soleName? (nodes : List Node) :
    Node.soleName? (nodes.map (relabel change)) = (Node.soleName? nodes).map (relabel change) := by
  rcases nodes with _ | ⟨name, _ | ⟨next, rest⟩⟩
  · rfl
  · rw [List.map_cons, List.map_nil, Node.soleName?, Node.soleName?, keeps.node_kind]
    split <;> rfl
  · rfl

theorem wrappedTypes (node : Node) :
    (node.relabel change).wrappedTypes = node.wrappedTypes.map (relabel change) := by
  simp [Node.wrappedTypes, keeps.namedChildren, List.filter_map, Function.comp_def, keeps]

theorem firstType? (node : Node) :
    (node.relabel change).firstType? = node.firstType?.map (relabel change) := by
  rw [Node.firstType?, Node.firstType?, keeps.namedChildren, find?_map_relabel keeps.isType]

@[simp]
theorem optionalDepth (node : Node) :
    (node.relabel change).optionalDepth = node.optionalDepth := by
  simp [Node.optionalDepth, List.filter_map, List.flatMap_map, Function.comp_def, keeps]

theorem component_ofNodes (nodes : List Node) :
    Component.ofNodes (nodes.map (relabel change)) =
      (Component.ofNodes nodes).map (Component.relabel change) := by
  induction nodes with
  | nil => rfl
  | cons first rest ih =>
      rw [List.map_cons, Component.ofNodes, Component.ofNodes, keeps.isIdentifier]
      split
      · simp [ih, Component.relabel, List.takeWhile_map, List.filter_map, List.flatMap_map,
          List.map_flatMap, Function.comp_def, keeps, keeps.wrappedTypes]
      · exact ih

theorem components (node : Node) :
    (node.relabel change).components = node.components.map (Component.relabel change) := by
  rw [Node.components, keeps.namedChildren, keeps.component_ofNodes, Node.components]

/-! ## Slots -/

theorem startsWithBang (nodes : List Node) :
    Node.startsWithBang (nodes.map (relabel change)) = Node.startsWithBang nodes := by
  cases nodes <;> simp [Node.startsWithBang, keeps]

/-- A test that does not see the change finds the same node. -/
theorem firstMarked? {accept : Node → Bool}
    (haccept : ∀ node : Node, accept (node.relabel change) = accept node) (nodes : List Node) :
    Node.firstMarked? accept (nodes.map (relabel change)) =
      (Node.firstMarked? accept nodes).map fun (node, marked) => (node.relabel change, marked) := by
  induction nodes with
  | nil => rfl
  | cons first rest ih =>
      rw [List.map_cons, Node.firstMarked?, Node.firstMarked?, haccept, keeps.startsWithBang]
      split
      · rfl
      · exact ih

theorem hasInout (node : Node) : (node.relabel change).hasInout = node.hasInout := by
  simp [Node.hasInout, keeps.namedOf, List.any_map, Function.comp_def, keeps]

theorem slot? (node : Node) :
    (node.relabel change).slot? = node.slot?.map (TypeSlot.relabel change) := by
  rw [Node.slot?, children_relabel, keeps.firstMarked? (by simp [keeps])]
  simp [Node.slot?, keeps.hasInout, TypeSlot.relabel, Function.comp_def]

theorem childrenAfter (token : String) (node : Node) :
    (node.relabel change).childrenAfter token =
      (node.childrenAfter token).map (relabel change) := by
  simp [Node.childrenAfter, List.dropWhile_map, Function.comp_def, keeps]

theorem slotAfter? (token : String) (node : Node) :
    (node.relabel change).slotAfter? token =
      (node.slotAfter? token).map (TypeSlot.relabel change) := by
  rw [Node.slotAfter?, keeps.childrenAfter, keeps.firstMarked? (by simp [keeps])]
  simp [Node.slotAfter?, TypeSlot.relabel, Function.comp_def]

theorem entries (afterEquals : Bool) (nodes : List Node) :
    Node.entries afterEquals (nodes.map (relabel change)) =
      (Node.entries afterEquals nodes).map fun (node, marked) => (node.relabel change, marked) := by
  induction nodes generalizing afterEquals with
  | nil => rfl
  | cons first rest ih =>
      rw [List.map_cons, Node.entries, Node.entries, keeps.isNamed, keeps.node_kind,
        keeps.startsWithBang]
      split
      · exact ih _
      · split
        · exact ih _
        · rw [ih, List.map_cons]

theorem entryNodes (nodes : List Node) :
    Node.entryNodes (nodes.map (relabel change)) =
      (Node.entryNodes nodes).map (relabel change) := by
  rw [Node.entryNodes, Node.entryNodes, keeps.entries, List.map_map, List.map_map]
  rfl

theorem elementSlots (node : Node) :
    (node.relabel change).elementSlots =
      node.elementSlots.map (Option.map (TypeSlot.relabel change)) := by
  have hentry (entry : Node × Bool) : entrySlot? (entry.1.relabel change, entry.2) =
      (entrySlot? entry).map (Option.map (TypeSlot.relabel change)) := by
    unfold entrySlot?
    rw [keeps.isOneOf, keeps.isType, keeps.slot?]
    split
    · rfl
    · split <;> rfl
  rw [Node.elementSlots, Node.elementSlots, children_relabel, Node.slotsAmong, Node.slotsAmong,
    keeps.entries, List.filterMap_map, List.map_filterMap]
  exact congrArg (List.filterMap · _) (funext hentry)

theorem functionResult? (node : Node) :
    (node.relabel change).functionResult? = node.functionResult?.map (relabel change) := by
  rw [Node.functionResult?, Node.functionResult?, keeps.childrenAfter,
    find?_map_relabel (by simp [keeps])]

theorem holderAmong? (nodes : List Node) :
    Node.holderAmong? (nodes.map (relabel change)) =
      (Node.holderAmong? nodes).map (relabel change) := by
  have hholder (node : Node) : (node.relabel change).isHolder = node.isHolder := by
    simp [isHolder, keeps]
  have harrow : (fun node : Node => !(node.relabel change).isToken "->") =
      fun node => !node.isToken "->" := by
    simp [keeps]
  rw [Node.holderAmong?, Node.holderAmong?, List.takeWhile_map, find?_map_relabel hholder]
  exact congrArg (fun test => (List.find? _ (List.takeWhile test nodes)).map _) harrow

theorem heldSlots? (holder : Node) :
    (holder.relabel change).heldSlots? =
      holder.heldSlots?.map (List.map (Option.map (TypeSlot.relabel change))) := by
  rw [Node.heldSlots?, Node.heldSlots?, keeps.node_kind, keeps.isType, keeps.elementSlots]
  split
  · rfl
  · split <;> rfl

theorem functionSlots? (node : Node) :
    (node.relabel change).functionSlots? =
      node.functionSlots?.map (List.map (Option.map (TypeSlot.relabel change))) := by
  rw [Node.functionSlots?, Node.functionSlots?, children_relabel, keeps.holderAmong?]
  cases Node.holderAmong? node.children with
  | none => rfl
  | some holder => exact keeps.heldSlots? holder

/-! ## Reading types -/

omit keeps in
theorem read_slot {reader : TypeReader} (hreader : ∀ type : Node,
      reader (type.relabel change) = (reader type).mapError (Failure.relabel change))
    (owner : Option Node) (slot : Option TypeSlot) :
    TypeSlot.read reader (owner.map (relabel change)) (slot.map (TypeSlot.relabel change)) =
      (TypeSlot.read reader owner slot).mapError (Failure.relabel change) := by
  cases slot with
  | none => rfl
  | some slot =>
      simp only [Option.map_some, TypeSlot.read, TypeSlot.relabel, hreader, mapError_bind]
      rfl

omit keeps in
/-- The shape of a named type has nothing to do with labels. -/
theorem named_shape (name : String) (arguments : List TypeExpr) :
    (TypeExpr.named? name arguments).mapError .shape =
      ((TypeExpr.named? name arguments).mapError .shape).mapError (Failure.relabel change) := by
  cases TypeExpr.named? name arguments <;> rfl

omit keeps in
theorem read_component {reader : TypeReader} (hreader : ∀ type : Node,
      reader (type.relabel change) = (reader type).mapError (Failure.relabel change))
    (component : Component) :
    (component.relabel change).read reader =
      (component.read reader).mapError (Failure.relabel change) := by
  rw [Component.read, Component.read, mapError_bind, mapError_mapM]
  simp only [Component.relabel, List.mapM_map, Function.comp_def, hreader, ← named_shape]

/-- A step does not see the change if its reader does not. -/
theorem typeStep {reader : TypeReader} (hreader : ∀ type : Node,
      reader (type.relabel change) = (reader type).mapError (Failure.relabel change))
    (node : Node) :
    WordGrid.typeStep reader (node.relabel change) =
      (WordGrid.typeStep reader node).mapError (Failure.relabel change) := by
  have hslot (slot : Option TypeSlot) :
      TypeSlot.read reader none (slot.map (TypeSlot.relabel change)) =
        (TypeSlot.read reader none slot).mapError (Failure.relabel change) :=
    read_slot hreader none slot
  unfold WordGrid.typeStep
  rw [keeps.typeForm?]
  split
  · rw [keeps.components]
    rcases node.components with _ | ⟨component, _ | ⟨next, rest⟩⟩
    · rfl
    · exact read_component hreader component
    · rfl
  · rw [keeps.wrappedTypes]
    rcases node.wrappedTypes with _ | ⟨element, _ | ⟨next, rest⟩⟩
    · rfl
    · simp only [List.map_cons, List.map_nil, hreader, mapError_bind]
      rfl
    · rfl
  · rw [keeps.wrappedTypes]
    rcases node.wrappedTypes with _ | ⟨key, _ | ⟨value, _ | ⟨next, rest⟩⟩⟩
    · rfl
    · rfl
    · simp only [List.map_cons, List.map_nil, hreader, mapError_bind]
      rfl
    · rfl
  · rw [keeps.wrappedTypes, keeps.optionalDepth]
    rcases node.wrappedTypes with _ | ⟨wrapped, _ | ⟨next, rest⟩⟩
    · rfl
    · simp only [List.map_cons, List.map_nil, hreader, mapError_bind]
      rfl
    · rfl
  · rw [keeps.elementSlots, mapError_bind, mapError_mapM, List.mapM_map]
    simp only [Function.comp_def, hslot]
    rfl
  · rw [keeps.functionSlots?, keeps.functionResult?]
    rcases node.functionSlots? with _ | slots
    · rfl
    · rcases node.functionResult? with _ | result
      · rfl
      · simp only [Option.map_some, mapError_bind, mapError_mapM, List.mapM_map,
          Function.comp_def, hslot, hreader]
        rfl
  · rw [keeps.wrappedTypes, mapError_bind, mapError_mapM, List.mapM_map]
    simp only [Function.comp_def, hreader]
    rfl
  · rfl
  · rfl

theorem typeToDepth (depth : Nat) (node : Node) :
    WordGrid.typeToDepth depth (node.relabel change) =
      (WordGrid.typeToDepth depth node).mapError (Failure.relabel change) := by
  induction depth generalizing node with
  | zero => rfl
  | succ depth ih => exact keeps.typeStep ih node

/-- A type node with other labels has the same type. -/
theorem typeExpr (node : Node) :
    (node.relabel change).typeExpr = node.typeExpr.mapError (Failure.relabel change) := by
  rw [Node.typeExpr, height_relabel, keeps.typeToDepth, Node.typeExpr]

end Label.Keeps

end WordGrid
