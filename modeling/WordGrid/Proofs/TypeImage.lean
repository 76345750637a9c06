import WordGrid.Proofs.Spelling
import WordGrid.Proofs.TypeEquation

/-!
# The types that are read

A type that is read off a node is put together from a few shapes (`TypeExpr.Readable`); the marks
`!` and `inout` are read off slots only (`TypeExpr.Slotted`), so inside a type they stand on the
elements of a tuple and on the parameters of a function. Conversely each of these types is read off
some node of some source: the nodes are built in this module, and `Spelling` writes their source.
Read `Node.typeExpr_image` first.
-/

namespace WordGrid

namespace TypeExpr

mutual

/-- A type that is read off a node. -/
inductive Readable : TypeExpr → Prop where
  | named {name : String} {arguments : List TypeExpr} (hname : name ≠ "")
      (harguments : ∀ argument ∈ arguments, Readable argument) : Readable (.named name arguments)
  | array {element : TypeExpr} (helement : Readable element) :
      Readable (.compound .array [element])
  | dictionary {key value : TypeExpr} (hkey : Readable key) (hvalue : Readable value) :
      Readable (.compound .dictionary [key, value])
  | optional {wrapped : TypeExpr} (hwrapped : Readable wrapped) :
      Readable (.compound .optional [wrapped])
  | existential {members : List TypeExpr} (hmembers : ∀ member ∈ members, Readable member) :
      Readable (.compound .existential members)
  | tuple {elements : List TypeExpr} (helements : ∀ element ∈ elements, Slotted element) :
      Readable (.compound .tuple elements)
  | function {parameters : List TypeExpr} {result : TypeExpr} (hne : parameters ≠ [])
      (hparameters : ∀ parameter ∈ parameters, Slotted parameter) (hresult : Readable result) :
      Readable (.function parameters result)

/-- A type that is read off a slot: a type that is read off a node, with none, one or both of the
marks. -/
inductive Slotted : TypeExpr → Prop where
  | plain {type : TypeExpr} (htype : Readable type) : Slotted type
  | unwrapped {type : TypeExpr} (htype : Readable type) : Slotted (.compound .unwrapped [type])
  | inout {type : TypeExpr} (htype : Readable type) : Slotted (.inout type)
  | inoutUnwrapped {type : TypeExpr} (htype : Readable type) :
      Slotted (.inout (.compound .unwrapped [type]))

end

/-- Optionals of a type that is read are read. -/
theorem Readable.optionalTimes {type : TypeExpr} (h : type.Readable) (depth : Nat) :
    (type.optionalTimes depth).Readable := by
  induction depth generalizing type with
  | zero => exact h
  | succ depth ih => exact ih (.optional h)

end TypeExpr

/-! ## Every type that is read has one of the shapes -/

section Soundness

variable {reader : TypeReader} {type : TypeExpr}

/-- The marks of a slot make a slotted type. -/
theorem TypeSlot.mark_slotted (slot : TypeSlot) (h : type.Readable) : (slot.mark type).Slotted := by
  obtain ⟨node, inout, unwrapped⟩ := slot
  cases inout <;> cases unwrapped
  · exact .plain h
  · exact .unwrapped h
  · exact .inout h
  · exact .inoutUnwrapped h

/-- What is read off a slot is slotted, if what is read off its node is readable. -/
theorem TypeSlot.read_slotted (hreader : ∀ node type, reader node = .ok type → type.Readable)
    {owner : Option Node} {slot : Option TypeSlot}
    (h : TypeSlot.read reader owner slot = .ok type) : type.Slotted := by
  cases slot with
  | none => cases h
  | some slot =>
      obtain ⟨inner, hinner, hmark⟩ := bind_eq_ok.mp h
      cases hmark
      exact slot.mark_slotted (hreader _ _ hinner)

/-- A list of slots is read as slotted types. -/
theorem TypeSlot.readAll_slotted (hreader : ∀ node type, reader node = .ok type → type.Readable)
    {slots : List (Option TypeSlot)} {types : List TypeExpr}
    (h : slots.mapM (TypeSlot.read reader none) = .ok types) : ∀ type ∈ types, type.Slotted := by
  intro type hmem
  obtain ⟨slot, -, hslot⟩ := exists_of_mem_mapM h hmem
  exact read_slotted hreader hslot

/-- A list of nodes is read as readable types. -/
theorem readAll_readable (hreader : ∀ node type, reader node = .ok type → type.Readable)
    {nodes : List Node} {types : List TypeExpr} (h : nodes.mapM reader = .ok types) :
    ∀ type ∈ types, type.Readable := by
  intro type hmem
  obtain ⟨node, -, hnode⟩ := exists_of_mem_mapM h hmem
  exact hreader node type hnode

/-- A component is read as a type with a name. -/
theorem Component.read_readable (hreader : ∀ node type, reader node = .ok type → type.Readable)
    {component : Component} (h : component.read reader = .ok type) : type.Readable := by
  obtain ⟨arguments, harguments, hnamed⟩ := bind_eq_ok.mp h
  have hnamed := mapError_eq_ok.mp hnamed
  unfold TypeExpr.named? at hnamed
  split at hnamed
  · cases hnamed
  · next hname =>
    cases hnamed
    exact .named (by simpa using hname) (readAll_readable hreader harguments)

/-- One step reads a readable type, if its reader does. -/
theorem typeStep_readable (hreader : ∀ node type, reader node = .ok type → type.Readable)
    {node : Node} (h : typeStep reader node = .ok type) : type.Readable := by
  unfold typeStep at h
  split at h
  case h_1 =>
    split at h
    · exact Component.read_readable hreader h
    · cases h
  case h_2 =>
    split at h
    · obtain ⟨element, helement, hresult⟩ := bind_eq_ok.mp h
      cases hresult
      exact .array (hreader _ _ helement)
    · cases h
  case h_3 =>
    split at h
    · obtain ⟨key, hkey, hrest⟩ := bind_eq_ok.mp h
      obtain ⟨value, hvalue, hresult⟩ := bind_eq_ok.mp hrest
      cases hresult
      exact .dictionary (hreader _ _ hkey) (hreader _ _ hvalue)
    · cases h
  case h_4 =>
    split at h
    · obtain ⟨wrapped, hwrapped, hresult⟩ := bind_eq_ok.mp h
      cases hresult
      exact (hreader _ _ hwrapped).optionalTimes _
    · cases h
  case h_5 =>
    obtain ⟨elements, helements, hresult⟩ := bind_eq_ok.mp h
    cases hresult
    exact .tuple (TypeSlot.readAll_slotted hreader helements)
  case h_6 =>
    split at h
    · obtain ⟨parameters, hparameters, hrest⟩ := bind_eq_ok.mp h
      obtain ⟨result, hresult, htype⟩ := bind_eq_ok.mp hrest
      cases htype
      -- A function without parameters takes the empty tuple.
      cases parameters with
      | nil =>
          refine .function (by simp) (fun parameter hmem => ?_) (hreader _ _ hresult)
          obtain rfl := List.mem_singleton.mp hmem
          exact .plain (.tuple (by simp))
      | cons parameter rest =>
          exact .function (by simp) (TypeSlot.readAll_slotted hreader hparameters)
            (hreader _ _ hresult)
    · cases h
  case h_7 =>
    obtain ⟨members, hmembers, hresult⟩ := bind_eq_ok.mp h
    cases hresult
    exact .existential (readAll_readable hreader hmembers)
  case h_8 => cases h
  case h_9 => cases h

/-- Whatever the depth, a type that is read is readable. -/
theorem typeToDepth_readable (depth : Nat) {node : Node} (h : typeToDepth depth node = .ok type) :
    type.Readable := by
  induction depth generalizing node type with
  | zero => cases h
  | succ depth ih => exact typeStep_readable (fun _ _ hinner => ih hinner) h

end Soundness

/-! ## Nodes for every shape -/

namespace Node

/-- A token, which is written as its kind. -/
def token (word : String) : Node :=
  ⟨{ kind := word, span := ⟨0, 0⟩, named := false, text := word }, []⟩

/-- A named node without children. -/
def leaf (kind text : String) : Node :=
  ⟨{ kind := kind, span := ⟨0, 0⟩, text := text }, []⟩

/-- A named node that is written as its children. -/
def branch (kind : String) (children : List Node) : Node :=
  ⟨{ kind := kind, span := ⟨0, 0⟩, text := String.join (children.map text) }, children⟩

/-- A named node that is written as a list in brackets. -/
def bracketed (kind opening separator closing : String) (nodes : List Node) : Node :=
  branch kind (token opening :: nodes.intersperse (token separator) ++ [token closing])

@[simp]
theorem isNamed_token (word : String) : (token word).isNamed = false := rfl

@[simp]
theorem kind_token (word : String) : (token word).kind = word := rfl

@[simp]
theorem isNamed_leaf (kind text : String) : (leaf kind text).isNamed = true := rfl

@[simp]
theorem children_branch (kind : String) (children : List Node) :
    (branch kind children).children = children := rfl

/-- A node that is written as its children is spelled out if they are. -/
theorem spelled_branch {kind : String} {children : List Node}
    (h : ∀ child ∈ children, child.Spelled) : (branch kind children).Spelled :=
  .branch h rfl

/-- A list in brackets is spelled out if its nodes are. -/
theorem spelled_bracketed {kind opening separator closing : String} {nodes : List Node}
    (h : ∀ node ∈ nodes, node.Spelled) :
    (bracketed kind opening separator closing nodes).Spelled := by
  have hinner : ∀ node ∈ nodes.intersperse (token separator), node.Spelled := by
    induction nodes with
    | nil => simp
    | cons first rest ih =>
        obtain ⟨hfirst, hrest⟩ := List.forall_mem_cons.mp h
        cases rest with
        | nil => simpa using hfirst
        | cons next rest =>
            rw [List.intersperse_cons_cons]
            exact List.forall_mem_cons.mpr
              ⟨hfirst, List.forall_mem_cons.mpr ⟨.leaf _, ih hrest⟩⟩
  refine spelled_branch fun child hmem => ?_
  rcases List.mem_append.mp hmem with hmem | hmem
  · rcases List.mem_cons.mp hmem with rfl | hmem
    · exact .leaf _
    · exact hinner child hmem
  · obtain rfl := List.mem_singleton.mp hmem
    exact .leaf _

/-- The named children of a list in brackets are its nodes. -/
theorem namedChildren_bracketed {kind opening separator closing : String} {nodes : List Node}
    (h : ∀ node ∈ nodes, node.isNamed) :
    (bracketed kind opening separator closing nodes).namedChildren = nodes := by
  have hinner : (nodes.intersperse (token separator)).filter isNamed = nodes := by
    induction nodes with
    | nil => rfl
    | cons first rest ih =>
        obtain ⟨hfirst, hrest⟩ := List.forall_mem_cons.mp h
        cases rest with
        | nil => rw [List.intersperse_singleton, List.filter_cons_of_pos hfirst, List.filter_nil]
        | cons next rest =>
            rw [List.intersperse_cons_cons, List.filter_cons_of_pos hfirst,
              List.filter_cons_of_neg (by simp), ih hrest]
  have houter : [token opening].filter isNamed = [] ∧ [token closing].filter isNamed = [] :=
    ⟨rfl, rfl⟩
  rw [namedChildren, bracketed, branch, ← List.singleton_append, List.filter_append,
    List.filter_append, hinner, houter.1, houter.2, List.nil_append, List.append_nil]

/-- The types in a list in brackets are its nodes. -/
theorem wrappedTypes_bracketed {kind opening separator closing : String} {nodes : List Node}
    (hnamed : ∀ node ∈ nodes, node.isNamed) (htype : ∀ node ∈ nodes, node.isType) :
    (bracketed kind opening separator closing nodes).wrappedTypes = nodes := by
  rw [wrappedTypes, namedChildren_bracketed hnamed, List.filter_eq_self.mpr htype]

/-- The entries of a list in parentheses are its nodes. -/
theorem entries_bracketed {kind : String} {nodes : List Node} (h : ∀ node ∈ nodes, node.isNamed) :
    entries false (bracketed kind "(" "," ")" nodes).children =
      nodes.map fun node => (node, false) := by
  show entries false (nodes.intersperse (token ",") ++ [token ")"]) = _
  induction nodes with
  | nil => rfl
  | cons first rest ih =>
      obtain ⟨hfirst, hrest⟩ := List.forall_mem_cons.mp h
      cases rest with
      | nil =>
          rw [List.intersperse_singleton, List.singleton_append, entries, hfirst]
          rfl
      | cons next rest =>
          have hcomma (nodes : List Node) :
              entries false (token "," :: nodes) = entries false nodes := rfl
          rw [List.intersperse_cons_cons, List.cons_append, List.cons_append, entries, hfirst,
            hcomma, ih hrest]
          rfl

/-- The node is spelled out, and the type is read off it. -/
structure Writes (node : Node) (type : TypeExpr) : Prop where
  spelled : node.Spelled
  named : node.isNamed
  isType : node.isType
  reads : node.typeExpr = .ok type

/-- The node is an item of a list that is spelled out, and the type is read off its slot. -/
structure WritesSlot (node : Node) (type : TypeExpr) : Prop where
  spelled : node.Spelled
  named : node.isNamed
  item : node.kind = "tuple_type_item"
  reads : TypeSlot.read Node.typeExpr none node.slot? = .ok type

section Lists

variable {relation : Node → TypeExpr → Prop} {nodes : List Node} {types : List TypeExpr}

/-- Nodes can be found for a list if they can be found for each of its types. -/
theorem exists_forall₂ (h : ∀ type ∈ types, ∃ node, relation node type) :
    ∃ nodes, List.Forall₂ relation nodes types := by
  induction types with
  | nil => exact ⟨[], .nil⟩
  | cons first rest ih =>
      obtain ⟨⟨node, hnode⟩, hrest⟩ := List.forall_mem_cons.mp h
      obtain ⟨nodes, hnodes⟩ := ih hrest
      exact ⟨node :: nodes, .cons hnode hnodes⟩

/-- Every node of a list that belongs to types belongs to one of them. -/
theorem exists_of_forall₂ (h : List.Forall₂ relation nodes types) :
    ∀ node ∈ nodes, ∃ type, relation node type := by
  induction h with
  | nil => simp
  | cons hfirst _ ih => exact List.forall_mem_cons.mpr ⟨⟨_, hfirst⟩, ih⟩

/-- Nodes for types make a list in brackets that is spelled out and wraps them. -/
theorem bracketed_of_writes (kind opening separator closing : String)
    (h : List.Forall₂ Writes nodes types) :
    (bracketed kind opening separator closing nodes).Spelled ∧
      (bracketed kind opening separator closing nodes).wrappedTypes = nodes ∧
      nodes.mapM Node.typeExpr = .ok types := by
  have hall := exists_of_forall₂ h
  refine ⟨spelled_bracketed fun node hmem => ?_,
    wrappedTypes_bracketed (fun node hmem => ?_) (fun node hmem => ?_),
    mapM_eq_ok_iff.mpr (h.imp fun _ _ hnode => hnode.reads)⟩
  all_goals obtain ⟨type, hnode⟩ := hall node hmem
  · exact hnode.spelled
  · exact hnode.named
  · exact hnode.isType

/-- Items for types make a list in parentheses that is spelled out and has their slots. -/
theorem bracketed_of_writesSlot (kind : String)
    (h : List.Forall₂ WritesSlot nodes types) :
    (bracketed kind "(" "," ")" nodes).Spelled ∧
      (bracketed kind "(" "," ")" nodes).elementSlots.mapM (TypeSlot.read Node.typeExpr none) =
        .ok types := by
  have hall := exists_of_forall₂ h
  have hslots : (bracketed kind "(" "," ")" nodes).elementSlots = nodes.map slot? := by
    rw [elementSlots, slotsAmong,
      entries_bracketed fun node hmem => (hall node hmem).elim fun _ h => h.named,
      List.filterMap_map, ← List.filterMap_eq_map]
    refine List.filterMap_congr fun node hmem => ?_
    obtain ⟨type, hnode⟩ := hall node hmem
    simp [entrySlot?, isOneOf, hnode.item]
  refine ⟨spelled_bracketed fun node hmem => (hall node hmem).elim fun _ h => h.spelled, ?_⟩
  rw [hslots, List.mapM_map, mapM_eq_ok_iff]
  exact h.imp fun _ _ hnode => hnode.reads

end Lists

/-! One lemma for each shape says how it is written. -/

variable {element key value wrapped result : Node} {nodes : List Node}
  {type keyType valueType resultType : TypeExpr} {types : List TypeExpr}

theorem exists_writes_named {name : String} (hname : name ≠ "")
    (h : List.Forall₂ Writes nodes types) : ∃ node : Node, node.Writes (.named name types) := by
  have hnamed (types : List TypeExpr) :
      (TypeExpr.named? name types).mapError Failure.shape = .ok (.named name types) := by
    rw [TypeExpr.named?, if_neg (by simpa using hname)]
    rfl
  cases h with
  | nil =>
      refine ⟨branch "user_type" [leaf "type_identifier" name], spelled_branch ?_, rfl, rfl, ?_⟩
      · simpa using .leaf _
      · rw [typeExpr_eq_typeStep]
        exact hnamed []
  | @cons first type rest types hfirst hrest =>
      obtain ⟨hspelled, hwrapped, hreads⟩ :=
        bracketed_of_writes "type_arguments" "<" "," ">" (.cons hfirst hrest)
      refine ⟨branch "user_type" [leaf "type_identifier" name,
        bracketed "type_arguments" "<" "," ">" (first :: rest)], spelled_branch ?_, rfl, rfl, ?_⟩
      · simpa using ⟨.leaf _, hspelled⟩
      · have hcomponents : (branch "user_type" [leaf "type_identifier" name,
            bracketed "type_arguments" "<" "," ">" (first :: rest)]).components =
            [⟨name, (bracketed "type_arguments" "<" "," ">" (first :: rest)).wrappedTypes ++ []⟩] :=
          rfl
        rw [hwrapped, List.append_nil] at hcomponents
        have hform : (branch "user_type" [leaf "type_identifier" name,
            bracketed "type_arguments" "<" "," ">" (first :: rest)]).typeForm? = some .user := rfl
        rw [typeExpr_eq_typeStep, typeStep, hform, hcomponents]
        exact bind_eq_ok.mpr ⟨_, hreads, hnamed _⟩

theorem Writes.array (h : element.Writes type) :
    (bracketed "array_type" "[" "," "]" [element]).Writes (.compound .array [type]) := by
  obtain ⟨hspelled, hwrapped, -⟩ := bracketed_of_writes "array_type" "[" "," "]" (.cons h .nil)
  refine ⟨hspelled, rfl, rfl, ?_⟩
  have hform : (bracketed "array_type" "[" "," "]" [element]).typeForm? = some .array := rfl
  rw [typeExpr_eq_typeStep, typeStep, hform, hwrapped]
  simp only [h.reads]
  rfl

theorem Writes.dictionary (hkey : key.Writes keyType) (hvalue : value.Writes valueType) :
    (bracketed "dictionary_type" "[" ":" "]" [key, value]).Writes
      (.compound .dictionary [keyType, valueType]) := by
  obtain ⟨hspelled, hwrapped, -⟩ :=
    bracketed_of_writes "dictionary_type" "[" ":" "]" (.cons hkey (.cons hvalue .nil))
  refine ⟨hspelled, rfl, rfl, ?_⟩
  have hform : (bracketed "dictionary_type" "[" ":" "]" [key, value]).typeForm? =
      some .dictionary := rfl
  rw [typeExpr_eq_typeStep, typeStep, hform, hwrapped]
  simp only [hkey.reads, hvalue.reads]
  rfl

theorem Writes.optional (h : wrapped.Writes type) :
    (branch "optional_type" [wrapped, token "?"]).Writes (.compound .optional [type]) := by
  refine ⟨spelled_branch ?_, rfl, rfl, ?_⟩
  · simpa using ⟨h.spelled, .leaf _⟩
  · have hform : (branch "optional_type" [wrapped, token "?"]).typeForm? = some .optional := rfl
    have hwrapped : (branch "optional_type" [wrapped, token "?"]).wrappedTypes = [wrapped] := by
      simp [wrappedTypes, namedChildren, h.named, h.isType]
    have hdepth : (branch "optional_type" [wrapped, token "?"]).optionalDepth = 1 := by
      simp [optionalDepth, h.named]
    rw [typeExpr_eq_typeStep, typeStep, hform, hwrapped, hdepth]
    simp only [h.reads]
    rfl

theorem Writes.existential (h : List.Forall₂ Writes nodes types) :
    (bracketed "protocol_composition_type" "(" "&" ")" nodes).Writes
      (.compound .existential types) := by
  obtain ⟨hspelled, hwrapped, hreads⟩ :=
    bracketed_of_writes "protocol_composition_type" "(" "&" ")" h
  refine ⟨hspelled, rfl, rfl, ?_⟩
  have hform : (bracketed "protocol_composition_type" "(" "&" ")" nodes).typeForm? =
      some .existential := rfl
  rw [typeExpr_eq_typeStep, typeStep, hform, hwrapped]
  simp only [hreads]
  rfl

theorem Writes.tuple (h : List.Forall₂ WritesSlot nodes types) :
    (bracketed "tuple_type" "(" "," ")" nodes).Writes (.compound .tuple types) := by
  obtain ⟨hspelled, hreads⟩ := bracketed_of_writesSlot "tuple_type" h
  refine ⟨hspelled, rfl, rfl, ?_⟩
  have hform : (bracketed "tuple_type" "(" "," ")" nodes).typeForm? = some .tuple := rfl
  rw [typeExpr_eq_typeStep, typeStep, hform]
  simp only [hreads]
  rfl

theorem Writes.function (h : List.Forall₂ WritesSlot nodes types) (hne : types ≠ [])
    (hresult : result.Writes resultType) :
    (branch "function_type"
      [bracketed "tuple_type" "(" "," ")" nodes, token "->", result]).Writes
      (.function types resultType) := by
  obtain ⟨hspelled, hreads⟩ := bracketed_of_writesSlot "tuple_type" h
  refine ⟨spelled_branch ?_, rfl, rfl, ?_⟩
  · simpa using ⟨hspelled, .leaf _, hresult.spelled⟩
  · have hslots : (branch "function_type"
        [bracketed "tuple_type" "(" "," ")" nodes, token "->", result]).functionSlots? =
        some (bracketed "tuple_type" "(" "," ")" nodes).elementSlots := rfl
    have hfound : (branch "function_type"
        [bracketed "tuple_type" "(" "," ")" nodes, token "->", result]).functionResult? =
        some result := by
      show [result].find? _ = some result
      simp [hresult.named, hresult.isType]
    have hform : (branch "function_type"
        [bracketed "tuple_type" "(" "," ")" nodes, token "->", result]).typeForm? =
        some .function := rfl
    rw [typeExpr_eq_typeStep, typeStep, hform, hslots, hfound]
    simp only [hreads, hresult.reads]
    cases types with
    | nil => exact absurd rfl hne
    | cons type rest => rfl

/-- An item of a list: a type with the marks of its slot. -/
def item (inout unwrapped : Bool) (node : Node) : Node :=
  branch "tuple_type_item"
    ((if inout then [leaf "type_modifiers" "inout "] else []) ++
      node :: (if unwrapped then [token "!"] else []))

/-- A type does not modify another one. -/
theorem not_isOneOf_of_isType {node : Node} (h : node.isType) :
    node.isOneOf ["parameter_modifiers", "parameter_modifier", "type_modifiers"] = false := by
  by_contra hkind
  simp only [isOneOf, List.contains_eq_mem, List.mem_cons, List.not_mem_nil, or_false,
    decide_eq_false_iff_not, not_not] at hkind
  rw [isType, typeForm?] at h
  rcases hkind with hkind | hkind | hkind <;> rw [hkind] at h <;> cases h

/-- An item has the slot of its type. -/
theorem Writes.slot?_item (h : element.Writes type) (inout unwrapped : Bool) :
    (item inout unwrapped element).slot? = some ⟨element, inout, unwrapped⟩ := by
  have hmodifier : (leaf "type_modifiers" "inout ").isType = false := rfl
  have hbang : startsWithBang (if unwrapped then [token "!"] else []) = unwrapped := by
    cases unwrapped <;> rfl
  have hfirst : firstMarked? (fun child => child.isNamed && child.isType)
      (item inout unwrapped element).children = some (element, unwrapped) := by
    cases inout <;> simp [item, firstMarked?, hmodifier, h.named, h.isType, hbang]
  have hmodifiers :
      (item inout unwrapped element).namedOf
          ["parameter_modifiers", "parameter_modifier", "type_modifiers"] =
        if inout then [leaf "type_modifiers" "inout "] else [] := by
    have hkind : (leaf "type_modifiers" "inout ").isOneOf
        ["parameter_modifiers", "parameter_modifier", "type_modifiers"] = true := rfl
    cases inout <;> cases unwrapped <;>
      simp [namedOf, namedChildren, item, h.named, not_isOneOf_of_isType h.isType, hkind]
  have hinout : (item inout unwrapped element).hasInout = inout := by
    rw [hasInout, hmodifiers]
    cases inout <;> rfl
  rw [slot?, hfirst, hinout]
  rfl

theorem Writes.item (h : element.Writes type) (inout unwrapped : Bool) :
    (item inout unwrapped element).WritesSlot
      (TypeSlot.mark ⟨element, inout, unwrapped⟩ type) := by
  refine ⟨spelled_branch ?_, rfl, rfl, ?_⟩
  · cases inout <;> cases unwrapped <;> simp [h.spelled, Spelled.leaf, leaf, token]
  · rw [h.slot?_item]
    exact bind_eq_ok.mpr ⟨type, h.reads, rfl⟩

end Node

/-! ## The image -/

namespace TypeExpr

mutual

/-- Some node writes a readable type. -/
theorem Readable.exists_writes : {type : TypeExpr} → type.Readable → ∃ node : Node, node.Writes type
  | _, .named hname harguments => by
      obtain ⟨nodes, hnodes⟩ :=
        Node.exists_forall₂ fun argument hmem => (harguments argument hmem).exists_writes
      exact Node.exists_writes_named hname hnodes
  | _, .array helement => by
      obtain ⟨element, helement⟩ := helement.exists_writes
      exact ⟨_, helement.array⟩
  | _, .dictionary hkey hvalue => by
      obtain ⟨key, hkey⟩ := hkey.exists_writes
      obtain ⟨value, hvalue⟩ := hvalue.exists_writes
      exact ⟨_, hkey.dictionary hvalue⟩
  | _, .optional hwrapped => by
      obtain ⟨wrapped, hwrapped⟩ := hwrapped.exists_writes
      exact ⟨_, hwrapped.optional⟩
  | _, .existential hmembers => by
      obtain ⟨nodes, hnodes⟩ :=
        Node.exists_forall₂ fun member hmem => (hmembers member hmem).exists_writes
      exact ⟨_, Node.Writes.existential hnodes⟩
  | _, .tuple helements => by
      obtain ⟨nodes, hnodes⟩ :=
        Node.exists_forall₂ fun element hmem => (helements element hmem).exists_writesSlot
      exact ⟨_, Node.Writes.tuple hnodes⟩
  | _, .function hne hparameters hresult => by
      obtain ⟨nodes, hnodes⟩ :=
        Node.exists_forall₂ fun parameter hmem => (hparameters parameter hmem).exists_writesSlot
      obtain ⟨result, hresult⟩ := hresult.exists_writes
      exact ⟨_, Node.Writes.function hnodes hne hresult⟩

/-- Some item writes a slotted type. -/
theorem Slotted.exists_writesSlot : {type : TypeExpr} → type.Slotted →
    ∃ node : Node, node.WritesSlot type
  | _, .plain htype => by
      obtain ⟨node, hnode⟩ := htype.exists_writes
      exact ⟨_, hnode.item false false⟩
  | _, .unwrapped htype => by
      obtain ⟨node, hnode⟩ := htype.exists_writes
      exact ⟨_, hnode.item false true⟩
  | _, .inout htype => by
      obtain ⟨node, hnode⟩ := htype.exists_writes
      exact ⟨_, hnode.item true false⟩
  | _, .inoutUnwrapped htype => by
      obtain ⟨node, hnode⟩ := htype.exists_writes
      exact ⟨_, hnode.item true true⟩

end

/-- A readable type is read off some node of some source. -/
theorem Readable.exists_source {type : TypeExpr} (h : type.Readable) :
    ∃ (source : Source) (tree : Node), (source.annotate tree).typeExpr = .ok type := by
  obtain ⟨node, hnode⟩ := h.exists_writes
  obtain ⟨source, tree, hsource⟩ := hnode.spelled.exists_source
  -- Both trees give the same type as the tree without places.
  have hunplaced : (node.relabel Label.unplaced).typeExpr = .ok type := by
    rw [Label.unplaced_keeps.typeExpr, mapError_eq_ok]
    exact hnode.reads
  rw [← hsource, Label.unplaced_keeps.typeExpr, mapError_eq_ok] at hunplaced
  exact ⟨source, tree, hunplaced⟩

/-- A slotted type is read off some slot with a node of some source. -/
theorem Slotted.exists_source {type : TypeExpr} (h : type.Slotted) :
    ∃ (source : Source) (tree : Node) (owner : Option Node) (inout unwrapped : Bool),
      TypeSlot.typeExpr owner (some ⟨source.annotate tree, inout, unwrapped⟩) = .ok type := by
  have hslot {inner : TypeExpr} (hinner : inner.Readable) (inout unwrapped : Bool) :
      ∃ (source : Source) (tree : Node),
        TypeSlot.typeExpr none (some ⟨source.annotate tree, inout, unwrapped⟩) =
          .ok (TypeSlot.mark ⟨source.annotate tree, inout, unwrapped⟩ inner) := by
    obtain ⟨source, tree, hread⟩ := hinner.exists_source
    exact ⟨source, tree, bind_eq_ok.mpr ⟨inner, hread, rfl⟩⟩
  cases h with
  | plain htype =>
      obtain ⟨source, tree, hread⟩ := hslot htype false false
      exact ⟨source, tree, none, false, false, hread⟩
  | unwrapped htype =>
      obtain ⟨source, tree, hread⟩ := hslot htype false true
      exact ⟨source, tree, none, false, true, hread⟩
  | inout htype =>
      obtain ⟨source, tree, hread⟩ := hslot htype true false
      exact ⟨source, tree, none, true, false, hread⟩
  | inoutUnwrapped htype =>
      obtain ⟨source, tree, hread⟩ := hslot htype true true
      exact ⟨source, tree, none, true, true, hread⟩

end TypeExpr

/-- The types that are read off the nodes of sources are exactly the readable ones, and those that
are read off slots are exactly the slotted ones. -/
theorem Node.typeExpr_image (type : TypeExpr) :
    ((∃ (source : Source) (tree : Node), (source.annotate tree).typeExpr = .ok type) ↔
        type.Readable) ∧
      ((∃ (source : Source) (tree : Node) (owner : Option Node) (inout unwrapped : Bool),
          TypeSlot.typeExpr owner (some ⟨source.annotate tree, inout, unwrapped⟩) = .ok type) ↔
        type.Slotted) := by
  refine ⟨⟨?_, fun h => h.exists_source⟩, ⟨?_, fun h => h.exists_source⟩⟩
  · rintro ⟨source, tree, hread⟩
    exact typeToDepth_readable _ hread
  · rintro ⟨source, tree, owner, inout, unwrapped, hread⟩
    exact TypeSlot.read_slotted (fun node type hnode => typeToDepth_readable _ hnode) hread

end WordGrid
