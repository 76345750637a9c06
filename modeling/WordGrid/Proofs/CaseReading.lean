import WordGrid.Proofs.Attempts
import WordGrid.Proofs.EntityShape
import WordGrid.Proofs.TypeEquation

/-!
# Enum cases read back

A case is written as a list of elements with commas between them, and the values of an element as a
list of items in parentheses. `WrittenCase` holds all nodes of a case in the order in which they are
written. Reading goes over the nodes once, with a flag that is set by an equals sign; what one
element or item adds to the result does not depend on what follows, as long as that is no mark
(`Separated.read_append`). Read `WrittenCase.read_back` first.
-/

namespace WordGrid

/-! ## What is written -/

/-- Things with a token between every two of them, as a list of nodes. -/
inductive Separated {α : Type} (token : String) (nodes : α → List Node) :
    List α → List Node → Prop where
  | none : Separated token nodes [] []
  | one (item : α) : Separated token nodes [item] (nodes item)
  | more (item : α) {next : α} {rest : List α} {separator : Node} {tail : List Node} :
      separator.isToken token → Separated token nodes (next :: rest) tail →
      Separated token nodes (item :: next :: rest) (nodes item ++ separator :: tail)

/-- A value after an equals sign. -/
structure Assigned where
  equals : Node
  value : Node
  isEquals : equals.isToken "="
  isNamed : value.isNamed

namespace Assigned

/-- The equals sign and the value. -/
def nodes (assigned : Assigned) : List Node :=
  [assigned.equals, assigned.value]

end Assigned

/-- May the node stand in front of the type of an item? -/
def Node.isItemLabel (node : Node) : Bool :=
  if node.isNamed then !node.isType && !node.isOneOf ["tuple_type_item", "parameter"]
  else !node.isOneOf ["=", "!"]

/-- An item of a list of values: its labels, its type, and perhaps a mark and a preset value. -/
structure ValueItem where
  labels : List Node
  type : Node
  mark : Option Node
  preset : Option Assigned
  isLabel : ∀ label ∈ labels, label.isItemLabel
  isNamed : type.isNamed
  isType : type.isType
  isBang : ∀ token ∈ mark, token.isToken "!"

namespace ValueItem

/-- The nodes of an item. -/
def nodes (item : ValueItem) : List Node :=
  item.labels ++ item.type :: (item.mark.toList ++ item.preset.toList.flatMap Assigned.nodes)

/-- The slot of an item. -/
def slot (item : ValueItem) : TypeSlot :=
  ⟨item.type, false, item.mark.isSome⟩

/-- The type of an item. -/
def typeExpr (item : ValueItem) : Except Failure TypeExpr :=
  item.type.typeExpr.map fun type =>
    if item.mark.isSome then .compound .unwrapped [type] else type

end ValueItem

/-- A node that lists values in parentheses. -/
structure ValueList where
  node : Node
  items : List ValueItem
  opening : Node
  inner : List Node
  closing : Node
  isNamed : node.isNamed
  kind : node.kind = "enum_type_parameters"
  children : node.children = opening :: inner ++ [closing]
  isOpening : opening.isToken "("
  isClosing : closing.isToken ")"
  separated : Separated "," ValueItem.nodes items inner

/-- An element of a case: its name, and perhaps a list of values and a raw value. -/
structure WrittenElement where
  name : Node
  values : Option ValueList
  raw : Option Assigned
  isNamed : name.isNamed
  kind : name.kind = "simple_identifier"

namespace WrittenElement

/-- The nodes of an element. -/
def nodes (element : WrittenElement) : List Node :=
  element.name :: (element.values.toList.map ValueList.node ++
    element.raw.toList.flatMap Assigned.nodes)

/-- The element that should be read. -/
def element (written : WrittenElement) : CaseElement :=
  ⟨written.name.text, written.values.map ValueList.node⟩

/-- The types of the values, if there is a list of them. -/
def types (written : WrittenElement) : Except Failure (Option (List TypeExpr)) :=
  match written.values with
  | none => .ok none
  | some values => (values.items.mapM ValueItem.typeExpr).map some

/-- The entity of an element: there is one if the types of its values can be read. -/
def entity? (descriptors : List Descriptor) (written : WrittenElement) : Option Entity :=
  written.types.toOption.map fun types =>
    { name := written.name.text, kind := .enumCase, descriptors
      predicates := types.toList.map (.ofTypes "HAS") }

end WrittenElement

/-- May the node stand in front of the elements of a case? -/
def Node.leadsCase (node : Node) : Bool :=
  if node.isNamed then !node.isOneOf ["simple_identifier", "enum_type_parameters"]
  else node.kind != "="

/-- A node that declares a case: what stands in front, such as modifiers and the keyword, and the
elements. -/
structure WrittenCase where
  node : Node
  lead : List Node
  elements : List WrittenElement
  body : List Node
  children : node.children = lead ++ body
  leads : ∀ child ∈ lead, child.leadsCase
  separated : Separated "," WrittenElement.nodes elements body

/-! ## Reading a list -/

namespace Node

theorem not_isNamed_of_isToken {token : String} {node : Node} (h : node.isToken token) :
    node.isNamed = false := by
  simpa using (Bool.and_eq_true_iff.mp h).1

theorem kind_of_isToken {token : String} {node : Node} (h : node.isToken token) :
    node.kind = token :=
  beq_iff_eq.mp (Bool.and_eq_true_iff.mp h).2

/-- A token other than an equals sign is passed over and sets no flag. -/
theorem entries_plain {node : Node} (hnamed : node.isNamed = false) (hkind : node.kind ≠ "=")
    (rest : List Node) : entries false (node :: rest) = entries false rest := by
  rw [entries, hnamed, beq_eq_false_iff_ne.mpr hkind]
  rfl

theorem entries_token {token : String} {node : Node} (h : node.isToken token)
    (hequals : token ≠ "=") (rest : List Node) :
    entries false (node :: rest) = entries false rest :=
  entries_plain (not_isNamed_of_isToken h) (kind_of_isToken h ▸ hequals) rest

theorem entries_named {node : Node} (h : node.isNamed) (rest : List Node) :
    entries false (node :: rest) = (node, startsWithBang rest) :: entries false rest := by
  rw [entries, h]
  rfl

/-- A value after an equals sign is passed over, whatever it looks like. -/
theorem entries_assigned (assigned : Option Assigned) (rest : List Node) :
    entries false (assigned.toList.flatMap Assigned.nodes ++ rest) = entries false rest := by
  cases assigned with
  | none => rfl
  | some assigned =>
      -- The equals sign sets the flag, and the value takes it back.
      show entries false (assigned.equals :: assigned.value :: rest) = _
      rw [entries, not_isNamed_of_isToken assigned.isEquals, kind_of_isToken assigned.isEquals,
        entries, assigned.isNamed]
      rfl

theorem startsWithBang_token {node : Node} {token : String} (h : node.isToken token)
    (hbang : token ≠ "!") (rest : List Node) : startsWithBang (node :: rest) = false := by
  show isToken "!" node = false
  rw [isToken, not_isNamed_of_isToken h, kind_of_isToken h]
  simpa using hbang

end Node

/-- What is read off a list is what is read off each item, if an item adds the same before
everything that does not start with a mark, and a comma adds nothing. -/
theorem Separated.read_append {α β : Type} {nodes : α → List Node} {items : List α}
    {body tail : List Node} {read : List Node → List β} {out : α → List β}
    (h : Separated "," nodes items body)
    (hitem : ∀ item rest, Node.startsWithBang rest = false →
      read (nodes item ++ rest) = out item ++ read rest)
    (hcomma : ∀ comma rest, Node.isToken "," comma → read (comma :: rest) = read rest)
    (htail : Node.startsWithBang tail = false) :
    read (body ++ tail) = items.flatMap out ++ read tail := by
  induction h with
  | none => rfl
  | one item =>
      rw [hitem item tail htail, List.flatMap_singleton]
  | @more item next rest separator body hseparator _ ih =>
      rw [List.append_assoc, List.cons_append,
        hitem item _ (Node.startsWithBang_token hseparator (by decide) _),
        hcomma _ _ hseparator, ih, List.flatMap_cons (x := item), List.append_assoc]

/-! ## Items -/

namespace Node

theorem slotsAmong_token {node : Node} {token : String} (h : node.isToken token)
    (hequals : token ≠ "=") (rest : List Node) : slotsAmong (node :: rest) = slotsAmong rest :=
  congrArg (List.filterMap entrySlot?) (entries_token h hequals rest)

/-- Labels have no slot and leave no flag. -/
theorem slotsAmong_labels {labels : List Node} (h : ∀ label ∈ labels, label.isItemLabel)
    (rest : List Node) : slotsAmong (labels ++ rest) = slotsAmong rest := by
  induction labels with
  | nil => rfl
  | cons label labels ih =>
      obtain ⟨hlabel, hlabels⟩ := List.forall_mem_cons.mp h
      rw [← ih hlabels, List.cons_append]
      unfold isItemLabel at hlabel
      cases hnamed : label.isNamed with
      | true =>
          rw [if_pos hnamed] at hlabel
          obtain ⟨htype, hkinds⟩ := Bool.and_eq_true_iff.mp hlabel
          have hnone (mark : Bool) : entrySlot? (label, mark) = none := by
            simp only [Bool.not_eq_true'] at htype hkinds
            simp only [entrySlot?, htype, hkinds]
            rfl
          rw [slotsAmong, entries_named hnamed, List.filterMap_cons_none (hnone _)]
          rfl
      | false =>
          rw [if_neg (by simp [hnamed])] at hlabel
          have hkind : label.kind ≠ "=" := by
            intro hequals
            rw [isOneOf, hequals] at hlabel
            exact absurd hlabel (by decide)
          exact congrArg (List.filterMap entrySlot?) (entries_plain hnamed hkind _)

/-- A type that stands on its own has a slot with its mark. -/
theorem entrySlot?_of_isType {node : Node} (h : node.isType) (mark : Bool) :
    entrySlot? (node, mark) = some (some ⟨node, false, mark⟩) := by
  have hkinds : node.isOneOf ["tuple_type_item", "parameter"] = false := by
    cases hkind : node.isOneOf ["tuple_type_item", "parameter"] with
    | false => rfl
    | true =>
        simp only [isOneOf, List.contains_eq_mem, List.mem_cons, List.not_mem_nil, or_false,
          decide_eq_true_eq] at hkind
        rw [isType, typeForm?] at h
        rcases hkind with hkind | hkind <;> rw [hkind] at h <;> cases h
  simp only [entrySlot?, hkinds, h]
  rfl

end Node

namespace ValueItem

/-- The mark of an item follows its type. -/
theorem startsWithBang_mark (item : ValueItem) {rest : List Node}
    (hrest : Node.startsWithBang rest = false) :
    Node.startsWithBang (item.mark.toList ++
      (item.preset.toList.flatMap Assigned.nodes ++ rest)) = item.mark.isSome := by
  cases hmark : item.mark with
  | some token => exact item.isBang token hmark
  | none =>
      cases hpreset : item.preset with
      | none => exact hrest
      | some preset => exact Node.startsWithBang_token preset.isEquals (by decide) _

theorem slotsAmong_nodes (item : ValueItem) {rest : List Node}
    (hrest : Node.startsWithBang rest = false) :
    Node.slotsAmong (item.nodes ++ rest) = some item.slot :: Node.slotsAmong rest := by
  have hslot : Node.entrySlot? (item.type, item.mark.isSome) = some (some item.slot) :=
    Node.entrySlot?_of_isType item.isType _
  have hmark : Node.slotsAmong (item.mark.toList ++
      (item.preset.toList.flatMap Assigned.nodes ++ rest)) = Node.slotsAmong rest := by
    have hpreset : Node.slotsAmong (item.preset.toList.flatMap Assigned.nodes ++ rest) =
        Node.slotsAmong rest :=
      congrArg (List.filterMap Node.entrySlot?) (Node.entries_assigned item.preset rest)
    cases hmark : item.mark with
    | none => exact hpreset
    | some token =>
        rw [← hpreset]
        exact Node.slotsAmong_token (item.isBang token hmark) (by decide) _
  rw [nodes, List.append_assoc, Node.slotsAmong_labels item.isLabel, List.cons_append,
    List.append_assoc, Node.slotsAmong, Node.entries_named item.isNamed,
    item.startsWithBang_mark hrest, List.filterMap_cons_some hslot, ← hmark]
  rfl

/-- The type of an item is read off its slot. -/
theorem typeExpr_slot (item : ValueItem) (owner : Option Node) :
    TypeSlot.typeExpr owner (some item.slot) = item.typeExpr := by
  rw [TypeSlot.typeExpr_some]
  rfl

end ValueItem

namespace ValueList

/-- A list of values has one slot per item, in order. -/
theorem elementSlots_eq (values : ValueList) :
    values.node.elementSlots = values.items.map fun item => some item.slot := by
  have hclosing : Node.startsWithBang [values.closing] = false :=
    Node.startsWithBang_token values.isClosing (by decide) []
  have hinner : Node.slotsAmong (values.inner ++ [values.closing]) =
      (values.items.flatMap fun item => [some item.slot]) ++ Node.slotsAmong [values.closing] :=
    values.separated.read_append (fun item _ => item.slotsAmong_nodes)
      (fun _ rest hcomma => Node.slotsAmong_token hcomma (by decide) rest) hclosing
  show Node.slotsAmong values.node.children = _
  rw [values.children, List.cons_append, Node.slotsAmong_token values.isOpening (by decide), hinner,
    Node.slotsAmong_token values.isClosing (by decide), List.map_eq_flatMap]
  exact List.append_nil _

end ValueList

/-! ## Elements -/

namespace Node

theorem entryNodes_named {node : Node} (h : node.isNamed) (rest : List Node) :
    entryNodes (node :: rest) = node :: entryNodes rest := by
  rw [entryNodes, entries_named h]
  rfl

theorem entryNodes_assigned (assigned : Option Assigned) (rest : List Node) :
    entryNodes (assigned.toList.flatMap Assigned.nodes ++ rest) = entryNodes rest :=
  congrArg (List.map Prod.fst) (entries_assigned assigned rest)

/-- What stands in front of the elements is passed over. -/
theorem caseElementsAmong_lead {lead : List Node} (h : ∀ child ∈ lead, child.leadsCase)
    (rest : List Node) :
    caseElementsAmong (entryNodes (lead ++ rest)) = caseElementsAmong (entryNodes rest) := by
  induction lead with
  | nil => rfl
  | cons child lead ih =>
      obtain ⟨hchild, hlead⟩ := List.forall_mem_cons.mp h
      rw [← ih hlead, List.cons_append]
      unfold leadsCase at hchild
      cases hnamed : child.isNamed with
      | true =>
          rw [if_pos hnamed] at hchild
          have hkind : (child.kind == "simple_identifier") = false := by
            cases hkind : child.kind == "simple_identifier" with
            | false => rfl
            | true =>
                rw [isOneOf, beq_iff_eq.mp hkind] at hchild
                exact absurd hchild (by decide)
          rw [entryNodes_named hnamed, caseElementsAmong, hkind]
          rfl
      | false =>
          rw [if_neg (by simp [hnamed])] at hchild
          rw [entryNodes, entries_plain hnamed (by simpa using hchild)]
          rfl

end Node

namespace WrittenElement

/-- The nodes of an element that are not passed over: its name and its list of values. -/
def own (written : WrittenElement) : List Node :=
  written.name :: written.values.toList.map ValueList.node

theorem entryNodes_nodes (written : WrittenElement) (rest : List Node) :
    Node.entryNodes (written.nodes ++ rest) = written.own ++ Node.entryNodes rest := by
  rw [nodes, own, List.cons_append, Node.entryNodes_named written.isNamed, List.append_assoc]
  cases written.values with
  | none => exact congrArg _ (Node.entryNodes_assigned written.raw rest)
  | some values =>
      show written.name :: Node.entryNodes
        (values.node :: (written.raw.toList.flatMap Assigned.nodes ++ rest)) = _
      rw [Node.entryNodes_named values.isNamed, Node.entryNodes_assigned]
      rfl

/-- Every name starts an element, and the list of values before the next name belongs to it. -/
theorem caseElementsAmong_own (elements : List WrittenElement) :
    Node.caseElementsAmong (elements.flatMap own) = elements.map element := by
  induction elements with
  | nil => rfl
  | cons written rest ih =>
      -- The next element starts with a name.
      have hnext : (rest.flatMap own).takeWhile (·.kind != "simple_identifier") = [] := by
        cases rest with
        | nil => rfl
        | cons next others =>
            rw [List.flatMap_cons, own, List.cons_append, List.takeWhile_cons_of_neg]
            simp [next.kind]
      rw [List.flatMap_cons, List.map_cons, ← ih, own, List.cons_append, Node.caseElementsAmong,
        if_pos (by simp [written.kind]), element]
      cases written.values with
      | none =>
          show CaseElement.mk _ ((((rest.flatMap own).takeWhile
            (·.kind != "simple_identifier")).filter _).getLast?) :: _ = _
          rw [hnext]
          rfl
      | some values =>
          have hkind : (values.node.kind != "simple_identifier") = true := by
            rw [values.kind]
            decide
          have hlist : values.node.isOneOf ["enum_type_parameters"] = true := by
            rw [Node.isOneOf, values.kind]
            decide
          show CaseElement.mk _ ((((values.node :: rest.flatMap own).takeWhile
            (·.kind != "simple_identifier")).filter _).getLast?) ::
              Node.caseElementsAmong (values.node :: rest.flatMap own) = _
          rw [List.takeWhile_cons, if_pos hkind, hnext, List.filter_cons_of_pos hlist,
            Node.caseElementsAmong, if_neg (by simpa using hkind)]
          rfl

/-- What is read off an element when it is tried. -/
theorem entities_element (written : WrittenElement) (descriptors : List Descriptor) :
    written.element.entities descriptors = written.types.map fun types =>
      [{ name := written.name.text, kind := .enumCase, descriptors
         predicates := types.toList.map (.ofTypes "HAS") }] := by
  unfold CaseElement.entities types element
  cases written.values with
  | none => rfl
  | some values =>
      have htypes : values.node.elementSlots.mapM (TypeSlot.typeExpr (some values.node)) =
          values.items.mapM ValueItem.typeExpr := by
        rw [values.elementSlots_eq, List.mapM_map]
        exact mapM_congr_of_mem fun item _ => item.typeExpr_slot _
      simp only [Option.map_some, htypes]
      cases values.items.mapM ValueItem.typeExpr <;> rfl

/-- What escapes from an element escapes from its types. -/
theorem escape?_element (written : WrittenElement) (descriptors : List Descriptor) :
    escape? (written.element.entities descriptors) = escape? written.types := by
  rw [entities_element, escape?_map]

end WrittenElement

namespace WrittenCase

/-- The elements of a case are read in order, each with its own list of values. -/
theorem caseElements_eq (written : WrittenCase) :
    written.node.caseElements = written.elements.map WrittenElement.element := by
  have hbody : Node.entryNodes (written.body ++ []) =
      written.elements.flatMap WrittenElement.own ++ Node.entryNodes [] := by
    refine written.separated.read_append (fun element rest _ => element.entryNodes_nodes rest)
      (fun comma rest hcomma => ?_) rfl
    exact congrArg (List.map Prod.fst) (Node.entries_token hcomma (by decide) rest)
  show Node.caseElementsAmong (Node.entryNodes written.node.children) = _
  rw [written.children, Node.caseElementsAmong_lead written.leads, ← List.append_nil written.body,
    hbody, ← WrittenElement.caseElementsAmong_own]
  exact congrArg Node.caseElementsAmong (List.append_nil _)

/-- What a case gives: an entity for every element whose types can be read, in order, and a notice
for every element that is dropped, unless a failure escapes from one of them. -/
theorem enumCaseEntities_eq (written : WrittenCase)
    (h : ∀ element ∈ written.elements, escape? element.types = none) :
    written.node.enumCaseEntities =
      ⟨written.elements.filterMap fun element =>
          dropNotice? (.element element.element) element.types,
        .ok (written.elements.filterMap (WrittenElement.entity? written.node.descriptors))⟩ := by
  have hescape : ∀ element ∈ written.elements,
      escape? (element.element.entities written.node.descriptors) = none := by
    intro element hmem
    rw [element.escape?_element, h element hmem]
  have hentity (element : WrittenElement) :
      (element.element.entities written.node.descriptors).toOption.getD [] =
        (element.entity? written.node.descriptors).toList := by
    rw [element.entities_element, WrittenElement.entity?]
    cases element.types <;> rfl
  have hnotice (element : WrittenElement) :
      dropNotice? (.element element.element) (element.element.entities written.node.descriptors) =
        dropNotice? (.element element.element) element.types := by
    rw [element.entities_element, dropNotice?_map]
  rw [Node.enumCaseEntities, written.caseElements_eq, List.map_map]
  refine (Progress.reading_attempts hescape).trans ?_
  simp only [hentity, hnotice, List.filterMap_eq_flatMap_toList]

/-- A case fails only with what escapes from an element, the first one if there are several. -/
theorem enumCaseEntities_eq_error (written : WrittenCase) {failure : Failure} :
    written.node.enumCaseEntities.result = .error failure ↔
      written.elements.findSome? (fun element => escape? element.types) = some failure := by
  rw [Node.enumCaseEntities, written.caseElements_eq, List.map_map]
  refine Progress.result_attempts_eq_error.trans ?_
  simp only [WrittenElement.escape?_element]

/-- The elements of a case are read back in order, each with its own list of values, and every item
of such a list has a slot of its own, marked as the item is. Every element whose types can be read
gives one entity, with the descriptors of the case and with its own types; an element that is
dropped is told of and does not matter to the others. Only a failure that is no drop ends the
case. -/
theorem read_back (written : WrittenCase) :
    written.node.caseElements = written.elements.map WrittenElement.element ∧
      (∀ element ∈ written.elements, ∀ values ∈ element.values,
        values.node.elementSlots = values.items.map fun item => some item.slot) ∧
      ((∀ element ∈ written.elements, escape? element.types = none) →
        written.node.enumCaseEntities =
          ⟨written.elements.filterMap fun element =>
              dropNotice? (.element element.element) element.types,
            .ok (written.elements.filterMap
              (WrittenElement.entity? written.node.descriptors))⟩) ∧
      ∀ failure, written.node.enumCaseEntities.result = .error failure ↔
        written.elements.findSome? (fun element => escape? element.types) = some failure :=
  ⟨written.caseElements_eq, fun _ _ values _ => values.elementSlots_eq,
    written.enumCaseEntities_eq, fun _ => written.enumCaseEntities_eq_error⟩

end WrittenCase

/-! ## A case with all of this

The case is `case a(b:A!=b,C),c=d,e(P.Q),f`. The preset value of the first element and the raw value
of the second one look like names, and the type of the third one is not supported. -/

namespace MixedCase

/-- A node of the source. -/
def piece (node : Node) : Node :=
  (Source.ofString "case a(b:A!=b,C),c=d,e(P.Q),f").annotate node

/-- An identifier. -/
def identifier (start : Nat) : Node :=
  piece (.over "simple_identifier" start (start + 1) [])

/-- A token. -/
def token (kind : String) (start : Nat) : Node :=
  piece (.tokenOver kind start (start + 1))

/-- An item with a type. -/
def item (labels : List Node) (start stop : Nat) (identifiers : List Nat) (mark : Option Node)
    (preset : Option Assigned) (isLabel : ∀ label ∈ labels, label.isItemLabel)
    (isBang : ∀ token ∈ mark, token.isToken "!") : ValueItem :=
  ⟨labels, piece (.over "user_type" start stop
      (identifiers.map fun first => .over "type_identifier" first (first + 1) [])),
    mark, preset, isLabel, rfl, rfl, isBang⟩

/-- A list of values. -/
def values {items : List ValueItem} {inner : List Node} (start stop : Nat)
    (separated : Separated "," ValueItem.nodes items inner) : ValueList :=
  ⟨⟨(piece (.over "enum_type_parameters" start (stop + 1) [])).label,
      token "(" start :: inner ++ [token ")" stop]⟩,
    items, token "(" start, inner, token ")" stop, rfl, rfl, rfl, rfl, rfl, separated⟩

/-- The values `(b:A!=b,C)`. -/
def firstValues : ValueList :=
  values 6 15 (.more
    (item [identifier 7, token ":" 8] 9 10 [9] (some (token "!" 10))
      (some ⟨token "=" 11, identifier 12, rfl, rfl⟩) (by decide) (by decide))
    (show (token "," 13).isToken "," from rfl)
    (.one (item [] 14 15 [14] none none (by decide) (by decide))))

/-- The values `(P.Q)`. -/
def thirdValues : ValueList :=
  values 22 26 (.one (item [] 23 26 [23, 25] none none (by decide) (by decide)))

/-- The case. -/
def written : WrittenCase where
  node := ⟨(piece (.over "enum_entry" 0 29 [])).label, _⟩
  lead := [piece (.tokenOver "case" 0 4)]
  elements := _
  body := _
  children := rfl
  leads := by decide
  separated :=
    .more ⟨identifier 5, some firstValues, none, rfl, rfl⟩
      (show (token "," 16).isToken "," from rfl)
    (.more ⟨identifier 17, none, some ⟨token "=" 18, identifier 19, rfl, rfl⟩, rfl, rfl⟩
      (show (token "," 20).isToken "," from rfl)
    (.more ⟨identifier 21, some thirdValues, none, rfl, rfl⟩
      (show (token "," 27).isToken "," from rfl)
    (.one ⟨identifier 28, none, none, rfl, rfl⟩)))

end MixedCase

theorem WrittenCase.read_back_mixed :
    MixedCase.written.node.caseElements.map CaseElement.name = ["a", "c", "e", "f"] ∧
      MixedCase.written.node.enumCaseEntities.result = .ok [
        { name := "a", kind := .enumCase
          predicates := [.ofTypes "HAS" [.compound .unwrapped [.named "A" []], .named "C" []]] },
        { name := "c", kind := .enumCase },
        { name := "f", kind := .enumCase }] := by
  obtain ⟨helements, -, hentities, -⟩ := read_back MixedCase.written
  rw [helements, hentities (by decide)]
  exact ⟨rfl, rfl⟩

end WordGrid
