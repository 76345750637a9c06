import WordGrid.Proofs.Attempts
import WordGrid.Proofs.EntityShape
import WordGrid.Proofs.TypeEquation

/-!
# The annotation of a binding

A property declaration lists the positions of its names, and the names are found again among its
children by kind and span. If nothing else looks like one of them, the children that are taken for
names are those at the positions (`Node.BindsAt.namesFrom`). `Node.bindingsAt` says what the
bindings should be: every name with the first annotation that has a type before the next name. Read
`Node.bindings_keep_annotations` first.
-/

namespace WordGrid

namespace Node

/-- Is the node an annotation with a type in it? -/
def isTypedAnnotation (node : Node) : Bool :=
  node.kind == "type_annotation" && node.namedChildren.any isType

/-- The slot of the first annotation with a type. -/
def annotatedSlot? (nodes : List Node) : Option TypeSlot :=
  (nodes.find? isTypedAnnotation).bind slot?

/-- The children from a position on and before another one, or up to the end. -/
def childrenFrom (start : Nat) (stop : Option Nat) (node : Node) : List Node :=
  (node.children.take (stop.getD node.children.length)).drop start

/-- The bindings of the names at some positions. The slot of a name is that of the first annotation
with a type after it and before the next name. -/
def bindingsAt (node : Node) : List Nat → List Binding
  | [] => []
  | position :: rest =>
      (node.children[position]?.map fun pattern =>
        ⟨pattern, annotatedSlot? (node.childrenFrom (position + 1) rest.head?)⟩).toList ++
      bindingsAt node rest

/-- A declaration has its names at some positions, and nothing else looks like one of them. -/
structure BindsAt (node : Node) (positions : List Nat) : Prop where
  listed : node.label.fields.lookup "name" = some positions
  nonempty : positions ≠ []
  increasing : positions.Pairwise (· < ·)
  within : ∀ position ∈ positions, position < node.children.length
  alike : ∀ position ∈ positions, ∀ name ∈ node.children[position]?,
    ∀ other ∈ positions, ∀ name' ∈ node.children[other]?, name.kind = name'.kind
  alone : ∀ index < node.children.length, index ∉ positions → ∀ child ∈ node.children[index]?,
    ∀ position ∈ positions, ∀ name ∈ node.children[position]?,
      ¬ (child.kind = name.kind ∧ child.span = name.span)

/-! ## Annotations -/

/-- A node has a slot when one of its named children is a type. -/
theorem slot?_isSome (node : Node) : node.slot?.isSome = node.namedChildren.any isType := by
  have hfirst (nodes : List Node) :
      (firstMarked? (fun child => child.isNamed && child.isType) nodes).isSome =
        (nodes.filter isNamed).any isType := by
    induction nodes with
    | nil => rfl
    | cons child rest ih =>
        rw [firstMarked?, List.filter_cons]
        cases hnamed : child.isNamed <;> cases htype : child.isType <;> simp [htype, ih]
  rw [slot?, Option.isSome_map, hfirst]
  rfl

/-- The first annotation with a type is the first one that has a slot. -/
theorem annotatedSlot?_cons (node : Node) (rest : List Node) :
    annotatedSlot? (node :: rest) =
      if node.kind == "type_annotation" then node.slot?.or (annotatedSlot? rest)
      else annotatedSlot? rest := by
  unfold annotatedSlot?
  rw [List.find?_cons, isTypedAnnotation, ← slot?_isSome]
  cases hkind : node.kind == "type_annotation" with
  | false => simp
  | true => cases hslot : node.slot? <;> simp [hslot]

/-- One child more at the start. -/
theorem childrenFrom_eq_cons {node child : Node} {start : Nat} {stop : Option Nat}
    (hchild : node.children[start]? = some child) (hstop : ∀ position ∈ stop, start < position) :
    node.childrenFrom start stop = child :: node.childrenFrom (start + 1) stop := by
  obtain ⟨hlength, hget⟩ := List.getElem?_eq_some_iff.mp hchild
  have hlt : start < stop.getD node.children.length := by
    cases stop with
    | none => exact hlength
    | some position => exact hstop position rfl
  unfold childrenFrom
  rw [List.drop_eq_getElem_cons (by rw [List.length_take]; omega), List.getElem_take, hget]

theorem childrenFrom_self (node : Node) (start : Nat) :
    node.childrenFrom start (some start) = [] := by
  rw [childrenFrom, List.drop_eq_nil_iff, List.length_take]
  exact Nat.min_le_left _ _

/-! ## Names among the children -/

/-- The positions, in order, of the children from a start on that are taken for names. -/
structure NamesFrom (isName : Node → Bool) (node : Node) (start : Nat) (positions : List Nat) :
    Prop where
  increasing : positions.Pairwise (· < ·)
  mem_iff : ∀ index, index ∈ positions ↔
    start ≤ index ∧ ∃ child, node.children[index]? = some child ∧ isName child

namespace NamesFrom

variable {isName : Node → Bool} {node child : Node} {start : Nat} {positions : List Nat}

/-- There are no names behind the last child. -/
theorem eq_nil (h : NamesFrom isName node start positions) (hstart : node.children.length ≤ start) :
    positions = [] := by
  refine List.eq_nil_iff_forall_not_mem.mpr fun index hindex => ?_
  obtain ⟨hle, child, hchild, _⟩ := (h.mem_iff index).mp hindex
  have hlt := (List.getElem?_eq_some_iff.mp hchild).1
  omega

/-- A child that is no name is passed over. -/
theorem of_not_name (h : NamesFrom isName node start positions)
    (hchild : node.children[start]? = some child) (hname : isName child = false) :
    NamesFrom isName node (start + 1) positions := by
  refine ⟨h.increasing, fun index => ?_⟩
  rw [h.mem_iff]
  refine and_congr_left fun ⟨other, hother, hisName⟩ => ⟨fun hle => ?_, fun hle => by omega⟩
  rcases Nat.eq_or_lt_of_le hle with rfl | hlt
  · rw [hchild] at hother
    rw [← Option.some.inj hother, hname] at hisName
    cases hisName
  · exact hlt

/-- A child that is a name comes first, and the others follow. -/
theorem of_name (h : NamesFrom isName node start positions)
    (hchild : node.children[start]? = some child) (hname : isName child) :
    ∃ rest, positions = start :: rest ∧ NamesFrom isName node (start + 1) rest := by
  have hstart : start ∈ positions := (h.mem_iff start).mpr ⟨Nat.le_refl _, child, hchild, hname⟩
  cases positions with
  | nil => cases hstart
  | cons first rest =>
      obtain ⟨hfirst, hrest⟩ := List.pairwise_cons.mp h.increasing
      have hle : start ≤ first := ((h.mem_iff first).mp List.mem_cons_self).1
      obtain rfl : start = first := by
        rcases List.mem_cons.mp hstart with heq | hmem
        · exact heq
        · have hlt := hfirst start hmem
          omega
      refine ⟨rest, rfl, hrest, fun index => ⟨fun hmem => ?_, fun ⟨hlt, hother⟩ => ?_⟩⟩
      · exact ⟨hfirst index hmem, ((h.mem_iff index).mp (List.mem_cons_of_mem _ hmem)).2⟩
      · have hmem := (h.mem_iff index).mpr ⟨by omega, hother⟩
        exact (List.mem_cons.mp hmem).resolve_left (by omega)

/-- The scan over the children finds the names, and for each one the annotation before the next. The
induction is on the children that are left; the annotation that is still looked for lies before the
first of the names that are left. -/
theorem bindingsAmong_eq (h : NamesFrom isName node start positions) {nodes : List Node}
    (hnodes : node.children.drop start = nodes) :
    bindingsAmong isName nodes = node.bindingsAt positions ∧
      annotation? isName nodes = annotatedSlot? (node.childrenFrom start positions.head?) := by
  induction nodes generalizing start positions with
  | nil =>
      obtain rfl := h.eq_nil (List.drop_eq_nil_iff.mp hnodes)
      refine ⟨rfl, ?_⟩
      show none = annotatedSlot? ((node.children.take node.children.length).drop start)
      rw [List.take_length, hnodes]
      rfl
  | cons child rest ih =>
      have hchild : node.children[start]? = some child := by
        rw [← Nat.add_zero start, ← List.getElem?_drop, hnodes]
        rfl
      have hrest : node.children.drop (start + 1) = rest := by
        rw [← List.drop_drop, hnodes]
        rfl
      rw [bindingsAmong, annotation?]
      cases hname : isName child with
      | true =>
          obtain ⟨others, rfl, hothers⟩ := h.of_name hchild hname
          obtain ⟨hbindings, hslot⟩ := ih hothers hrest
          refine ⟨?_, ?_⟩
          · rw [if_pos rfl, hbindings, hslot, bindingsAt, hchild]
            rfl
          · rw [List.head?_cons, childrenFrom_self]
            rfl
      | false =>
          have hothers := h.of_not_name hchild hname
          obtain ⟨hbindings, hslot⟩ := ih hothers hrest
          have hstop : ∀ position ∈ positions.head?, start < position := fun position hhead =>
            ((hothers.mem_iff position).mp (List.mem_of_head? hhead)).1
          refine ⟨hbindings, ?_⟩
          rw [childrenFrom_eq_cons hchild hstop, annotatedSlot?_cons, hslot]
          rfl

end NamesFrom

namespace BindsAt

variable {node : Node} {positions : List Nat} (h : node.BindsAt positions)
include h

theorem bindingNames_eq : node.bindingNames = positions.filterMap (node.children[·]?) := by
  have hnames : node.fieldChildren "name" = positions.filterMap (node.children[·]?) := by
    rw [fieldChildren, h.listed]
    rfl
  have hsome : positions.filterMap (node.children[·]?) ≠ [] := by
    obtain ⟨position, hposition⟩ := List.exists_mem_of_ne_nil positions h.nonempty
    intro hnil
    have hnone := List.filterMap_eq_nil_iff.mp hnil position hposition
    exact absurd (h.within position hposition) (Nat.not_lt.mpr (List.getElem?_eq_none_iff.mp hnone))
  rw [bindingNames, hnames, if_neg (by simpa using hsome)]

theorem mem_bindingNames {name : Node} :
    name ∈ node.bindingNames ↔ ∃ position ∈ positions, node.children[position]? = some name := by
  rw [h.bindingNames_eq, List.mem_filterMap]

/-- A child is taken for a name when it has the kind and the span of one. -/
theorem isBoundBy_iff {child : Node} :
    isBoundBy node.bindingNames child ↔
      ∃ name ∈ node.bindingNames, child.kind = name.kind ∧ child.span = name.span := by
  have hkinds : ∀ name ∈ node.bindingNames, ∀ other ∈ node.bindingNames,
      name.kind = other.kind := by
    intro name hname other hother
    obtain ⟨position, hposition, hname⟩ := h.mem_bindingNames.mp hname
    obtain ⟨position', hposition', hother⟩ := h.mem_bindingNames.mp hother
    exact h.alike position hposition name hname position' hposition' other hother
  unfold isBoundBy
  rw [Bool.and_eq_true, List.contains_iff_mem, List.mem_map]
  -- The kind is compared with that of the first name, and all names have it.
  constructor
  · rintro ⟨⟨name, hname, hspan⟩, hkind⟩
    refine ⟨name, hname, ?_, hspan.symm⟩
    cases hfirst : node.bindingNames.head? with
    | none =>
        rw [List.head?_eq_none_iff.mp hfirst] at hname
        cases hname
    | some first =>
        rw [hfirst, Option.any_some, beq_iff_eq] at hkind
        rw [← hkind]
        exact hkinds first (List.mem_of_head? hfirst) name hname
  · rintro ⟨name, hname, hkind, hspan⟩
    refine ⟨⟨name, hname, hspan.symm⟩, ?_⟩
    cases hfirst : node.bindingNames.head? with
    | none =>
        rw [List.head?_eq_none_iff.mp hfirst] at hname
        cases hname
    | some first =>
        rw [Option.any_some, beq_iff_eq, hkind]
        exact hkinds first (List.mem_of_head? hfirst) name hname

/-- The children that are taken for names are those at the positions. -/
theorem namesFrom : NamesFrom (isBoundBy node.bindingNames) node 0 positions := by
  refine ⟨h.increasing, fun index => ⟨fun hindex => ⟨Nat.zero_le _, ?_⟩, ?_⟩⟩
  · have hchild := List.getElem?_eq_getElem (h.within index hindex)
    exact ⟨_, hchild, h.isBoundBy_iff.mpr
      ⟨_, h.mem_bindingNames.mpr ⟨index, hindex, hchild⟩, rfl, rfl⟩⟩
  · rintro ⟨-, child, hchild, hbound⟩
    obtain ⟨name, hname, hsame⟩ := h.isBoundBy_iff.mp hbound
    obtain ⟨position, hposition, hname⟩ := h.mem_bindingNames.mp hname
    by_cases hindex : index ∈ positions
    · exact hindex
    · have hlength := (List.getElem?_eq_some_iff.mp hchild).1
      exact absurd hsame (h.alone index hlength hindex child hchild position hposition name hname)

/-- The bindings are the names at the positions, each with its own annotation. -/
theorem bindings_eq : node.bindings = node.bindingsAt positions :=
  (h.namesFrom.bindingsAmong_eq (List.drop_zero ..)).1

end BindsAt

end Node

/-! ## Entities -/

namespace Binding

/-- The entity of a binding: there is one if its pattern is a single name and it has an annotation
that can be read. -/
def entity? (kind : EntityKind) (descriptors : List Descriptor) (binding : Binding) :
    Option Entity := do
  let name ← binding.pattern.boundName?
  let slot ← binding.slot
  let type ← slot.node.typeExpr.toOption
  return { name, kind, descriptors, predicates := [.ofTypes "HAS" [slot.mark type]] }

theorem getD_entities (kind : EntityKind) (descriptors : List Descriptor) (binding : Binding) :
    (binding.entities kind descriptors).toOption.getD [] =
      (binding.entity? kind descriptors).toList := by
  unfold entities entity?
  cases binding.pattern.boundName? with
  | none => rfl
  | some name =>
      cases binding.slot with
      | none => rfl
      | some slot =>
          simp only [TypeSlot.typeExpr_some, Option.bind_eq_bind, Option.bind_some]
          cases slot.node.typeExpr <;> rfl

end Binding

namespace Node

/-- What a property declaration gives: an entity for every binding that has one, in order, and a
notice for every binding that is dropped, unless a failure escapes from one of them. -/
theorem propertyEntities_eq {node : Node} {kind : EntityKind}
    (hkind : node.bindingKeyword?.bind EntityKind.ofBindingKeyword? = some kind)
    (h : ∀ binding ∈ node.bindings, escape? (binding.entities kind node.descriptors) = none) :
    node.propertyEntities =
      ⟨node.bindings.filterMap fun binding =>
          dropNotice? (.binding binding) (binding.entities kind node.descriptors),
        .ok (node.bindings.filterMap (Binding.entity? kind node.descriptors))⟩ := by
  have hentities : (node.bindings.flatMap fun binding =>
      (binding.entities kind node.descriptors).toOption.getD []) =
        node.bindings.filterMap (Binding.entity? kind node.descriptors) := by
    simp only [Binding.getD_entities, List.filterMap_eq_flatMap_toList]
  unfold propertyEntities
  rw [hkind]
  simp only
  rw [Progress.reading_attempts h, hentities]

/-- A property fails only with what escapes from a binding, the first one if there are several. -/
theorem propertyEntities_eq_error {node : Node} {kind : EntityKind} {failure : Failure}
    (hkind : node.bindingKeyword?.bind EntityKind.ofBindingKeyword? = some kind) :
    node.propertyEntities.result = .error failure ↔
      node.bindings.findSome? (fun binding =>
        escape? (binding.entities kind node.descriptors)) = some failure := by
  unfold propertyEntities
  rw [hkind]
  exact Progress.result_attempts_eq_error

/-- If the names of a property declaration can be told from its other children, its bindings are
the names in order, each with the slot of the first annotation with a type before the next name. If
it is declared by `let` or `var`, every binding of a single name with an annotation that can be read
gives one entity, with the kind and the descriptors of the declaration and with its own type; the
others give none and do not matter to it. Only a failure that is no drop ends the declaration. -/
theorem bindings_keep_annotations {node : Node} {positions : List Nat}
    (h : node.BindsAt positions) :
    node.bindings = node.bindingsAt positions ∧
      ∀ kind, node.bindingKeyword?.bind EntityKind.ofBindingKeyword? = some kind →
        ((∀ binding ∈ node.bindings, escape? (binding.entities kind node.descriptors) = none) →
          node.propertyEntities =
            ⟨node.bindings.filterMap fun binding =>
                dropNotice? (.binding binding) (binding.entities kind node.descriptors),
              .ok (node.bindings.filterMap (Binding.entity? kind node.descriptors))⟩) ∧
        ∀ failure, node.propertyEntities.result = .error failure ↔
          node.bindings.findSome? (fun binding =>
            escape? (binding.entities kind node.descriptors)) = some failure :=
  ⟨h.bindings_eq, fun _ hkind =>
    ⟨propertyEntities_eq hkind, fun _ => propertyEntities_eq_error hkind⟩⟩

/-- A type with a name. -/
def namedTypeOver (start stop : Nat) : Node :=
  .over "user_type" start stop [.over "type_identifier" start stop []]

/-- The declaration `var a:A,(b,c):T,d,e:P.Q,f:R!`. The second pattern is no single name, `d` has no
annotation, and the type of `e` is not supported. -/
def mixedProperty : Node :=
  (Source.ofString "var a:A,(b,c):T,d,e:P.Q,f:R!").annotate
    ⟨{ kind := "property_declaration", span := ⟨0, 28⟩, fields := [("name", [1, 4, 7, 9, 12])] }, [
      .over "value_binding_pattern" 0 3 [.tokenOver "var" 0 3],
      .over "pattern" 4 5 [.over "simple_identifier" 4 5 []],
      .over "type_annotation" 5 7 [.tokenOver ":" 5 6, namedTypeOver 6 7],
      .tokenOver "," 7 8,
      .over "pattern" 8 13 [.tokenOver "(" 8 9, .over "pattern" 9 10 [], .tokenOver "," 10 11,
        .over "pattern" 11 12 [], .tokenOver ")" 12 13],
      .over "type_annotation" 13 15 [.tokenOver ":" 13 14, namedTypeOver 14 15],
      .tokenOver "," 15 16,
      .over "pattern" 16 17 [.over "simple_identifier" 16 17 []],
      .tokenOver "," 17 18,
      .over "pattern" 18 19 [.over "simple_identifier" 18 19 []],
      .over "type_annotation" 19 23 [.tokenOver ":" 19 20, .over "user_type" 20 23 [
        .over "type_identifier" 20 21 [], .tokenOver "." 21 22,
        .over "type_identifier" 22 23 []]],
      .tokenOver "," 23 24,
      .over "pattern" 24 25 [.over "simple_identifier" 24 25 []],
      .over "type_annotation" 25 28 [.tokenOver ":" 25 26, namedTypeOver 26 27,
        .tokenOver "!" 27 28]]⟩

theorem bindings_keep_annotations_mixedProperty :
    mixedProperty.bindings = mixedProperty.bindingsAt [1, 4, 7, 9, 12] ∧
      mixedProperty.propertyEntities.result = .ok [
        { name := "a", kind := .mutable, predicates := [.ofTypes "HAS" [.named "A" []]] },
        { name := "f", kind := .mutable
          predicates := [.ofTypes "HAS" [.compound .unwrapped [.named "R" []]]] }] := by
  have hbinds : mixedProperty.BindsAt [1, 4, 7, 9, 12] :=
    ⟨rfl, by decide, by decide, by decide, by decide, by decide⟩
  obtain ⟨hbindings, hentities⟩ := bindings_keep_annotations hbinds
  obtain ⟨hreading, -⟩ := hentities .mutable rfl
  refine ⟨hbindings, ?_⟩
  rw [hreading (by decide)]
  rfl

end Node

end WordGrid
