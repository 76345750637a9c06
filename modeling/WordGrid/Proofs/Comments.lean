import WordGrid.Outline.Document
import WordGrid.Proofs.Absence

/-!
# Comments

A comment is a named leaf that may stand between any two nodes. `Node.withChildAt` puts one in, and
`Node.mistakesAt` says where it would be taken for something else.
-/

namespace WordGrid

/-! ## Putting a node in -/

/-- A position after a child was put in at a place. -/
def shifted (place position : Nat) : Nat :=
  if position < place then position else position + 1

/-- The label of a node after a child was put in at a place: the same children play its roles. -/
def Label.withRoom (place : Nat) (label : Label) : Label :=
  { label with fields := label.fields.map fun role => (role.1, role.2.map (shifted place)) }

namespace Node

/-- A node with a child put in at a place. -/
def withChild (node : Node) (place : Nat) (child : Node) : Node :=
  ⟨node.label.withRoom (node.children.take place).length,
    node.children.take place ++ child :: node.children.drop place⟩

/-- A tree with a child put in at a place below the node at a path. -/
def withChildAt (place : Nat) (child : Node) : List Nat → Node → Node
  | [], node => node.withChild place child
  | position :: path, node =>
      ⟨node.label, node.children.modify position (withChildAt place child path)⟩

/-! ## Where a comment is mistaken -/

/-- The kinds of comments. -/
def commentKinds : List String :=
  ["comment", "multiline_comment"]

/-- Is the node a comment? -/
def isComment (node : Node) : Bool :=
  node.isNamed && node.isOneOf commentKinds && node.children.isEmpty

/-- Is the node a property declaration? -/
def isProperty (node : Node) : Bool :=
  node.isOneOf ["property_declaration", "protocol_property_declaration"]

/-- Is the keyword of a modifier one that shows in a summary? -/
def isTelling (keyword : String) : Bool :=
  (Descriptor.ofModifier? keyword).isSome || keyword == "mutating"

/-- Is the node read as a list of entries? -/
def listsEntries (node : Node) : Bool :=
  node.isOneOf ["enum_entry", "tuple_type"] || "parameters".toList.isSuffixOf node.kind.toList

/-- Is a named node read if it is an entry of a list? -/
def isEntryOf (list entry : Node) : Bool :=
  if list.kind == "enum_entry" then entry.isOneOf ["simple_identifier", "enum_type_parameters"]
  else entry.isOneOf ["tuple_type_item", "parameter"] || entry.isType

/-- Would a comment among the children of a node be taken for something else, between those before
and those after? -/
def mistakes (node : Node) (before after : List Node) (comment : Node) : Bool :=
  -- It counts as a side of a constraint.
  node.isConstraint ||
  -- It says what a modifier or a suppressed label says.
  (node.kind == "modifiers" && comment.modifierKeyword?.any isTelling) ||
  (node.kind == "parameter" && comment.text == "_") ||
  -- It covers the same bytes as a bound name that is a comment.
  (node.isProperty && isBoundBy node.bindingNames comment) ||
  -- It separates a type from its mark.
  (before.getLast?.any isType && startsWithBang after) ||
  -- It is left out in place of a value.
  (node.listsEntries && before.getLast?.any (isToken "=") &&
    after.head?.any fun next => next.isNamed && node.isEntryOf next) ||
  -- It is the first node before the arrow of a function type.
  (node.kind == "function_type" && node.functionSlots?.isSome &&
    before.all fun child => !child.isToken "->" && !child.isHolder)

/-- Is a name read off a child, which has it only as its one part? -/
def readsNameOff (node child : Node) : Bool :=
  (node.isConstraint && child.kind == "identifier" && (constrainedName? [child]).isSome) ||
  (node.isProperty && isBoundBy node.bindingNames child && child.kind != "simple_identifier" &&
    child.boundName?.isSome)

/-- Would a comment at a place below the node at a path be taken for something else? -/
def mistakesAt (place : Nat) (comment : Node) : List Nat → Node → Bool
  | [], node => node.mistakes (node.children.take place) (node.children.drop place) comment
  | position :: path, node =>
      match node.children[position]? with
      | none => false
      | some child =>
          (path.isEmpty && node.readsNameOff child) || mistakesAt place comment path child

/-! ## Trees with a comment -/

/-- The second tree is the first one, or it is the first one with a comment that is not mistaken. -/
inductive Commented : Node → Node → Prop where
  | same (node : Node) : Commented node node
  | here {label : Label} {before after : List Node} {comment : Node} :
      comment.isComment → mistakes ⟨label, before ++ after⟩ before after comment = false →
      Commented ⟨label, before ++ after⟩
        ⟨label.withRoom before.length, before ++ comment :: after⟩
  | inside {label : Label} {before after : List Node} {child other : Node} :
      Commented child other →
      (readsNameOff ⟨label, before ++ child :: after⟩ child →
        child.namedChildren.length = other.namedChildren.length) →
      Commented ⟨label, before ++ child :: after⟩ ⟨label, before ++ other :: after⟩

/-- Nodes that look the same from outside. -/
structure SameLook (left right : Node) : Prop where
  kind : left.kind = right.kind
  named : left.isNamed = right.isNamed
  text : left.text = right.text
  span : left.span = right.span

namespace SameLook

theorem refl (node : Node) : node.SameLook node :=
  ⟨rfl, rfl, rfl, rfl⟩

variable {left right : Node} (h : left.SameLook right)
include h

theorem isOneOf (kinds : List String) : left.isOneOf kinds = right.isOneOf kinds := by
  rw [Node.isOneOf, Node.isOneOf, h.kind]

theorem isToken (token : String) : left.isToken token = right.isToken token := by
  rw [Node.isToken, Node.isToken, h.named, h.kind]

theorem isType : left.isType = right.isType := by
  rw [Node.isType, Node.isType, Node.typeForm?, Node.typeForm?, h.kind]

theorem isIdentifier : left.isIdentifier = right.isIdentifier :=
  h.isOneOf _

theorem isConstraint : left.isConstraint = right.isConstraint :=
  h.isOneOf _

theorem operator? : left.operator? = right.operator? := by
  rw [Node.operator?, Node.operator?, h.named, h.kind]

theorem modifierKeyword? : left.modifierKeyword? = right.modifierKeyword? := by
  simp only [Node.modifierKeyword?, h.kind, h.text]

end SameLook

/-- A comment does not show in the look of a node around it. -/
theorem Commented.sameLook {node other : Node} (h : Commented node other) :
    node.SameLook other := by
  cases h <;> exact ⟨rfl, rfl, rfl, rfl⟩

section

variable {place : Nat} {comment : Node}

theorem sameLook_withChildAt (path : List Nat) (node : Node) :
    node.SameLook (withChildAt place comment path node) := by
  cases path <;> exact ⟨rfl, rfl, rfl, rfl⟩

/-- Nodes with the same looks are named alike. -/
theorem length_filter_isNamed {left right : List Node} (h : List.Forall₂ SameLook left right) :
    (left.filter isNamed).length = (right.filter isNamed).length := by
  induction h with
  | nil => rfl
  | @cons first other _ _ hfirst _ ih =>
      rw [List.filter_cons, List.filter_cons, hfirst.named]
      split
      · rw [List.length_cons, List.length_cons, ih]
      · exact ih

/-- A comment further down does not add to the parts of a node. -/
theorem length_namedChildren_withChildAt (position : Nat) (path : List Nat) (node : Node) :
    node.namedChildren.length =
      (withChildAt place comment (position :: path) node).namedChildren.length := by
  refine length_filter_isNamed ?_
  rw [withChildAt]
  cases hchild : node.children[position]? with
  | none =>
      rw [List.modify_eq_self (List.getElem?_eq_none_iff.mp hchild)]
      exact List.forall₂_same.mpr fun child _ => .refl child
  | some child =>
      obtain ⟨before, after, hchildren, rfl⟩ := exists_split hchild
      rw [hchildren, modify_split]
      exact forall₂_split SameLook.refl (sameLook_withChildAt path child) before after

/-- A comment that is put in where it is not mistaken. -/
theorem commented_withChildAt (hcomment : comment.isComment) {path : List Nat} {node : Node}
    (h : mistakesAt place comment path node = false) :
    Commented node (withChildAt place comment path node) := by
  induction path generalizing node with
  | nil =>
      obtain ⟨label, children⟩ := node
      have hsplit := List.take_append_drop place children
      rw [withChildAt, withChild]
      rw [mistakesAt] at h
      show Commented ⟨label, children⟩ ⟨label.withRoom (children.take place).length,
        children.take place ++ comment :: children.drop place⟩
      generalize children.take place = before at *
      generalize children.drop place = after at *
      subst hsplit
      exact .here hcomment h
  | cons position path ih =>
      obtain ⟨label, children⟩ := node
      rw [withChildAt]
      rw [mistakesAt] at h
      cases hchild : children[position]? with
      | none =>
          rw [List.modify_eq_self (List.getElem?_eq_none_iff.mp hchild)]
          exact .same _
      | some child =>
          obtain ⟨before, after, rfl, rfl⟩ := exists_split hchild
          simp only [hchild, Bool.or_eq_false_iff, Bool.and_eq_false_iff] at h
          rw [modify_split]
          refine .inside (ih h.2) fun hreads => ?_
          cases path with
          | nil => simp [hreads] at h
          | cons next path => exact length_namedChildren_withChildAt next path child

end

/-! ## What a comment is not -/

section

variable {comment : Node} (h : comment.isComment)
include h

theorem kind_mem_of_isComment : comment.kind ∈ commentKinds := by
  simp only [isComment, Bool.and_eq_true] at h
  exact List.contains_iff_mem.mp h.1.2

theorem isNamed_of_isComment : comment.isNamed = true := by
  simp only [isComment, Bool.and_eq_true] at h
  exact h.1.1

theorem children_of_isComment : comment.children = [] := by
  simp only [isComment, Bool.and_eq_true] at h
  exact List.isEmpty_iff.mp h.2

/-- A comment is of no other kind. -/
theorem isOneOf_of_isComment {kinds : List String} (hkinds : ∀ kind ∈ kinds, kind ∉ commentKinds) :
    comment.isOneOf kinds = false := by
  rw [isOneOf, Bool.eq_false_iff]
  intro hkind
  exact hkinds comment.kind (List.contains_iff_mem.mp hkind) (kind_mem_of_isComment h)

theorem kind_ne_of_isComment {kind : String} (hkind : kind ∉ commentKinds) :
    comment.kind ≠ kind := by
  rintro rfl
  exact hkind (kind_mem_of_isComment h)

theorem isToken_of_isComment (token : String) : comment.isToken token = false := by
  rw [isToken, isNamed_of_isComment h]
  rfl

theorem isType_of_isComment : comment.isType = false := by
  have hkind := kind_mem_of_isComment h
  simp only [commentKinds, List.mem_cons, List.not_mem_nil, or_false] at hkind
  rw [isType, typeForm?]
  rcases hkind with hkind | hkind <;> rw [hkind] <;> rfl

end

end Node

/-! ## Lists with extra nodes -/

/-- The first nodes of lists that are related one by one. -/
theorem head?_rel {α β : Type} {R : α → β → Prop} {left : List α} {right : List β}
    (h : List.Forall₂ R left right) : Option.Rel R left.head? right.head? := by
  cases h with
  | nil => exact .none
  | cons hfirst _ => exact .some hfirst

/-- Related items that give the same. -/
theorem map_eq_of_forall₂ {α β γ : Type} {R : α → β → Prop} {f : α → γ} {g : β → γ}
    {left : List α} {right : List β} (h : List.Forall₂ R left right)
    (hsame : ∀ item other, R item other → f item = g other) : left.map f = right.map g := by
  rw [← List.forall₂_eq_eq_eq, List.forall₂_map_left_iff, List.forall₂_map_right_iff]
  exact h.imp hsame

/-- The second list has the nodes of the first one, related one by one, and extra ones between
them. -/
inductive Scattered (R : Node → Node → Prop) (extra : Node → Prop) :
    List Node → List Node → Prop where
  | nil : Scattered R extra [] []
  | keep {node other : Node} {nodes others : List Node} :
      R node other → Scattered R extra nodes others →
      Scattered R extra (node :: nodes) (other :: others)
  | put {comment : Node} {nodes others : List Node} :
      extra comment → Scattered R extra nodes others →
      Scattered R extra nodes (comment :: others)

namespace Scattered

variable {R : Node → Node → Prop} {extra : Node → Prop} {nodes others : List Node}

/-- The same nodes, and nothing between them. -/
theorem of_forall₂ (h : List.Forall₂ R nodes others) : Scattered R extra nodes others := by
  induction h with
  | nil => exact .nil
  | cons hnode _ ih => exact .keep hnode ih

theorem mono {R' : Node → Node → Prop} {extra' : Node → Prop}
    (hR : ∀ node other, R node other → R' node other) (hextra : ∀ node, extra node → extra' node)
    (h : Scattered R extra nodes others) : Scattered R' extra' nodes others := by
  induction h with
  | nil => exact .nil
  | keep hnode _ ih => exact .keep (hR _ _ hnode) ih
  | put hcomment _ ih => exact .put (hextra _ hcomment) ih

/-- There are never fewer nodes, and only as many if nothing is put between them. -/
theorem length_le (h : Scattered R extra nodes others) : nodes.length ≤ others.length := by
  induction h with
  | nil => exact Nat.le_refl _
  | keep _ _ ih => exact Nat.succ_le_succ ih
  | put _ _ ih => exact Nat.le_succ_of_le ih

theorem forall₂_of_length_eq (h : Scattered R extra nodes others)
    (hlength : nodes.length = others.length) : List.Forall₂ R nodes others := by
  induction h with
  | nil => exact .nil
  | keep hnode _ ih => exact .cons hnode (ih (Nat.succ_inj.mp hlength))
  | put _ hrest _ =>
      have hle := hrest.length_le
      rw [List.length_cons] at hlength
      omega

section

variable {pick : Node → Bool} (hpick : ∀ node other, R node other → pick node = pick other)
include hpick

/-- What is picked by its look is scattered in the same way. -/
theorem filter (h : Scattered R extra nodes others) :
    Scattered R extra (nodes.filter pick) (others.filter pick) := by
  induction h with
  | nil => exact .nil
  | @keep node other _ _ hnode _ ih =>
      rw [List.filter_cons, List.filter_cons, hpick node other hnode]
      split
      · exact .keep hnode ih
      · exact ih
  | @put comment _ _ hcomment _ ih =>
      rw [List.filter_cons]
      split
      · exact .put hcomment ih
      · exact ih

/-- If nothing extra is picked, the picked nodes are related one by one. -/
theorem forall₂_filter (hextra : ∀ node, extra node → pick node = false)
    (h : Scattered R extra nodes others) :
    List.Forall₂ R (nodes.filter pick) (others.filter pick) := by
  induction h with
  | nil => exact .nil
  | @keep node other _ _ hnode _ ih =>
      rw [List.filter_cons, List.filter_cons, hpick node other hnode]
      split
      · exact .cons hnode ih
      · exact ih
  | @put comment _ _ hcomment _ ih =>
      rw [List.filter_cons, hextra comment hcomment]
      exact ih

/-- If nothing extra is picked, the first picked nodes are related. -/
theorem find? (hextra : ∀ node, extra node → pick node = false)
    (h : Scattered R extra nodes others) :
    Option.Rel R (nodes.find? pick) (others.find? pick) := by
  rw [← List.head?_filter, ← List.head?_filter]
  exact head?_rel (h.forall₂_filter hpick hextra)

variable (hextra : ∀ node, extra node → pick node = true)
include hextra

/-- A search that passes over what is extra stops at the same node. -/
theorem takeWhile (h : Scattered R extra nodes others) :
    Scattered R extra (nodes.takeWhile pick) (others.takeWhile pick) := by
  induction h with
  | nil => exact .nil
  | @keep node other _ _ hnode _ ih =>
      rw [List.takeWhile_cons, List.takeWhile_cons, hpick node other hnode]
      split
      · exact .keep hnode ih
      · exact .nil
  | @put comment _ _ hcomment _ ih =>
      rw [List.takeWhile_cons, hextra comment hcomment]
      exact .put hcomment ih

/-- What follows the node where such a search stops. -/
theorem drop_dropWhile (h : Scattered R extra nodes others) :
    Scattered R extra ((nodes.dropWhile pick).drop 1) ((others.dropWhile pick).drop 1) := by
  induction h with
  | nil => exact .nil
  | @keep node other _ _ hnode hrest ih =>
      rw [List.dropWhile_cons, List.dropWhile_cons, hpick node other hnode]
      split
      · exact ih
      · exact hrest
  | @put comment _ _ hcomment _ ih =>
      rw [List.dropWhile_cons, hextra comment hcomment]
      exact ih

end

/-- What is read off the nodes by their looks, and not off what is extra, is the same. -/
theorem filterMap_eq {α : Type} {look : Node → Option α}
    (hlook : ∀ node other, R node other → look node = look other)
    (hextra : ∀ node, extra node → look node = none) (h : Scattered R extra nodes others) :
    nodes.filterMap look = others.filterMap look := by
  induction h with
  | nil => rfl
  | @keep node other _ _ hnode _ ih =>
      rw [List.filterMap_cons, List.filterMap_cons, hlook node other hnode, ih]
  | @put comment _ _ hcomment _ ih =>
      rw [List.filterMap_cons, hextra comment hcomment]
      exact ih

end Scattered

/-- The second list has the nodes of the first one, related one by one, and extra ones that fit in
between the node before them and those after them. The option is the node before the lists. -/
inductive Threaded (R : Node → Node → Prop) (fits : Option Node → List Node → Node → Prop) :
    Option Node → List Node → List Node → Prop where
  | nil {last : Option Node} : Threaded R fits last [] []
  | keep {last : Option Node} {node other : Node} {nodes others : List Node} :
      R node other → Threaded R fits (some node) nodes others →
      Threaded R fits last (node :: nodes) (other :: others)
  | put {last : Option Node} {comment : Node} {nodes others : List Node} :
      fits last nodes comment → Threaded R fits (some comment) nodes others →
      Threaded R fits last nodes (comment :: others)

namespace Threaded

variable {R : Node → Node → Prop} {fits : Option Node → List Node → Node → Prop}

/-- The same nodes, and nothing between them. -/
theorem of_forall₂ {nodes others : List Node} (h : List.Forall₂ R nodes others)
    (last : Option Node) : Threaded R fits last nodes others := by
  induction h generalizing last with
  | nil => exact .nil
  | cons hnode _ ih => exact .keep hnode (ih _)

/-- Lists that differ by one extra node. -/
theorem of_split {comment : Node} (hrefl : ∀ node, R node node) (before after : List Node)
    (last : Option Node) (hfits : fits (before.getLast?.or last) after comment) :
    Threaded R fits last (before ++ after) (before ++ comment :: after) := by
  induction before generalizing last with
  | nil => exact .put hfits (.of_forall₂ (List.forall₂_same.mpr fun node _ => hrefl node) _)
  | cons first rest ih =>
      refine .keep (hrefl first) (ih (some first) ?_)
      cases rest with
      | nil => exact hfits
      | cons next rest => simpa [List.getLast?_cons] using hfits

/-- What follows the node where a search stops that passes over what is extra. -/
theorem drop_dropWhile {pass : Node → Bool} {nodes others : List Node} {last : Option Node}
    (hpass : ∀ node other, R node other → pass node = pass other)
    (hextra : ∀ last after comment, fits last after comment → pass comment = true)
    (h : Threaded R fits last nodes others) :
    ∃ stop, Threaded R fits stop ((nodes.dropWhile pass).drop 1)
      ((others.dropWhile pass).drop 1) := by
  induction h with
  | nil => exact ⟨none, .nil⟩
  | @keep _ node other _ _ hnode hrest ih =>
      rw [List.dropWhile_cons, List.dropWhile_cons, hpass node other hnode]
      split
      · exact ih
      · exact ⟨some node, hrest⟩
  | @put _ comment _ _ hcomment _ ih =>
      rw [@List.dropWhile_cons _ comment, hextra _ _ _ hcomment]
      exact ih

end Threaded

namespace Node

/-- A child of a node keeps the parts that a name is read off. -/
def Keeps (node left right : Node) : Prop :=
  Commented left right ∧
    (node.readsNameOff left → left.namedChildren.length = right.namedChildren.length)

/-- A comment that may stand somewhere among the children of a node. -/
structure Admits (node comment : Node) : Prop where
  isComment : comment.isComment
  constraint : node.isConstraint = false
  modifier : node.kind = "modifiers" → comment.modifierKeyword?.any isTelling = false
  label : node.kind = "parameter" → comment.text ≠ "_"
  bound : node.isProperty → isBoundBy node.bindingNames comment = false

theorem admits_of_mistakes {node comment : Node} {before after : List Node}
    (hcomment : comment.isComment) (h : node.mistakes before after comment = false) :
    node.Admits comment := by
  simp only [mistakes, Bool.or_eq_false_iff] at h
  obtain ⟨⟨⟨⟨⟨⟨hconstraint, hmodifier⟩, hlabel⟩, hbound⟩, -⟩, -⟩, -⟩ := h
  refine ⟨hcomment, hconstraint, fun hkind => ?_, fun hkind htext => ?_, fun hproperty => ?_⟩
  · simpa [hkind] using hmodifier
  · simp [hkind, htext] at hlabel
  · simpa [hproperty] using hbound

theorem Keeps.refl (node child : Node) : node.Keeps child child :=
  ⟨.same child, fun _ => rfl⟩

/-- Lists that differ by one extra node. -/
theorem scattered_split {R : Node → Node → Prop} {extra : Node → Prop} {comment : Node}
    (hrefl : ∀ node, R node node) (hcomment : extra comment) (before after : List Node) :
    Scattered R extra (before ++ after) (before ++ comment :: after) := by
  induction before with
  | nil => exact .put hcomment (.of_forall₂ (List.forall₂_same.mpr fun node _ => hrefl node))
  | cons first rest ih => exact .keep (hrefl first) ih

/-- The children of a tree with a comment. -/
theorem Commented.children {node other : Node} (h : Commented node other) :
    Scattered node.Keeps node.Admits node.children other.children := by
  cases h with
  | same => exact .of_forall₂ (List.forall₂_same.mpr fun child _ => .refl node child)
  | here hcomment hplace =>
      exact scattered_split (Keeps.refl _) (admits_of_mistakes hcomment hplace) _ _
  | inside hchild hreads =>
      exact .of_forall₂ (forall₂_split (Keeps.refl _) ⟨hchild, hreads⟩ _ _)

/-- A comment that fits in between the node before it and those after it. -/
structure Fits (node : Node) (last : Option Node) (after : List Node) (comment : Node) : Prop where
  isComment : comment.isComment
  mark : last.any isType → startsWithBang after = false
  value : node.listsEntries → last.any (isToken "=") →
    ∀ next ∈ after.head?, next.isNamed → node.isEntryOf next = false

theorem fits_of_mistakes {node comment : Node} {before after : List Node}
    (hcomment : comment.isComment) (h : node.mistakes before after comment = false) :
    node.Fits before.getLast? after comment := by
  simp only [mistakes, Bool.or_eq_false_iff] at h
  obtain ⟨⟨⟨-, hmark⟩, hvalue⟩, -⟩ := h
  refine ⟨hcomment, fun htype => ?_, fun hlists hequals next hnext hnamed => ?_⟩
  · simpa [htype] using hmark
  · rw [Option.mem_def] at hnext
    simpa [hlists, hequals, hnext, hnamed] using hvalue

/-- The children of a tree with a comment, each beside its neighbours. -/
theorem Commented.threaded {node other : Node} (h : Commented node other) :
    Threaded Commented node.Fits none node.children other.children := by
  cases h with
  | same => exact .of_forall₂ (List.forall₂_same.mpr fun child _ => .same child) _
  | here hcomment hplace =>
      refine .of_split Commented.same _ _ _ ?_
      rw [Option.or_none]
      exact fits_of_mistakes hcomment hplace
  | inside hchild _ => exact .of_forall₂ (forall₂_split Commented.same hchild _ _) _

end Node

end WordGrid
