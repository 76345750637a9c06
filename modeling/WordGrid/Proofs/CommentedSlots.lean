import Mathlib.Data.List.TakeWhile
import WordGrid.Proofs.CommentedParts

/-!
# Slots, constraints and bindings with a comment

Some parts of a node depend on what stands next to them: a type on its mark, an entry of a list on
the equals sign in front of it, the parameters of a function type on the arrow, a single name on
having no neighbour. These are the places where a comment can be mistaken, and where
`Node.mistakes` and `Node.readsNameOff` say that it is not.
-/

namespace WordGrid

/-! ## Slots -/

/-- Slots with the same marks and with types that differ by a comment. -/
structure TypeSlot.Commented (left right : TypeSlot) : Prop where
  node : Node.Commented left.node right.node
  inout : left.inout = right.inout
  unwrapped : left.unwrapped = right.unwrapped

namespace Node

/-- Nodes that differ by a comment, with the same mark if they are types. -/
def MarkedAlike (left right : Node × Bool) : Prop :=
  Commented left.1 right.1 ∧ (left.1.isType → left.2 = right.2)

section

variable {owner : Node} {last : Option Node} {nodes others : List Node}

/-- No comment stands between a type and its mark. -/
theorem startsWithBang_threaded (h : Threaded Commented owner.Fits last nodes others)
    (hlast : last.any isType) : startsWithBang nodes = startsWithBang others := by
  cases h with
  | nil => rfl
  | keep hnode _ => exact congrArg (Option.any id ∘ some) (hnode.sameLook.isToken "!")
  | put hcomment _ =>
      rw [hcomment.mark hlast]
      exact (isToken_of_isComment hcomment.isComment "!").symm

/-- The first type that is accepted, with its mark. -/
theorem firstMarked?_threaded {accept : Node → Bool}
    (haccept : ∀ left right, Commented left right → accept left = accept right)
    (htype : ∀ node, accept node → node.isType)
    (h : Threaded Commented owner.Fits last nodes others) :
    Option.Rel (fun left right => Commented left.1 right.1 ∧ left.2 = right.2)
      (firstMarked? accept nodes) (firstMarked? accept others) := by
  induction h with
  | nil => exact .none
  | @keep _ node other _ _ hnode hrest ih =>
      rw [firstMarked?, firstMarked?, ← haccept node other hnode]
      split
      · next haccepted =>
          exact .some ⟨hnode, startsWithBang_threaded hrest (htype node haccepted)⟩
      · exact ih
  | @put _ comment nodes others hcomment _ ih =>
      have hnot : accept comment = false := by
        rw [Bool.eq_false_iff]
        intro haccepted
        exact Bool.false_ne_true
          ((isType_of_isComment hcomment.isComment).symm.trans (htype comment haccepted))
      rw [@firstMarked?.eq_2 accept comment, hnot]
      exact ih

/-- After an equals sign only the next node is read differently. -/
theorem filter_entries_afterEquals {pick : Node → Bool} (afterEquals : Bool)
    (h : afterEquals → ∀ next ∈ nodes.head?, next.isNamed → pick next = false) :
    (entries afterEquals nodes).filter (fun entry => pick entry.1) =
      (entries false nodes).filter fun entry => pick entry.1 := by
  cases nodes with
  | nil => rfl
  | cons next rest =>
      cases afterEquals with
      | false => rfl
      | true =>
          cases hnamed : next.isNamed with
          | false => simp [entries, hnamed]
          | true => simp [entries, hnamed, h rfl next rfl hnamed]

/-- The entries of a list that are read, each with its mark. -/
theorem entries_threaded (hlists : owner.listsEntries) {last : Option Node}
    (h : Threaded Commented owner.Fits last nodes others) :
    List.Forall₂ MarkedAlike
      ((entries (last.any (isToken "=")) nodes).filter fun entry => owner.isEntryOf entry.1)
      ((entries (last.any (isToken "=")) others).filter fun entry => owner.isEntryOf entry.1) := by
  induction h with
  | nil => exact .nil
  | @keep last node other nodes others hnode hrest ih =>
      have hentry : owner.isEntryOf node = owner.isEntryOf other := by
        simp only [isEntryOf, hnode.sameLook.isOneOf, hnode.sameLook.isType]
      rw [entries, entries, ← hnode.sameLook.named, ← hnode.sameLook.kind]
      cases hnamed : node.isNamed with
      | false => simpa [isToken, hnamed] using ih
      | true =>
          -- A named node is no equals sign, so what follows is read from anew.
          have hafter : (some node).any (isToken "=") = false := by simp [isToken, hnamed]
          rw [hafter] at ih
          cases last.any (isToken "=") with
          | true => exact ih
          | false =>
              simp only [Bool.not_true, Bool.false_eq_true, if_false, List.filter_cons, ← hentry]
              split
              · exact .cons ⟨hnode, startsWithBang_threaded hrest⟩ ih
              · exact ih
  | @put last comment nodes others hcomment hrest ih =>
      have hnamed := isNamed_of_isComment hcomment.isComment
      have hskipped : owner.isEntryOf comment = false := by
        unfold isEntryOf
        rw [isOneOf_of_isComment hcomment.isComment (by decide),
          isOneOf_of_isComment hcomment.isComment (by decide),
          isType_of_isComment hcomment.isComment]
        split <;> rfl
      have hafter : (some comment).any (isToken "=") = false :=
        isToken_of_isComment hcomment.isComment "="
      rw [hafter] at ih
      rw [filter_entries_afterEquals _ fun hequals => hcomment.value hlists hequals]
      cases last.any (isToken "=") with
      | true => simpa [entries, hnamed] using ih
      | false => simpa [entries, hnamed, hskipped] using ih

end

namespace Commented

variable {node other : Node} (h : Commented node other)
include h

theorem hasInout : node.hasInout = other.hasInout := by
  have hmodifiers := @namedOf _ _ h ["parameter_modifiers", "parameter_modifier", "type_modifiers"]
    (by decide)
  have htexts := map_eq_of_forall₂ hmodifiers fun _ _ hmodifier => hmodifier.sameLook.text
  have hany (modifiers : List Node) :
      (modifiers.any fun modifier => (Text.words modifier.text).contains "inout") =
        (modifiers.map text).any fun text => (Text.words text).contains "inout" := by
    rw [List.any_map]
    rfl
  rw [Node.hasInout, Node.hasInout, hany, hany, htexts]

theorem slot? : Option.Rel TypeSlot.Commented node.slot? other.slot? := by
  have haccept (left right : Node) (hchild : Commented left right) :
      (left.isNamed && left.isType) = (right.isNamed && right.isType) := by
    rw [hchild.sameLook.named, hchild.sameLook.isType]
  have hfirst := firstMarked?_threaded haccept
    (fun child haccepted => (Bool.and_eq_true_iff.mp haccepted).2) h.threaded
  unfold Node.slot?
  rw [h.hasInout]
  generalize firstMarked? _ node.children = left at hfirst
  generalize firstMarked? _ other.children = right at hfirst
  cases hfirst with
  | none => exact .none
  | some hmarked => exact .some ⟨hmarked.1, rfl, hmarked.2⟩

theorem slotAfter? (token : String) :
    Option.Rel TypeSlot.Commented (node.slotAfter? token) (other.slotAfter? token) := by
  have hpass (left right : Node) (hchild : Commented left right) :
      (!left.isToken token) = !right.isToken token := by
    rw [hchild.sameLook.isToken]
  obtain ⟨stop, hafter⟩ := h.threaded.drop_dropWhile hpass fun _ _ comment hcomment => by
    rw [isToken_of_isComment hcomment.isComment, Bool.not_false]
  have hfirst := firstMarked?_threaded (fun left right hchild => hchild.sameLook.isType)
    (fun child htype => htype) hafter
  unfold Node.slotAfter? Node.childrenAfter
  generalize firstMarked? isType _ = left at hfirst
  generalize firstMarked? isType _ = right at hfirst
  cases hfirst with
  | none => exact .none
  | some hmarked => exact .some ⟨hmarked.1, rfl, hmarked.2⟩

/-- The slots of a list in parentheses. -/
theorem elementSlots (hlists : node.listsEntries) (hkind : node.kind ≠ "enum_entry") :
    List.Forall₂ (Option.Rel TypeSlot.Commented) node.elementSlots other.elementSlots := by
  have hread (entry : Node × Bool) : (entrySlot? entry).isSome → node.isEntryOf entry.1 := by
    have hlist : (node.kind == "enum_entry") = false := beq_eq_false_iff_ne.mpr hkind
    rw [isEntryOf, hlist, entrySlot?]
    cases entry.1.isOneOf ["tuple_type_item", "parameter"] with
    | true => exact fun _ => rfl
    | false => cases entry.1.isType <;> simp
  have hfilter (list : List (Node × Bool)) : list.filterMap entrySlot? =
      (list.filter fun entry => node.isEntryOf entry.1).filterMap entrySlot? := by
    rw [List.filterMap_filter]
    refine List.filterMap_congr fun entry _ => ?_
    cases hentry : entrySlot? entry with
    | none => simp
    | some slot => rw [if_pos (hread entry (by rw [hentry]; rfl))]
  unfold Node.elementSlots slotsAmong
  rw [hfilter, hfilter (entries false other.children)]
  refine List.rel_filterMap (fun left right hmarked => ?_) (entries_threaded hlists h.threaded)
  obtain ⟨hentry, hmark⟩ := hmarked
  unfold entrySlot?
  rw [← hentry.sameLook.isOneOf, ← hentry.sameLook.isType]
  split
  · exact .some hentry.slot?
  · split
    · next htype => exact .some (.some ⟨hentry, rfl, hmark htype⟩)
    · exact .none

theorem functionResult? : Option.Rel Commented node.functionResult? other.functionResult? := by
  have hpass (left right : Node) (hchild : Commented left right) :
      (!left.isToken "->") = !right.isToken "->" := by
    rw [hchild.sameLook.isToken]
  have hafter := h.scattered.drop_dropWhile hpass fun comment hcomment => by
    rw [isToken_of_isComment hcomment, Bool.not_false]
  refine hafter.find? (fun left right hchild => ?_) fun comment hcomment => ?_
  · rw [hchild.sameLook.named, hchild.sameLook.isType]
  · rw [isType_of_isComment hcomment, Bool.and_false]

end Commented

/-! ## The parameters of a function type -/

/-- Lists that differ by comments inside their nodes have the same holder. -/
theorem holderAmong?_rel {nodes others : List Node} (h : List.Forall₂ Commented nodes others) :
    Option.Rel Commented (holderAmong? nodes) (holderAmong? others) := by
  have hnodes : Scattered Commented (fun _ => False) nodes others := .of_forall₂ h
  refine (hnodes.takeWhile (fun left right hnode => ?_) fun _ hfalse => hfalse.elim).find?
    (fun left right hnode => ?_) fun _ hfalse => hfalse.elim
  · rw [hnode.sameLook.isToken]
  · rw [isHolder, isHolder, hnode.sameLook.named, hnode.sameLook.isOneOf]

/-- What follows an arrow or a holder does not matter. -/
theorem holderAmong?_append {before : List Node}
    (h : (before.all fun child => !child.isToken "->" && !child.isHolder) = false)
    (after others : List Node) :
    holderAmong? (before ++ after) = holderAmong? (before ++ others) := by
  induction before with
  | nil => simp at h
  | cons first rest ih =>
      unfold holderAmong?
      rw [List.cons_append, List.cons_append, List.takeWhile_cons, List.takeWhile_cons]
      cases harrow : first.isToken "->" with
      | true => rfl
      | false =>
          rw [Bool.not_false, if_pos rfl, if_pos rfl, List.find?_cons, List.find?_cons]
          cases hholder : first.isHolder with
          | true => rfl
          | false => exact ih (by simpa [harrow, hholder] using h)

/-- A comment before the arrow and every holder is the holder. -/
theorem holderAmong?_comment {before : List Node} {comment : Node} (hcomment : comment.isComment)
    (h : (before.all fun child => !child.isToken "->" && !child.isHolder) = true)
    (after : List Node) : holderAmong? (before ++ comment :: after) = some comment := by
  induction before with
  | nil =>
      have hholder : comment.isHolder = true := by
        rw [isHolder, isNamed_of_isComment hcomment, isOneOf_of_isComment hcomment (by decide)]
        rfl
      simp [holderAmong?, isToken_of_isComment hcomment, hholder]
  | cons first rest ih =>
      rw [List.all_cons, Bool.and_eq_true, Bool.and_eq_true, Bool.not_eq_true',
        Bool.not_eq_true'] at h
      obtain ⟨⟨harrow, hholder⟩, hrest⟩ := h
      rw [← ih hrest]
      simp only [holderAmong?, List.cons_append, List.takeWhile_cons, List.find?_cons, harrow,
        hholder, Bool.not_false, if_true]

theorem heldSlots?_comment {comment : Node} (h : comment.isComment) :
    comment.heldSlots? = none := by
  have hkind := kind_mem_of_isComment h
  simp only [commentKinds, List.mem_cons, List.not_mem_nil, or_false] at hkind
  have hlist : (comment.kind == "tuple_type" ||
      "parameters".toList.isSuffixOf comment.kind.toList) = false := by
    rcases hkind with hkind | hkind <;> rw [hkind] <;> decide
  rw [heldSlots?, hlist, isType_of_isComment h]
  rfl

namespace Commented

variable {node other : Node} (h : Commented node other)
include h

theorem heldSlots? : Option.Rel (List.Forall₂ (Option.Rel TypeSlot.Commented)) node.heldSlots?
    other.heldSlots? := by
  unfold Node.heldSlots?
  rw [← h.sameLook.kind, ← h.sameLook.isType]
  split
  · next hlist =>
      refine .some (h.elementSlots ?_ ?_)
      · rw [Bool.or_eq_true] at hlist
        rcases hlist with htuple | hparameters
        · simp [listsEntries, isOneOf, eq_of_beq htuple]
        · rw [listsEntries, hparameters, Bool.or_true]
      · intro hentry
        rw [hentry] at hlist
        exact absurd hlist (by decide)
  · split
    · exact .some (.cons (.some ⟨h, rfl, rfl⟩) .nil)
    · exact .none

/-- The slots of the parameters of a function type. -/
theorem functionSlots? (hkind : node.kind = "function_type") :
    Option.Rel (List.Forall₂ (Option.Rel TypeSlot.Commented)) node.functionSlots?
      other.functionSlots? := by
  have hsame (slots : Option (List (Option TypeSlot))) :
      Option.Rel (List.Forall₂ (Option.Rel TypeSlot.Commented)) slots slots := by
    have hslot (slot : Option TypeSlot) : Option.Rel TypeSlot.Commented slot slot := by
      cases slot with
      | none => exact .none
      | some slot => exact .some ⟨.same _, rfl, rfl⟩
    cases slots with
    | none => exact .none
    | some slots => exact .some (List.forall₂_same.mpr fun slot _ => hslot slot)
  cases h with
  | same => exact hsame _
  | @here label before after comment hcomment hplace =>
      cases hall : before.all fun child => !child.isToken "->" && !child.isHolder with
      | false =>
          rw [Node.functionSlots?, Node.functionSlots?,
            holderAmong?_append hall after (comment :: after)]
          exact hsame _
      | true =>
          -- The comment is taken for the holder, but there was none that could be read.
          simp only [mistakes, Bool.or_eq_false_iff] at hplace
          have hnone : (⟨label, before ++ after⟩ : Node).functionSlots? = none := by
            simpa [hkind, hall] using hplace.2
          rw [hnone, Node.functionSlots?, holderAmong?_comment hcomment hall, Option.bind_some,
            heldSlots?_comment hcomment]
          exact .none
  | @inside label before after child other hchild _ =>
      have hholder := holderAmong?_rel (forall₂_split Commented.same hchild before after)
      rw [Node.functionSlots?, Node.functionSlots?]
      generalize holderAmong? _ = left at hholder
      generalize holderAmong? _ = right at hholder
      cases hholder with
      | none => exact .none
      | some hholder => exact hholder.heldSlots?

end Commented

/-! ## Single names -/

theorem soleName?_singleton_rel {node other : Node} (h : Commented node other) :
    Option.Rel Commented (soleName? [node]) (soleName? [other]) := by
  rw [soleName?, soleName?, h.sameLook.kind]
  split
  · exact .some h
  · exact .none

/-- Comments do not make a single identifier out of something else. -/
theorem soleName?_rel {nodes others : List Node}
    (h : Scattered Commented (fun comment => comment.isComment) nodes others)
    (hsame : (soleName? nodes).isSome → List.Forall₂ Commented nodes others) :
    Option.Rel Commented (soleName? nodes) (soleName? others) := by
  cases hname : soleName? nodes with
  | some name =>
      rw [← hname]
      cases hsame (by rw [hname]; rfl) with
      | nil => exact .none
      | cons hnode hrest =>
          cases hrest with
          | nil => exact soleName?_singleton_rel hnode
          | cons _ _ => exact .none
  | none =>
      rcases others with _ | ⟨part, _ | ⟨next, rest⟩⟩
      · exact .none
      · cases h with
        | put hcomment _ =>
            have hkind : (part.kind == "simple_identifier") = false :=
              beq_eq_false_iff_ne.mpr (kind_ne_of_isComment hcomment (by decide))
            rw [soleName?, hkind]
            exact .none
        | keep hnode hrest =>
            cases hrest
            rw [← hname]
            exact soleName?_singleton_rel hnode
      · exact .none

namespace Keeps

variable {owner left right : Node} (h : owner.Keeps left right)
include h

theorem namedChildren_scattered :
    Scattered Commented (fun comment => comment.isComment) left.namedChildren right.namedChildren :=
  h.1.scattered.filter fun _ _ hchild => hchild.sameLook.named

/-- A name that is read off a child is read off the child with a comment. -/
theorem namedChildren_forall₂ (hreads : owner.readsNameOff left) :
    List.Forall₂ Commented left.namedChildren right.namedChildren :=
  h.namedChildren_scattered.forall₂_of_length_eq (h.2 hreads)

/-- The node that has the name that a pattern binds. -/
theorem boundNode? (hproperty : owner.isProperty) (hbound : isBoundBy owner.bindingNames left) :
    Option.Rel Commented left.boundNode? right.boundNode? := by
  have hkinds (node other : Node) (hchild : Commented node other) :
      (node.kind != "value_binding_pattern") = (other.kind != "value_binding_pattern") := by
    rw [hchild.sameLook.kind]
  rw [Node.boundNode?, Node.boundNode?, ← h.1.sameLook.kind]
  cases hkind : left.kind == "simple_identifier" with
  | true => exact .some h.1
  | false =>
      refine soleName?_rel (h.namedChildren_scattered.filter hkinds) fun hname => ?_
      have hreads : owner.readsNameOff left := by
        rw [readsNameOff, hproperty, hbound, Node.boundName?, Option.isSome_map, Node.boundNode?,
          hkind, bne, hkind]
        simpa using .inr hname
      refine List.rel_filter (fun node other hchild => ?_) (h.namedChildren_forall₂ hreads)
      exact Bool.eq_iff_iff.mp (hkinds node other hchild)

/-- The name that a pattern binds. -/
theorem boundName? (hproperty : owner.isProperty) (hbound : isBoundBy owner.bindingNames left) :
    left.boundName? = right.boundName? :=
  map_eq_of_rel (h.boundNode? hproperty hbound) fun _ _ hlook => hlook.text

/-- The node that has the name on the left of a constraint. -/
theorem constrainedNode? (hconstraint : owner.isConstraint) :
    Option.Rel Commented (Node.constrainedNode? [left]) (Node.constrainedNode? [right]) := by
  rw [Node.constrainedNode?, Node.constrainedNode?, ← h.1.sameLook.isIdentifier,
    ← h.1.sameLook.kind]
  cases hidentifier : left.isIdentifier with
  | true => exact .some h.1
  | false =>
      cases hkind : left.kind == "identifier" with
      | false => exact .none
      | true =>
          refine soleName?_rel h.namedChildren_scattered fun hname => ?_
          have hreads : owner.readsNameOff left := by
            rw [readsNameOff, hconstraint, hkind, Node.constrainedName?, Option.isSome_map,
              Node.constrainedNode?, hidentifier, hkind]
            simpa using .inl hname
          exact h.namedChildren_forall₂ hreads

/-- The name on the left of a constraint. -/
theorem constrainedName? (hconstraint : owner.isConstraint) :
    Node.constrainedName? [left] = Node.constrainedName? [right] :=
  map_eq_of_rel (h.constrainedNode? hconstraint) fun _ _ hlook => hlook.text

end Keeps

end Node

/-! ## Constraints -/

/-- Parts of a constraint with the same relation, and with sides that differ by a comment. -/
structure ConstraintParts.Commented (constraint : Node) (parts others : ConstraintParts) :
    Prop where
  relation : parts.relation = others.relation
  left : List.Forall₂ constraint.Keeps parts.left others.left
  right : List.Forall₂ Node.Commented parts.right others.right

namespace Node

/-- No comment stands among the sides of a constraint. -/
theorem Commented.children_of_isConstraint {node other : Node} (h : Commented node other)
    (hconstraint : node.isConstraint) :
    Scattered node.Keeps (fun _ => False) node.children other.children := by
  refine h.children.mono (fun _ _ hkeeps => hkeeps) fun comment hadmits => ?_
  exact Bool.false_ne_true (hadmits.constraint.symm.trans hconstraint)

theorem Commented.constraintParts {node other : Node} (h : Commented node other) :
    ConstraintParts.Commented node node.constraintParts other.constraintParts := by
  unfold Node.constraintParts
  rw [← h.sameLook.isConstraint]
  cases hconstraint : node.isConstraint with
  | false => exact ⟨rfl, .nil, .nil⟩
  | true =>
      have hchildren := h.children_of_isConstraint hconstraint
      have hpass (left right : Node) (hchild : node.Keeps left right) :
          left.operator?.isNone = right.operator?.isNone := by
        rw [hchild.1.sameLook.operator?]
      have hstop (left right : Node) (hchild : node.Keeps left right) :
          (!left.operator?.isNone) = !right.operator?.isNone := by
        rw [hpass left right hchild]
      have hside {nodes others : List Node}
          (hnodes : Scattered node.Keeps (fun _ => False) nodes others) :
          List.Forall₂ node.Keeps (constraintSide nodes) (constraintSide others) := by
        refine hnodes.forall₂_filter (fun left right hchild => ?_) fun _ hfalse => hfalse.elim
        rw [hchild.1.sameLook.named, hchild.1.sameLook.kind]
      have hoperator := hchildren.find? hstop fun _ hfalse => hfalse.elim
      refine ⟨?_, hside (hchildren.takeWhile hpass fun _ hfalse => hfalse.elim),
        (hside (hchildren.drop_dropWhile hpass fun _ hfalse => hfalse.elim)).imp
          fun _ _ hkeeps => hkeeps.1⟩
      show Option.bind _ Node.operator? = Option.bind _ Node.operator?
      rw [← List.find?_not_eq_head?_dropWhile, ← List.find?_not_eq_head?_dropWhile]
      generalize List.find? _ node.children = left at hoperator
      generalize List.find? _ other.children = right at hoperator
      cases hoperator with
      | none => rfl
      | some hchild => exact hchild.1.sameLook.operator?

end Node

/-! ## Bindings and case elements -/

/-- Bindings with the same name, and with annotations that differ by a comment. -/
structure Binding.Commented (left right : Binding) : Prop where
  name : left.pattern.boundName? = right.pattern.boundName?
  slot : Option.Rel TypeSlot.Commented left.slot right.slot

/-- Case elements with the same name, and with values that differ by a comment. -/
structure CaseElement.Commented (left right : CaseElement) : Prop where
  name : left.name = right.name
  values : Option.Rel Node.Commented left.values right.values
  kind : ∀ values ∈ left.values, values.kind = "enum_type_parameters"

namespace Node

section

variable {isName : Node → Bool} {owner : Node} {extra : Node → Prop} {nodes others : List Node}
  (hname : ∀ left right : Node, left.SameLook right → isName left = isName right)
  (hextra : ∀ comment, extra comment → comment.isComment ∧ isName comment = false)
include hname hextra

/-- A comment is no annotation. -/
theorem annotation?_scattered (h : Scattered owner.Keeps extra nodes others) :
    Option.Rel TypeSlot.Commented (annotation? isName nodes) (annotation? isName others) := by
  induction h with
  | nil => exact .none
  | @keep node other nodes others hnode _ ih =>
      rw [annotation?, annotation?, hname _ _ hnode.1.sameLook, hnode.1.sameLook.kind]
      split
      · exact .none
      · split
        · have hslot := hnode.1.slot?
          generalize node.slot? = left at hslot
          generalize other.slot? = right at hslot
          cases hslot with
          | none => exact ih
          | some hslot => exact .some hslot
        · exact ih
  | @put comment nodes others hcomment _ ih =>
      obtain ⟨hcomment, hnot⟩ := hextra comment hcomment
      rw [annotation?.eq_2 isName comment, hnot,
        beq_eq_false_iff_ne.mpr (kind_ne_of_isComment hcomment (by decide))]
      exact ih

/-- A comment is no name. -/
theorem bindingsAmong_scattered
    (hbound : ∀ left right, owner.Keeps left right → isName left →
      left.boundName? = right.boundName?)
    (h : Scattered owner.Keeps extra nodes others) :
    List.Forall₂ Binding.Commented (bindingsAmong isName nodes) (bindingsAmong isName others) := by
  induction h with
  | nil => exact .nil
  | @keep node other nodes others hnode hrest ih =>
      rw [bindingsAmong, bindingsAmong, ← hname _ _ hnode.1.sameLook]
      split
      · next hnamed =>
          exact .cons ⟨hbound node other hnode hnamed, annotation?_scattered hname hextra hrest⟩ ih
      · exact ih
  | @put comment nodes others hcomment _ ih =>
      rw [bindingsAmong.eq_2 isName comment, (hextra comment hcomment).2]
      exact ih

end

/-- What is no name and no list of values does not matter to the elements of a case. -/
theorem caseElementsAmong_filter (nodes : List Node) :
    caseElementsAmong (nodes.filter (isOneOf ["simple_identifier", "enum_type_parameters"])) =
      caseElementsAmong nodes := by
  have hown (rest : List Node) :
      ((rest.filter (isOneOf ["simple_identifier", "enum_type_parameters"])).takeWhile
          (·.kind != "simple_identifier")).filter (isOneOf ["enum_type_parameters"]) =
        (rest.takeWhile (·.kind != "simple_identifier")).filter
          (isOneOf ["enum_type_parameters"]) := by
    induction rest with
    | nil => rfl
    | cons node rest ih =>
        by_cases hidentifier : node.kind = "simple_identifier"
        · simp [isOneOf, hidentifier]
        · by_cases hvalues : node.kind = "enum_type_parameters"
          · simpa [isOneOf, hvalues] using ih
          · simpa [isOneOf, hidentifier, hvalues] using ih
  induction nodes with
  | nil => rfl
  | cons node rest ih =>
      by_cases hidentifier : node.kind = "simple_identifier"
      · have hpicked : node.isOneOf ["simple_identifier", "enum_type_parameters"] = true := by
          simp [isOneOf, hidentifier]
        rw [List.filter_cons_of_pos hpicked]
        simp only [caseElementsAmong, hidentifier, beq_self_eq_true, if_true, ih, hown]
      · have hnot : (node.kind == "simple_identifier") = false :=
          beq_eq_false_iff_ne.mpr hidentifier
        rw [List.filter_cons]
        split
        · simp only [caseElementsAmong, hnot, Bool.false_eq_true, if_false, ih]
        · simp only [caseElementsAmong, hnot, Bool.false_eq_true, if_false, ih]

theorem caseElementsAmong_forall₂ {nodes others : List Node}
    (h : List.Forall₂ Commented nodes others) :
    List.Forall₂ CaseElement.Commented (caseElementsAmong nodes) (caseElementsAmong others) := by
  induction h with
  | nil => exact .nil
  | @cons node other nodes others hnode hrest ih =>
      have hscattered : Scattered Commented (fun _ => False) nodes others := .of_forall₂ hrest
      have hpass (left right : Node) (hchild : Commented left right) :
          (left.kind != "simple_identifier") = (right.kind != "simple_identifier") := by
        rw [hchild.sameLook.kind]
      have hvalues := (hscattered.takeWhile hpass fun _ hfalse => hfalse.elim).forall₂_filter
        (fun left right hchild => hchild.sameLook.isOneOf ["enum_type_parameters"])
        fun _ hfalse => hfalse.elim
      rw [caseElementsAmong, caseElementsAmong, hnode.sameLook.kind]
      split
      · refine .cons ⟨hnode.sameLook.text, ?_, fun values hlast => ?_⟩ ih
        · simp only [List.getLast?_eq_head?_reverse]
          exact head?_rel (List.forall₂_reverse_iff.mpr hvalues)
        · have hpicked := (List.mem_filter.mp (List.mem_of_getLast? hlast)).2
          simpa [isOneOf] using hpicked
      · exact ih

namespace Commented

variable {node other : Node} (h : Commented node other)
include h

theorem bindingNames : List.Forall₂ Commented node.bindingNames other.bindingNames := by
  have hnames := h.fieldChildren "name"
  unfold Node.bindingNames
  generalize node.fieldChildren "name" = left at hnames
  generalize other.fieldChildren "name" = right at hnames
  cases hnames with
  | nil => exact h.namedOf (by decide)
  | cons hfirst hrest => exact .cons hfirst hrest

theorem bindingKeyword? : node.bindingKeyword? = other.bindingKeyword? := by
  have hpattern : Option.Rel Commented node.keywordPattern? other.keywordPattern? := by
    have hown := @firstNamedOf? _ _ h ["value_binding_pattern"] (by decide)
    have hnames : List.Forall₂ Commented
        (node.bindingNames.filterMap (Node.firstNamedOf? ["value_binding_pattern"]))
        (other.bindingNames.filterMap (Node.firstNamedOf? ["value_binding_pattern"])) :=
      List.rel_filterMap (fun _ _ hname => hname.firstNamedOf? (by decide)) h.bindingNames
    unfold keywordPattern?
    rw [← List.head?_filterMap, ← List.head?_filterMap]
    generalize node.firstNamedOf? ["value_binding_pattern"] = left at hown
    generalize other.firstNamedOf? ["value_binding_pattern"] = right at hown
    cases hown with
    | none => exact head?_rel hnames
    | some hown => exact .some hown
  unfold Node.bindingKeyword?
  generalize node.keywordPattern? = left at hpattern
  generalize other.keywordPattern? = right at hpattern
  cases hpattern with
  | none => rfl
  | @some pattern pattern' hpattern =>
      have hmutability := hpattern.fieldChild? "mutability"
      show (Text.words ((pattern.fieldChild? "mutability").getD pattern).text).getLast? =
        (Text.words ((pattern'.fieldChild? "mutability").getD pattern').text).getLast?
      generalize pattern.fieldChild? "mutability" = left at hmutability
      generalize pattern'.fieldChild? "mutability" = right at hmutability
      cases hmutability with
      | none => rw [Option.getD_none, Option.getD_none, hpattern.sameLook.text]
      | some hkeyword => rw [Option.getD_some, Option.getD_some, hkeyword.sameLook.text]

theorem isBoundBy_bindingNames : isBoundBy node.bindingNames = isBoundBy other.bindingNames := by
  have hspans := map_eq_of_forall₂ h.bindingNames fun _ _ hname => hname.sameLook.span
  have hfirst := head?_rel h.bindingNames
  funext child
  unfold isBoundBy
  rw [hspans]
  generalize node.bindingNames.head? = left at hfirst
  generalize other.bindingNames.head? = right at hfirst
  cases hfirst with
  | none => rfl
  | some hname => rw [Option.any_some, Option.any_some, hname.sameLook.kind]

theorem bindings (hproperty : node.isProperty) :
    List.Forall₂ Binding.Commented node.bindings other.bindings := by
  unfold Node.bindings
  rw [← h.isBoundBy_bindingNames]
  refine bindingsAmong_scattered (fun left right hlook => ?_)
    (fun comment hcomment => ⟨hcomment.isComment, hcomment.bound hproperty⟩)
    (fun left right hkeeps hbound => hkeeps.boundName? hproperty hbound) h.children
  rw [isBoundBy, isBoundBy, hlook.span, hlook.kind]

theorem caseElements (hkind : node.kind = "enum_entry") :
    List.Forall₂ CaseElement.Commented node.caseElements other.caseElements := by
  have hlists : node.listsEntries := by simp [listsEntries, isOneOf, hkind]
  have hentry : (fun entry : Node × Bool => node.isEntryOf entry.1) =
      fun entry => entry.1.isOneOf ["simple_identifier", "enum_type_parameters"] := by
    simp [isEntryOf, hkind]
  have hentries := entries_threaded hlists h.threaded
  rw [hentry] at hentries
  unfold Node.caseElements
  rw [← caseElementsAmong_filter,
    ← caseElementsAmong_filter (entryNodes other.children), entryNodes, entryNodes, List.filter_map,
    List.filter_map]
  exact caseElementsAmong_forall₂ (List.rel_map (fun _ _ hmarked => hmarked.1) hentries)

end Commented

end Node

end WordGrid
