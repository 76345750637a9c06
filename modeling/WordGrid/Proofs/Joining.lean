import WordGrid.TypeExpr

/-!
# Reading joined arguments back

Cells carry no brackets: where a list of arguments ends is told by `AND` and `AND THEN` alone. The
trailing depth of a type is the number of lists that end where its cells end. `AND` goes on with
the innermost open list and `AND THEN` closes one list, so the cells can be read back as long as no
argument but the last of its list has a trailing depth above one.

`CanFollow depth rest` says that cells cannot be taken for more of a type of that depth in front of
them. Under this condition the end of a type is determined by what follows it
(`TypeExpr.cells_append_inj`), and the end of a list too (`TypeExpr.join_append_inj`).
-/

namespace WordGrid

namespace TypeExpr

mutual

/-- The number of lists of arguments that end where the cells of a type end. -/
def trailingDepth : TypeExpr → Nat
  | .named _ arguments => lastDepth arguments
  | .any arguments => lastDepth arguments
  | .compound _ arguments => lastDepth arguments
  | .inout wrapped => wrapped.trailingDepth
  | .function _ result => result.trailingDepth

/-- The number of lists that end where a list ends, the list itself included. An empty list is not
written. -/
def lastDepth : List TypeExpr → Nat
  | [] => 0
  | [last] => last.trailingDepth + 1
  | _ :: next :: rest => lastDepth (next :: rest)

end

/-- The words that stand between the parts of a type. -/
def joiningWords : List String :=
  ["OF", "AND", "THEN", "TO"]

/-- The words that types are written with. -/
def vocabulary : List String :=
  joiningWords ++
    ["INOUT", "CLOSUR", "ANY", "OPT", "IUO", "ARRAY", "DICT", "TUPLE", "EMPTY"]

mutual

/-- Is no name in a type a word of the vocabulary, no type in it `any`, and the trailing depth of
every argument but the last of its list within a bound? -/
def isPlain (bound : Nat) : TypeExpr → Bool
  | .named name arguments => !vocabulary.contains name && arePlain bound arguments
  | .any _ => false
  | .compound _ arguments => arePlain bound arguments
  | .inout wrapped => wrapped.isPlain bound
  | .function parameters result => arePlain bound parameters && result.isPlain bound

/-- Are the types of a list plain, and the trailing depths of all but the last within the bound? -/
def arePlain (bound : Nat) : List TypeExpr → Bool
  | [] => true
  | [last] => last.isPlain bound
  | type :: next :: rest =>
      type.isPlain bound && type.trailingDepth ≤ bound && arePlain bound (next :: rest)

end

/-- The first cell of a type. -/
def headCell : TypeExpr → Cell
  | .named name _ => ⟨name⟩
  | .any _ => ⟨"ANY"⟩
  | .compound head arguments => head.cell arguments.isEmpty
  | .inout _ => ⟨"INOUT"⟩
  | .function _ _ => ⟨"CLOSUR"⟩

end TypeExpr

/-- Cells that cannot be taken for more of a type of some trailing depth in front of them. `AND`
would go on with its last list, and `AND THEN` with the list around that one. -/
def Row.CanFollow (depth : Nat) : Row → Prop
  | [] => True
  | cell :: rest =>
      cell ≠ Cell.ofWord ∧
        (cell = Cell.andWord → if rest.head? = some Cell.thenWord then depth ≤ 1 else depth = 0)

/-- What can follow a type can follow a type of smaller depth. -/
theorem Row.CanFollow.mono {small large : Nat} {rest : Row} (h : Row.CanFollow large rest)
    (hle : small ≤ large) : Row.CanFollow small rest := by
  cases rest with
  | nil => trivial
  | cons cell rest =>
      refine ⟨h.1, fun hand => ?_⟩
      have hdepth := h.2 hand
      by_cases hthen : rest.head? = some Cell.thenWord
      · rw [if_pos hthen] at hdepth ⊢
        omega
      · rw [if_neg hthen] at hdepth ⊢
        omega

/-! ## Heads -/

/-- What the head of a type tells about it. -/
inductive TypeShape where
  | named (name : String)
  | compound (head : Head)
  | inout
  | function
  deriving DecidableEq, Repr

/-- The shape that a word at the head of a type stands for. -/
def TypeShape.ofWord : String → TypeShape
  | "ANY" => .compound .existential
  | "OPT" => .compound .optional
  | "IUO" => .compound .unwrapped
  | "ARRAY" => .compound .array
  | "DICT" => .compound .dictionary
  | "TUPLE" => .compound .tuple
  | "EMPTY" => .compound .tuple
  | "INOUT" => .inout
  | "CLOSUR" => .function
  | word => .named word

/-- A word outside the vocabulary is a name. -/
theorem TypeShape.ofWord_name {word : String} (h : word ∉ TypeExpr.vocabulary) :
    TypeShape.ofWord word = .named word := by
  unfold TypeShape.ofWord
  split
  case h_10 => rfl
  all_goals exact absurd (by decide) h

/-- A word that joins heads no type of a shape but a named one. -/
theorem TypeShape.ofWord_joining {word : String} (h : word ∈ TypeExpr.joiningWords) :
    TypeShape.ofWord word = .named word := by
  simp only [TypeExpr.joiningWords, List.mem_cons, List.not_mem_nil, or_false] at h
  rcases h with rfl | rfl | rfl | rfl <;> rfl

/-- A head is read back from its cell. -/
theorem TypeShape.ofWord_cell (head : Head) (bare : Bool) :
    TypeShape.ofWord (head.cell bare).text = .compound head := by
  cases head <;> cases bare <;> rfl

namespace TypeExpr

variable {bound : Nat} {type : TypeExpr}

/-- The shape of a type. -/
def shape : TypeExpr → TypeShape
  | .named name _ => .named name
  | .any _ => .compound .existential
  | .compound head _ => .compound head
  | .inout _ => .inout
  | .function _ _ => .function

/-- The cells of a type start with its head. -/
theorem cells_eq_headCell (type : TypeExpr) : ∃ rest, type.cells = type.headCell :: rest := by
  cases type <;> exact ⟨_, rfl⟩

/-- The name of a plain type is no word of the vocabulary. -/
theorem notMem_vocabulary {name : String} {arguments : List TypeExpr}
    (h : (named name arguments).isPlain bound) : name ∉ vocabulary := by
  intro hmem
  rw [isPlain, Bool.and_eq_true] at h
  simp [hmem] at h

/-- The head of a plain type tells its shape. -/
theorem ofWord_headCell (h : type.isPlain bound) :
    TypeShape.ofWord type.headCell.text = type.shape := by
  cases type with
  | named name arguments => exact TypeShape.ofWord_name (notMem_vocabulary h)
  | any arguments => rfl
  | compound head arguments => exact TypeShape.ofWord_cell head arguments.isEmpty
  | inout wrapped => rfl
  | function parameters result => rfl

/-- Plain types with the same first cell have the same shape. -/
theorem shape_eq {left right : TypeExpr} {rest other : Row} (hleft : left.isPlain bound)
    (hright : right.isPlain bound) (h : left.cells ++ rest = right.cells ++ other) :
    left.shape = right.shape := by
  obtain ⟨leftTail, hleftCells⟩ := left.cells_eq_headCell
  obtain ⟨rightTail, hrightCells⟩ := right.cells_eq_headCell
  rw [hleftCells, hrightCells, List.cons_append, List.cons_append] at h
  rw [← ofWord_headCell hleft, ← ofWord_headCell hright, (List.cons.inj h).1]

/-- A plain type does not start with a word that joins. -/
theorem headCell_ne (h : type.isPlain bound) {word : String}
    (hword : word ∈ joiningWords) : type.headCell ≠ ⟨word⟩ := by
  intro hhead
  have hshape := ofWord_headCell h
  rw [hhead, TypeShape.ofWord_joining hword] at hshape
  cases type with
  | named name arguments =>
      obtain rfl : word = name := TypeShape.named.inj hshape
      exact notMem_vocabulary h (List.mem_append_left _ hword)
  | any | compound | inout | function => cases hshape

/-! ## Depths -/

/-- A list with an element ends in a list. -/
theorem lastDepth_pos (type : TypeExpr) (rest : List TypeExpr) : 0 < lastDepth (type :: rest) := by
  induction rest generalizing type with
  | nil => exact Nat.succ_pos _
  | cons next rest ih => exact ih next

/-- A phrase is marked as ending in a list exactly when a list ends there. -/
theorem trailing_eq (type : TypeExpr) : type.phrase.trailing = decide (0 < type.trailingDepth) := by
  match type with
  | .named _ arguments | .any arguments | .compound _ arguments =>
      cases arguments with
      | nil => rfl
      | cons first rest => simp [phrase, trailingDepth, lastDepth_pos]
  | .inout wrapped => exact wrapped.trailing_eq
  | .function _ result => exact result.trailing_eq

/-- The separator after a type tells whether a list ends there, and not how many do. -/
theorem separator_eq (type : TypeExpr) :
    type.phrase.separator =
      if 0 < type.trailingDepth then [Cell.andWord, Cell.thenWord] else [Cell.andWord] := by
  simp [Phrase.separator, trailing_eq]

/-! ## Lists -/

/-- The arguments after the first one, with the separator in front of them. -/
def afterFirst (first : TypeExpr) (more : List TypeExpr) : Row :=
  first.phrase.separator ++ Phrase.join (phrases more)

/-- The cells of a list of two or more types. -/
theorem join_cons_cons (first next : TypeExpr) (more : List TypeExpr) :
    Phrase.join (phrases (first :: next :: more)) =
      first.cells ++ afterFirst first (next :: more) := by
  simp [phrases, Phrase.join, afterFirst, cells]

/-- The cells of a list start with the head of its first type. -/
theorem join_eq_headCell (first : TypeExpr) (more : List TypeExpr) :
    ∃ rest, Phrase.join (phrases (first :: more)) = first.headCell :: rest := by
  obtain ⟨tail, hcells⟩ := first.cells_eq_headCell
  cases more with
  | nil => exact ⟨tail, hcells⟩
  | cons next more =>
      rw [join_cons_cons, hcells]
      exact ⟨_, List.cons_append⟩

/-- What a separator and the next type allow: they can follow a type of depth one at most if the
separator is long, and of depth zero only if it is short. -/
theorem canFollow_afterFirst_iff {first next : TypeExpr} {more : List TypeExpr} {depth : Nat}
    {rest : Row} (hnext : next.isPlain bound) :
    Row.CanFollow depth (afterFirst first (next :: more) ++ rest) ↔
      if 0 < first.trailingDepth then depth ≤ 1 else depth = 0 := by
  obtain ⟨tail, hjoin⟩ := join_eq_headCell next more
  have hhead : next.headCell ≠ Cell.thenWord := headCell_ne hnext (by decide)
  have hof : Cell.andWord ≠ Cell.ofWord := by decide
  rw [afterFirst, separator_eq, hjoin]
  split <;> simp [Row.CanFollow, hhead, hof]

/-- A type within depth one can be followed by the rest of its list. -/
theorem canFollow_afterFirst {first next : TypeExpr} {more : List TypeExpr} {rest : Row}
    (hnext : next.isPlain bound) (hdepth : first.trailingDepth ≤ 1) :
    Row.CanFollow first.trailingDepth (afterFirst first (next :: more) ++ rest) := by
  rw [canFollow_afterFirst_iff hnext]
  split <;> omega

/-- A list that ends with a type is not followed by what goes on after that type. -/
theorem not_canFollow_afterFirst {first next : TypeExpr} {more : List TypeExpr} {rest : Row}
    (hnext : next.isPlain bound) :
    ¬ Row.CanFollow (first.trailingDepth + 1) (afterFirst first (next :: more) ++ rest) := by
  rw [canFollow_afterFirst_iff hnext]
  split <;> omega

/-- `TO` is taken for more of no type. -/
theorem canFollow_toWord (depth : Nat) (rest : Row) :
    Row.CanFollow depth (Cell.toWord :: rest) :=
  ⟨by decide, fun h => absurd h (by decide)⟩

/-- A plain list starts with a plain type. -/
theorem isPlain_of_arePlain {first : TypeExpr} {more : List TypeExpr}
    (h : arePlain bound (first :: more)) : first.isPlain bound := by
  cases more with
  | nil => exact h
  | cons next more =>
      simp only [arePlain, Bool.and_eq_true] at h
      exact h.1.1

/-- The parameters of a function are told from an empty list by the `TO` after it. -/
theorem join_ne_toWord {first : TypeExpr} {more : List TypeExpr} {rest other : Row}
    (h : arePlain bound (first :: more)) :
    Phrase.join (phrases (first :: more)) ++ rest ≠ Cell.toWord :: other := by
  intro heq
  obtain ⟨tail, hjoin⟩ := join_eq_headCell first more
  rw [hjoin] at heq
  exact headCell_ne (isPlain_of_arePlain h) (by decide) (List.cons.inj heq).1

/-- Lists of arguments after equal heads agree if their types do. -/
theorem arguments_append_inj {left right : List TypeExpr} {rest other : Row}
    (hjoin : left ≠ [] → right ≠ [] →
      Phrase.join (phrases left) ++ rest = Phrase.join (phrases right) ++ other →
        left = right ∧ rest = other)
    (hrest : Row.CanFollow (lastDepth left) rest) (hother : Row.CanFollow (lastDepth right) other)
    (h : Phrase.arguments (phrases left) ++ rest = Phrase.arguments (phrases right) ++ other) :
    left = right ∧ rest = other := by
  cases left with
  | nil =>
      cases right with
      | nil => exact ⟨rfl, h⟩
      | cons first more =>
          subst h
          exact absurd rfl hrest.1
  | cons leftFirst leftMore =>
      cases right with
      | nil =>
          subst h
          exact absurd rfl hother.1
      | cons rightFirst rightMore =>
          exact hjoin (List.cons_ne_nil _ _) (List.cons_ne_nil _ _) (List.cons.inj h).2

/-- Lists of parameters before `TO` agree if their types do. -/
theorem parameters_append_inj {left right : List TypeExpr} {rest other : Row}
    (hleft : arePlain bound left) (hright : arePlain bound right)
    (hjoin : left ≠ [] → right ≠ [] →
      Phrase.join (phrases left) ++ Cell.toWord :: rest =
          Phrase.join (phrases right) ++ Cell.toWord :: other →
        left = right ∧ Cell.toWord :: rest = Cell.toWord :: other)
    (h : Phrase.join (phrases left) ++ Cell.toWord :: rest =
      Phrase.join (phrases right) ++ Cell.toWord :: other) :
    left = right ∧ rest = other := by
  cases left with
  | nil =>
      cases right with
      | nil => exact ⟨rfl, (List.cons.inj h).2⟩
      | cons first more => exact absurd h.symm (join_ne_toWord hright)
  | cons leftFirst leftMore =>
      cases right with
      | nil => exact absurd h (join_ne_toWord hleft)
      | cons rightFirst rightMore =>
          obtain ⟨htypes, hends⟩ := hjoin (List.cons_ne_nil _ _) (List.cons_ne_nil _ _) h
          exact ⟨htypes, (List.cons.inj hends).2⟩

mutual

/-- A plain type is determined, with its end, by cells that start with it. -/
theorem cells_append_inj (left : TypeExpr) {right : TypeExpr} {rest other : Row}
    (hleft : left.isPlain 1) (hright : right.isPlain 1)
    (hrest : Row.CanFollow left.trailingDepth rest)
    (hother : Row.CanFollow right.trailingDepth other)
    (h : left.cells ++ rest = right.cells ++ other) : left = right ∧ rest = other := by
  have hshape := shape_eq hleft hright h
  -- The first cell settles the shape, so only types of one shape are left to compare.
  match left, right with
  | .named name leftArguments, .named _ rightArguments =>
      obtain rfl := TypeShape.named.inj hshape
      rw [isPlain, Bool.and_eq_true] at hleft hright
      obtain ⟨rfl, rfl⟩ := arguments_append_inj
        (fun hne hne' => join_append_inj leftArguments hne hne' hleft.2 hright.2 hrest hother)
        hrest hother (List.cons.inj h).2
      exact ⟨rfl, rfl⟩
  | .compound head leftArguments, .compound _ rightArguments =>
      obtain rfl := TypeShape.compound.inj hshape
      rw [isPlain] at hleft hright
      obtain ⟨rfl, rfl⟩ := arguments_append_inj
        (fun hne hne' => join_append_inj leftArguments hne hne' hleft hright hrest hother)
        hrest hother (List.cons.inj h).2
      exact ⟨rfl, rfl⟩
  | .inout leftWrapped, .inout rightWrapped =>
      rw [isPlain] at hleft hright
      obtain ⟨rfl, rfl⟩ :=
        cells_append_inj leftWrapped hleft hright hrest hother (List.cons.inj h).2
      exact ⟨rfl, rfl⟩
  | .function leftParameters leftResult, .function rightParameters rightResult =>
      rw [isPlain, Bool.and_eq_true] at hleft hright
      -- `TO` ends the parameters whatever their depth; the result goes on to the end.
      have hcells : Phrase.join (phrases leftParameters) ++
            Cell.toWord :: (leftResult.cells ++ rest) =
          Phrase.join (phrases rightParameters) ++ Cell.toWord :: (rightResult.cells ++ other) := by
        simpa [cells, phrase] using h
      obtain ⟨rfl, hresults⟩ := parameters_append_inj hleft.1 hright.1
        (fun hne hne' => join_append_inj leftParameters hne hne' hleft.1 hright.1
          (canFollow_toWord _ _) (canFollow_toWord _ _)) hcells
      obtain ⟨rfl, rfl⟩ := cells_append_inj leftResult hleft.2 hright.2 hrest hother hresults
      exact ⟨rfl, rfl⟩

/-- A list of plain types is determined, with its end, by cells that start with it. -/
theorem join_append_inj (left : List TypeExpr) {right : List TypeExpr} {rest other : Row}
    (hleftNe : left ≠ []) (hrightNe : right ≠ [])
    (hleft : arePlain 1 left) (hright : arePlain 1 right)
    (hrest : Row.CanFollow (lastDepth left) rest) (hother : Row.CanFollow (lastDepth right) other)
    (h : Phrase.join (phrases left) ++ rest = Phrase.join (phrases right) ++ other) :
    left = right ∧ rest = other := by
  match left, right with
  | [leftLast], [rightLast] =>
      obtain ⟨rfl, rfl⟩ := cells_append_inj leftLast hleft hright (hrest.mono (Nat.le_succ _))
        (hother.mono (Nat.le_succ _)) h
      exact ⟨rfl, rfl⟩
  | [leftLast], rightFirst :: rightNext :: rightMore =>
      -- The left list would end where the right one goes on.
      simp only [arePlain, Bool.and_eq_true, decide_eq_true_eq] at hright
      have hnext := isPlain_of_arePlain hright.2
      rw [join_cons_cons, List.append_assoc] at h
      obtain ⟨rfl, rfl⟩ := cells_append_inj leftLast hleft hright.1.1 (hrest.mono (Nat.le_succ _))
        (canFollow_afterFirst hnext hright.1.2) h
      exact absurd hrest (not_canFollow_afterFirst hnext)
  | leftFirst :: leftNext :: leftMore, [rightLast] =>
      simp only [arePlain, Bool.and_eq_true, decide_eq_true_eq] at hleft
      have hnext := isPlain_of_arePlain hleft.2
      rw [join_cons_cons, List.append_assoc] at h
      obtain ⟨rfl, rfl⟩ := cells_append_inj leftFirst hleft.1.1 hright
        (canFollow_afterFirst hnext hleft.1.2) (hother.mono (Nat.le_succ _)) h
      exact absurd hother (not_canFollow_afterFirst hnext)
  | leftFirst :: leftNext :: leftMore, rightFirst :: rightNext :: rightMore =>
      -- Equal first types are followed by equal separators.
      simp only [arePlain, Bool.and_eq_true, decide_eq_true_eq] at hleft hright
      rw [join_cons_cons, join_cons_cons, List.append_assoc, List.append_assoc] at h
      obtain ⟨rfl, hafter⟩ := cells_append_inj leftFirst hleft.1.1 hright.1.1
        (canFollow_afterFirst (isPlain_of_arePlain hleft.2) hleft.1.2)
        (canFollow_afterFirst (isPlain_of_arePlain hright.2) hright.1.2) h
      rw [afterFirst, afterFirst, List.append_assoc, List.append_assoc] at hafter
      obtain ⟨hmore, rfl⟩ := join_append_inj (leftNext :: leftMore) (List.cons_ne_nil _ _)
        (List.cons_ne_nil _ _) hleft.2 hright.2 hrest hother (List.append_cancel_left hafter)
      exact ⟨congrArg (leftFirst :: ·) hmore, rfl⟩

end

/-- Plain lists within depth one are determined by their joined cells. -/
theorem join_inj {left right : List TypeExpr} (hleft : arePlain 1 left) (hright : arePlain 1 right)
    (h : Phrase.join (phrases left) = Phrase.join (phrases right)) : left = right := by
  -- A closing `TO` makes the empty list one of the cases.
  have hclosed : Phrase.join (phrases left) ++ [Cell.toWord] =
      Phrase.join (phrases right) ++ [Cell.toWord] := congrArg (· ++ [Cell.toWord]) h
  exact (parameters_append_inj hleft hright
    (fun hne hne' => join_append_inj left hne hne' hleft hright
      (canFollow_toWord _ _) (canFollow_toWord _ _)) hclosed).1

/-- Plain types within depth one are determined by their cells. -/
theorem cells_inj {left right : TypeExpr} (hleft : left.isPlain 1) (hright : right.isPlain 1)
    (h : left.cells = right.cells) : left = right := by
  have hclosed : left.cells ++ [Cell.toWord] = right.cells ++ [Cell.toWord] :=
    congrArg (· ++ [Cell.toWord]) h
  exact (cells_append_inj left hleft hright (canFollow_toWord _ _) (canFollow_toWord _ _)
    hclosed).1

/-! ## The limit -/

/-- `X<A<B<C>>, D>`: the first argument of `X` has trailing depth two. -/
def deepThenFlat : TypeExpr :=
  .named "X" [.named "A" [.named "B" [.named "C" []]], .named "D" []]

/-- `X<A<B<C>, D>>`: the first argument of `A` has trailing depth one. -/
def deepWithFlat : TypeExpr :=
  .named "X" [.named "A" [.named "B" [.named "C" []], .named "D" []]]

/-- Joined cells tell lists of plain types apart, and the cells of a type tell plain types apart, as
long as no argument but the last of its list ends in more than one list. With two lists this fails:
`AND THEN` after the cells of `A<B<C>>` closes one list, and does not say how many more. -/
theorem joining_unambiguous_up_to_one :
    (∀ left right : List TypeExpr, arePlain 1 left → arePlain 1 right →
      Phrase.join (left.map phrase) = Phrase.join (right.map phrase) → left = right) ∧
    (∀ left right : TypeExpr, left.isPlain 1 → right.isPlain 1 →
      left.cells = right.cells → left = right) ∧
    (deepThenFlat.isPlain 2 ∧ deepWithFlat.isPlain 2 ∧ deepThenFlat ≠ deepWithFlat ∧
      deepThenFlat.cells = deepWithFlat.cells) := by
  refine ⟨fun left right hleft hright h => ?_, fun left right => cells_inj, ?_⟩
  · rw [← phrases_eq_map, ← phrases_eq_map] at h
    exact join_inj hleft hright h
  · refine ⟨by decide, by decide, ?_, by decide⟩
    simp [deepThenFlat, deepWithFlat]

/-- `X<A<B>, D>` and `X<A<B, D>>` are within the limit and told apart by their cells. -/
theorem joining_unambiguous_flat :
    arePlain 1 [.named "X" [.named "A" [.named "B" []], .named "D" []]] ∧
    arePlain 1 [.named "X" [.named "A" [.named "B" [], .named "D" []]]] ∧
    Phrase.join ([.named "X" [.named "A" [.named "B" []], .named "D" []]].map phrase) ≠
      Phrase.join ([.named "X" [.named "A" [.named "B" [], .named "D" []]]].map phrase) := by
  refine ⟨by decide, by decide, fun h => ?_⟩
  have heq := joining_unambiguous_up_to_one.1 _ _ (by decide) (by decide) h
  simp at heq

end TypeExpr

end WordGrid
