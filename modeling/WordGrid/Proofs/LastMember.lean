import WordGrid.Proofs.Blocks
import WordGrid.Proofs.Recovery

/-!
# The last member of a block

The draft of an entity with members gives every member the rows of one that is followed by another.
Then the fillers at the end are blanked, from the last row upwards. The rows of the last member
below its header are fillers, so these are blanked and nothing else is, unless the header is taken
for a filler too: it starts with the name of the member, and the name may be an ellipsis. Read
`Entity.hierarchical_closed_form` first.
-/

namespace WordGrid

namespace Grid

variable {fillers blanks : List Row}

/-- Fillers below a row become blanks, and nothing else changes, if the row is no filler. -/
theorem collapseFillers_eq_iff (h : List.Forall₂ Row.BlanksTo fillers blanks) (above : Grid)
    (row : Row) :
    collapseFillers (above ++ row :: fillers) = above ++ row :: blanks ↔ row.blanked? = none := by
  rw [List.append_cons, List.append_cons above row blanks, collapseFillers_append h,
    List.append_cancel_right_eq]
  cases hrow : row.blanked? with
  | none => exact iff_of_true (collapseFillers_of_blanked?_none hrow above) rfl
  | some blank =>
      -- The row is blanked as well, and a filler is never what it becomes.
      rw [collapseFillers_append (.cons hrow .nil)]
      refine iff_of_false (fun heq => ?_) (by simp)
      have hsame : blank = row := by simpa using (List.append_inj' heq rfl).2
      exact Row.BlanksTo.ne hrow hsame.symm

/-- Of fillers and what they become, every row differs. -/
theorem getElem?_ne_iff (h : List.Forall₂ Row.BlanksTo fillers blanks) (index : Nat) :
    blanks[index]? ≠ fillers[index]? ↔ index < fillers.length := by
  induction h generalizing index with
  | nil => simp
  | cons hrow _ ih =>
      cases index with
      | zero => simpa using hrow.ne.symm
      | succ index => simpa using ih index

/-- The rows that change are those below a row, if that row is no filler. -/
theorem changed_iff_below (h : List.Forall₂ Row.BlanksTo fillers blanks) (above : Grid)
    (row : Row) :
    (∀ index, (collapseFillers (above ++ row :: fillers))[index]? ≠
        (above ++ row :: fillers)[index]? ↔
      above.length < index ∧ index < (above ++ row :: fillers).length) ↔
    row.blanked? = none := by
  cases hrow : row.blanked? with
  | none =>
      refine iff_of_true (fun index => ?_) rfl
      rw [(collapseFillers_eq_iff h above row).mpr hrow, List.append_cons,
        List.append_cons above row fillers]
      by_cases hindex : index < (above ++ [row]).length
      · rw [List.getElem?_append_left hindex, List.getElem?_append_left hindex]
        simp only [List.length_append, List.length_singleton] at hindex
        simp only [ne_eq, not_true_eq_false, false_iff]
        omega
      · rw [List.getElem?_append_right (by omega), List.getElem?_append_right (by omega),
          getElem?_ne_iff h]
        simp only [List.length_append, List.length_singleton] at hindex ⊢
        omega
  | some blank =>
      -- The row itself changes.
      have hbefore : (above ++ row :: fillers)[above.length]? = some row := by simp
      have hafter : (collapseFillers (above ++ row :: fillers))[above.length]? = some blank := by
        rw [List.append_cons, collapseFillers_append h, collapseFillers_append (.cons hrow .nil),
          List.append_assoc, ← above.length_collapseFillers]
        simp
      refine iff_of_false (fun hall => ?_) (by simp)
      have hdiffers : blank ≠ row := (Row.BlanksTo.ne hrow).symm
      have hbelow := (hall above.length).mp (by simpa [hbefore, hafter] using hdiffers)
      omega

end Grid

/-- The rows of all members, with those of the last one apart. -/
theorem MemberView.allRows_concat (members : List MemberView) (last : MemberView) :
    allRows (members ++ [last]) = members.flatMap rows ++ last.lastRows := by
  induction members with
  | nil => rfl
  | cons member rest ih =>
      rw [List.flatMap_cons, List.append_assoc, ← ih]
      cases rest <;> rfl

namespace Entity

/-- The views of members that are no extensions, with the view of the last one apart. -/
theorem memberViews_concat {others : List Entity} {last : Entity}
    (h : ∀ child ∈ others ++ [last], child.kind ≠ .extension) :
    ∃ views view, last.memberView = .ok view ∧
      (others ++ [last]).mapM memberView = .ok (views ++ [view]) := by
  have hview (child : Entity) (hmem : child ∈ others ++ [last]) :
      ∃ view, child.memberView = .ok view := by
    obtain ⟨header, hheader⟩ := header_total (h child hmem)
    exact ⟨_, bind_eq_ok.mpr ⟨header, hheader, rfl⟩⟩
  obtain ⟨views, hviews⟩ := mapM_total fun child hmem => hview child (List.mem_append_left _ hmem)
  obtain ⟨view, hlast⟩ := hview last (by simp)
  refine ⟨views, view, hlast, mapM_eq_ok_iff.mpr ?_⟩
  exact List.rel_append (mapM_eq_ok_iff.mp hviews) (.cons hlast .nil)

/-- The draft of an entity ends with the rows of its last member, and the closed form is that draft
with the last member in its final form. -/
theorem draft_of_members {entity : Entity} {others : List Entity} {last : Entity}
    (hchildren : entity.children = others ++ [last])
    (h : ∀ child ∈ entity.children, child.kind ≠ .extension) :
    ∃ view above member, last.memberView = .ok member ∧ entity.draft = .ok (above ++ member.rows) ∧
      entity.view = .ok view ∧ view.rows = above ++ member.lastRows ++ [[]] := by
  rw [hchildren] at h
  obtain ⟨views, member, hlast, hviews⟩ := memberViews_concat h
  obtain ⟨⟨first, rest⟩, hopening⟩ := entity.opening_total
  have hblocks : entity.children.mapM memberRows =
      .ok ((views ++ [member]).map MemberView.rows) := by
    rw [mapM_eq_map memberRows_eq_map, hchildren, hviews]
    rfl
  have hview := view_of_members (show entity.children ≠ [] by simp [hchildren])
  rw [hopening, hchildren, hviews] at hview
  obtain ⟨view, hok, hrows⟩ := map_eq_ok.mp hview
  refine ⟨view, first :: [Cell.hasWord] :: continued rest ++ views.flatMap MemberView.rows, member,
    hlast, ?_, hok, ?_⟩
  · refine bind_eq_ok.mpr ⟨_, hopening, bind_eq_ok.mpr ⟨_, hblocks, ?_⟩⟩
    simp [List.flatMap_def, pure, Except.pure]
  · rw [hrows, MemberView.allRows_concat]
    simp

/-- An entity without members has its flat rows and a blank row. An entity with members, none of
them an extension, has the rows of its closed form if and only if its last member is not named by
an ellipsis. The rows that change when the fillers of its draft are blanked are those of its last
member below the header of that member, and no others, if and only if the same holds. The header of
a last member that is named by an ellipsis changes with its rows, and so do the fillers above it.
There are none above a sole member right below the row that opens the list of members, so of such a
member only its own header changes besides its fillers. -/
theorem hierarchical_closed_form (entity : Entity) :
    (entity.children = [] →
      ∃ rows, entity.flat = .ok rows ∧ entity.hierarchical = .ok (rows ++ [[]])) ∧
    ∀ (others : List Entity) (last : Entity), entity.children = others ++ [last] →
      (∀ child ∈ entity.children, child.kind ≠ .extension) →
      ∃ (view : EntityView) (above block : Grid), entity.view = .ok view ∧
        last.memberRows = .ok block ∧ entity.draft = .ok (above ++ block) ∧
        (entity.hierarchical = .ok view.rows ↔ last.name ≠ "…") ∧
        ((∀ index, (Grid.collapseFillers (above ++ block))[index]? ≠ (above ++ block)[index]? ↔
            above.length < index ∧ index < (above ++ block).length) ↔
          last.name ≠ "…") := by
  refine ⟨fun hchildren => ?_, fun others last hchildren hkinds => ?_⟩
  · obtain ⟨rows, hrows⟩ := entity.flat_total
    refine ⟨rows, hrows, ?_⟩
    rw [hierarchical_of_no_members hchildren, hrows]
    rfl
  · obtain ⟨view, above, member, hlast, hdraft, hview, hrows⟩ := draft_of_members hchildren hkinds
    have hblock : last.memberRows = .ok member.rows := by
      rw [memberRows_eq_map, hlast]
      rfl
    obtain ⟨header, hheader, hmember⟩ := bind_eq_ok.mp hlast
    have hname : member.header.blanked? = none ↔ last.name ≠ "…" := by
      obtain rfl := Except.ok.inj hmember
      exact blanked?_header_iff hheader
    refine ⟨view, above, member.rows, hview, hblock, hdraft, ?_, ?_⟩
    · rw [hierarchical_eq_draft (by simp [hchildren]), hdraft, hrows, ← hname,
        ← Grid.collapseFillers_eq_iff member.blanked?_below above]
      exact ⟨fun h => List.append_cancel_right (Except.ok.inj h),
        fun h => congrArg (fun rows => Except.ok (rows ++ [[]])) h⟩
    · rw [← hname]
      exact Grid.changed_iff_below member.blanked?_below above member.header

/-- A type with a function `f` and the operator `…`. -/
def withOperator : Entity where
  name := "A"
  kind := .struct
  children := [{ name := "f", kind := .function }, { name := "…", kind := .function }]

/-- The operator loses its name, and the filler between the two members is blanked with it. -/
theorem hierarchical_closed_form_withOperator :
    withOperator.hierarchical = .ok [
      [⟨"A"⟩, ⟨"IS"⟩, ⟨"STRUCT"⟩], [⟨"HAS"⟩], [⟨"f"⟩, ⟨"IS"⟩, ⟨"FUNC"⟩], [],
      [⟨""⟩, ⟨"IS"⟩, ⟨"FUNC"⟩], [], []] ∧
    ∃ view, withOperator.view = .ok view ∧ withOperator.hierarchical ≠ .ok view.rows := by
  refine ⟨rfl, ?_⟩
  obtain ⟨view, above, block, hview, -, -, hclosed, -⟩ :=
    (hierarchical_closed_form withOperator).2 [{ name := "f", kind := .function }]
      { name := "…", kind := .function } rfl (by decide)
  exact ⟨view, hview, fun h => absurd rfl (hclosed.mp h)⟩

end Entity

end WordGrid
