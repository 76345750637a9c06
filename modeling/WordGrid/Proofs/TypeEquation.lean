import WordGrid.Outline.Types
import WordGrid.Proofs.Descent
import WordGrid.Proofs.Results

/-!
# The equation of `typeExpr`

Every type that a step asks its reader for lies strictly inside the node at hand, so depth beyond
the height of a node changes nothing. Read `Node.typeExpr_eq_typeStep` first: `typeExpr` satisfies
its own step, and the depth that drives it never shows.
-/

namespace WordGrid

/-- A step asks its reader only for types below the node. -/
theorem typeStep_congr {left right : TypeReader} {node : Node}
    (h : ∀ type : Node, type.Below node → left type = right type) :
    typeStep left node = typeStep right node := by
  unfold typeStep
  split
  · split
    · next component hcomponents =>
      rw [Component.read, Component.read, mapM_congr_of_mem fun type htype =>
        h type (Node.below_of_mem_components
          (by rw [hcomponents]; exact List.mem_cons_self) htype)]
    · rfl
  · split
    · next element hwrapped =>
      rw [h element (Node.below_of_mem_wrappedTypes (by simp [hwrapped]))]
    · rfl
  · split
    · next key value hwrapped =>
      rw [h key (Node.below_of_mem_wrappedTypes (by simp [hwrapped])),
        h value (Node.below_of_mem_wrappedTypes (by simp [hwrapped]))]
    · rfl
  · split
    · next wrapped hwrapped =>
      rw [h wrapped (Node.below_of_mem_wrappedTypes (by simp [hwrapped]))]
    · rfl
  · rw [mapM_congr_of_mem]
    rintro (_ | slot) hmem
    · rfl
    · rw [TypeSlot.read, TypeSlot.read, h _ (Node.below_of_mem_elementSlots hmem)]
  · split
    · next slots result hslots hresult =>
      rw [h result (Node.below_of_functionResult? hresult), mapM_congr_of_mem]
      rintro (_ | slot) hmem
      · rfl
      · rw [TypeSlot.read, TypeSlot.read, h _ (Node.below_of_functionSlots? hslots hmem)]
    · rfl
  · rw [mapM_congr_of_mem fun type htype => h type (Node.below_of_mem_wrappedTypes htype)]
  · rfl
  · rfl

/-- Two depths that both reach the height of a node read it alike. -/
theorem typeToDepth_congr {first second : Nat} {node : Node} (hfirst : node.height ≤ first)
    (hsecond : node.height ≤ second) : typeToDepth first node = typeToDepth second node := by
  induction first generalizing second node with
  | zero => exact absurd hfirst (Nat.not_le_of_lt node.height_pos)
  | succ first ih =>
      cases second with
      | zero => exact absurd hsecond (Nat.not_le_of_lt node.height_pos)
      | succ second =>
          refine typeStep_congr fun type hbelow => ?_
          have hlt := hbelow.height_lt
          exact ih (by omega) (by omega)

/-- Depth beyond the height of a node changes nothing. -/
theorem typeToDepth_eq_typeExpr {depth : Nat} {node : Node} (hdepth : node.height ≤ depth) :
    typeToDepth depth node = node.typeExpr :=
  typeToDepth_congr hdepth (Nat.le_refl _)

/-- Reading a type node is one step whose reader is `typeExpr` itself. -/
theorem Node.typeExpr_eq_typeStep (node : Node) : node.typeExpr = typeStep Node.typeExpr node := by
  rw [← typeToDepth_eq_typeExpr (Nat.le_succ node.height)]
  exact typeStep_congr fun type hbelow => typeToDepth_eq_typeExpr (Nat.le_of_lt hbelow.height_lt)

/-- The type of a slot is that of its node, with the marks of the slot. -/
theorem TypeSlot.typeExpr_some (owner : Option Node) (slot : TypeSlot) :
    TypeSlot.typeExpr owner (some slot) = slot.node.typeExpr.map slot.mark := by
  show (slot.node.typeExpr >>= fun type => .ok (slot.mark type)) = _
  cases slot.node.typeExpr <;> rfl

end WordGrid
