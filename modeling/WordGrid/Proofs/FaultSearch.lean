import WordGrid.Proofs.Recovery
import WordGrid.Proofs.Relabelling
import WordGrid.Proofs.Traversal

/-!
# The search for the first fault

The search for the first fault of a tree passes over children that say they hold no error. In a tree
where every node with a fault inside says so, it finds what a search through all nodes finds
(`Node.firstFault?_eq_find?`). `Node.preorder` lists these nodes, from the top down and from left to
right. The search is also written as a loop with a stack, `Node.firstOnStack`, and what the loop
finds is said for any stack. Read `Document.firstFault_in_preorder` first.
-/

namespace WordGrid

namespace Node

/-! ## All nodes in order -/

mutual

/-- All nodes of a tree, from the top down and from left to right. -/
def preorder : Node → List Node
  | ⟨label, children⟩ => ⟨label, children⟩ :: preorderAll children

/-- All nodes of some trees, one tree after the other. -/
def preorderAll : List Node → List Node
  | [] => []
  | node :: rest => node.preorder ++ preorderAll rest

end

mutual

/-- The nodes of a tree are those that lie inside it. -/
theorem mem_preorder_iff {node : Node} : (root : Node) → (node ∈ root.preorder ↔ node.Inside root)
  | ⟨label, children⟩ => by
      rw [preorder, List.mem_cons, mem_preorderAll_iff children]
      constructor
      · rintro (rfl | hbelow)
        · exact .self _
        · exact Below.inside hbelow
      · exact Inside.eq_or_below

theorem mem_preorderAll_iff {node : Node} : (nodes : List Node) →
    (node ∈ preorderAll nodes ↔ ∃ root ∈ nodes, node.Inside root)
  | [] => by simp [preorderAll]
  | root :: rest => by
      rw [preorderAll, List.mem_append, mem_preorder_iff root, mem_preorderAll_iff rest]
      simp

end

mutual

/-- Other labels change the nodes and not their order. -/
theorem preorder_relabel (change : Label → Label) : (root : Node) →
    (root.relabel change).preorder = root.preorder.map (relabel change)
  | ⟨label, children⟩ => by
      rw [relabel, preorder, preorder, List.map_cons, preorderAll_relabelAll change children,
        relabel]

theorem preorderAll_relabelAll (change : Label → Label) : (nodes : List Node) →
    preorderAll (relabelAll change nodes) = (preorderAll nodes).map (relabel change)
  | [] => rfl
  | node :: rest => by
      rw [relabelAll, preorderAll, preorderAll, List.map_append, preorder_relabel change node,
        preorderAll_relabelAll change rest]

end

/-! ## Trees that tell where their faults are -/

/-- Every node with a fault inside, itself included, says that it holds an error. -/
def Flagged (root : Node) : Prop :=
  ∀ node fault : Node, node.Inside root → fault.Inside node → fault.isFault →
    node.label.hasError = true

theorem Flagged.of_inside {node root : Node} (h : root.Flagged) (hinside : node.Inside root) :
    node.Flagged :=
  fun other fault hother => h other fault (hother.trans hinside)

/-- To see that a tree tells where its faults are, it is enough to look at all nodes and at all
nodes inside each. -/
theorem flagged_iff_all {root : Node} :
    root.Flagged ↔
      root.preorder.all fun node => node.label.hasError || !node.preorder.any isFault := by
  simp only [List.all_eq_true, mem_preorder_iff, Bool.or_eq_true, Bool.not_eq_true',
    List.any_eq_false]
  constructor
  · intro h node hnode
    by_cases herror : node.label.hasError = true
    · exact .inl herror
    · exact .inr fun fault hfault hisFault => herror (h node fault hnode hfault hisFault)
  · intro h node fault hnode hfault hisFault
    exact (h node hnode).resolve_right fun hnone => hnone fault hfault hisFault

instance (root : Node) : Decidable root.Flagged :=
  decidable_of_iff _ flagged_iff_all.symm

/-- A node that says it holds no error has no fault inside. -/
theorem Flagged.find?_eq_none {root : Node} (h : root.Flagged)
    (herror : root.label.hasError = false) : root.preorder.find? isFault = none := by
  rw [List.find?_eq_none]
  intro fault hmem hfault
  have htrue := h root fault (.self root) ((mem_preorder_iff root).mp hmem) hfault
  exact absurd (htrue.symm.trans herror) (by decide)

mutual

/-- Where every node with a fault inside says so, nothing is missed by passing over the others. -/
theorem firstFault?_eq_find? : (root : Node) → root.Flagged →
    root.firstFault? = root.preorder.find? isFault
  | ⟨label, children⟩, h => by
      have hchildren := firstFaultAmong?_eq_find? children fun child hmem =>
        h.of_inside (below_of_mem_children hmem).inside
      rw [firstFault?, preorder, List.find?_cons, hchildren]
      cases isFault ⟨label, children⟩ <;> rfl

theorem firstFaultAmong?_eq_find? : (nodes : List Node) → (∀ node ∈ nodes, node.Flagged) →
    firstFaultAmong? nodes = (preorderAll nodes).find? isFault
  | [], _ => rfl
  | node :: rest, h => by
      have hnode := h node List.mem_cons_self
      have hrest := firstFaultAmong?_eq_find? rest fun other hmem =>
        h other (List.mem_cons_of_mem node hmem)
      rw [firstFaultAmong?, preorderAll, List.find?_append, hrest]
      split
      · rw [firstFault?_eq_find? node hnode]
      · next hquiet =>
        have herror : node.label.hasError = false := by simp_all
        rw [hnode.find?_eq_none herror, Option.none_or]

end

/-! ## The search with a stack -/

/-- May there be a fault inside? -/
def isSuspect (node : Node) : Bool :=
  node.label.hasError || node.label.missing

/-- The children that a fault is looked for in. -/
def suspects (node : Node) : List Node :=
  node.children.filter isSuspect

/-- Search with a stack: the node on top is a fault, or it makes way for those of its children that
may hold one. -/
def firstOnStack : List Node → Option Node
  | [] => none
  | node :: stack =>
      if node.isFault then some node else firstOnStack (node.suspects ++ stack)
termination_by stack => counts stack
decreasing_by
  have hfewer : counts node.suspects < node.count := node.counts_filter_children_lt isSuspect
  rw [counts_append, counts]
  omega

theorem firstFaultAmong?_eq_findSome? (nodes : List Node) :
    firstFaultAmong? nodes = (nodes.filter isSuspect).findSome? firstFault? := by
  induction nodes with
  | nil => rfl
  | cons node rest ih =>
      rw [firstFaultAmong?, List.filter_cons, ih, isSuspect]
      split
      · rw [List.findSome?_cons]
        cases node.firstFault? <;> rfl
      · rfl

/-- The search finds the first fault of the topmost node that has one. -/
theorem firstOnStack_eq (stack : List Node) : firstOnStack stack = stack.findSome? firstFault? := by
  induction stack using firstOnStack.induct with
  | case1 => rw [firstOnStack, List.findSome?_nil]
  | case2 node stack hfault =>
      obtain ⟨label, children⟩ := node
      rw [firstOnStack, if_pos hfault, List.findSome?_cons, firstFault?, if_pos hfault]
  | case3 node stack hfault ih =>
      obtain ⟨label, children⟩ := node
      rw [firstOnStack, if_neg hfault, ih, List.findSome?_append, List.findSome?_cons, firstFault?,
        if_neg hfault, firstFaultAmong?_eq_findSome?, suspects]
      cases (children.filter isSuspect).findSome? firstFault? <;> rfl

end Node

/-! ## Documents -/

namespace Document

open Node

theorem line_annotate (source : Source) (node : Node) :
    (source.annotate node).line = source.lineAt node.span.start := by
  obtain ⟨label, children⟩ := node
  rfl

/-- Texts and lines do not change which nodes are faults. -/
theorem isFault_annotate (source : Source) (node : Node) :
    (source.annotate node).isFault = node.isFault := by
  obtain ⟨label, children⟩ := node
  rfl

/-- Texts and lines do not change which nodes say that they hold an error. -/
theorem flagged_root {document : Document} (h : document.tree.Flagged) : document.root.Flagged := by
  intro node fault hnode hfault hisFault
  obtain ⟨node, hinside, rfl⟩ := hnode.of_relabel
  obtain ⟨fault, hbelow, rfl⟩ := hfault.of_relabel
  rw [label_relabel]
  exact h node fault hinside hbelow ((isFault_annotate document.source fault).symm.trans hisFault)

/-- The first fault is that of the tree as it was parsed, with its text and its line. -/
theorem firstFault?_root {document : Document} (h : document.tree.Flagged) :
    document.root.firstFault? =
      (document.tree.preorder.find? isFault).map document.source.annotate := by
  have hfaults : isFault ∘ relabel document.source.annotateLabel = isFault :=
    funext (isFault_annotate document.source)
  rw [firstFault?_eq_find? document.root (flagged_root h), root, Source.annotate, preorder_relabel,
    List.find?_map, hfaults]
  rfl

/-- In a tree where every node with a fault inside says so, the first fault that is found is the
first one of all nodes in order, and its line is the one it starts on, counted from 1. None is found
only if there is none. The search with a stack finds the same. So a document with a fault is warned
about, and the warning tells a line. -/
theorem firstFault_in_preorder (document : Document) (h : document.tree.Flagged) :
    document.root.firstFault?.map Node.line =
        (document.tree.preorder.find? isFault).map
          (fun fault => document.source.lineAt fault.span.start) ∧
      (document.root.firstFault?.map Node.line = none ↔
        ∀ node : Node, node.Inside document.tree → ¬ node.isFault) ∧
      firstOnStack [document.root] = document.root.firstFault? ∧
      ∀ (path : Option String) (fault : Node), fault.Inside document.tree → fault.isFault →
        ∃ line, document.root.firstFault?.map Node.line = some line ∧
          document.syntaxNotices path = [.syntaxErrors path (some line)] ∧
          (Notice.syntaxErrors path (some line)).event =
            ⟨.warning, "swift.syntax_errors",
              [("path", .ofString? path), ("first_error_line", .integer line)]⟩ := by
  have hline : document.root.firstFault?.map Node.line =
      (document.tree.preorder.find? isFault).map
        (fun fault => document.source.lineAt fault.span.start) := by
    rw [firstFault?_root h, Option.map_map]
    exact congrArg (Option.map · _) (funext (line_annotate document.source))
  have hnone : document.root.firstFault?.map Node.line = none ↔
      ∀ node : Node, node.Inside document.tree → ¬ node.isFault := by
    rw [hline, Option.map_eq_none_iff, List.find?_eq_none]
    simp only [mem_preorder_iff]
  refine ⟨hline, hnone, ?_, ?_⟩
  · rw [firstOnStack_eq, List.findSome?_singleton]
  · intro path fault hinside hfault
    have herror : document.root.label.hasError = true :=
      (label_relabel _ document.tree).symm ▸ h document.tree fault (.self _) hinside hfault
    cases hfound : document.root.firstFault?.map Node.line with
    | none => exact absurd hfault (hnone.mp hfound fault hinside)
    | some line => exact ⟨line, rfl, by rw [syntaxNotices, if_pos herror, hfound], rfl⟩

/-- The brace that is missing at the end of an enum. -/
def missingBrace : Node :=
  ⟨{ kind := "\x7d", span := ⟨20, 20⟩, named := false, missing := true, hasError := true }, []⟩

/-- A source whose second declaration is left open, with its tree: the parser made up the closing
brace, and took the last line for an error. -/
def enumLeftOpen : Document where
  source := .ofString "let a\nenum B\x7b\ncase c\n?"
  tree := ⟨{ kind := "source_file", span := ⟨0, 22⟩, hasError := true }, [
    .over "property_declaration" 0 5 [.over "pattern" 4 5 [.over "simple_identifier" 4 5 []]],
    ⟨{ kind := "class_declaration", span := ⟨6, 20⟩, hasError := true }, [
      .tokenOver "enum" 6 10, .over "type_identifier" 11 12 [],
      ⟨{ kind := "enum_class_body", span := ⟨12, 20⟩, hasError := true }, [
        .tokenOver "\x7b" 12 13,
        .over "enum_entry" 14 20 [.over "simple_identifier" 19 20 []], missingBrace]⟩]⟩,
    ⟨{ kind := "ERROR", span := ⟨21, 22⟩, hasError := true }, []⟩]⟩

/-- The made-up brace comes before the error, so the warning tells the third line. -/
theorem firstFault_in_preorder_enumLeftOpen :
    enumLeftOpen.tree.Flagged ∧
      enumLeftOpen.tree.preorder.find? isFault = some missingBrace ∧
      enumLeftOpen.syntaxNotices none = [.syntaxErrors none (some 3)] := by
  have hflagged : enumLeftOpen.tree.Flagged := by decide
  have hfirst : enumLeftOpen.tree.preorder.find? isFault = some missingBrace := rfl
  have hinside : missingBrace.Inside enumLeftOpen.tree :=
    (mem_preorder_iff _).mp (List.mem_of_find?_eq_some hfirst)
  obtain ⟨hline, -, -, hwarned⟩ := firstFault_in_preorder enumLeftOpen hflagged
  obtain ⟨line, hfound, hnotices, -⟩ := hwarned none missingBrace hinside rfl
  rw [hfirst] at hline
  obtain rfl : line = 3 := Option.some.inj (hfound.symm.trans hline)
  exact ⟨hflagged, hfirst, hnotices⟩

end Document

end WordGrid
