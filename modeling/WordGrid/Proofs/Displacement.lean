import WordGrid.Proofs.EntityShape
import WordGrid.Proofs.Failures
import WordGrid.Proofs.Notices
import WordGrid.Proofs.RelabelledWalk

/-!
# Moving code in its file

Bytes in front of a source move every node of its tree. The text of a node stays, and its line goes
up by the number of line ends in front (`Document.root_displaced`). A walk does not see the move,
so the summary of a document does not depend on where its code stands, and what it gives notice of
is told with the new lines. Read `Document.entities_displaced` first.
-/

namespace WordGrid

/-! ## Labels and events further on -/

/-- The label of a node that starts so many bytes and lines further on. -/
def Label.displaced (bytes lines : Nat) (label : Label) : Label :=
  { label with
    span := ⟨label.span.start + bytes, label.span.stop + bytes⟩
    line := label.line + lines }

/-- To move a node further on keeps everything but its place. -/
theorem Label.displaced_moves (bytes lines : Nat) : Label.Moves (Label.displaced bytes lines) where
  kind _ := rfl
  named _ := rfl
  fields _ := rfl
  text _ := rfl
  missing _ := rfl
  hasError _ := rfl
  span first second := by
    obtain ⟨_, ⟨start, stop⟩⟩ := first
    obtain ⟨_, ⟨start', stop'⟩⟩ := second
    simp [displaced]

/-- A value that tells a line, with so many lines more; `null` tells none. -/
def Json.lowered (lines : Nat) : Json → Json
  | .integer value => .integer (value + lines)
  | json => json

/-- The fields of events that tell lines. -/
def Event.lineFields : List String :=
  ["line", "first_error_line"]

/-- An event that tells of lines so many lines further down. -/
def Event.lowered (lines : Nat) (event : Event) : Event :=
  { event with
    data := event.data.map fun (name, value) =>
      (name, if lineFields.contains name then value.lowered lines else value) }

theorem Json.lowered_ofNat? (lines : Nat) (line : Option Nat) :
    (Json.ofNat? line).lowered lines = Json.ofNat? (line.map (· + lines)) := by
  cases line <;> simp [Json.ofNat?, Json.lowered]

/-- A notice of syntax errors tells a line at most. -/
theorem Notice.event_syntaxErrors (lines : Nat) (path : Option String) (line : Option Nat) :
    (Notice.syntaxErrors path (line.map (· + lines))).event =
      (Notice.syntaxErrors path line).event.lowered lines := by
  simp [Notice.event, Event.lowered, Event.lineFields, Json.lowered_ofNat?]

/-- A drop is told of a moved node as it is told of the node, but for the line. -/
theorem Notice.event_dropped (bytes lines : Nat) (subject : Attempt) (cause : Drop) :
    ((Notice.dropped subject cause).relabel (Label.displaced bytes lines)).event =
      (Notice.dropped subject cause).event.lowered lines := by
  have hkeeps := (Label.displaced_moves bytes lines).toKeeps
  have hsubject : (subject.relabel (Label.displaced bytes lines)).kind? = subject.kind? := by
    cases subject with
    | declaration node => exact congrArg some (hkeeps.node_kind node)
    | binding given => rfl
    | element given => rfl
  have hkind : (cause.node.map (Node.relabel (Label.displaced bytes lines))).map Node.kind =
      cause.node.map Node.kind := by
    simp [Function.comp_def, hkeeps]
  have hline : (cause.node.map (Node.relabel (Label.displaced bytes lines))).map Node.line =
      (cause.node.map Node.line).map (· + lines) := by
    simp [Function.comp_def, Node.line, Label.displaced]
  simp only [Notice.relabel, Drop.relabel, Notice.event, hsubject, hkind, hline, Event.lowered]
  simp [Event.lineFields, Json.lowered_ofNat?]

/-! ## Documents -/

/-- The bytes of a moved span are those that it had. -/
theorem Source.slice_displaced (front : List UInt8) (source : Source) (span : Span) :
    (⟨front ++ source.bytes⟩ : Source).slice
        ⟨span.start + front.length, span.stop + front.length⟩ = source.slice span := by
  rw [slice, slice, Nat.add_sub_add_right, Nat.add_comm span.start, List.drop_length_add_append]

/-- The line of a moved position is further down by the line ends in front. -/
theorem Source.lineAt_displaced (front : List UInt8) (source : Source) (position : Nat) :
    (⟨front ++ source.bytes⟩ : Source).lineAt (position + front.length) =
      source.lineAt position + front.count newline := by
  rw [lineAt, lineAt, Nat.add_comm position, List.take_length_add_append, List.count_append]
  omega

namespace Document

/-- The document with more bytes in front of its source, and with its tree moved accordingly. -/
def displaced (front : List UInt8) (document : Document) : Document :=
  ⟨⟨front ++ document.source.bytes⟩, document.tree.relabel (Label.displaced front.length 0)⟩

/-- The tree of a moved document has the texts that it had, and its nodes stand further on. -/
theorem root_displaced (front : List UInt8) (document : Document) :
    (document.displaced front).root =
      document.root.relabel (Label.displaced front.length (front.count Source.newline)) := by
  rw [root, displaced, Source.annotate, Node.relabel_relabel, root, Source.annotate,
    Node.relabel_relabel]
  congr 1
  funext label
  simp [Source.annotateLabel, Source.text, Label.displaced, Source.slice_displaced,
    Source.lineAt_displaced]

theorem syntaxNotices_displaced (front : List UInt8) (document : Document) (path : Option String) :
    ((document.displaced front).syntaxNotices path).map Notice.event =
      (document.syntaxNotices path).map fun notice =>
        notice.event.lowered (front.count Source.newline) := by
  have hmoves := Label.displaced_moves front.length (front.count Source.newline)
  unfold syntaxNotices
  rw [root_displaced, Node.label_relabel, hmoves.hasError]
  split
  · have hline : (document.root.relabel
          (Label.displaced front.length (front.count Source.newline))).firstFault?.map Node.line =
        (document.root.firstFault?.map Node.line).map (· + front.count Source.newline) := by
      rw [hmoves.firstFault?]
      simp [Function.comp_def, Node.line, Label.displaced]
    rw [hline, List.map_singleton, List.map_singleton, Notice.event_syntaxErrors]
  · rfl

/-- A walk over a moved tree gives the same entities or ends in the same failure, and tells of what
it drops with as many lines more as there are line ends in front. -/
theorem outline_displaced (front : List UInt8) (document : Document) (scope : Scope) :
    ((document.displaced front).root.outline scope).result =
        (document.root.outline scope).result ∧
      ((document.displaced front).root.outline scope).notices.map Notice.event =
        (document.root.outline scope).notices.map fun notice =>
          notice.event.lowered (front.count Source.newline) := by
  have hwalk : (document.displaced front).root.walk scope =
      (document.root.walk scope).relabel
        (Label.displaced front.length (front.count Source.newline)) := by
    rw [root_displaced, (Label.displaced_moves _ _).walk]
  constructor
  · rw [Node.outline, Node.outline, hwalk]
    -- All that can end a walk is a failure without a node.
    cases habort : (document.root.walk scope).abort with
    | none => simp [Progress.result_reading, Progress.relabel, habort]
    | some failure =>
        obtain ⟨rfl, _⟩ := (Node.walk_abortsIn scope document.root).nameless habort
        simp [Progress.result_reading, Progress.relabel, habort, Failure.relabel]
  · rw [Node.outline, Node.outline, hwalk, Progress.notices_reading, Progress.notices_reading,
      Progress.relabel, List.map_map]
    refine List.map_congr_left fun notice hnotice => ?_
    obtain ⟨subject, cause, rfl⟩ := Node.walk_notices_isDrop _ _ notice hnotice
    exact Notice.event_dropped _ _ subject cause

/-- The summary of a document does not depend on where its code stands in the file: with more bytes
in front, it has the same entities or ends in the same failure, and tells the same events, with as
many lines more as there are line ends in front. The same holds of a walk over its tree in any
scope. -/
theorem entities_displaced (document : Document) (front : List UInt8) (imports nested : Bool)
    (path : Option String) :
    ((document.displaced front).entities imports path).result =
        (document.entities imports path).result ∧
      ((document.displaced front).entities imports path).notices.map Notice.event =
        ((document.entities imports path).notices.map fun notice =>
          notice.event.lowered (front.count Source.newline)) ∧
      ((document.displaced front).root.outline ⟨imports, nested⟩).result =
        (document.root.outline ⟨imports, nested⟩).result ∧
      ((document.displaced front).root.outline ⟨imports, nested⟩).notices.map Notice.event =
        (document.root.outline ⟨imports, nested⟩).notices.map fun notice =>
          notice.event.lowered (front.count Source.newline) := by
  obtain ⟨hresult, hevents⟩ := outline_displaced front document ⟨imports, false⟩
  refine ⟨?_, ?_, outline_displaced front document ⟨imports, nested⟩⟩
  · rw [result_entities, result_entities, hresult]
  · rw [notices_entities, notices_entities, List.map_append, List.map_append,
      syntaxNotices_displaced, hevents]

end Document

end WordGrid
