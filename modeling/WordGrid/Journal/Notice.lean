import WordGrid.Failure
import WordGrid.Grammar.Binding
import WordGrid.Journal.Event

/-!
# Notices

What is worth telling about a run: that the source has syntax errors, that something was dropped,
that an image was written. `Notice.event` is the event that tells it.
-/

namespace WordGrid

/-- What was being summarised when a drop happened. -/
inductive Attempt where
  | declaration (node : Node)
  | binding (binding : Binding)
  | element (element : CaseElement)

/-- The kind of node that was being summarised. A binding or a case element is no node of its
own. -/
def Attempt.kind? : Attempt → Option String
  | .declaration node => some node.kind
  | .binding _ => none
  | .element _ => none

/-- Something worth telling. -/
inductive Notice where
  | syntaxErrors (path : Option String) (line : Option Nat)
  | dropped (attempt : Attempt) (cause : Drop)
  | imageWritten (path : String) (rows width height : Nat)

/-- The event that tells a notice. -/
def Notice.event : Notice → Event
  | .syntaxErrors path line =>
      ⟨.warning, "swift.syntax_errors",
        [("path", .ofString? path), ("first_error_line", .ofNat? line)]⟩
  | .dropped attempt cause =>
      ⟨.debug, "translate.dropped",
        [("reason", .string cause.reason.message),
         ("node_type", .ofString? attempt.kind?),
         ("failed_at", .ofString? (cause.node.map Node.kind)),
         ("line", .ofNat? (cause.node.map Node.line))]⟩
  | .imageWritten path rows width height =>
      ⟨.info, "cli.image_written",
        [("path", .string path), ("rows", .integer rows),
         ("size", .array [.integer width, .integer height])]⟩

end WordGrid
