import WordGrid.Node
import WordGrid.Text.Utf8

/-!
# Source files

A source is a list of bytes. It gives the nodes of its syntax tree their text and their line.
-/

namespace WordGrid

/-- The bytes of a source file. -/
structure Source where
  bytes : List UInt8

namespace Source

/-- The source with the bytes of a text. -/
def ofString (text : String) : Source :=
  ⟨Utf8.encode text⟩

/-- The bytes of a span. A span that reaches beyond the end stops there. -/
def slice (source : Source) (span : Span) : List UInt8 :=
  (source.bytes.drop span.start).take (span.stop - span.start)

/-- The text of a span. -/
def text (source : Source) (span : Span) : String :=
  Utf8.decode (source.slice span)

/-- The byte that ends a line. -/
def newline : UInt8 := 0x0A

/-- The line of a byte position: one more than the number of line ends before it. -/
def lineAt (source : Source) (position : Nat) : Nat :=
  (source.bytes.take position).count newline + 1

/-- A label with the text and the line that the source has for its span. -/
def annotateLabel (source : Source) (label : Label) : Label :=
  { label with text := source.text label.span, line := source.lineAt label.span.start }

/-- A syntax tree with the text and the line of every node. -/
def annotate (source : Source) (tree : Node) : Node :=
  tree.relabel source.annotateLabel

end Source

end WordGrid
