import WordGrid.Invalid
import WordGrid.Layout.EntityRows
import WordGrid.Node

/-!
# Failures

What can go wrong between a syntax tree and a grid. A drop concerns one declaration, which is left
out while the rest is summarised. A shape error or a layout error ends the whole summary.
-/

namespace WordGrid

/-- Why a declaration is dropped. -/
inductive DropReason where
  | unsupportedType
  | unsupportedRequirement
  | incompleteSource
  | unexpectedValue
  deriving DecidableEq, Repr

/-- The wording of a reason to drop. -/
def DropReason.message : DropReason → String
  | .unsupportedType => "unsupported type"
  | .unsupportedRequirement => "unsupported requirement"
  | .incompleteSource => "incomplete source"
  | .unexpectedValue => "unexpected value"

/-- A reason to drop a declaration, with the node that gives it if there is one. -/
structure Drop where
  reason : DropReason
  node : Option Node

/-- What can go wrong. -/
inductive Failure where
  | drop (cause : Drop)
  | shape (error : ShapeError)
  | layout (error : LayoutError)

namespace Failure

/-- The failure of a type that has no summary. -/
def unsupportedType (node : Node) : Failure :=
  .drop ⟨.unsupportedType, some node⟩

/-- The failure of a constraint that has no summary. -/
def unsupportedRequirement (node : Node) : Failure :=
  .drop ⟨.unsupportedRequirement, some node⟩

/-- The failure of a node that lacks a required part. -/
def incompleteSource (node : Option Node) : Failure :=
  .drop ⟨.incompleteSource, node⟩

/-- The failure of a node with a keyword that is not known. -/
def unexpectedValue (node : Node) : Failure :=
  .drop ⟨.unexpectedValue, some node⟩

/-- The wording of a failure. A shape error is reported as an invalid value. -/
def message : Failure → String
  | .drop cause => cause.reason.message
  | .shape error => (Invalid.whole error.message).message
  | .layout error => error.message

end Failure

end WordGrid
