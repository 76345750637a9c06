import WordGrid.Grammar.Declaration
import WordGrid.Predicate

/-!
# Modifiers

The modifiers of a declaration become descriptors. Mutating is something that a function can do
and not a descriptor of it. Modifiers that are not listed are ignored.
-/

namespace WordGrid

/-- The descriptor of a modifier. -/
def Descriptor.ofModifier? : String → Option Descriptor
  | "open" => some ⟨"OPEN"⟩
  | "public" => some ⟨"PUBLIC"⟩
  | "internal" => some ⟨"INTERN"⟩
  | "fileprivate" => some ⟨"FILE"⟩
  | "private" => some ⟨"PRIVAT"⟩
  | "class" => some ⟨"CLASS"⟩
  | "convenience" => some ⟨"CONV"⟩
  | "final" => some ⟨"FINAL"⟩
  | "indirect" => some ⟨"INDIRECT"⟩
  | "lazy" => some ⟨"LAZY"⟩
  | "override" => some ⟨"OVER"⟩
  | "static" => some ⟨"STATIC"⟩
  | _ => none

/-- The descriptor of a way to pass errors on. -/
def Throwing.descriptor : Throwing → Descriptor
  | .throws => ⟨"THROW"⟩
  | .rethrows => ⟨"RETHROW"⟩

/-- The descriptor of a way to fail. -/
def Failability.descriptor : Failability → Descriptor
  | .optional => ⟨"FAIL"⟩
  | .forced => ⟨"FAIL!"⟩

namespace Node

/-- The descriptors of a declaration's modifiers, in order. -/
def descriptors (node : Node) : List Descriptor :=
  node.modifierKeywords.filterMap Descriptor.ofModifier?

/-- Is the declaration marked as mutating? -/
def isMutating (node : Node) : Bool :=
  node.modifierKeywords.contains "mutating"

end Node

end WordGrid
