import WordGrid.Json.Reader
import WordGrid.Outline.Document

/-!
# Tree records

A syntax tree as a record: the type of a node in `t`, its span in `s` and `e`, its children in `c`,
the roles of children in `f`, and flags that are set for a token, a missing node and a node with
errors inside. The source stands beside the tree as text or as bytes in hexadecimal.
-/

namespace WordGrid

/-- Read the label of a node from the fields of its record. -/
def Label.ofRecord? (record : Json) : Option Label := do
  let kind ← (← record.field? "t").string?
  let start ← (← record.field? "s").natural?
  let stop ← (← record.field? "e").natural?
  let flag := fun name => ((record.field? name).getD .null).isSet
  let roles := ((record.field? "f").getD .null).fields.map fun (role, positions) =>
    (role, positions.items.filterMap Json.natural?)
  return {
    kind, span := ⟨start, stop⟩, named := !flag "a", missing := flag "m", hasError := flag "err"
    fields := roles }

namespace Node

mutual

/-- Read a node from its record. -/
def ofJson? : Json → Option Node
  | .object fields => do
      let label ← Label.ofRecord? (.object fields)
      let children ← childrenOfFields? fields
      return ⟨label, children⟩
  | _ => none

/-- Read the children of a node from the fields of its record. -/
def childrenOfFields? : List (String × Json) → Option (List Node)
  | [] => some []
  | (field, value) :: rest =>
      if field == "c" then
        match value with
        | .array items => ofItems? items
        | _ => some []
      else childrenOfFields? rest

/-- Read nodes from left to right. -/
def ofItems? : List Json → Option (List Node)
  | [] => some []
  | item :: rest => do
      let node ← ofJson? item
      let nodes ← ofItems? rest
      return node :: nodes

end

/-- How a node is referred to: its kind and its span. -/
def reference (node : Node) : Json :=
  .array [.string node.kind, .integer node.span.start, .integer node.span.stop]

end Node

/-- The bytes that pairs of hexadecimal digits spell. -/
def Source.bytesOfHex? : List Char → Option (List UInt8)
  | [] => some []
  | high :: low :: rest => do
      let byte := (← Json.hexValue? high) * 16 + (← Json.hexValue? low)
      return UInt8.ofNat byte :: (← bytesOfHex? rest)
  | [_] => none

/-- Read the source that stands beside a tree. -/
def Source.ofRecord? (record : Json) : Option Source :=
  match record.field? "source", record.field? "source_hex" with
  | some (.string text), _ => some (.ofString text)
  | _, some (.string hex) => (bytesOfHex? hex.toList).map Source.mk
  | _, _ => none

/-- Read a document: a source with its tree. -/
def Document.ofRecord? (record : Json) : Option Document := do
  let source ← Source.ofRecord? record
  let tree ← Node.ofJson? (← record.field? "tree")
  return ⟨source, tree⟩

end WordGrid
