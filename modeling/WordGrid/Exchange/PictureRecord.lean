import WordGrid.Json.Value
import WordGrid.Picture.Painting

/-!
# Picture records

A picture as a record: its size, its ground and its marks in the order in which they are drawn.
-/

namespace WordGrid

/-- Write natural numbers as an array. -/
def Json.ofNats (values : List Nat) : Json :=
  .array (values.map fun (value : Nat) => .integer value)

/-- Write a colour as its three strengths. -/
def Colour.toJson (colour : Colour) : Json :=
  Json.ofNats [colour.red, colour.green, colour.blue]

/-- Write a mark. -/
def Mark.toJson : Mark → Json
  | .text lines anchor font fontSize fill spacing =>
      .object [("text", .string ("\n".intercalate lines)),
        ("at32", Json.ofNats [anchor.1, anchor.2]), ("font", Json.ofString? font),
        ("font_size", .integer fontSize), ("fill", fill.toJson), ("spacing", .integer spacing)]
  | .tile path size corner =>
      .object [("tile", .string path), ("size", Json.ofNats [size, size]),
        ("at", Json.ofNats [corner.1, corner.2])]

/-- Write a picture. -/
def Picture.toJson (picture : Picture) : Json :=
  .object [("mode", .string "RGB"), ("size", Json.ofNats [picture.width, picture.height]),
    ("background", Json.ofNats [0, 0, 0]), ("calls", .array (picture.marks.map Mark.toJson))]

end WordGrid
