import WordGrid.Picture.Checksum
import WordGrid.Text.Utf8

/-!
# Colours

The colour of a text is pale and its hue depends on the text alone, so equal texts have equal
colours.
-/

namespace WordGrid

/-- A colour by the strengths of red, green and blue, each up to 255. -/
structure Colour where
  red : Nat
  green : Nat
  blue : Nat
  deriving DecidableEq, Repr

namespace Colour

/-- A strength between zero and one in steps of 1/255, cut off. -/
def strength (value : Float) : Nat :=
  (value * 255).toUInt8.toNat

/-- The colour of a hue between zero and one at a saturation and full value. Each sixth of the
circle of hues raises or lowers one of the three strengths. -/
def ofHue (hue saturation : Float) : Colour :=
  let sixths := hue * 6.0
  let sector := sixths.floor
  let fraction := sixths - sector
  let full := strength 1.0
  let low := strength (1.0 - saturation)
  let falling := strength (1.0 - saturation * fraction)
  let rising := strength (1.0 - saturation * (1.0 - fraction))
  match sector.toUInt8 with
  | 0 => ⟨full, rising, low⟩
  | 1 => ⟨falling, full, low⟩
  | 2 => ⟨low, full, rising⟩
  | 3 => ⟨low, falling, full⟩
  | 4 => ⟨rising, low, full⟩
  | _ => ⟨full, low, falling⟩

/-- The colour of a text. Its checksum gives the hue. -/
def ofText (text : String) : Colour :=
  let checksum := Checksum.crc32 (Utf8.encode text)
  ofHue (checksum.toNat.toFloat / 4294967296.0) 0.2

end Colour

end WordGrid
