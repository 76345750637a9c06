import WordGrid.Text.UpperTable

/-!
# Upper case

The upper case of a text is the upper case of its characters in order. A character may become up
to three, as the sharp s becomes two.
-/

namespace WordGrid.Text

/-- The upper case of one character. A character without one stays as it is. -/
def upperChar (c : Char) : List Char :=
  if c.toNat < 0x80 then [c.toUpper]
  else
    match capitalRuns.find? (·.contains c.toNat) with
    | some run => [Char.ofNat (c.toNat + run.shift).toNat]
    | none =>
        match longCapitals.lookup c.toNat with
        | some codes => codes.map Char.ofNat
        | none => [c]

/-- A text in upper case. -/
def upper (text : String) : String :=
  String.ofList (text.toList.flatMap upperChar)

/-- A text with the letters A to Z in lower case. The names it is compared with are spelled in
ASCII, and no other character has a lower case among their letters. -/
def lowerAscii (text : String) : String :=
  String.ofList (text.toList.map Char.toLower)

end WordGrid.Text
