/-!
# Decoding UTF-8

Bytes are decoded by a machine that reads one byte at a time. Between characters it looks at a
leading byte; inside a character it owes some continuation bytes and knows between which bounds
the next one lies. When a byte does not fit, what was read of the character becomes one
replacement character and the byte is looked at again between characters, so every longest prefix
of an encoded character that is not continued counts once.
-/

namespace WordGrid.Utf8

/-- The character that stands for bytes that encode none. -/
def replacement : Char := Char.ofNat 0xFFFD

/-- Where the machine stands: between characters, or owing `owed + 1` continuation bytes of which
the next lies from `low` to `high`, with `value` read so far. -/
inductive State where
  | start
  | inside (owed : Nat) (low high : UInt8) (value : Nat)

/-- Read a byte between characters: the characters it completes, and where the machine goes. -/
def lead (byte : UInt8) : List Char × State :=
  let code := byte.toNat
  if code < 0x80 then ([Char.ofNat code], .start)
  else if code < 0xC2 then ([replacement], .start)
  else if code < 0xE0 then ([], .inside 0 0x80 0xBF (code - 0xC0))
  else if code == 0xE0 then ([], .inside 1 0xA0 0xBF 0)
  else if code == 0xED then ([], .inside 1 0x80 0x9F 0xD)
  else if code < 0xF0 then ([], .inside 1 0x80 0xBF (code - 0xE0))
  else if code == 0xF0 then ([], .inside 2 0x90 0xBF 0)
  else if code < 0xF4 then ([], .inside 2 0x80 0xBF (code - 0xF0))
  else if code == 0xF4 then ([], .inside 2 0x80 0x8F 4)
  else ([replacement], .start)

/-- Read one byte: the characters it completes, and where the machine goes. -/
def step : State → UInt8 → List Char × State
  | .start, byte => lead byte
  | .inside owed low high value, byte =>
      if low ≤ byte && byte ≤ high then
        let value := value * 0x40 + (byte.toNat - 0x80)
        match owed with
        | 0 => ([Char.ofNat value], .start)
        | rest + 1 => ([], .inside rest 0x80 0xBF value)
      else
        let (chars, state) := lead byte
        (replacement :: chars, state)

/-- Decode bytes from a state on. A character cut off at the end is replaced. -/
def decodeFrom : State → List UInt8 → List Char
  | .start, [] => []
  | .inside .., [] => [replacement]
  | state, byte :: rest =>
      let (chars, next) := step state byte
      chars ++ decodeFrom next rest

/-- The text that bytes encode, with replacement characters where they encode none. -/
def decode (bytes : List UInt8) : String :=
  String.ofList (decodeFrom .start bytes)

/-- The bytes that encode a text. -/
def encode (text : String) : List UInt8 :=
  text.toList.flatMap String.utf8EncodeChar

end WordGrid.Utf8
