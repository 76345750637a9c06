import Mathlib.Tactic.IntervalCases
import WordGrid.Proofs.Relabelling
import WordGrid.Source

/-!
# Trees that are spelled out

A tree is spelled out when the text of every node with children is the text of its children one
after the other. Such a tree is what the source of its text gives for some spans: a source can be
written for it. Read `Node.Spelled.relabel_annotate_spread` first. Texts are written in UTF-8, and
`Utf8.decode_encode` says that they are read back.
-/

namespace WordGrid

/-! ## Reading encoded characters back -/

namespace Utf8

/-- A byte below 256 is the number it is made from. -/
theorem toNat_ofNat_of_lt {code : Nat} (h : code < 256) : (UInt8.ofNat code).toNat = code := by
  rw [UInt8.toNat_ofNat', Nat.mod_eq_of_lt h]

/-- A continuation byte within the bounds adds six bits. -/
theorem step_inside {owed value digit : Nat} {low high : UInt8} (hdigit : digit < 64)
    (hlow : low.toNat ≤ digit + 128) (hhigh : digit + 128 ≤ high.toNat) :
    step (.inside owed low high value) (UInt8.ofNat (digit + 128)) =
      match owed with
      | 0 => ([Char.ofNat (value * 64 + digit)], .start)
      | rest + 1 => ([], .inside rest 0x80 0xBF (value * 64 + digit)) := by
  have hcode : (UInt8.ofNat (digit + 128)).toNat = digit + 128 := toNat_ofNat_of_lt (by omega)
  have hfits : (low ≤ UInt8.ofNat (digit + 128) && UInt8.ofNat (digit + 128) ≤ high) = true := by
    simp only [UInt8.le_iff_toNat_le, hcode, hlow, hhigh, decide_true, Bool.and_true]
  cases owed <;> simp only [step, hfits, hcode, if_true, Nat.add_sub_cancel]

/-- A continuation byte is not too low. -/
theorem continued_low {digit : Nat} : (0x80 : UInt8).toNat ≤ digit % 64 + 128 := by
  show 128 ≤ _
  omega

/-- A continuation byte is not too high. -/
theorem continued_high {digit : Nat} : digit % 64 + 128 ≤ (0xBF : UInt8).toNat := by
  show _ ≤ 191
  omega

/-- The last byte of a character completes it. -/
theorem decodeFrom_last {value digit : Nat} {low high : UInt8} (hdigit : digit < 64)
    (hlow : low.toNat ≤ digit + 128) (hhigh : digit + 128 ≤ high.toNat) (rest : List UInt8) :
    decodeFrom (.inside 0 low high value) (UInt8.ofNat (digit + 128) :: rest) =
      Char.ofNat (value * 64 + digit) :: decodeFrom .start rest := by
  rw [decodeFrom, step_inside hdigit hlow hhigh]
  rfl

/-- A byte in the middle of a character takes the machine further. -/
theorem decodeFrom_inside {owed value digit : Nat} {low high : UInt8} (hdigit : digit < 64)
    (hlow : low.toNat ≤ digit + 128) (hhigh : digit + 128 ≤ high.toNat) (rest : List UInt8) :
    decodeFrom (.inside (owed + 1) low high value) (UInt8.ofNat (digit + 128) :: rest) =
      decodeFrom (.inside owed 0x80 0xBF (value * 64 + digit)) rest := by
  rw [decodeFrom, step_inside hdigit hlow hhigh]
  rfl

/-- The leading byte of a character of two bytes. -/
theorem decodeFrom_two {bits : Nat} (hlow : 2 ≤ bits) (hhigh : bits < 32) (rest : List UInt8) :
    decodeFrom .start (UInt8.ofNat (bits + 192) :: rest) =
      decodeFrom (.inside 0 0x80 0xBF bits) rest := by
  interval_cases bits <;> rfl

/-- The leading byte of a character of three bytes. Two such bytes narrow the byte that follows. -/
theorem decodeFrom_three {bits : Nat} (h : bits < 16) (rest : List UInt8) :
    decodeFrom .start (UInt8.ofNat (bits + 224) :: rest) =
      decodeFrom
        (.inside 1 (if bits = 0 then 0xA0 else 0x80) (if bits = 13 then 0x9F else 0xBF) bits)
        rest := by
  interval_cases bits <;> rfl

/-- The leading byte of a character of four bytes. Two such bytes narrow the byte that follows. -/
theorem decodeFrom_four {bits : Nat} (h : bits < 5) (rest : List UInt8) :
    decodeFrom .start (UInt8.ofNat (bits + 240) :: rest) =
      decodeFrom
        (.inside 2 (if bits = 0 then 0x90 else 0x80) (if bits = 4 then 0x8F else 0xBF) bits)
        rest := by
  interval_cases bits <;> rfl

/-- A character of three bytes is read back. The bounds of the second byte keep out surrogates and
values that need fewer bytes. -/
theorem decodeFrom_threeBytes {code : Nat} (hlow : 0x800 ≤ code) (hhigh : code < 0x10000)
    (hvalid : code < 0xD800 ∨ 0xDFFF < code) (rest : List UInt8) :
    decodeFrom .start
        (UInt8.ofNat (code / 4096 % 16 + 224) :: UInt8.ofNat (code / 64 % 64 + 128) ::
          UInt8.ofNat (code % 64 + 128) :: rest) =
      Char.ofNat code :: decodeFrom .start rest := by
  have hleast : (if code / 4096 % 16 = 0 then (0xA0 : UInt8) else 0x80).toNat ≤
      code / 64 % 64 + 128 := by
    split
    · show 160 ≤ _
      omega
    · show 128 ≤ _
      omega
  have hgreatest : code / 64 % 64 + 128 ≤
      (if code / 4096 % 16 = 13 then (0x9F : UInt8) else 0xBF).toNat := by
    split
    · show _ ≤ 159
      omega
    · show _ ≤ 191
      omega
  have hcode : (code / 4096 % 16 * 64 + code / 64 % 64) * 64 + code % 64 = code := by omega
  rw [decodeFrom_three (by omega), decodeFrom_inside (by omega) hleast hgreatest,
    decodeFrom_last (by omega) continued_low continued_high, hcode]

/-- A character of four bytes is read back. The bounds of the second byte keep out values that need
fewer bytes and values that are no characters. -/
theorem decodeFrom_fourBytes {code : Nat} (hlow : 0x10000 ≤ code) (hhigh : code < 0x110000)
    (rest : List UInt8) :
    decodeFrom .start
        (UInt8.ofNat (code / 262144 % 8 + 240) :: UInt8.ofNat (code / 4096 % 64 + 128) ::
          UInt8.ofNat (code / 64 % 64 + 128) :: UInt8.ofNat (code % 64 + 128) :: rest) =
      Char.ofNat code :: decodeFrom .start rest := by
  have hleast : (if code / 262144 % 8 = 0 then (0x90 : UInt8) else 0x80).toNat ≤
      code / 4096 % 64 + 128 := by
    split
    · show 144 ≤ _
      omega
    · show 128 ≤ _
      omega
  have hgreatest : code / 4096 % 64 + 128 ≤
      (if code / 262144 % 8 = 4 then (0x8F : UInt8) else 0xBF).toNat := by
    split
    · show _ ≤ 143
      omega
    · show _ ≤ 191
      omega
  have hcode : ((code / 262144 % 8 * 64 + code / 4096 % 64) * 64 + code / 64 % 64) * 64 +
      code % 64 = code := by omega
  rw [decodeFrom_four (by omega), decodeFrom_inside (by omega) hleast hgreatest,
    decodeFrom_inside (by omega) continued_low continued_high,
    decodeFrom_last (by omega) continued_low continued_high, hcode]

/-- The bytes of a character are read back, whatever follows them. -/
theorem decodeFrom_encodeChar (char : Char) (rest : List UInt8) :
    decodeFrom .start (String.utf8EncodeChar char ++ rest) = char :: decodeFrom .start rest := by
  have hvalid : char.val.toNat < 0xD800 ∨ 0xDFFF < char.val.toNat ∧ char.val.toNat < 0x110000 :=
    char.valid
  have hread : Char.ofNat char.val.toNat = char := char.ofNat_toNat
  rw [String.utf8EncodeChar]
  generalize char.val.toNat = code at hvalid hread ⊢
  -- The cases are the four lengths.
  split
  · have hcode : (UInt8.ofNat code).toNat = code := toNat_ofNat_of_lt (by omega)
    rw [List.singleton_append, decodeFrom, step, lead, hcode, if_pos (by omega), hread]
    rfl
  · split
    · have hcode : code / 64 % 32 * 64 + code % 64 = code := by omega
      simp only [List.cons_append, List.nil_append]
      rw [decodeFrom_two (by omega) (by omega),
        decodeFrom_last (by omega) continued_low continued_high, hcode, hread]
    · split
      · simp only [List.cons_append, List.nil_append]
        rw [decodeFrom_threeBytes (by omega) (by omega) (by omega), hread]
      · simp only [List.cons_append, List.nil_append]
        rw [decodeFrom_fourBytes (by omega) (by omega), hread]

/-- A text is read back from its bytes. -/
theorem decode_encode (text : String) : decode (encode text) = text := by
  have hchars (chars : List Char) :
      decodeFrom .start (chars.flatMap String.utf8EncodeChar) = chars := by
    induction chars with
    | nil => rfl
    | cons char rest ih => rw [List.flatMap_cons, decodeFrom_encodeChar, ih]
  rw [decode, encode, hchars, String.ofList_toList]

/-- The bytes of texts in a row. -/
theorem encode_join (texts : List String) : encode (String.join texts) = texts.flatMap encode := by
  rw [encode, String.toList_join, List.flatMap_assoc]
  rfl

end Utf8

/-! ## Writing a source for a tree -/

/-- A label without its place in a source. -/
def Label.unplaced (label : Label) : Label :=
  { label with span := ⟨0, 0⟩, line := 1 }

/-- Readers do not look at the place of a node. -/
theorem Label.unplaced_keeps : Label.Keeps Label.unplaced :=
  ⟨fun _ => rfl, fun _ => rfl, fun _ => rfl, fun _ => rfl⟩

namespace Node

/-- A tree in which the text of a node with children is that of its children one after the
other. -/
inductive Spelled : Node → Prop
  | leaf (label : Label) : Spelled ⟨label, []⟩
  | branch {label : Label} {children : List Node} (hchildren : ∀ child ∈ children, child.Spelled)
      (htext : label.text = String.join (children.map text)) : Spelled ⟨label, children⟩

mutual

/-- A tree with spans for its texts, from a position of the source on. -/
def spread (start : Nat) : Node → Node
  | ⟨label, children⟩ =>
      ⟨{ label with span := ⟨start, start + (Utf8.encode label.text).length⟩ },
        spreadAll start children⟩

/-- Trees with spans for their texts, one after the other. -/
def spreadAll (start : Nat) : List Node → List Node
  | [] => []
  | node :: rest =>
      node.spread start :: spreadAll (start + (Utf8.encode node.text).length) rest

end

/-- What a list has after a prefix is found further on. -/
theorem prefix_drop_add {first second bytes : List UInt8} {start : Nat}
    (h : first ++ second <+: bytes.drop start) : second <+: bytes.drop (start + first.length) := by
  obtain ⟨rest, hrest⟩ := h
  rw [← List.drop_drop, ← hrest, List.append_assoc, List.drop_left]
  exact List.prefix_append _ _

/-- A label with a span for its text gets that text from a source that has it there. -/
theorem annotateLabel_unplaced {source : Source} {label : Label} {start : Nat}
    (h : Utf8.encode label.text <+: source.bytes.drop start) :
    (source.annotateLabel
      { label with span := ⟨start, start + (Utf8.encode label.text).length⟩ }).unplaced =
      label.unplaced := by
  have hslice : source.slice ⟨start, start + (Utf8.encode label.text).length⟩ =
      Utf8.encode label.text := by
    rw [Source.slice, Nat.add_sub_cancel_left, ← List.prefix_iff_eq_take.mp h]
  rw [Source.annotateLabel, Source.text, hslice, Utf8.decode_encode]
  rfl

/-- A source gives a tree that is spelled out its texts, if it has the text of the root at some
position and the spans of the tree start there. -/
theorem Spelled.relabel_annotate_spread {source : Source} {node : Node} (h : node.Spelled)
    {start : Nat} (hbytes : Utf8.encode node.text <+: source.bytes.drop start) :
    (source.annotate (node.spread start)).relabel Label.unplaced =
      node.relabel Label.unplaced := by
  induction h generalizing start with
  | leaf label =>
      rw [spread, Source.annotate, relabel, relabel, annotateLabel_unplaced hbytes]
      rfl
  | @branch label children _ htext ih =>
      -- The text of the root is cut at the ends of its children.
      have hchildren (nodes : List Node) (position : Nat)
          (hmem : ∀ node ∈ nodes, node ∈ children)
          (htexts : (nodes.map text).flatMap Utf8.encode <+: source.bytes.drop position) :
          relabelAll Label.unplaced
              (relabelAll source.annotateLabel (spreadAll position nodes)) =
            relabelAll Label.unplaced nodes := by
        induction nodes generalizing position with
        | nil => rfl
        | cons node rest ihrest =>
            obtain ⟨hnode, hrest⟩ := List.forall_mem_cons.mp hmem
            rw [List.map_cons, List.flatMap_cons] at htexts
            have hfirst := (List.prefix_append _ _).trans htexts
            have hafter := prefix_drop_add htexts
            have hhead : ((node.spread position).relabel source.annotateLabel).relabel
                Label.unplaced = node.relabel Label.unplaced := ih node hnode hfirst
            rw [spreadAll, relabelAll, relabelAll, relabelAll, hhead, ihrest _ hrest hafter]
      rw [spread, Source.annotate, relabel, relabel, annotateLabel_unplaced hbytes, relabel,
        hchildren children start (fun _ hmem => hmem)]
      rw [← Utf8.encode_join, ← htext]
      exact hbytes

/-- A source can be written for every tree that is spelled out. -/
theorem Spelled.exists_source {node : Node} (h : node.Spelled) :
    ∃ (source : Source) (tree : Node),
      (source.annotate tree).relabel Label.unplaced = node.relabel Label.unplaced :=
  ⟨⟨Utf8.encode node.text⟩, node.spread 0, h.relabel_annotate_spread (by simp)⟩

end Node

end WordGrid
