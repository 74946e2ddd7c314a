/-
This file reads bytes as UTF-8 in two ways: strictly, where ill-formed bytes have no
text, and leniently, where every maximal ill-formed part becomes one `U+FFFD`.
-/

namespace TableGateway.Text

/-- The text that the bytes encode, if they are well-formed UTF-8. -/
def decode? (octets : ByteArray) : Option String :=
  String.fromUTF8? octets

/-- The bytes of a text. -/
def encode (text : String) : ByteArray :=
  text.toUTF8

theorem decode?_encode (text : String) : decode? (encode text) = some text := by
  simp only [decode?, encode, String.fromUTF8?, String.toUTF8_eq_toByteArray,
    dif_pos text.isValidUTF8]
  rfl

/-! ### Lenient reading -/

/-- What a lead byte promises: how many continuation bytes follow, and the bounds of the first. -/
structure Lead where
  following : Nat
  low : Nat
  high : Nat

/-- The promise of a lead byte above `0x7F`; other bytes lead nothing. -/
def lead? (byte : Nat) : Option Lead :=
  if 0xC2 ≤ byte && byte ≤ 0xDF then some ⟨1, 0x80, 0xBF⟩
  else if byte == 0xE0 then some ⟨2, 0xA0, 0xBF⟩
  else if byte == 0xED then some ⟨2, 0x80, 0x9F⟩
  else if 0xE1 ≤ byte && byte ≤ 0xEF then some ⟨2, 0x80, 0xBF⟩
  else if byte == 0xF0 then some ⟨3, 0x90, 0xBF⟩
  else if byte == 0xF4 then some ⟨3, 0x80, 0x8F⟩
  else if 0xF1 ≤ byte && byte ≤ 0xF3 then some ⟨3, 0x80, 0xBF⟩
  else none

/-- The continuation bytes that a lead byte gets: their six-bit groups, at most as many as it
promised, and only up to the first byte out of bounds. -/
def continuation : Nat → Nat → Nat → List Nat → List Nat
  | 0, _, _, _ => []
  | _ + 1, _, _, [] => []
  | count + 1, low, high, byte :: rest =>
    if low ≤ byte && byte ≤ high then byte :: continuation count 0x80 0xBF rest else []

/-- One step of lenient reading: the character and how many bytes after the first it takes. -/
def decodeStep (byte : Nat) (rest : List Nat) : Char × Nat :=
  if byte < 0x80 then (Char.ofNat byte, 0)
  else match lead? byte with
    | none => ('\uFFFD', 0)
    | some lead =>
      let groups := continuation lead.following lead.low lead.high rest
      if groups.length == lead.following then
        let start := if lead.following == 1 then byte - 0xC0
          else if lead.following == 2 then byte - 0xE0 else byte - 0xF0
        (Char.ofNat (groups.foldl (fun code group => code * 64 + (group - 0x80)) start),
          groups.length)
      else ('\uFFFD', groups.length)

/-- Lenient reading of a list of byte values. -/
def decodeBytes (bytes : List Nat) : List Char :=
  match bytes with
  | [] => []
  | byte :: rest =>
    let (character, taken) := decodeStep byte rest
    character :: decodeBytes (rest.drop taken)
termination_by bytes.length
decreasing_by
  rw [List.length_drop, List.length_cons]
  omega

/-- The text of the bytes, with `U+FFFD` for every maximal ill-formed part. -/
def decodeLenient (octets : ByteArray) : String :=
  match decode? octets with
  | some text => text
  | none => String.ofList (decodeBytes (octets.data.toList.map UInt8.toNat))

theorem decodeLenient_encode (text : String) : decodeLenient (encode text) = text := by
  unfold decodeLenient
  rw [decode?_encode]

end TableGateway.Text
