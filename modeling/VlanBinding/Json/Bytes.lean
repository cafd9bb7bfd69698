import VlanBinding.Json.Decoder

/-!
JSON in bytes. Bytes that are UTF-8 as a whole are read as the text that they are. In others a byte
that is part of no character is read like an escape of half of a pair: a string with it can be
passed over but gives no text, and outside of strings nothing can be read of it.
-/

namespace VlanBinding.Json

/-- The stand-in for a byte that is part of no character. The escape is half of a pair; the letter
in front of it keeps it apart from a first half, and ends an escape that the byte breaks off. -/
def strayByte : List Char := "x\\udc00".toList

/-- The characters of bytes from a place on, as many as `fuel` says. -/
def charsFrom (bytes : ByteArray) : Nat → Nat → List Char
  | 0, _ => []
  | fuel + 1, place =>
    if place < bytes.size then
      match bytes.utf8DecodeChar? place with
      | some c => c :: charsFrom bytes fuel (place + c.utf8Size)
      | none => strayByte ++ charsFrom bytes fuel (place + 1)
    else []

/-- The text to read for bytes. -/
def textOf (bytes : ByteArray) : String :=
  match String.fromUTF8? bytes with
  | some text => text
  | none => String.ofList (charsFrom bytes bytes.size 0)

/-- Decodes the value at the start of bytes, whatever comes behind it. -/
def decodeBytes {α : Type} (d : Decoder α) (bytes : ByteArray) : Except DecodeError α :=
  decodeHead d (textOf bytes)

theorem textOf_toUTF8 (text : String) : textOf text.toUTF8 = text := by
  have hvalid : String.fromUTF8? text.toUTF8 = some text := by
    rw [String.fromUTF8?, String.toUTF8_eq_toByteArray, dif_pos text.isValidUTF8]
    rfl
  rw [textOf, hvalid]

example : let bytes := "\"a".toUTF8 ++ ⟨#[0xff]⟩ ++ "\"".toUTF8
    ((decodeBytes Decoder.skip bytes).toOption, (decodeBytes .string bytes).toOption) =
      (some (), none) := by
  decide +kernel

end VlanBinding.Json
