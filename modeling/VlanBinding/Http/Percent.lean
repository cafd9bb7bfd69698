import VlanBinding.Text.Hex

/-!
Percent-encoding: a byte of UTF-8 is written as a percent sign and two hexadecimal digits. Main
statements: bytes so written read back, and so do characters, whichever of them are left as they
are.
-/

namespace VlanBinding.Http.Percent

open VlanBinding.Text

def encodeByte (b : UInt8) : List Char :=
  ['%', hexDigitUpper (b.toNat / 16), hexDigitUpper (b.toNat % 16)]

/-- Writes every byte of a character that is not to be kept. -/
def encodeChar (keep : Char → Bool) (c : Char) : List Char :=
  if keep c then [c] else (String.utf8EncodeChar c).flatMap encodeByte

def encode (keep : Char → Bool) (cs : List Char) : List Char := cs.flatMap (encodeChar keep)

/-- The byte that two digits write. -/
def byte? (high low : Char) : Option UInt8 :=
  match hexValue? high, hexValue? low with
  | some h, some l => some (UInt8.ofNat (16 * h + l))
  | _, _ => none

/-- The bytes that a text stands for. A percent sign without two digits behind it stands for
itself. -/
def decode : List Char → List UInt8
  | [] => []
  | '%' :: h :: l :: rest =>
    match byte? h l with
    | some b => b :: decode rest
    | none => String.utf8EncodeChar '%' ++ decode (h :: l :: rest)
  | c :: rest => String.utf8EncodeChar c ++ decode rest

/-- The text that percent-encoded text stands for, if its bytes are UTF-8. -/
def decodeText? (cs : List Char) : Option String := String.fromUTF8? ⟨(decode cs).toArray⟩

theorem byte?_encode (b : UInt8) :
    byte? (hexDigitUpper (b.toNat / 16)) (hexDigitUpper (b.toNat % 16)) = some b := by
  have hb : b.toNat < 256 := b.toNat_lt
  rw [byte?, hexValue?_hexDigitUpper _ (by omega), hexValue?_hexDigitUpper _ (by omega)]
  simp [Nat.div_add_mod]

theorem decode_encodeByte (b : UInt8) (rest : List Char) :
    decode (encodeByte b ++ rest) = b :: decode rest := by
  simp [encodeByte, decode, byte?_encode]

theorem decode_flatMap_encodeByte (bytes : List UInt8) (rest : List Char) :
    decode (bytes.flatMap encodeByte ++ rest) = bytes ++ decode rest := by
  induction bytes with
  | nil => rfl
  | cons b bytes ih => simp [decode_encodeByte, ih]

theorem decode_of_ne {c : Char} (h : c ≠ '%') (rest : List Char) :
    decode (c :: rest) = String.utf8EncodeChar c ++ decode rest := by
  rw [decode]
  intro _ _ _ hc
  exact absurd hc h

/-- What is written reads back, as long as percent signs are not left as they are. -/
theorem decode_encode (keep : Char → Bool) (h : keep '%' = false) (cs rest : List Char) :
    decode (encode keep cs ++ rest) = cs.flatMap String.utf8EncodeChar ++ decode rest := by
  induction cs with
  | nil => rfl
  | cons c cs ih =>
    rw [encode] at ih ⊢
    simp only [List.flatMap_cons, List.append_assoc]
    by_cases hk : keep c = true
    · have hc : c ≠ '%' := fun hc => by simp [hc, h] at hk
      simp only [encodeChar, hk, ↓reduceIte]
      rw [List.singleton_append, decode_of_ne hc, ih]
    · simp only [encodeChar, hk, Bool.false_eq_true, ↓reduceIte]
      rw [decode_flatMap_encodeByte, ih]

end VlanBinding.Http.Percent
