/-!
Hexadecimal digits. Main statement: a digit reads back, in either case of letters.
-/

namespace VlanBinding.Text

/-- The value of a hexadecimal digit of either case. -/
def hexValue? (c : Char) : Option Nat :=
  if '0' ≤ c ∧ c ≤ '9' then some (c.toNat - 48)
  else if 'a' ≤ c ∧ c ≤ 'f' then some (c.toNat - 87)
  else if 'A' ≤ c ∧ c ≤ 'F' then some (c.toNat - 55)
  else none

/-- The digit of a value below sixteen, with letters in lower case. -/
def hexDigit (n : Nat) : Char := Nat.digitChar n

/-- The digit of a value below sixteen, with letters in upper case. -/
def hexDigitUpper (n : Nat) : Char :=
  if n < 10 then Char.ofNat (48 + n) else Char.ofNat (55 + n)

theorem hexValue?_hexDigit : ∀ n < 16, hexValue? (hexDigit n) = some n := by
  decide

theorem hexValue?_hexDigitUpper : ∀ n < 16, hexValue? (hexDigitUpper n) = some n := by
  decide

/-- Four digits, the most significant first. -/
def hex4 (n : Nat) : List Char :=
  [hexDigit (n / 4096 % 16), hexDigit (n / 256 % 16), hexDigit (n / 16 % 16),
    hexDigit (n % 16)]

/-- The number that a run of digits writes, or `none` if one is no digit. -/
def hexNumber? (digits : List Char) : Option Nat :=
  digits.foldlM (fun n c => (hexValue? c).map (16 * n + ·)) 0

theorem hexNumber?_hex4 (n : Nat) (h : n < 65536) : hexNumber? (hex4 n) = some n := by
  have h1 := hexValue?_hexDigit (n / 4096 % 16) (by omega)
  have h2 := hexValue?_hexDigit (n / 256 % 16) (by omega)
  have h3 := hexValue?_hexDigit (n / 16 % 16) (by omega)
  have h4 := hexValue?_hexDigit (n % 16) (by omega)
  simp [hexNumber?, hex4, h1, h2, h3, h4]
  omega

end VlanBinding.Text
