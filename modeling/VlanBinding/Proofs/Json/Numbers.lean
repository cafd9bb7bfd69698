import VlanBinding.Json.Printer
import VlanBinding.Json.Reader

/-!
Integers in JSON text. Main statement: an integer of 64 bits, signed or not, reads back from its
decimal digits, unless what follows goes on with the number.
-/

namespace VlanBinding.Json

open VlanBinding.Decimal

/-- The text does not go on with a number. -/
def Stops (rest : List Char) : Prop :=
  ∀ c ∈ rest.head?, c.isDigit = false ∧ c ≠ '.' ∧ c ≠ 'e' ∧ c ≠ 'E'

/-- The integer is one of 64 bits, signed or not. -/
def InRange (i : Int) : Prop := -twoTo 63 ≤ i ∧ i < twoTo 64

/-! ## Digits -/

theorem isDigit_of_mem_toDigits {n : Nat} {c : Char} (hc : c ∈ Nat.toDigits 10 n) :
    c.isDigit = true :=
  Nat.isDigit_of_mem_toDigits (by decide) (by decide) hc

/-- No digits but those of zero start with a zero. -/
theorem head?_toDigits {n : Nat} (hn : n ≠ 0) : (Nat.toDigits 10 n).head? ≠ some '0' := by
  induction n using Nat.strongRecOn with
  | ind n ih =>
      by_cases hsmall : n < 10
      · rw [Nat.toDigits_of_lt_base hsmall]
        have hall : ∀ n < 10, n ≠ 0 → [Nat.digitChar n].head? ≠ some '0' := by decide
        exact hall n hsmall hn
      · rw [Nat.toDigits_of_base_le (by decide) (by omega), List.head?_append]
        have hhead := ih (n / 10) (by omega) (by omega)
        cases hdigits : Nat.toDigits 10 (n / 10) with
        | nil => exact absurd hdigits Nat.toDigits_ne_nil
        | cons c rest => simpa [hdigits] using hhead

theorem digitsOf_append {digits rest : List Char} (hdigits : ∀ c ∈ digits, c.isDigit = true)
    (hrest : ∀ c ∈ rest.head?, c.isDigit = false) :
    digitsOf (digits ++ rest) = (digits, rest) := by
  rw [digitsOf, List.takeWhile_append_of_pos hdigits, List.dropWhile_append_of_pos hdigits]
  cases rest with
  | nil => simp
  | cons c rest =>
      have hc := hrest c rfl
      simp [hc]

theorem le_ofDigitChars (digits : List Char) (n : Nat) : n ≤ Nat.ofDigitChars 10 digits n := by
  induction digits generalizing n with
  | nil => simp
  | cons c rest ih =>
      rw [Nat.ofDigitChars_cons]
      exact Nat.le_trans (by omega) (ih _)

/-- Digits are taken up to the last one while the number they write is small enough. -/
theorem addDigits_eq {digits : List Char} {n : Nat}
    (h : Nat.ofDigitChars 10 digits n < twoTo 64) :
    addDigits n digits = (Nat.ofDigitChars 10 digits n, []) := by
  induction digits generalizing n with
  | nil => rw [addDigits, Nat.ofDigitChars_nil]
  | cons c rest ih =>
      rw [Nat.ofDigitChars_cons] at h ⊢
      have hnext := Nat.lt_of_le_of_lt (le_ofDigitChars rest _) h
      rw [addDigits]
      exact (if_pos hnext).trans (ih h)

/-! ## Integers -/

/-- The written form of an integer. -/
def integerText (i : Int) : NumberText := ⟨decide (i < 0), Nat.toDigits 10 i.natAbs, none, none⟩

theorem readFraction?_of_stops {rest : List Char} (hrest : Stops rest) :
    readFraction? rest = some (none, rest) := by
  cases rest with
  | nil => rfl
  | cons c rest =>
      obtain ⟨-, hpoint, -⟩ := hrest c rfl
      rw [readFraction?]
      rintro more ⟨⟩
      exact hpoint rfl

theorem readExponent?_of_stops {rest : List Char} (hrest : Stops rest) :
    readExponent? rest = some (none, rest) := by
  cases rest with
  | nil => rfl
  | cons c rest =>
      obtain ⟨-, -, hlower, hupper⟩ := hrest c rfl
      have hmark : ¬ (c = 'e' ∨ c = 'E') := fun h => h.elim hlower hupper
      simp only [readExponent?, if_neg hmark]

/-- A number behind its sign. -/
def readUnsigned? (negative : Bool) (cs : List Char) : Option (NumberText × List Char) :=
  match digitsOf cs with
  | ([], _) => none
  | ('0' :: _ :: _, _) => none
  | (whole, rest) =>
    match readFraction? rest with
    | none => none
    | some (fraction, rest) =>
      (readExponent? rest).map fun (exponent, rest) =>
        (⟨negative, whole, fraction, exponent⟩, rest)

theorem readNumber?_minus (cs : List Char) : readNumber? ('-' :: cs) = readUnsigned? true cs :=
  rfl

theorem readNumber?_of_ne_minus {c : Char} (hc : c ≠ '-') (cs : List Char) :
    readNumber? (c :: cs) = readUnsigned? false (c :: cs) := by
  unfold readNumber?
  split
  · rename_i hminus
    split at hminus
    · rename_i h
      exact absurd (List.cons.inj h).1 hc
    · obtain ⟨rfl, rfl⟩ := hminus
      rfl

theorem readUnsigned?_toDigits (negative : Bool) (n : Nat) {rest : List Char}
    (hrest : Stops rest) :
    readUnsigned? negative (Nat.toDigits 10 n ++ rest) =
      some (⟨negative, Nat.toDigits 10 n, none, none⟩, rest) := by
  have hdigits : digitsOf (Nat.toDigits 10 n ++ rest) = (Nat.toDigits 10 n, rest) :=
    digitsOf_append (fun c => isDigit_of_mem_toDigits) fun c hc => (hrest c hc).1
  rw [readUnsigned?, hdigits]
  split
  · rename_i hnone
    exact absurd (Prod.mk.inj hnone).1 Nat.toDigits_ne_nil
  · rename_i hzero
    by_cases hn : n = 0
    · subst hn
      cases (Prod.mk.inj hzero).1
    · have hhead := head?_toDigits hn
      rw [(Prod.mk.inj hzero).1] at hhead
      exact absurd rfl hhead
  · rename_i hwhole
    obtain ⟨rfl, rfl⟩ := Prod.mk.inj hwhole
    simp only [readFraction?_of_stops hrest, readExponent?_of_stops hrest, Option.map_some]

/-- An integer is read up to its last digit. -/
theorem readNumber?_integer (i : Int) {rest : List Char} (hrest : Stops rest) :
    readNumber? (integer i ++ rest) = some (integerText i, rest) := by
  rw [integer, integerText]
  by_cases hi : i < 0
  · rw [if_pos hi, decide_eq_true hi, ← readUnsigned?_toDigits true _ hrest]
    exact readNumber?_minus _
  · rw [if_neg hi, decide_eq_false hi, ← readUnsigned?_toDigits false _ hrest, List.nil_append]
    cases hdigits : Nat.toDigits 10 i.natAbs with
    | nil => exact absurd hdigits Nat.toDigits_ne_nil
    | cons c digits =>
        refine readNumber?_of_ne_minus ?_ _
        have hc : c.isDigit = true := isDigit_of_mem_toDigits (hdigits ▸ List.mem_cons_self)
        rintro rfl
        cases hc

/-- An integer of 64 bits is the number that its digits write. -/
theorem value?_integerText {i : Int} (hi : InRange i) : (integerText i).value? = some (.int i) := by
  have hback : Nat.ofDigitChars 10 (Nat.toDigits 10 i.natAbs) 0 = i.natAbs :=
    Nat.ofDigitChars_toDigits (by decide) (by decide)
  obtain ⟨hlow, hhigh⟩ := hi
  have hwider : twoTo 63 < twoTo 64 := by decide
  have hadd : addDigits 0 (Nat.toDigits 10 i.natAbs) = (i.natAbs, []) := by
    rw [addDigits_eq (by rw [hback]; omega), hback]
  rw [NumberText.value?, integerText]
  simp only [hadd]
  by_cases hnegative : i < 0
  · have hfits : ¬ (i.natAbs = 0 ∨ twoTo 63 < i.natAbs) := by
      rintro (h | h) <;> omega
    have habs : -(i.natAbs : Int) = i := by omega
    rw [if_neg hfits, decide_eq_true hnegative, habs]
    rfl
  · have habs : (i.natAbs : Int) = i := by omega
    rw [decide_eq_false hnegative, habs]
    rfl

/-- An integer starts with its sign or with a digit. -/
theorem integer_eq_cons (i : Int) :
    ∃ c cs, integer i = c :: cs ∧ (c = '-' ∨ c.isDigit = true) := by
  rw [integer]
  split
  · exact ⟨'-', _, rfl, Or.inl rfl⟩
  · cases hdigits : Nat.toDigits 10 i.natAbs with
    | nil => exact absurd hdigits Nat.toDigits_ne_nil
    | cons c digits =>
        exact ⟨c, digits, rfl, Or.inr (isDigit_of_mem_toDigits (hdigits ▸ List.mem_cons_self))⟩

theorem ne_of_starts {c x : Char} (hc : c = '-' ∨ c.isDigit = true)
    (hx : x ≠ '-' ∧ x.isDigit = false) : c ≠ x := by
  rintro rfl
  rcases hc with rfl | hc
  · exact hx.1 rfl
  · simp [hx.2] at hc

theorem not_isBlank_of_starts {c : Char} (hc : c = '-' ∨ c.isDigit = true) :
    isBlank c = false := by
  simp [isBlank, ne_of_starts hc (x := ' ') (by decide), ne_of_starts hc (x := '\n') (by decide),
    ne_of_starts hc (x := '\t') (by decide), ne_of_starts hc (x := '\r') (by decide)]

end VlanBinding.Json
