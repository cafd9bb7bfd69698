import VlanBinding.Json.Bytes
import VlanBinding.Json.Printer

/-!
Strings in JSON text. Main statements: a string that is written in quotes reads back, whatever
characters it holds and whether or not those beyond ASCII are escaped; and if they are, then all
that is written is ASCII. A string with a byte that is part of no character gives no text.
-/

namespace VlanBinding.Json

open VlanBinding.Text

/-! ## Code units -/

theorem unitValue?_hex4 {n : Nat} (hn : n < 0x10000) (rest : List Char) :
    unitValue? (hex4 n ++ rest) = some (n, rest) := by
  have hdigits : unitValue? (hex4 n ++ rest) = (hexNumber? (hex4 n)).map (·, rest) := rfl
  rw [hdigits, hexNumber?_hex4 n hn, Option.map_some]

/-- No character is numbered like half of a pair. -/
theorem lt_or_le_of_char (c : Char) : c.toNat < 0xD800 ∨ 0xE000 ≤ c.toNat := by
  have hvalid : c.toNat.isValidChar := c.valid
  rcases hvalid with h | h
  · exact Or.inl h
  · exact Or.inr (by omega)

theorem toNat_lt (c : Char) : c.toNat < 0x110000 := by
  have hvalid : c.toNat.isValidChar := c.valid
  rcases hvalid with h | h <;> omega

/-- A character of one unit reads back from its escape. -/
theorem readEscape?_unit {c : Char} (hc : c.toNat < 0x10000) (rest : List Char) :
    readEscape? ('u' :: (hex4 c.toNat ++ rest)) = some (.char c, rest) := by
  have hhalf := lt_or_le_of_char c
  have hsecond : ¬ (0xDC00 ≤ c.toNat ∧ c.toNat < 0xE000) := by omega
  have hfirst : ¬ (0xD800 ≤ c.toNat ∧ c.toNat < 0xDC00) := by omega
  rw [readEscape?, unitValue?_hex4 hc]
  simp only [if_neg hsecond, if_neg hfirst, Char.ofNat_toNat]

/-- A character of two units reads back from the escapes of both. -/
theorem readEscape?_pair {c : Char} (hc : 0x10000 ≤ c.toNat) (rest : List Char) :
    readEscape? ('u' :: (hex4 (0xD800 + (c.toNat - 0x10000) / 0x400) ++
      '\\' :: 'u' :: (hex4 (0xDC00 + (c.toNat - 0x10000) % 0x400) ++ rest))) =
        some (.char c, rest) := by
  have hlt := toNat_lt c
  generalize hhigh : 0xD800 + (c.toNat - 0x10000) / 0x400 = high
  generalize hlow : 0xDC00 + (c.toNat - 0x10000) % 0x400 = low
  have hsecond : ¬ (0xDC00 ≤ high ∧ high < 0xE000) := by omega
  have hfirst : 0xD800 ≤ high ∧ high < 0xDC00 := by omega
  have hpaired : 0xDC00 ≤ low ∧ low < 0xE000 := by omega
  have hsum : 0x10000 + (high - 0xD800) * 0x400 + (low - 0xDC00) = c.toNat := by omega
  rw [readEscape?, unitValue?_hex4 (by omega)]
  simp only [if_neg hsecond, if_pos hfirst]
  rw [unitValue?_hex4 (by omega)]
  simp only [if_pos hpaired, hsum, Char.ofNat_toNat]

/-! ## Characters -/

/-- How a character stands in quotes: behind a backslash, or as itself. -/
inductive Stands (c : Char) : List Char → Prop
  | escaped {code : List Char} (hread : ∀ rest, readEscape? (code ++ rest) = some (.char c, rest)) :
      Stands c ('\\' :: code)
  | itself (hquote : c ≠ '"') (hslash : c ≠ '\\') (hcontrol : ¬ c.toNat < 0x20) : Stands c [c]

theorem stands_unitEscape {c : Char} (hc : c.toNat < 0x10000) :
    Stands c (unitEscape c.toNat) :=
  .escaped (readEscape?_unit hc)

theorem stands_wideEscape (c : Char) : Stands c (wideEscape c) := by
  rw [wideEscape]
  split
  · rename_i hc
    exact stands_unitEscape hc
  · rename_i hc
    exact .escaped fun rest => readEscape?_pair (by omega) rest

/-- The characters with a mark of their own. -/
def marks : List Char := ['"', '\\', '\x08', '\x0c', '\n', '\r', '\t']

theorem escape_of_not_mem_marks {ascii : Bool} {c : Char} (hc : c ∉ marks) :
    escape ascii c =
      if c.toNat < 0x20 then unitEscape c.toNat
      else if ascii && 0x7f < c.toNat then wideEscape c
      else [c] := by
  simp only [marks, List.mem_cons, List.not_mem_nil, or_false, not_or] at hc
  obtain ⟨hquote, hslash, hback, hform, hfeed, hreturn, htab⟩ := hc
  rw [escape, if_neg hquote, if_neg hslash, if_neg hback, if_neg hform, if_neg hfeed,
    if_neg hreturn, if_neg htab]

theorem stands_escape (ascii : Bool) (c : Char) : Stands c (escape ascii c) := by
  by_cases hmarked : c ∈ marks
  · simp only [marks, List.mem_cons, List.not_mem_nil, or_false] at hmarked
    rcases hmarked with rfl | rfl | rfl | rfl | rfl | rfl | rfl <;>
      exact .escaped fun _ => rfl
  · rw [escape_of_not_mem_marks hmarked]
    split
    · rename_i hcontrol
      exact stands_unitEscape (by omega)
    · rename_i hcontrol
      split
      · exact stands_wideEscape c
      · simp only [marks, List.mem_cons, not_or] at hmarked
        exact .itself hmarked.1 hmarked.2.1 hcontrol

theorem Stands.length_pos {c : Char} {cs : List Char} (h : Stands c cs) : 0 < cs.length := by
  cases h <;> exact Nat.succ_pos _

/-- A character is read as one piece. -/
theorem Stands.readPieces? {c : Char} {cs : List Char} (h : Stands c cs) (fuel : Nat)
    (rest : List Char) :
    readPieces? (fuel + 1) (cs ++ rest) =
      (Json.readPieces? fuel rest).map fun (pieces, after) => (.char c :: pieces, after) := by
  cases h with
  | escaped hread =>
      rw [List.cons_append, Json.readPieces?, if_neg (by decide), if_pos rfl, hread]
  | itself hquote hslash hcontrol =>
      rw [List.singleton_append, Json.readPieces?, if_neg hquote, if_neg hslash,
        if_neg hcontrol]

/-! ## Texts -/

theorem readPieces?_escape (ascii : Bool) (text rest : List Char) {fuel : Nat}
    (hfuel : text.length ≤ fuel) :
    readPieces? fuel (text.flatMap (escape ascii) ++ rest) =
      (readPieces? (fuel - text.length) rest).map fun (pieces, after) =>
        (text.map .char ++ pieces, after) := by
  induction text generalizing fuel with
  | nil => simp
  | cons c text ih =>
      obtain ⟨fuel, rfl⟩ := Nat.exists_eq_add_one.mpr (Nat.zero_lt_of_lt hfuel)
      rw [List.flatMap_cons, List.append_assoc, (stands_escape ascii c).readPieces?,
        ih (Nat.le_of_succ_le_succ hfuel), Option.map_map, List.length_cons, Nat.add_sub_add_right]
      rfl

theorem joinPieces?_char (text : List Char) : joinPieces? (text.map .char) = some text := by
  induction text with
  | nil => rfl
  | cons c text ih => rw [List.map_cons, joinPieces?, ih, Option.map_some]

theorem length_le_flatMap_escape (ascii : Bool) (text : List Char) :
    text.length ≤ (text.flatMap (escape ascii)).length := by
  induction text with
  | nil => exact Nat.le_refl 0
  | cons c text ih =>
      have hpos := (stands_escape ascii c).length_pos
      rw [List.flatMap_cons, List.length_append, List.length_cons]
      omega

/-- A string is read piece by piece, behind its opening quote. -/
theorem readString?_of_pieces (ascii : Bool) {text rest after : List Char}
    {pieces : List StringPiece}
    (h : ∀ fuel, rest.length < fuel → readPieces? fuel rest = some (pieces, after)) :
    readString? (text.flatMap (escape ascii) ++ rest) =
      some ((joinPieces? (text.map .char ++ pieces)).map String.ofList, after) := by
  have hlength := length_le_flatMap_escape ascii text
  rw [readString?, readPieces?_escape ascii text rest (by rw [List.length_append]; omega),
    h _ (by rw [List.length_append]; omega)]
  rfl

/-- A string in quotes reads back, behind its opening quote. -/
theorem readString?_escape (ascii : Bool) (text rest : List Char) :
    readString? (text.flatMap (escape ascii) ++ '"' :: rest) =
      some (some (String.ofList text), rest) := by
  have hread (fuel : Nat) (hfuel : ('"' :: rest).length < fuel) :
      readPieces? fuel ('"' :: rest) = some ([], rest) := by
    obtain ⟨fuel, rfl⟩ := Nat.exists_eq_add_one.mpr (Nat.zero_lt_of_lt hfuel)
    rfl
  rw [readString?_of_pieces ascii hread, List.append_nil, joinPieces?_char, Option.map_some]

/-! ## Stray bytes -/

theorem joinPieces?_half (text : List Char) (pieces : List StringPiece) :
    joinPieces? (text.map .char ++ .half :: pieces) = none := by
  induction text with
  | nil => rfl
  | cons c text ih => rw [List.map_cons, List.cons_append, joinPieces?, ih, Option.map_none]

/-- A string with a stray byte ends where it would without it, but gives no text. -/
theorem readString?_strayByte (ascii : Bool) (text rest : List Char) :
    readString? (text.flatMap (escape ascii) ++ (strayByte ++ '"' :: rest)) =
      some (none, rest) := by
  have hread (fuel : Nat) (hfuel : (strayByte ++ '"' :: rest).length < fuel) :
      readPieces? fuel (strayByte ++ '"' :: rest) = some ([.char 'x', .half], rest) := by
    have hstray : strayByte.length = 7 := rfl
    rw [List.length_append, hstray] at hfuel
    obtain ⟨fuel, rfl⟩ := Nat.exists_eq_add_of_le' (show 3 ≤ fuel by omega)
    rfl
  have hjoin : joinPieces? (text.map .char ++ [.char 'x', .half]) = none := by
    have hhalf := joinPieces?_half (text ++ ['x']) []
    rwa [List.map_append, List.append_assoc] at hhalf
  rw [readString?_of_pieces ascii hread, hjoin, Option.map_none]

/-- No value starts with a stray byte. -/
theorem readValue_strayByte (fuel depth : Nat) (rest : List Char) :
    (readValue fuel depth (strayByte ++ rest)).1 = .broken := by
  cases fuel <;> rfl

/-- After a value a stray byte stands where a comma or a bracket should. -/
theorem nextItem_strayByte {close : Char} (hclose : close ≠ 'x') (rest : List Char) :
    nextItem close (strayByte ++ rest) = .cut := by
  change (if 'x' = close then _ else _) = _
  rw [if_neg hclose.symm]

/-- An escape that a stray byte breaks off is none. -/
theorem readEscape?_strayByte (rest : List Char) : readEscape? (strayByte ++ rest) = none := rfl

/-! ## ASCII -/

/-- All characters are ASCII. -/
def Ascii (cs : List Char) : Prop := ∀ c ∈ cs, c.toNat < 128

-- goes through the list; a search for an instance may go through all characters
instance (cs : List Char) : Decidable (Ascii cs) :=
  List.decidableBAll (fun c : Char => c.toNat < 128) cs

theorem ascii_nil : Ascii [] := by decide

theorem ascii_append {cs ds : List Char} : Ascii (cs ++ ds) ↔ Ascii cs ∧ Ascii ds :=
  List.forall_mem_append

theorem ascii_cons {c : Char} {cs : List Char} : Ascii (c :: cs) ↔ c.toNat < 128 ∧ Ascii cs :=
  List.forall_mem_cons

theorem hexDigit_toNat_lt : ∀ n < 16, (hexDigit n).toNat < 128 := by
  decide

theorem ascii_unitEscape (n : Nat) : Ascii (unitEscape n) := by
  have hdigit (m : Nat) : (hexDigit (m % 16)).toNat < 128 :=
    hexDigit_toNat_lt _ (Nat.mod_lt _ (by decide))
  simp only [unitEscape, hex4, ascii_cons, hdigit]
  decide

theorem ascii_wideEscape (c : Char) : Ascii (wideEscape c) := by
  rw [wideEscape]
  split
  · exact ascii_unitEscape _
  · exact ascii_append.mpr ⟨ascii_unitEscape _, ascii_unitEscape _⟩

theorem ascii_escape (c : Char) : Ascii (escape true c) := by
  by_cases hmarked : c ∈ marks
  · simp only [marks, List.mem_cons, List.not_mem_nil, or_false] at hmarked
    rcases hmarked with rfl | rfl | rfl | rfl | rfl | rfl | rfl <;> decide
  · rw [escape_of_not_mem_marks hmarked]
    split
    · exact ascii_unitEscape _
    · split
      · exact ascii_wideEscape c
      · rename_i hwide
        simp only [Bool.true_and, decide_eq_true_eq] at hwide
        exact ascii_cons.mpr ⟨by omega, by decide⟩

/-- A string in quotes is ASCII, if characters beyond are escaped. -/
theorem ascii_quoted (text : List Char) : Ascii (quoted true text) := by
  have htext : Ascii (text.flatMap (escape true)) := by
    intro x hx
    obtain ⟨c, -, hx⟩ := List.mem_flatMap.mp hx
    exact ascii_escape c x hx
  exact ascii_append.mpr ⟨ascii_cons.mpr ⟨by decide, htext⟩, by decide⟩

end VlanBinding.Json
