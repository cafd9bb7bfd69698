import Mathlib.Algebra.GroupWithZero.Nat
import Mathlib.Data.List.Basic
import VlanBinding.Uuid

/-!
How identifiers are spelt. Main statement: a text reads as an identifier exactly if in lower case it
is one of the four forms of it.
-/

namespace VlanBinding.Uuid

open VlanBinding.Text

/-! ## Spellings -/

/-- The digits, with letters in lower case. -/
def plain (u : Uuid) : List Char := u.digits.map fun d => hexDigit d.val

/-- Digits with hyphens after the eighth, the twelfth, the sixteenth and the twentieth. -/
def hyphenate (digits : List Char) : List Char :=
  digits.take 8 ++ '-' :: ((digits.drop 8).take 4 ++ '-' :: ((digits.drop 12).take 4 ++
    '-' :: ((digits.drop 16).take 4 ++ '-' :: digits.drop 20)))

/-- What stands before an identifier that is written as a resource name. -/
def schemeName : List Char := ['u', 'r', 'n', ':', 'u', 'u', 'i', 'd', ':']

/-- The forms in which an identifier may be written. -/
inductive Form where
  | bare
  | hyphenated
  | braced
  | scheme
deriving DecidableEq, Repr

def Form.write (u : Uuid) : Form → List Char
  | bare => u.plain
  | hyphenated => hyphenate u.plain
  | braced => '{' :: (hyphenate u.plain ++ ['}'])
  | scheme => schemeName ++ hyphenate u.plain

/-- The text is the identifier in one of its forms, with letters of either case. -/
def Spells (text : String) (u : Uuid) : Prop :=
  ∃ form : Form, text.toList.map Char.toLower = form.write u

theorem length_plain (u : Uuid) : u.plain.length = 32 := by
  rw [plain, List.length_map, u.length_digits]

theorem splitGroups_groups {digits : List Char} (h : digits.length = 32) :
    splitGroups groups digits = hyphenate digits := by
  have hlast : (digits.drop 20).take 12 = digits.drop 20 :=
    List.take_of_length_le (by simp [h])
  simp only [groups, splitGroups, hyphenate, List.drop_drop, Nat.reduceAdd, hlast]

theorem render_eq (u : Uuid) : u.render = String.ofList (hyphenate u.plain) :=
  congrArg String.ofList (splitGroups_groups u.length_plain)

/-! ## Characters -/

theorem toLower_cases (c : Char) :
    c.toLower = c ∨ c.toNat < 128 ∧ 97 ≤ c.toLower.toNat ∧ c.toLower.toNat ≤ 122 := by
  by_cases h : c.val ≥ 'A'.val ∧ c.val ≤ 'Z'.val
  · refine Or.inr ?_
    have hlow : 65 ≤ c.toNat := UInt32.le_iff_toNat_le.mp h.1
    have hhigh : c.toNat ≤ 90 := UInt32.le_iff_toNat_le.mp h.2
    have hlower : c.toLower.val = c.val + ('a'.val - 'A'.val) := congrArg Char.val (dif_pos h)
    have hstep : ('a'.val - 'A'.val).toNat = 32 := by decide
    have hsum : c.toLower.toNat = c.toNat + 32 := by
      rw [Char.toNat, hlower, UInt32.toNat_add, hstep]
      exact Nat.mod_eq_of_lt (by change c.toNat + 32 < 2 ^ 32; omega)
    omega
  · exact Or.inl (dif_neg h)

/-- Only letters have two cases. -/
theorem toLower_eq_iff {c w : Char} (hw : w.toNat < 97 ∨ 122 < w.toNat)
    (hself : w.toLower = w) : c.toLower = w ↔ c = w := by
  constructor
  · intro h
    rcases toLower_cases c with hsame | ⟨-, hlow, hhigh⟩
    · exact hsame.symm.trans h
    · rw [h] at hlow hhigh
      omega
  · rintro rfl
    exact hself

theorem digit?_ascii : ∀ n < 128, ∀ d : Fin 16,
    digit? (Char.ofNat n) = some d ↔ (Char.ofNat n).toLower = hexDigit d.val := by
  decide +kernel

theorem hexDigit_ascii : ∀ d : Fin 16, (hexDigit d.val).toNat < 103 := by
  decide

theorem hexValue?_of_not_ascii {c : Char} (hc : 128 ≤ c.toNat) : hexValue? c = none := by
  have hnine : ¬ c ≤ '9' := fun h => by
    have : c.toNat ≤ '9'.toNat := h
    have : '9'.toNat = 57 := rfl
    omega
  have hlower : ¬ c ≤ 'f' := fun h => by
    have : c.toNat ≤ 'f'.toNat := h
    have : 'f'.toNat = 102 := rfl
    omega
  have hupper : ¬ c ≤ 'F' := fun h => by
    have : c.toNat ≤ 'F'.toNat := h
    have : 'F'.toNat = 70 := rfl
    omega
  simp [hexValue?, hnine, hlower, hupper]

theorem digit?_eq_some_iff {c : Char} {d : Fin 16} :
    digit? c = some d ↔ c.toLower = hexDigit d.val := by
  by_cases hc : c.toNat < 128
  · have h := digit?_ascii c.toNat hc d
    rwa [Char.ofNat_toNat] at h
  · have hdigit : digit? c = none := by
      simp only [digit?, hexValue?_of_not_ascii (Nat.le_of_not_lt hc)]
    have hd := hexDigit_ascii d
    rw [hdigit]
    constructor
    · intro h
      cases h
    · intro h
      rcases toLower_cases c with hsame | ⟨hascii, -⟩
      · rw [← h, hsame] at hd
        omega
      · exact absurd hascii hc

/-! ## Digits -/

theorem mapM_digit?_eq_some_iff {cs : List Char} {ds : List (Fin 16)} :
    cs.mapM digit? = some ds ↔ cs.map Char.toLower = ds.map fun d => hexDigit d.val := by
  induction cs generalizing ds with
  | nil => cases ds <;> simp
  | cons c cs ih =>
      rw [List.mapM_cons]
      simp only [Option.bind_eq_bind, Option.bind_eq_some_iff, Option.pure_def, Option.some.injEq,
        digit?_eq_some_iff, ih]
      constructor
      · rintro ⟨d, hd, ds, hds, rfl⟩
        rw [List.map_cons, List.map_cons, hd, hds]
      · intro h
        obtain ⟨d, ds, rfl, hd, hds⟩ := List.map_eq_cons_iff.mp h.symm
        exact ⟨d, hd.symm, ds, hds.symm, rfl⟩

theorem ofDigits?_eq_some_iff {cs : List Char} {u : Uuid} :
    ofDigits? cs = some u ↔ cs.map Char.toLower = u.plain := by
  rw [plain, ← mapM_digit?_eq_some_iff, ofDigits?]
  cases cs.mapM digit? with
  | none => simp
  | some ds =>
      obtain ⟨digits, hlength⟩ := u
      by_cases hds : ds.length = 32
      · simp [hds]
      · simp only [Option.bind_eq_bind, Option.bind_some, hds, ↓reduceDIte, reduceCtorEq,
          Option.some.injEq, false_iff]
        rintro rfl
        exact hds hlength

/-! ## Groups -/

theorem joinGroups?_eq_some_iff {n : Nat} {ns : List Nat} {cs ds : List Char} :
    joinGroups? (n :: ns) cs = some ds ↔
      ds.length = (n :: ns).sum ∧ cs = splitGroups (n :: ns) ds := by
  induction ns generalizing n cs ds with
  | nil =>
      simp only [joinGroups?, splitGroups, Option.ite_none_right_eq_some, Option.some.injEq,
        List.sum_cons, List.sum_nil, Nat.add_zero]
      constructor
      · rintro ⟨hlength, rfl⟩
        exact ⟨hlength, (List.take_of_length_le (Nat.le_of_eq hlength)).symm⟩
      · rintro ⟨hlength, rfl⟩
        rw [List.take_of_length_le (Nat.le_of_eq hlength)]
        exact ⟨hlength, rfl⟩
  | cons m ns ih =>
      rw [joinGroups?, splitGroups]
      · constructor
        · intro h
          split at h
          · rename_i rest hdrop
            obtain ⟨ds, hjoin, rfl⟩ := Option.map_eq_some_iff.mp h
            obtain ⟨hlength, hrest⟩ := ih.mp hjoin
            have htake : (cs.take n).length = n := by
              have hdropped := congrArg List.length hdrop
              simp only [List.length_drop, List.length_cons] at hdropped
              rw [List.length_take]
              omega
            refine ⟨by simp [htake, hlength], ?_⟩
            rw [List.take_left' htake, List.drop_left' htake, ← hrest, ← hdrop,
              List.take_append_drop]
          · cases h
        · rintro ⟨hlength, rfl⟩
          have htake : (ds.take n).length = n := by
            simp only [List.sum_cons] at hlength
            rw [List.length_take]
            omega
          have hrest : joinGroups? (m :: ns) (splitGroups (m :: ns) (ds.drop n)) =
              some (ds.drop n) :=
            ih.mpr ⟨by simp only [List.length_drop, hlength, List.sum_cons]; omega, rfl⟩
          rw [List.take_left' htake, List.drop_left' htake]
          simp [hrest, List.take_append_drop]
      · simp
      · simp

/-- Where the hyphens are does not depend on the case of letters. -/
theorem joinGroups?_map_toLower (ns : List Nat) (cs : List Char) :
    joinGroups? ns (cs.map Char.toLower) = (joinGroups? ns cs).map (List.map Char.toLower) := by
  fun_induction joinGroups? ns cs with
  | case1 cs hempty => simp_all [joinGroups?]
  | case2 cs hempty => simp_all [joinGroups?]
  | case3 cs => simp [joinGroups?]
  | case4 n cs hlength => simp [joinGroups?, hlength]
  | case5 n ns cs hns rest hdrop ih =>
      rw [joinGroups?, ← List.map_drop, hdrop]
      · have hhyphen : '-'.toLower = '-' := rfl
        simp only [List.map_cons, hhyphen, ih, Option.map_map, ← List.map_take]
        congr 1
        funext ds
        simp
      · exact hns
  | case6 n ns cs hns hdrop =>
      rw [joinGroups?, ← List.map_drop]
      · split
        · rename_i rest hmapped
          obtain ⟨c, more, hcs, hc, -⟩ := List.map_eq_cons_iff.mp hmapped
          rw [toLower_eq_iff (Or.inl (by decide)) rfl] at hc
          subst hc
          exact absurd hcs (hdrop more)
        · rfl
      · exact hns

theorem ofGroups?_eq_some_iff {cs : List Char} {u : Uuid} :
    ofGroups? cs = some u ↔ cs.map Char.toLower = hyphenate u.plain := by
  have hjoined : ofGroups? cs = some u ↔
      (joinGroups? groups cs).map (List.map Char.toLower) = some u.plain := by
    rw [ofGroups?]
    simp only [Option.bind_eq_some_iff, ofDigits?_eq_some_iff, Option.map_eq_some_iff]
  rw [hjoined, ← joinGroups?_map_toLower, groups, joinGroups?_eq_some_iff,
    ← splitGroups_groups u.length_plain]
  exact and_iff_right u.length_plain

/-! ## Forms -/

theorem not_mem_plain {u : Uuid} {c : Char} (hc : ∀ d : Fin 16, c ≠ hexDigit d.val) :
    c ∉ u.plain := by
  intro hmem
  obtain ⟨d, -, hd⟩ := List.mem_map.mp hmem
  exact hc d hd.symm

theorem hyphenate_plain_ne_cons {u : Uuid} {c : Char} (hc : ∀ d : Fin 16, c ≠ hexDigit d.val)
    (rest : List Char) : hyphenate u.plain ≠ c :: rest := by
  intro h
  have hlength := u.length_plain
  cases hplain : u.plain with
  | nil => simp [hplain] at hlength
  | cons x digits =>
      rw [hplain] at h
      obtain rfl : x = c := (List.cons.inj h).1
      exact not_mem_plain hc (hplain ▸ List.mem_cons_self)

theorem plain_ne_cons {u : Uuid} {c : Char} (hc : ∀ d : Fin 16, c ≠ hexDigit d.val)
    (rest : List Char) : u.plain ≠ c :: rest := by
  intro h
  exact not_mem_plain hc (h ▸ List.mem_cons_self)

theorem toList_schemeName : "urn:uuid:".toList = schemeName := by
  simp [schemeName]

theorem behind?_eq_some_iff {word cs rest : List Char} :
    behind? word cs = some rest ↔ ∃ front, cs = front ++ rest ∧ front.map Char.toLower = word := by
  induction word generalizing cs with
  | nil => simp [behind?, eq_comm]
  | cons w word ih =>
      cases cs with
      | nil => simp [behind?]
      | cons c cs =>
          simp only [behind?, Option.ite_none_right_eq_some, ih]
          constructor
          · rintro ⟨rfl, front, rfl, rfl⟩
            exact ⟨c :: front, rfl, rfl⟩
          · rintro ⟨front, hcs, hfront⟩
            obtain ⟨x, more, rfl, hx, hmore⟩ := List.map_eq_cons_iff.mp hfront
            obtain ⟨rfl, rfl⟩ := List.cons.inj hcs
            exact ⟨hx.symm, more, rfl, hmore⟩

/-- Behind an opening brace there are digits in groups and a closing one. -/
theorem braced_iff {u : Uuid} {rest : List Char} :
    (if rest.getLast? = some '}' then ofGroups? rest.dropLast else none) = some u ↔
      ∃ form : Form, ('{' :: rest).map Char.toLower = form.write u := by
  have hbrace : ∀ d : Fin 16, '{' ≠ hexDigit d.val := by decide
  simp only [Option.ite_none_right_eq_some, ofGroups?_eq_some_iff]
  constructor
  · rintro ⟨hlast, hgroups⟩
    obtain ⟨front, rfl⟩ := List.getLast?_eq_some_iff.mp hlast
    rw [List.dropLast_concat] at hgroups
    refine ⟨.braced, ?_⟩
    rw [List.map_cons, List.map_append, hgroups]
    rfl
  · rintro ⟨form, h⟩
    rw [List.map_cons, show '{'.toLower = '{' from rfl] at h
    cases form with
    | bare => exact absurd h.symm (plain_ne_cons hbrace _)
    | hyphenated => exact absurd h.symm (hyphenate_plain_ne_cons hbrace _)
    | scheme => exact absurd (List.cons.inj h).1 (by decide)
    | braced =>
        obtain ⟨front, last, rfl, hfront, hlast⟩ :=
          List.map_eq_append_iff.mp (List.cons.inj h).2
        obtain ⟨c, more, rfl, hc, hmore⟩ := List.map_eq_cons_iff.mp hlast
        rw [toLower_eq_iff (Or.inr (by decide)) rfl] at hc
        obtain rfl := List.map_eq_nil_iff.mp hmore
        subst hc
        rw [List.getLast?_concat, List.dropLast_concat]
        exact ⟨rfl, hfront⟩

/-- Behind the name of the scheme there are digits in groups. -/
theorem scheme_iff {u : Uuid} {front rest : List Char}
    (hfront : front.map Char.toLower = schemeName) :
    ofGroups? rest = some u ↔
      ∃ form : Form, (front ++ rest).map Char.toLower = form.write u := by
  have hletter : ∀ d : Fin 16, 'u' ≠ hexDigit d.val := by decide
  rw [ofGroups?_eq_some_iff, List.map_append, hfront]
  constructor
  · intro hgroups
    exact ⟨.scheme, congrArg (schemeName ++ ·) hgroups⟩
  · rintro ⟨form, h⟩
    cases form with
    | bare => exact absurd h.symm (plain_ne_cons hletter _)
    | hyphenated => exact absurd h.symm (hyphenate_plain_ne_cons hletter _)
    | braced => exact absurd (List.cons.inj h).1 (by decide)
    | scheme => exact List.append_cancel_left h

/-- Without a brace and the name of the scheme there are digits, in groups or not. -/
theorem unmarked_iff {u : Uuid} {cs : List Char} (hbrace : ∀ rest, cs ≠ '{' :: rest)
    (hscheme : behind? schemeName cs = none) :
    (if cs.contains '-' then ofGroups? cs else ofDigits? cs) = some u ↔
      ∃ form : Form, cs.map Char.toLower = form.write u := by
  have hhyphen : '-' ∈ cs ↔ '-' ∈ cs.map Char.toLower := by
    simp only [List.mem_map, toLower_eq_iff (w := '-') (Or.inl (by decide)) rfl,
      exists_eq_right]
  have hplain : '-' ∉ u.plain := not_mem_plain (by decide)
  have hgroups : '-' ∈ hyphenate u.plain := by simp [hyphenate]
  simp only [List.contains_iff_mem]
  constructor
  · intro h
    split at h
    · exact ⟨.hyphenated, ofGroups?_eq_some_iff.mp h⟩
    · exact ⟨.bare, ofDigits?_eq_some_iff.mp h⟩
  · rintro ⟨form, h⟩
    rw [h] at hhyphen
    cases form with
    | bare =>
        rw [if_neg fun hmem => hplain (hhyphen.mp hmem)]
        exact ofDigits?_eq_some_iff.mpr h
    | hyphenated =>
        rw [if_pos (hhyphen.mpr hgroups)]
        exact ofGroups?_eq_some_iff.mpr h
    | braced =>
        obtain ⟨c, rest, rfl, hc, -⟩ := List.map_eq_cons_iff.mp h
        rw [toLower_eq_iff (Or.inr (by decide)) rfl] at hc
        subst hc
        exact absurd rfl (hbrace rest)
    | scheme =>
        obtain ⟨front, rest, rfl, hfront, -⟩ := List.map_eq_append_iff.mp h
        rw [behind?_eq_some_iff.mpr ⟨front, rfl, hfront⟩] at hscheme
        cases hscheme

/-- A text reads as an identifier exactly if it spells it. -/
theorem parse?_eq_some_iff {text : String} {u : Uuid} :
    parse? text = some u ↔ Spells text u := by
  rw [parse?, Spells]
  generalize text.toList = cs
  split
  · exact braced_iff
  · rename_i hbrace
    rw [toList_schemeName]
    cases hscheme : behind? schemeName cs with
    | some rest =>
        obtain ⟨front, rfl, hfront⟩ := behind?_eq_some_iff.mp hscheme
        exact scheme_iff hfront
    | none => exact unmarked_iff (fun rest h => hbrace rest h) hscheme

theorem parse?_eq_none_iff {text : String} : parse? text = none ↔ ∀ u, ¬ Spells text u := by
  simp only [Option.eq_none_iff_forall_ne_some, ne_eq, parse?_eq_some_iff]

end VlanBinding.Uuid
