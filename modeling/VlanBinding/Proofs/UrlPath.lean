import VlanBinding.Proofs.Bytes
import Mathlib.Data.List.DropRight

/-!
Paths at the end of a URL. Main statements: of a text behind host and port, the part before the
first hash sign and the first question mark is the path, without what does not count at the end of a
URL; and the segments of the path that results are those that were there before, or pieces of the
text that keep what they stand for.
-/

namespace VlanBinding.Http.Url

open VlanBinding.Text VlanBinding.Http.Percent

/-! ## The end of a URL -/

/-- Blanks and control characters: they do not count at the ends of a URL. -/
def isOuter (c : Char) : Bool := c.toNat ≤ 0x20

/-- Tabs and line breaks: they do not count anywhere. -/
def isBreak (c : Char) : Bool := c == '\t' || c == '\n' || c == '\r'

/-- What counts of a text at the end of a URL. -/
def trailing (cs : List Char) : List Char := (cs.rdropWhile isOuter).filter (!isBreak ·)

theorem clean_eq (cs : List Char) :
    clean cs = ((cs.dropWhile isOuter).rdropWhile isOuter).filter (!isBreak ·) := by
  have hkept : (fun c : Char => !isBreak c) = fun c => c ≠ '\t' && c ≠ '\n' && c ≠ '\r' := by
    funext c
    simp [isBreak, Bool.and_assoc, beq_eq_decide]
  rw [hkept]
  rfl

theorem isBreak_of_visible {c : Char} (h : 0x20 < c.toNat) : isBreak c = false := by
  rw [isBreak, Bool.or_eq_false_iff, Bool.or_eq_false_iff]
  refine ⟨⟨?_, ?_⟩, ?_⟩ <;> (rw [beq_eq_false_iff_ne]; rintro rfl; revert h; decide)

/-- What is visible in front of a text stays as it is. -/
theorem trailing_append {front : List Char} (hvisible : ∀ c ∈ front, 0x20 < c.toNat)
    (rest : List Char) : trailing (front ++ rest) = front ++ trailing rest := by
  have hend : (front ++ rest).rdropWhile isOuter = front ++ rest.rdropWhile isOuter := by
    induction rest using List.reverseRecOn with
    | nil =>
        rw [List.append_nil, List.rdropWhile_nil, List.append_nil, List.rdropWhile_eq_self_iff]
        intro hne
        have hlast := hvisible _ (List.getLast_mem hne)
        simpa [isOuter] using hlast
    | append_singleton rest c ih =>
        rw [← List.append_assoc, List.rdropWhile_concat, List.rdropWhile_concat]
        split
        · exact ih
        · rw [List.append_assoc]
  have hbreaks : front.filter (!isBreak ·) = front := by
    rw [List.filter_eq_self]
    intro c hc
    rw [isBreak_of_visible (hvisible c hc)]
    rfl
  rw [trailing, hend, List.filter_append, hbreaks, trailing]

theorem clean_append {front : List Char} (hfront : front ≠ [])
    (hvisible : ∀ c ∈ front, 0x20 < c.toNat) (rest : List Char) :
    clean (front ++ rest) = front ++ trailing rest := by
  have hstart : (front ++ rest).dropWhile isOuter = front ++ rest := by
    obtain ⟨c, cs, rfl⟩ := List.exists_cons_of_ne_nil hfront
    have hc := hvisible c List.mem_cons_self
    exact List.dropWhile_cons_of_neg (by simpa [isOuter] using hc)
  rw [clean_eq, hstart, ← trailing, trailing_append hvisible]

theorem trailing_sublist (cs : List Char) : (trailing cs).Sublist cs :=
  List.filter_sublist.trans (List.rdropWhile_prefix _ _).sublist

/-- A text counts as a whole unless it ends in a blank or has tabs or line breaks in it. -/
theorem trailing_eq_self_iff {cs : List Char} :
    trailing cs = cs ↔ (∀ c ∈ cs, isBreak c = false) ∧ ∀ c ∈ cs.getLast?, 0x20 < c.toNat := by
  have hlast : cs.rdropWhile isOuter = cs ↔ ∀ c ∈ cs.getLast?, 0x20 < c.toNat := by
    rw [List.rdropWhile_eq_self_iff]
    constructor
    · intro h c hc
      obtain ⟨hne, rfl⟩ := List.mem_getLast?_eq_getLast hc
      simpa [isOuter] using h hne
    · intro h hne
      have := h _ (List.getLast?_eq_some_getLast hne)
      simpa [isOuter] using this
  rw [← hlast]
  constructor
  · intro h
    have hprefix : cs.rdropWhile isOuter = cs := by
      apply (List.rdropWhile_prefix _ _).eq_of_length_le
      calc cs.length = (trailing cs).length := by rw [h]
        _ ≤ (cs.rdropWhile isOuter).length := List.length_filter_le _ _
    refine ⟨fun c hc => ?_, hprefix⟩
    rw [trailing, hprefix, List.filter_eq_self] at h
    simpa using h c hc
  · rintro ⟨hbreaks, hprefix⟩
    rw [trailing, hprefix, List.filter_eq_self]
    intro c hc
    rw [hbreaks c hc]
    rfl

/-! ## Segments -/

theorem segments_cons (c : Char) (cs : List Char) :
    segments (c :: cs) = if isSlash c then [] :: segments cs
      else match segments cs with
        | [] => [[c]]
        | first :: others => (c :: first) :: others := by
  rw [segments, List.map_cons, splitAt]
  by_cases hback : c = '\\'
  · subst hback
    rfl
  · rw [if_neg hback]
    by_cases hslash : c = '/'
    · subst hslash
      rfl
    · have hother : isSlash c = false := by simp [isSlash, hback, hslash]
      rw [if_neg hslash, hother, if_neg Bool.false_ne_true]
      rfl

/-- A segment is a piece of the text, and there are no slashes in it. -/
theorem of_mem_segments {cs segment : List Char} (h : segment ∈ segments cs) :
    segment.Sublist cs ∧ ∀ c ∈ segment, isSlash c = false := by
  induction cs generalizing segment with
  | nil =>
      obtain rfl := List.mem_singleton.mp h
      exact ⟨List.Sublist.refl _, by simp⟩
  | cons c cs ih =>
      rw [segments_cons] at h
      split at h
      · rcases List.mem_cons.mp h with rfl | h
        · exact ⟨List.nil_sublist _, by simp⟩
        · exact ⟨(ih h).1.cons c, (ih h).2⟩
      · rename_i hc
        split at h
        · rename_i hnil
          exact absurd hnil (splitAt_ne_nil _ _)
        · rename_i first others hsegments
          rcases List.mem_cons.mp h with rfl | h
          · have hfirst := ih (hsegments ▸ List.mem_cons_self)
            exact ⟨hfirst.1.cons_cons c, List.forall_mem_cons.mpr ⟨by simpa using hc, hfirst.2⟩⟩
          · have hother := ih (hsegments ▸ List.mem_cons_of_mem first h)
            exact ⟨hother.1.cons c, hother.2⟩

theorem map_of_noSlash {cs : List Char} (h : ∀ c ∈ cs, isSlash c = false) :
    cs.map (fun c => if c = '\\' then '/' else c) = cs ∧ '/' ∉ cs := by
  constructor
  · conv_rhs => rw [← List.map_id cs]
    refine List.map_congr_left fun c hc => if_neg ?_
    rintro rfl
    cases h _ hc
  · intro hmem
    cases h _ hmem

theorem segments_of_noSlash {cs : List Char} (h : ∀ c ∈ cs, isSlash c = false) :
    segments cs = [cs] := by
  obtain ⟨hmap, hmem⟩ := map_of_noSlash h
  rw [segments, hmap, splitAt_of_not_mem hmem]

theorem segments_append {front : List Char} (h : ∀ c ∈ front, isSlash c = false)
    (rest : List Char) : segments (front ++ '/' :: rest) = front :: segments rest := by
  obtain ⟨hmap, hmem⟩ := map_of_noSlash h
  rw [segments, List.map_append, hmap, List.map_cons, if_neg (by decide), splitAt_append hmem]
  rfl

/-! ## Dots -/

theorem isSome_hexValue?_of_toLower {c : Char} (h : c.toLower = 'e') :
    (hexValue? c).isSome = true := by
  have hc : c = 'e' ∨ c = 'E' := by
    unfold Char.toLower at h
    split at h
    · right
      apply Char.ext
      have hval : c.val + ('a'.val - 'A'.val) = 'e'.val := congrArg Char.val h
      calc c.val = c.val + ('a'.val - 'A'.val) - ('a'.val - 'A'.val) :=
            (UInt32.add_sub_cancel _ _).symm
        _ = 'E'.val := by rw [hval]; rfl
    · exact Or.inl h
  rcases hc with rfl | rfl <;> decide

/-- A segment that stands for dots is written as dots, or some of them are encoded. -/
theorem dots_of_isDots {n : Nat} {cs : List Char} (h : isDots n cs = true) :
    cs = List.replicate n '.' ∨ HasEncoded cs := by
  induction n, cs using isDots.induct with
  | case1 cs => exact Or.inl (List.isEmpty_iff.mp h)
  | case2 n rest ih =>
      rcases ih h with rfl | hencoded
      · exact Or.inl rfl
      · exact Or.inr (hasEncoded_cons_iff.mpr (Or.inr hencoded))
  | case3 n e rest ih =>
      rw [isDots, Bool.and_eq_true, beq_iff_eq] at h
      obtain ⟨value, hvalue⟩ := Option.isSome_iff_exists.mp (isSome_hexValue?_of_toLower h.1)
      have hbyte : (byte? '2' e).isSome = true := by
        rw [byte?, hvalue]
        rfl
      exact Or.inr (hasEncoded_cons_iff.mpr (Or.inl hbyte))
  | case4 n cs hdot hencoded => simp [isDots] at h

/-! ## Walking -/

/-- A path that leads from the front of another to segments of a kind. Both have their last segment
first. -/
def Walked (base : List (List Char)) (fresh : List Char → Prop) (path : List (List Char)) : Prop :=
  ∃ new old, path = new ++ old ∧ old <:+ base ∧ ∀ segment ∈ new, fresh segment

section Walking

variable {base path : List (List Char)} {fresh : List Char → Prop}

theorem Walked.refl (base : List (List Char)) (fresh : List Char → Prop) :
    Walked base fresh base :=
  ⟨[], base, rfl, List.suffix_rfl, by simp⟩

theorem Walked.cons {segment : List Char} (h : Walked base fresh path) (hsegment : fresh segment) :
    Walked base fresh (segment :: path) := by
  obtain ⟨new, old, rfl, hold, hnew⟩ := h
  exact ⟨segment :: new, old, rfl, hold, List.forall_mem_cons.mpr ⟨hsegment, hnew⟩⟩

theorem Walked.tail (h : Walked base fresh path) : Walked base fresh path.tail := by
  obtain ⟨new, old, rfl, hold, hnew⟩ := h
  cases new with
  | nil => exact ⟨[], old.tail, rfl, (List.tail_suffix old).trans hold, by simp⟩
  | cons segment new => exact ⟨new, old, rfl, hold, (List.forall_mem_cons.mp hnew).2⟩

/-- All that comes to a path on a walk is nothing, or an encoded segment that does not stand for
dots. -/
theorem Walked.walk {segments : List (List Char)} (h : Walked base fresh path) (hnil : fresh [])
    (hfresh : ∀ segment ∈ segments, isDots 1 segment = false → isDots 2 segment = false →
      fresh (encode isPathChar segment)) : Walked base fresh (walk path segments) := by
  induction segments generalizing path with
  | nil => exact h
  | cons segment rest ih =>
      obtain ⟨hsegment, hrest⟩ := List.forall_mem_cons.mp hfresh
      rw [Url.walk]
      split
      · split
        · exact ih (h.tail.cons hnil) hrest
        · exact ih h.tail hrest
      · rename_i htwo
        split
        · split
          · exact ih (h.cons hnil) hrest
          · exact ih h hrest
        · rename_i hone
          apply ih _ hrest
          exact h.cons (hsegment (by simpa using hone) (by simpa using htwo))

end Walking

/-! ## Paths -/

/-- Segments with a slash in front of each. -/
def slashed (segments : List (List Char)) : List Char := (segments.map ('/' :: ·)).flatten

theorem splitAt_slashed {segments : List (List Char)} (h : ∀ segment ∈ segments, '/' ∉ segment) :
    splitAt '/' (slashed segments) = [] :: segments := by
  induction segments with
  | nil => rfl
  | cons segment rest ih =>
      obtain ⟨hsegment, hrest⟩ := List.forall_mem_cons.mp h
      have hsplit : splitAt '/' (segment ++ slashed rest) = segment :: rest := by
        cases rest with
        | nil =>
            rw [slashed, List.map_nil, List.flatten_nil, List.append_nil,
              splitAt_of_not_mem hsegment]
        | cons next others =>
            have hnext := ih hrest
            change splitAt '/' ('/' :: (next ++ slashed others)) = _ at hnext
            rw [splitAt, if_pos rfl, List.cons.injEq] at hnext
            change splitAt '/' (segment ++ '/' :: (next ++ slashed others)) = _
            rw [splitAt_append hsegment, hnext.2]
      change splitAt '/' ('/' :: (segment ++ slashed rest)) = _
      rw [splitAt, if_pos rfl, hsplit]

theorem bounds_of_hexValue? {c : Char} (h : (hexValue? c).isSome = true) :
    (48 ≤ c.toNat ∧ c.toNat ≤ 57) ∨ (97 ≤ c.toNat ∧ c.toNat ≤ 102) ∨
      (65 ≤ c.toNat ∧ c.toNat ≤ 70) := by
  rw [hexValue?] at h
  split at h
  · rename_i hc
    exact Or.inl hc
  · split at h
    · rename_i hc
      exact Or.inr (Or.inl hc)
    · split at h
      · rename_i hc
        exact Or.inr (Or.inr hc)
      · cases h

theorem transparent_isPathChar : Transparent isPathChar where
  percent := by decide
  digit c hc := by
    have hother : ∀ x ∈ "\"#<>?\x60\x7b\x7d".toList, hexValue? x = none := by simp [hexValue?]
    have hmem : c ∉ "\"#<>?\x60\x7b\x7d".toList := by
      intro hmem
      rw [hother c hmem] at hc
      cases hc
    have hbounds := bounds_of_hexValue? hc
    have hrange : 0x20 < c.toNat ∧ c.toNat < 0x7f := by omega
    simp only [isPathChar, hrange.1, hrange.2, decide_true, Bool.true_and, Bool.not_eq_true',
      List.contains_eq_mem, decide_eq_false_iff_not]
    exact hmem

/-- Nothing that parts a URL is written of an encoded segment. -/
theorem not_mem_encode_of_noSlash {segment : List Char} (h : ∀ c ∈ segment, isSlash c = false) :
    ∀ c ∈ encode isPathChar segment, c ≠ '/' ∧ c ≠ '?' ∧ c ≠ '#' := by
  intro x hx
  obtain ⟨c, hc, hx⟩ := List.mem_flatMap.mp hx
  have hdigit : ∀ n < 16,
      hexDigitUpper n ≠ '/' ∧ hexDigitUpper n ≠ '?' ∧ hexDigitUpper n ≠ '#' := by decide
  rcases of_mem_encodeChar hx with ⟨rfl, hkeep⟩ | rfl | ⟨n, hn, rfl⟩
  · refine ⟨?_, ?_, ?_⟩
    · rintro rfl
      cases h _ hc
    · rintro rfl
      revert hkeep
      decide
    · rintro rfl
      revert hkeep
      decide
  · decide
  · exact hdigit n hn

/-! ## Up to a mark -/

section Mark

variable {mark : Char}

theorem takeWhile_ne_append {front : List Char} (h : ∀ c ∈ front, c ≠ mark) (rest : List Char) :
    (front ++ rest).takeWhile (· ≠ mark) = front ++ rest.takeWhile (· ≠ mark) :=
  List.takeWhile_append_of_pos fun c hc => decide_eq_true (h c hc)

theorem dropWhile_ne_append {front : List Char} (h : ∀ c ∈ front, c ≠ mark) (rest : List Char) :
    (front ++ rest).dropWhile (· ≠ mark) = rest.dropWhile (· ≠ mark) :=
  List.dropWhile_append_of_pos fun c hc => decide_eq_true (h c hc)

theorem takeWhile_ne_eq_self_iff {cs : List Char} :
    cs.takeWhile (· ≠ mark) = cs ↔ ∀ c ∈ cs, c ≠ mark := by
  rw [List.takeWhile_eq_self_iff]
  simp only [decide_eq_true_eq]

end Mark

/-! ## Parsing -/

/-- Host and port as they stand in a URL, and how they are told apart from other servers. -/
structure Origin (secure : Bool) (origin : List Char) (authority : String) : Prop where
  visible : ∀ c ∈ origin, 0x20 < c.toNat
  inner : ∀ c ∈ origin, isSlash c = false ∧ c ≠ '?' ∧ c ≠ '#'
  authority : authority? secure origin = some authority

section Origin

variable {secure : Bool} {origin : List Char} {authority : String}

theorem Origin.ne_nil (h : Origin secure origin authority) : origin ≠ [] := by
  rintro rfl
  have hnone : authority? secure [] = none := by cases secure <;> decide +kernel
  have := h.authority
  rw [hnone] at this
  cases this

/-- Host and port end where the path starts. -/
theorem Origin.ends (h : Origin secure origin authority) (rest : List Char) :
    (origin ++ '/' :: rest).takeWhile (fun c => !(isSlash c || c == '?')) = origin ∧
      (origin ++ '/' :: rest).dropWhile (fun c => !(isSlash c || c == '?')) = '/' :: rest := by
  have hend : ∀ c ∈ origin, (!(isSlash c || c == '?')) = true := by
    intro c hc
    obtain ⟨hslash, hquery, -⟩ := h.inner c hc
    simp [hslash, hquery]
  constructor
  · rw [List.takeWhile_append_of_pos hend, List.takeWhile_cons_of_neg (by decide), List.append_nil]
  · rw [List.dropWhile_append_of_pos hend, List.dropWhile_cons_of_neg (by decide)]

/-- What a URL says behind its first question mark. -/
def queryOf (cs : List Char) : Option String :=
  match cs.dropWhile (· ≠ '?') with
  | [] => none
  | _ :: query => some (String.ofList (encode isQueryChar query))

/-- A path behind host and port. -/
theorem parse?_origin (h : Origin secure origin authority) (cs : List Char) :
    parse? (String.ofList (schemeOf secure ++ "://".toList ++ (origin ++ '/' :: cs))) =
      let counts := (trailing cs).takeWhile (· ≠ '#')
      some { secure, authority, query := queryOf counts,
             path := String.ofList
              (slashed (walk [] (segments (counts.takeWhile (· ≠ '?')))).reverse) } := by
  have hvisible : ∀ c ∈ schemeOf secure ++ "://".toList ++ (origin ++ ['/']), 0x20 < c.toNat := by
    simp only [List.forall_mem_append]
    exact ⟨⟨by cases secure <;> simp [schemeOf], by simp⟩, h.visible, by simp⟩
  have hclean : clean (schemeOf secure ++ "://".toList ++ (origin ++ '/' :: cs)) =
      schemeOf secure ++ "://".toList ++ (origin ++ '/' :: trailing cs) := by
    rw [List.append_cons origin, ← List.append_assoc, clean_append (by simp) hvisible]
    simp
  have hscheme (rest : List Char) :
      scheme? (schemeOf secure ++ "://".toList ++ rest) = some (secure, '/' :: '/' :: rest) := by
    cases secure <;> rfl
  have hslashes (rest : List Char) :
      ('/' :: '/' :: (origin ++ rest)).dropWhile isSlash = origin ++ rest := by
    obtain ⟨c, others, rfl⟩ := List.exists_cons_of_ne_nil h.ne_nil
    have hc := (h.inner c List.mem_cons_self).1
    rw [List.dropWhile_cons_of_pos rfl, List.dropWhile_cons_of_pos rfl, List.cons_append,
      List.dropWhile_cons_of_neg (by simp [hc])]
  have hhash (rest : List Char) : (origin ++ '/' :: rest).takeWhile (· ≠ '#') =
      origin ++ '/' :: rest.takeWhile (· ≠ '#') := by
    rw [takeWhile_ne_append fun c hc => (h.inner c hc).2.2, List.takeWhile_cons_of_pos (by decide)]
  simp only [parse?, String.toList_ofList, hclean, hscheme, hslashes,
    hhash, h.ends, h.authority, Option.bind_eq_bind, Option.bind_some]
  rfl

end Origin

end VlanBinding.Http.Url
