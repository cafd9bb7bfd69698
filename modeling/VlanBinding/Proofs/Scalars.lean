import Mathlib.Data.List.TakeWhile
import VlanBinding.Yaml.Printer
import VlanBinding.Yaml.Scalar

/-!
Texts as scalars, and back. A text is words with blanks between them, which is how both kinds of
scalar are read: word after word.
Main statements: a scalar in quotes reads back, and so does a text that needs none, up to the colon
behind a key or to the end of its line.
-/

namespace VlanBinding.Yaml

open VlanBinding.Text

/-! ## Places on a line -/

namespace Cursor

/-- The place so many characters further on the line, with this text ahead. -/
def onLine (c : Cursor) (width : Nat) (rest : List Char) : Cursor :=
  ⟨rest, c.index + width, c.line, c.column + width⟩

/-- The place behind the indentation of the next line, with this text ahead. -/
def onNextLine (c : Cursor) (level : Nat) (rest : List Char) : Cursor :=
  ⟨rest, c.index + 1 + 2 * level, c.line + 1, 2 * level⟩

variable {c : Cursor} {x : Char} {cs rest : List Char} {m n : Nat}

@[simp] theorem onLine_rest : (c.onLine n rest).rest = rest := rfl

@[simp] theorem onLine_column : (c.onLine n rest).column = c.column + n := rfl

@[simp] theorem onLine_onLine {more : List Char} :
    (c.onLine m rest).onLine n more = c.onLine (m + n) more := by
  simp [onLine, Nat.add_assoc]

theorem onLine_zero (h : c.rest = rest) : c.onLine 0 rest = c := by
  rw [← h]
  rfl

theorem advance_of_cons (h : c.rest = x :: rest) (hx : x ≠ '\n') :
    c.advance = c.onLine 1 rest := by
  simp [advance, h, hx, onLine]

theorem advanceBy_of_append (h : c.rest = cs ++ rest) (hcs : '\n' ∉ cs) :
    advanceBy cs.length c = c.onLine cs.length rest := by
  induction cs generalizing c with
  | nil => exact (onLine_zero h).symm
  | cons x cs ih =>
      rw [List.mem_cons, not_or] at hcs
      rw [List.length_cons, advanceBy, advance_of_cons h (Ne.symm hcs.1), ih rfl hcs.2,
        onLine_onLine, Nat.add_comm]

/-- Without a null character nothing is cut off. -/
theorem start_rest {text : String} (h : '\x00' ∉ text.toList) :
    (start text).rest = text.toList := by
  apply List.takeWhile_eq_self_iff.mpr
  intro x hx
  exact decide_eq_true (ne_of_mem_of_not_mem hx h)

theorem not_atMarker_of_ne (c : Cursor) (h : c.rest = x :: rest) {y : Char} (hx : x ≠ y) :
    c.atMarker y = false := by
  have hy : (x == y) = false := beq_eq_false_iff_ne.mpr hx
  simp only [atMarker, h]
  split
  · rename_i hcons
    cases hcons
    simp [hy]
  · rfl

/-- A document starts and ends at the start of a line. -/
theorem not_atMarker_of_column (c : Cursor) {y : Char} (h : c.column ≠ 0) :
    c.atMarker y = false := by
  obtain ⟨rest, index, line, _ | column⟩ := c
  · exact absurd rfl h
  · rfl

theorem not_atDocumentMarker_of_column (h : c.column ≠ 0) : c.atDocumentMarker = false := by
  rw [atDocumentMarker, c.not_atMarker_of_column h, c.not_atMarker_of_column h]
  rfl

end Cursor

/-! ## Gaps -/

/-- Text that no gap goes on with: it starts with neither a blank nor a line break. -/
def EndsGap (cs : List Char) : Prop :=
  ∀ x rest, cs = x :: rest → isSpace x = false ∧ isBreak x = false

theorem endsGap_cons {x : Char} {rest : List Char} :
    EndsGap (x :: rest) ↔ isSpace x = false ∧ isBreak x = false := by
  constructor
  · intro h
    exact h x rest rfl
  · intro h y more hsame
    cases hsame
    exact h

section Gaps

variable {c : Cursor} {rest : List Char} {indent : Int} {gap : Gap}

theorem readGap?_of_endsGap (hrest : EndsGap c.rest) (fuel : Nat) :
    readGap? fuel indent gap c = some (gap, c) := by
  cases fuel with
  | zero => rfl
  | succ fuel =>
      rw [readGap?]
      cases hc : c.rest with
      | nil => rfl
      | cons x more =>
          obtain ⟨hspace, hbreak⟩ := hrest x more hc
          simp [hspace, hbreak]

/-- The gap with so many blanks behind it. -/
def Gap.addBlanks (n : Nat) : Gap → Gap
  | blanks text => blanks (text ++ List.replicate n ' ')
  | gap => gap

theorem Gap.addBlanks_zero (gap : Gap) : gap.addBlanks 0 = gap := by
  cases gap <;> simp [addBlanks]

theorem Gap.addBlanks_addBlank (n : Nat) (gap : Gap) :
    (gap.addBlank ' ').addBlanks n = gap.addBlanks (n + 1) := by
  cases gap <;> simp [addBlanks, addBlank, List.replicate_succ]

theorem readGap?_blanks (n : Nat) {fuel : Nat} (hfuel : n ≤ fuel)
    (hc : c.rest = List.replicate n ' ' ++ rest) (hrest : EndsGap rest) :
    readGap? fuel indent gap c = some (gap.addBlanks n, c.onLine n rest) := by
  induction n generalizing c fuel gap with
  | zero =>
      have hc : c.rest = rest := hc
      rw [gap.addBlanks_zero, Cursor.onLine_zero hc]
      refine readGap?_of_endsGap ?_ fuel
      rwa [hc]
  | succ n ih =>
      obtain ⟨fuel, rfl⟩ : ∃ m, fuel = m + 1 := ⟨fuel - 1, by omega⟩
      rw [List.replicate_succ, List.cons_append] at hc
      have hspace : isSpace ' ' = true := rfl
      have htab : (' ' == '\t') = false := rfl
      rw [readGap?, hc]
      simp only [hspace, htab, Bool.and_false, Bool.false_eq_true, ↓reduceIte]
      rw [Cursor.advance_of_cons hc (by decide), ih (by omega) rfl, Cursor.onLine_onLine,
        gap.addBlanks_addBlank, Nat.add_comm 1 n]

/-- One line ends, and the next one is indented. -/
theorem readGap?_newLine (level : Nat) {fuel : Nat} (hfuel : 2 * level < fuel)
    (hc : c.rest = newLine level ++ rest) (hrest : EndsGap rest) :
    readGap? fuel indent (.blanks []) c = some (.folded 1, c.onNextLine level rest) := by
  obtain ⟨fuel, rfl⟩ : ∃ m, fuel = m + 1 := ⟨fuel - 1, by omega⟩
  have hspace : isSpace '\n' = false := rfl
  have hbreak : isBreak '\n' = true := rfl
  have hskip : c.skipBreak =
      ⟨List.replicate (2 * level) ' ' ++ rest, c.index + 1, c.line + 1, 0⟩ := by
    simp [Cursor.skipBreak, Cursor.advance, hc, newLine, hbreak]
  rw [readGap?, hc]
  simp only [newLine, List.cons_append, hspace, hbreak, Bool.false_eq_true, ↓reduceIte]
  rw [hskip, readGap?_blanks (2 * level) (by omega) rfl hrest]
  simp [Gap.addBreak, Gap.addBlanks, Cursor.onLine, Cursor.onNextLine]

end Gaps

/-! ## Words -/

/-- Words with blanks between them. Words may be empty where there is nothing between blanks and
the ends of a text. -/
inductive Words : List Char → Prop
  | last (word : List Char) (hword : ' ' ∉ word) : Words word
  | gap (word : List Char) (hword : ' ' ∉ word) (n : Nat) (rest : List Char)
      (hrest : rest.head? ≠ some ' ') (h : Words rest) :
      Words (word ++ List.replicate (n + 1) ' ' ++ rest)

theorem Words.cons_blank {cs : List Char} (h : Words cs) : Words (' ' :: cs) := by
  cases h with
  | last _ hword =>
      refine .gap [] List.not_mem_nil 0 cs ?_ (.last cs hword)
      cases cs with
      | nil => simp
      | cons x word =>
          intro hx
          cases hx
          exact hword List.mem_cons_self
  | gap word hword n rest hrest h =>
      cases word with
      | nil => exact .gap [] List.not_mem_nil (n + 1) rest hrest h
      | cons x word =>
          refine .gap [] List.not_mem_nil 0 _ ?_ (.gap (x :: word) hword n rest hrest h)
          intro hx
          cases hx
          exact hword List.mem_cons_self

theorem words (cs : List Char) : Words cs := by
  induction cs with
  | nil => exact .last [] List.not_mem_nil
  | cons x cs ih =>
      by_cases hx : x = ' '
      · rw [hx]
        exact ih.cons_blank
      · cases ih with
        | last _ hword => exact .last (x :: cs) (by simp [hword, Ne.symm hx])
        | gap word hword n rest hrest h =>
            exact .gap (x :: word) (by simp [hword, Ne.symm hx]) n rest hrest h

/-! ## Quoted scalars -/

theorem readEscape?_hex4 {n : Nat} (hn : n.isValidChar) (hsmall : n < 65536)
    (rest : List Char) : readEscape? ('u' :: (hex4 n ++ rest)) = some (Char.ofNat n, 6) := by
  have hwidth : escapeWidth? 'u' = some 4 := rfl
  have htake : (hex4 n ++ rest).take 4 = hex4 n := rfl
  have hlength : (hex4 n).length = 4 := rfl
  simp [readEscape?, hwidth, htake, hlength, hexNumber?_hex4 n hsmall, charOfNumber?, hn]

/-- Characters that end neither a line nor a text. -/
def Inner (c : Char) : Prop := c ≠ '\n' ∧ c ≠ '\x00'

theorem inner_hexDigit : ∀ n < 16, Inner (hexDigit n) := by
  unfold Inner
  decide

theorem inner_of_mem_hex4 {n : Nat} {c : Char} (hc : c ∈ hex4 n) : Inner c := by
  simp only [hex4, List.mem_cons, List.not_mem_nil, or_false] at hc
  rcases hc with rfl | rfl | rfl | rfl <;> exact inner_hexDigit _ (Nat.mod_lt _ (by decide))

/-- How a character stands between double quotes. -/
inductive Escaped (c : Char) : List Char → Prop
  /-- behind a backslash, with a mark that tells how -/
  | marked (mark : Char) (code : List Char) (hinner : ∀ x ∈ mark :: code, Inner x)
      (hbreak : isBreak mark = false)
      (hread : ∀ rest, readEscape? (mark :: (code ++ rest)) = some (c, code.length + 2)) :
      Escaped c ('\\' :: mark :: code)
  | itself (hinner : Inner c) (hquote : c ≠ '"') (hslash : c ≠ '\\')
      (hspace : isSpace c = false) (hbreak : isBreak c = false) : Escaped c [c]

theorem escaped_simple {c mark : Char} (hinner : Inner mark) (hbreak : isBreak mark = false)
    (hread : ∀ rest, readEscape? (mark :: rest) = some (c, 2)) :
    Escaped c ['\\', mark] :=
  .marked mark [] (by simpa using hinner) hbreak hread

theorem escaped_unitEscape {c : Char} (hc : c.toNat < 65536) :
    Escaped c (Json.unitEscape c.toNat) := by
  refine .marked 'u' _ ?_ rfl fun rest => ?_
  · intro x hx
    rcases List.mem_cons.mp hx with rfl | hx
    · exact ⟨by decide, by decide⟩
    · exact inner_of_mem_hex4 hx
  · have hvalid : c.toNat.isValidChar := c.valid
    rw [readEscape?_hex4 hvalid hc, Char.ofNat_toNat]
    rfl

/-- The characters with a mark of their own. -/
def markedChars : List Char := ['"', '\\', '\x08', '\x0c', '\n', '\r', '\t']

theorem escaped_of_marked {c : Char} (hc : c ∈ markedChars) : Escaped c (Json.escape false c) := by
  simp only [markedChars, List.mem_cons, List.not_mem_nil, or_false] at hc
  rcases hc with rfl | rfl | rfl | rfl | rfl | rfl | rfl <;>
    exact escaped_simple ⟨by decide, by decide⟩ rfl fun _ => rfl

/-- Every character but the blank is escaped, or stands for itself. -/
theorem escaped_escapeText {c : Char} (hc : c ≠ ' ') : Escaped c (escapeText c) := by
  rw [escapeText]
  split
  · rename_i h
    subst h
    exact escaped_unitEscape (c := '\x7f') (by decide)
  · by_cases hmarked : c ∈ markedChars
    · exact escaped_of_marked hmarked
    · simp only [markedChars, List.mem_cons, List.not_mem_nil, or_false, not_or] at hmarked
      obtain ⟨hquote, hslash, hback, hform, hfeed, hreturn, htab⟩ := hmarked
      rw [Json.escape, if_neg hquote, if_neg hslash, if_neg hback, if_neg hform, if_neg hfeed,
        if_neg hreturn, if_neg htab]
      split
      · rename_i hcontrol
        exact escaped_unitEscape (by omega)
      · rename_i hcontrol
        have hplain : (false && decide (0x7f < c.toNat)) = false := rfl
        have hnull : c ≠ '\x00' := by
          rintro rfl
          exact hcontrol (by decide)
        rw [hplain, if_neg Bool.false_ne_true]
        exact .itself ⟨hfeed, hnull⟩ hquote hslash (by simp [isSpace, hc, htab])
          (by simp [isBreak, hfeed, hreturn])

theorem Escaped.inner {c : Char} {cs : List Char} (h : Escaped c cs) : ∀ x ∈ cs, Inner x := by
  intro x hx
  cases h with
  | marked mark code hinner hbreak hread =>
      rcases List.mem_cons.mp hx with rfl | hx
      · exact ⟨by decide, by decide⟩
      · exact hinner x hx
  | itself hinner hquote hslash hspace hbreak =>
      rw [List.mem_singleton.mp hx]
      exact hinner

theorem Escaped.length_pos {c : Char} {cs : List Char} (h : Escaped c cs) : 0 < cs.length := by
  cases h <;> exact Nat.succ_pos _

theorem Escaped.endsGap {c : Char} {cs : List Char} (h : Escaped c cs) (rest : List Char) :
    EndsGap (cs ++ rest) := by
  cases h with
  | marked mark code hinner hbreak hread => exact endsGap_cons.mpr ⟨rfl, rfl⟩
  | itself hinner hquote hslash hspace hbreak => exact endsGap_cons.mpr ⟨hspace, hbreak⟩

/-- A blank is read in a gap, and everything else as a character. -/
theorem escapeText_blank : escapeText ' ' = [' '] := rfl

theorem inner_of_mem_escapeText {c x : Char} (hx : x ∈ escapeText c) : Inner x := by
  by_cases hc : c = ' '
  · rw [hc, escapeText_blank] at hx
    rw [List.mem_singleton.mp hx]
    exact ⟨by decide, by decide⟩
  · exact (escaped_escapeText hc).inner x hx

theorem length_le_flatMap_escapeText (cs : List Char) :
    cs.length ≤ (cs.flatMap escapeText).length := by
  induction cs with
  | nil => exact Nat.le_refl 0
  | cons c cs ih =>
      have hpos : 0 < (escapeText c).length := by
        by_cases hc : c = ' '
        · rw [hc]
          decide
        · exact (escaped_escapeText hc).length_pos
      rw [List.flatMap_cons, List.length_append, List.length_cons]
      omega

theorem flatMap_escapeText_blanks (n : Nat) :
    (List.replicate n ' ').flatMap escapeText = List.replicate n ' ' := by
  induction n with
  | zero => rfl
  | succ n ih =>
      rw [List.replicate_succ, List.flatMap_cons, ih, escapeText_blank, List.singleton_append]

/-- A gap ends where a character or the closing quote follows. -/
theorem endsGap_flatMap_escapeText {cs : List Char} (hcs : cs.head? ≠ some ' ')
    (rest : List Char) : EndsGap (cs.flatMap escapeText ++ '"' :: rest) := by
  cases cs with
  | nil => exact endsGap_cons.mpr ⟨rfl, rfl⟩
  | cons c cs =>
      have hc : c ≠ ' ' := by
        rintro rfl
        exact hcs rfl
      rw [List.flatMap_cons, List.append_assoc]
      exact (escaped_escapeText hc).endsGap _

section Quoted

variable {c : Cursor} {text rest : List Char}

/-- A character is read back. -/
theorem quotedRun?_escapeText {x : Char} (hx : x ≠ ' ') (fuel : Nat)
    (hc : c.rest = escapeText x ++ rest) :
    quotedRun? false (fuel + 1) ⟨text, c⟩ =
      quotedRun? false fuel ⟨text ++ [x], c.onLine (escapeText x).length rest⟩ := by
  have hescaped := escaped_escapeText hx
  generalize escapeText x = written at hc hescaped
  have hadvance := Cursor.advanceBy_of_append hc fun hmem => (hescaped.inner _ hmem).1 rfl
  cases hescaped with
  | marked mark code hinner hbreak hread =>
      have hspace : isSpace '\\' = false := rfl
      have hslash : isBreak '\\' = false := rfl
      rw [quotedRun?, hc]
      simp only [List.cons_append, List.head?_cons, Option.any_some, hspace, hslash, hbreak,
        hread rest, Bool.or_self, Bool.false_eq_true, ↓reduceIte, Char.reduceEq]
      rw [← hadvance]
      rfl
  | itself hinner hquote hslash hspace hbreak =>
      rw [quotedRun?, hc]
      simp only [List.singleton_append, hspace, hbreak, hquote, hslash, Bool.or_self,
        Bool.false_eq_true, ↓reduceIte]
      rw [← hadvance]
      rfl

theorem quotedRun?_word {word : List Char} (hword : ' ' ∉ word) (fuel : Nat)
    (hc : c.rest = word.flatMap escapeText ++ rest) :
    quotedRun? false (fuel + word.length) ⟨text, c⟩ =
      quotedRun? false fuel ⟨text ++ word, c.onLine (word.flatMap escapeText).length rest⟩ := by
  induction word generalizing c text with
  | nil =>
      have hc : c.rest = rest := hc
      simp [Cursor.onLine_zero hc]
  | cons x word ih =>
      rw [List.mem_cons, not_or] at hword
      rw [List.flatMap_cons, List.append_assoc] at hc
      rw [List.length_cons, ← Nat.add_assoc, quotedRun?_escapeText (Ne.symm hword.1) _ hc,
        ih hword.2 rfl, Cursor.onLine_onLine]
      simp

/-- A run ends at a blank and at the closing quote. -/
theorem quotedRun?_end {x : Char} (hx : x = ' ' ∨ x = '"') {fuel : Nat} (hfuel : 0 < fuel)
    (hc : c.rest = x :: rest) :
    quotedRun? false fuel ⟨text, c⟩ = some (⟨text, c⟩, false) := by
  obtain ⟨fuel, rfl⟩ : ∃ m, fuel = m + 1 := ⟨fuel - 1, by omega⟩
  rw [quotedRun?, hc]
  rcases hx with rfl | rfl
  · rfl
  · rfl

/-- A word is read back, and then the closing quote or a gap. -/
theorem readQuoted?_word {word : List Char} (hword : ' ' ∉ word) {x : Char}
    (hx : x = ' ' ∨ x = '"') (fuel : Nat) (hcolumn : c.column ≠ 0)
    (hc : c.rest = word.flatMap escapeText ++ x :: rest) :
    let stop := c.onLine (word.flatMap escapeText).length (x :: rest)
    readQuoted? false (fuel + 1) ⟨text, c⟩ =
      if x = '"' then some ⟨text ++ word, stop.onLine 1 rest⟩
      else
        (readGap? (rest.length + 2) 0 (.blanks []) stop).bind fun found =>
          readQuoted? false fuel ⟨text ++ word ++ found.1.text, found.2⟩ := by
  intro stop
  have hmarker := Cursor.not_atDocumentMarker_of_column hcolumn
  have hnonempty : c.rest.isEmpty = false := by simp [hc]
  have hwidth : word.length ≤ c.rest.length := by
    have hlength := length_le_flatMap_escapeText word
    rw [hc, List.length_append]
    omega
  obtain ⟨k, hk⟩ : ∃ k, c.rest.length + 1 = k + 1 + word.length :=
    ⟨c.rest.length - word.length, by omega⟩
  have hrun : quotedRun? false (c.rest.length + 1) ⟨text, c⟩ =
      some (⟨text ++ word, stop⟩, false) := by
    rw [hk, quotedRun?_word hword _ hc, quotedRun?_end hx (Nat.succ_pos k) rfl]
  rw [readQuoted?, hmarker, hnonempty, hrun]
  rcases hx with rfl | rfl
  · have hquote : ((' ' : Char) = '"') = False := by simp
    simp only [stop, Cursor.onLine_rest, List.head?_cons, Option.some.injEq, hquote,
      Bool.or_self, Bool.false_eq_true, ↓reduceIte, List.length_cons]
    cases readGap? (rest.length + 1 + 1) 0 (.blanks [])
      (c.onLine (word.flatMap escapeText).length (' ' :: rest)) <;> rfl
  · simp only [stop, Cursor.onLine_rest, List.head?_cons, Bool.or_self, Bool.false_eq_true,
      ↓reduceIte]
    rw [Cursor.advance_of_cons Cursor.onLine_rest (by decide)]

/-- Up to the closing quote, words and the blanks between them are read back. -/
theorem readQuoted?_words {cs : List Char} (hcs : Words cs) {fuel : Nat} (hfuel : cs.length < fuel)
    (hcolumn : c.column ≠ 0) (hc : c.rest = cs.flatMap escapeText ++ '"' :: rest) :
    readQuoted? false fuel ⟨text, c⟩ =
      some ⟨text ++ cs, c.onLine ((cs.flatMap escapeText).length + 1) rest⟩ := by
  induction hcs generalizing c text fuel with
  | last word hword =>
      obtain ⟨fuel, rfl⟩ : ∃ m, fuel = m + 1 := ⟨fuel - 1, by omega⟩
      rw [readQuoted?_word hword (Or.inr rfl) fuel hcolumn hc, if_pos rfl, Cursor.onLine_onLine]
  | gap word hword n more hmore hwords ih =>
      obtain ⟨fuel, rfl⟩ : ∃ m, fuel = m + 1 := ⟨fuel - 1, by omega⟩
      simp only [List.length_append, List.length_replicate] at hfuel
      simp only [List.flatMap_append, flatMap_escapeText_blanks, List.append_assoc] at hc
      have hends := endsGap_flatMap_escapeText hmore rest
      have hgap : ∀ stop : Cursor, stop.rest = List.replicate (n + 1) ' ' ++
          (more.flatMap escapeText ++ '"' :: rest) → ∀ width, n + 1 ≤ width →
          readGap? width 0 (.blanks []) stop = some (.blanks (List.replicate (n + 1) ' '),
            stop.onLine (n + 1) (more.flatMap escapeText ++ '"' :: rest)) :=
        fun stop hstop width hwidth => readGap?_blanks (n + 1) hwidth hstop hends
      rw [readQuoted?_word hword (Or.inl rfl) fuel hcolumn hc, if_neg (by decide), hgap _ rfl _
        (by simp; omega), Option.bind_some, ih (by omega) (by simp) rfl]
      simp [List.flatMap_append, flatMap_escapeText_blanks, Gap.text, Nat.add_assoc]

theorem readQuoted?_flatMap {cs : List Char} (hcolumn : c.column ≠ 0)
    (hc : c.rest = cs.flatMap escapeText ++ '"' :: rest) :
    readQuoted? false (c.rest.length + 1) ⟨[], c⟩ =
      some ⟨cs, c.onLine ((cs.flatMap escapeText).length + 1) rest⟩ := by
  have hlength := length_le_flatMap_escapeText cs
  have hfuel : cs.length < c.rest.length + 1 := by
    rw [hc, List.length_append]
    omega
  exact readQuoted?_words (words cs) hfuel hcolumn hc

end Quoted

/-! ## Plain scalars -/

/-- Words that can stand without quotes, and blanks only between them. -/
structure Unquoted (cs : List Char) : Prop where
  nonempty : cs ≠ []
  head : cs.head? ≠ some ' '
  last : cs.getLast? ≠ some ' '
  held : ∀ c ∈ cs, forcesQuotes c = false

/-- Text that can stand without quotes. -/
structure Bare (cs : List Char) : Prop extends Unquoted cs where
  starts : cs.head?.any startsQuoted = false

theorem bare_of_needsQuotes {text : String} (h : needsQuotes text = false) :
    Bare text.toList := by
  simp only [needsQuotes, Bool.or_eq_false_iff, List.isEmpty_eq_false_iff, List.any_eq_false,
    beq_eq_false_iff_ne, Bool.not_eq_true] at h
  obtain ⟨⟨⟨⟨⟨⟨⟨hnonempty, hhead⟩, hlast⟩, hstarts⟩, hheld⟩, -⟩, -⟩, -⟩ := h
  exact ⟨⟨hnonempty, hhead, hlast, hheld⟩, hstarts⟩

theorem ne_of_forcesQuotes {c x : Char} (hc : forcesQuotes c = false)
    (hx : forcesQuotes x = true) : c ≠ x := by
  rintro rfl
  rw [hc] at hx
  cases hx

theorem isSpace_of_forcesQuotes {c : Char} (hc : forcesQuotes c = false) (hblank : c ≠ ' ') :
    isSpace c = false := by
  simp [isSpace, hblank, ne_of_forcesQuotes hc (x := '\t') (by decide)]

theorem isBreak_of_forcesQuotes {c : Char} (hc : forcesQuotes c = false) : isBreak c = false := by
  simp [isBreak, ne_of_forcesQuotes hc (x := '\n') (by decide),
    ne_of_forcesQuotes hc (x := '\r') (by decide)]

namespace Unquoted

variable {cs word rest : List Char} {n : Nat}

theorem endsGap (h : Unquoted cs) (rest : List Char) : EndsGap (cs ++ rest) := by
  obtain ⟨x, more, rfl⟩ := List.exists_cons_of_ne_nil h.nonempty
  have hx := h.held x List.mem_cons_self
  have hblank : x ≠ ' ' := by
    rintro rfl
    exact h.head rfl
  exact endsGap_cons.mpr ⟨isSpace_of_forcesQuotes hx hblank, isBreak_of_forcesQuotes hx⟩

/-- There is a word in front of a gap. -/
theorem word_ne_nil (h : Unquoted (word ++ List.replicate (n + 1) ' ' ++ rest)) : word ≠ [] := by
  rintro rfl
  exact h.head rfl

/-- There are further words behind a gap. -/
theorem of_gap (h : Unquoted (word ++ List.replicate (n + 1) ' ' ++ rest))
    (hrest : rest.head? ≠ some ' ') : Unquoted rest := by
  have hnonempty : rest ≠ [] := by
    rintro rfl
    exact h.last (by simp [List.replicate_succ'])
  have hlast := h.last
  rw [List.getLast?_append, List.getLast?_eq_some_getLast hnonempty, Option.some_or,
    ← List.getLast?_eq_some_getLast hnonempty] at hlast
  exact ⟨hnonempty, hrest, hlast, fun c hc => h.held c (List.mem_append_right _ hc)⟩

end Unquoted

/-- What ends a plain scalar in a block: a colon, or a line break if the next line is not indented
enough. Gives the gap behind the scalar and where it ends. -/
inductive PlainEnd (indent : Int) (c : Cursor) : Gap → Cursor → Prop
  | colon (rest : List Char) (hrest : endsWord rest = true) (hc : c.rest = ':' :: rest) :
      PlainEnd indent c (.blanks []) c
  | line (level : Nat) (rest : List Char) (hrest : EndsGap rest)
      (hc : c.rest = newLine level ++ rest) (hindent : (2 * level : Nat) < indent) :
      PlainEnd indent c (.folded 1) (c.onNextLine level rest)

section Plain

variable {c : Cursor} {text rest : List Char} {indent : Int}

theorem plainRun_word {word : List Char} (hword : ' ' ∉ word)
    (hheld : ∀ c ∈ word, forcesQuotes c = false) (hrest : plainRun false rest = []) :
    plainRun false (word ++ rest) = word := by
  induction word with
  | nil => exact hrest
  | cons x word ih =>
      rw [List.mem_cons, not_or] at hword
      have hx := hheld x List.mem_cons_self
      have hspace := isSpace_of_forcesQuotes hx (Ne.symm hword.1)
      have hbreak := isBreak_of_forcesQuotes hx
      have hcolon : (x == ':') = false := by
        simp [ne_of_forcesQuotes hx (x := ':') (by decide)]
      rw [List.cons_append, plainRun, hspace, hbreak, hcolon,
        ih hword.2 fun c hc => hheld c (List.mem_cons_of_mem _ hc)]
      rfl

/-- A word is read back, and then the gap behind it if there is one. -/
theorem readPlain?_word {word : List Char} (hword : ' ' ∉ word)
    (hheld : ∀ c ∈ word, forcesQuotes c = false) (hnonempty : word ≠ []) {x : Char}
    (hx : plainRun false (x :: rest) = []) (fuel : Nat) (hmarker : c.atDocumentMarker = false)
    (blanks : List Char) (hc : c.rest = word ++ x :: rest) :
    let stop := c.onLine word.length (x :: rest)
    let read := text ++ blanks ++ word
    readPlain? false indent (fuel + 1) ⟨text, .blanks blanks, c⟩ =
      if !(isSpace x || isBreak x) then some ⟨read, .blanks [], stop⟩
      else
        (readGap? (rest.length + 2) indent (.blanks []) stop).bind fun found =>
          if (found.2.column : Int) < indent then some ⟨read, found.1, found.2⟩
          else readPlain? false indent fuel ⟨read, found.1, found.2⟩ := by
  intro stop read
  have hrun : plainRun false c.rest = word := by
    rw [hc]
    exact plainRun_word hword hheld hx
  have hcomment : (c.rest.head? == some '#') = false := by
    obtain ⟨y, more, rfl⟩ := List.exists_cons_of_ne_nil hnonempty
    have hy := ne_of_forcesQuotes (hheld y List.mem_cons_self) (x := '#') (by decide)
    simp [hc, hy]
  have hline : '\n' ∉ word := by
    intro hmem
    exact ne_of_forcesQuotes (hheld _ hmem) (x := '\n') (by decide) rfl
  have hsome : word.isEmpty = false := List.isEmpty_eq_false_iff.mpr hnonempty
  rw [readPlain?]
  simp only [hmarker, hcomment, hrun, hsome, Bool.or_self, Bool.false_eq_true, ↓reduceIte,
    Cursor.advanceBy_of_append hc hline, Cursor.onLine_rest, Gap.text, Bool.not_false,
    Bool.true_and, decide_eq_true_eq]
  split
  · rfl
  · cases readGap? ((x :: rest).length + 1) indent (.blanks []) stop <;> rfl

/-- The last word is read back up to what ends the scalar. -/
theorem readPlain?_last {word : List Char} (hword : ' ' ∉ word)
    (hheld : ∀ c ∈ word, forcesQuotes c = false) (hnonempty : word ≠ []) (fuel : Nat)
    (hmarker : c.atDocumentMarker = false) (blanks : List Char) (hc : c.rest = word ++ rest)
    {gap : Gap} {after : Cursor} (hend : PlainEnd indent (c.onLine word.length rest) gap after) :
    readPlain? false indent (fuel + 1) ⟨text, .blanks blanks, c⟩ =
      some ⟨text ++ blanks ++ word, gap, after⟩ := by
  cases hend with
  | colon more hmore hrest =>
      obtain rfl : rest = ':' :: more := hrest
      have hstop : plainRun false (':' :: more) = [] := by simp [plainRun, hmore]
      rw [readPlain?_word hword hheld hnonempty hstop fuel hmarker blanks hc]
      rfl
  | line level more hmore hrest hindent =>
      obtain rfl : rest = '\n' :: (List.replicate (2 * level) ' ' ++ more) := hrest
      have hgap : ∀ stop : Cursor, stop.rest = newLine level ++ more →
          readGap? ((List.replicate (2 * level) ' ' ++ more).length + 2) indent (.blanks []) stop =
            some (.folded 1, stop.onNextLine level more) := by
        intro stop hstop
        exact readGap?_newLine level (by simp; omega) hstop hmore
      have hbreak : isBreak '\n' = true := rfl
      rw [readPlain?_word hword hheld hnonempty rfl fuel hmarker blanks hc]
      simp only [hbreak, Bool.or_true, Bool.not_true, Bool.false_eq_true, ↓reduceIte]
      rw [hgap _ rfl, Option.bind_some]
      exact if_pos hindent

/-- A word is read back together with the blanks behind it. -/
theorem readPlain?_gap {word : List Char} (hword : ' ' ∉ word)
    (hheld : ∀ c ∈ word, forcesQuotes c = false) (hnonempty : word ≠ []) (n fuel : Nat)
    (hrest : EndsGap rest) (hmarker : c.atDocumentMarker = false)
    (hindent : indent ≤ (c.column + 1 : Nat)) (blanks : List Char)
    (hc : c.rest = word ++ (List.replicate (n + 1) ' ' ++ rest)) :
    readPlain? false indent (fuel + 1) ⟨text, .blanks blanks, c⟩ =
      readPlain? false indent fuel ⟨text ++ blanks ++ word, .blanks (List.replicate (n + 1) ' '),
        c.onLine (word.length + (n + 1)) rest⟩ := by
  have hgap : ∀ stop : Cursor, stop.rest = List.replicate (n + 1) ' ' ++ rest →
      ∀ width, n + 1 ≤ width → readGap? width indent (.blanks []) stop =
        some (.blanks (List.replicate (n + 1) ' '), stop.onLine (n + 1) rest) :=
    fun stop hstop width hwidth => readGap?_blanks (n + 1) hwidth hstop hrest
  have hspace : isSpace ' ' = true := rfl
  have hlength := List.length_pos_iff.mpr hnonempty
  have hcolumn : ¬ ((c.column + (word.length + (n + 1)) : Nat) : Int) < indent := by omega
  rw [List.replicate_succ, List.cons_append] at hc
  rw [readPlain?_word hword hheld hnonempty rfl fuel hmarker blanks hc]
  simp only [hspace, Bool.true_or, Bool.not_true, Bool.false_eq_true, ↓reduceIte]
  rw [hgap _ rfl _ (by simp; omega), Option.bind_some, Cursor.onLine_onLine]
  exact if_neg hcolumn

/-- Words and the blanks between them are read back up to what ends the scalar. -/
theorem readPlain?_words {cs : List Char} (hcs : Words cs) (hplain : Unquoted cs) {fuel : Nat}
    (hfuel : cs.length < fuel) (hmarker : c.atDocumentMarker = false)
    (hindent : indent ≤ (c.column + 1 : Nat)) (blanks : List Char) (hc : c.rest = cs ++ rest)
    {gap : Gap} {after : Cursor} (hend : PlainEnd indent (c.onLine cs.length rest) gap after) :
    readPlain? false indent fuel ⟨text, .blanks blanks, c⟩ =
      some ⟨text ++ blanks ++ cs, gap, after⟩ := by
  induction hcs generalizing c text fuel blanks with
  | last word hword =>
      obtain ⟨fuel, rfl⟩ : ∃ m, fuel = m + 1 := ⟨fuel - 1, by omega⟩
      exact readPlain?_last hword hplain.held hplain.nonempty fuel hmarker blanks hc hend
  | gap word hword n more hmore hwords ih =>
      obtain ⟨fuel, rfl⟩ : ∃ m, fuel = m + 1 := ⟨fuel - 1, by omega⟩
      have hheld : ∀ c ∈ word, forcesQuotes c = false := by
        intro c hmem
        exact hplain.held c (by simp [hmem])
      have hothers := hplain.of_gap hmore
      have hcolumn : indent ≤ ((c.column + (word.length + (n + 1)) + 1 : Nat) : Int) := by omega
      simp only [List.length_append, List.length_replicate] at hfuel hend
      rw [List.append_assoc, List.append_assoc] at hc
      rw [readPlain?_gap hword hheld hplain.word_ne_nil n fuel (hothers.endsGap rest) hmarker
        hindent blanks hc, ih hothers (by omega)
          (Cursor.not_atDocumentMarker_of_column (Nat.succ_ne_zero _)) hcolumn _ rfl]
      · simp
      · rwa [Cursor.onLine_onLine]

theorem readPlain?_bare {cs : List Char} (hcs : Bare cs)
    (hindent : indent ≤ (c.column + 1 : Nat)) (hc : c.rest = cs ++ rest) {gap : Gap}
    {after : Cursor} (hend : PlainEnd indent (c.onLine cs.length rest) gap after) :
    readPlain? false indent (c.rest.length + 1) ⟨[], .blanks [], c⟩ = some ⟨cs, gap, after⟩ := by
  have hmarker : c.atDocumentMarker = false := by
    obtain ⟨x, more, rfl⟩ := List.exists_cons_of_ne_nil hcs.nonempty
    have hx := hcs.starts
    rw [Cursor.atDocumentMarker, c.not_atMarker_of_ne hc, c.not_atMarker_of_ne hc]
    · rfl
    · rintro rfl
      cases hx
    · rintro rfl
      cases hx
  have hfuel : cs.length < c.rest.length + 1 := by
    rw [hc, List.length_append]
    omega
  exact readPlain?_words (words cs) hcs.toUnquoted hfuel hmarker hindent [] hc hend

end Plain

/-! ## Scalars as they are written -/

theorem scalar_length_pos (text : String) : 0 < (scalar text).length := by
  rw [scalar]
  split
  · exact Nat.succ_pos _
  · rename_i hplain
    exact List.length_pos_iff.mpr (bare_of_needsQuotes (Bool.eq_false_iff.mpr hplain)).nonempty

/-- A scalar that is written ends neither a line nor the text. -/
theorem inner_of_mem_scalar {text : String} {c : Char} (hc : c ∈ scalar text) : Inner c := by
  rw [scalar] at hc
  split at hc
  · simp only [List.cons_append, List.mem_cons, List.mem_append, List.mem_flatMap,
      List.not_mem_nil, or_false] at hc
    rcases hc with rfl | ⟨x, -, hx⟩ | rfl
    · exact ⟨by decide, by decide⟩
    · exact inner_of_mem_escapeText hx
    · exact ⟨by decide, by decide⟩
  · rename_i hplain
    have hheld := (bare_of_needsQuotes (Bool.eq_false_iff.mpr hplain)).held c hc
    exact ⟨ne_of_forcesQuotes hheld (by decide), ne_of_forcesQuotes hheld (by decide)⟩

end VlanBinding.Yaml
