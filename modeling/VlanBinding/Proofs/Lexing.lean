import VlanBinding.Proofs.Scalars
import VlanBinding.Yaml.Lexer

/-!
How the lexer gets through what the printer writes. Between two tokens it skips blanks, gives up
possible keys that are too far behind, and closes block collections; so what it does next depends on
the text from the next token on, on the column of that, and on the tokens and collections so far.
Main statements: a line is skipped up to its first token, and indicators, scalars and keys become
the tokens that they should.
-/

namespace VlanBinding.Yaml

/-! ## Texts that a token starts -/

/-- Text that starts with no blank, no line break and no comment. -/
structure Fresh (cs : List Char) : Prop where
  endsGap : EndsGap cs
  comment : cs.head? ≠ some '#'

theorem fresh_nil : Fresh [] where
  endsGap := by
    intro x rest hsame
    cases hsame
  comment := by simp

theorem fresh_cons {x : Char} (hspace : isSpace x = false) (hbreak : isBreak x = false)
    (hcomment : x ≠ '#') (rest : List Char) : Fresh (x :: rest) :=
  ⟨endsGap_cons.mpr ⟨hspace, hbreak⟩, by simpa using hcomment⟩

/-- A character that neither a blank, a line break, a comment nor a marker starts with. -/
structure Leading (x : Char) : Prop where
  space : isSpace x = false
  line : isBreak x = false
  comment : x ≠ '#'
  directive : x ≠ '%'
  dash : x ≠ '-'
  dot : x ≠ '.'

theorem leading_iff {x : Char} : Leading x ↔
    isSpace x = false ∧ isBreak x = false ∧ x ≠ '#' ∧ x ≠ '%' ∧ x ≠ '-' ∧ x ≠ '.' := by
  constructor
  · intro h
    exact ⟨h.space, h.line, h.comment, h.directive, h.dash, h.dot⟩
  · rintro ⟨hspace, hline, hcomment, hdirective, hdash, hdot⟩
    exact ⟨hspace, hline, hcomment, hdirective, hdash, hdot⟩

instance : DecidablePred Leading := fun _ => decidable_of_iff _ leading_iff.symm

section Leading

variable {x : Char} {rest : List Char} {c : Cursor}

theorem Leading.fresh (h : Leading x) (rest : List Char) : Fresh (x :: rest) :=
  fresh_cons h.space h.line h.comment rest

theorem Leading.fresh_rest (h : Leading x) (hc : c.rest = x :: rest) : Fresh c.rest :=
  hc ▸ h.fresh rest

theorem Leading.advanceBy_one (h : Leading x) (hc : c.rest = x :: rest) :
    c.advanceBy 1 = c.onLine 1 rest := by
  apply Cursor.advance_of_cons hc
  rintro rfl
  exact absurd h.line (by decide)

theorem leading_of_bare {cs more : List Char} (h : Bare cs) (hx : cs = x :: more) :
    Leading x := by
  have hheld := h.held x (by simp [hx])
  have hblank : x ≠ ' ' := by
    rintro rfl
    exact h.head (by simp [hx])
  have hstart : ∀ y, startsQuoted y = true → x ≠ y := by
    rintro y hy rfl
    have hstarts := h.starts
    rw [hx, List.head?_cons, Option.any_some, hy] at hstarts
    cases hstarts
  exact ⟨isSpace_of_forcesQuotes hheld hblank, isBreak_of_forcesQuotes hheld,
    ne_of_forcesQuotes hheld (by decide), hstart '%' (by decide), hstart '-' (by decide),
    hstart '.' (by decide)⟩

end Leading

theorem fresh_scalar (text : String) (rest : List Char) : Fresh (scalar text ++ rest) := by
  rw [scalar]
  split
  · exact fresh_cons rfl rfl (by decide) _
  · rename_i hplain
    have hbare := bare_of_needsQuotes (Bool.eq_false_iff.mpr hplain)
    obtain ⟨x, more, hx⟩ := List.exists_cons_of_ne_nil hbare.nonempty
    have hfresh := (leading_of_bare hbare hx).fresh (more ++ rest)
    rwa [hx]

namespace Lexer

variable {l m n : Lexer}

/-! ## Between tokens -/

section Skipping

variable {rest : List Char}

theorem skipBlanks_of_fresh (h : Fresh l.cursor.rest) (fuel : Nat) :
    skipBlanks fuel l = l := by
  cases fuel with
  | zero => rfl
  | succ fuel =>
      rw [skipBlanks]
      cases hrest : l.cursor.rest with
      | nil => rfl
      | cons x rest =>
          rw [hrest] at h
          obtain ⟨hspace, hbreak⟩ := endsGap_cons.mp h.endsGap
          have hblank : x ≠ ' ' := by
            rintro rfl
            cases hspace
          have htab : x ≠ '\t' := by
            rintro rfl
            cases hspace
          have hcomment : x ≠ '#' := by simpa using h.comment
          simp [hblank, htab, hbreak, hcomment]

theorem skipBlanks_blanks (width : Nat) {fuel : Nat} (hfuel : width ≤ fuel)
    (hl : l.cursor.rest = List.replicate width ' ' ++ rest) (hrest : Fresh rest) :
    skipBlanks fuel l = { l with cursor := l.cursor.onLine width rest } := by
  induction width generalizing l fuel with
  | zero =>
      have hl : l.cursor.rest = rest := hl
      rw [Cursor.onLine_zero hl]
      refine skipBlanks_of_fresh ?_ fuel
      rwa [hl]
  | succ width ih =>
      obtain ⟨fuel, rfl⟩ : ∃ m, fuel = m + 1 := ⟨fuel - 1, by omega⟩
      rw [List.replicate_succ, List.cons_append] at hl
      rw [skipBlanks, hl]
      simp only [true_or, ↓reduceIte]
      rw [Cursor.advance_of_cons hl (by decide), ih (by omega) rfl]
      simp [Nat.add_comm 1 width]

/-- A line break lets a key follow, unless it is in a flow collection. -/
theorem skipBlanks_newLine (level : Nat) {fuel : Nat} (hfuel : 2 * level < fuel)
    (hl : l.cursor.rest = newLine level ++ rest) (hrest : Fresh rest) :
    skipBlanks fuel l = { l with
      cursor := l.cursor.onNextLine level rest, keyAllowed := l.keyAllowed || !l.inFlow } := by
  obtain ⟨fuel, rfl⟩ : ∃ m, fuel = m + 1 := ⟨fuel - 1, by omega⟩
  have hbreak : isBreak '\n' = true := rfl
  have hskip : l.cursor.skipBreak =
      ⟨List.replicate (2 * level) ' ' ++ rest, l.cursor.index + 1, l.cursor.line + 1, 0⟩ := by
    simp [Cursor.skipBreak, Cursor.advance, hl, newLine, hbreak]
  rw [skipBlanks, hl]
  simp only [newLine, List.cons_append, Char.reduceEq, false_and, or_self, hbreak, ↓reduceIte]
  rw [skipBlanks_blanks (2 * level) (by omega) (congrArg Cursor.rest hskip) hrest, hskip]
  simp [Cursor.onLine, Cursor.onNextLine]

end Skipping

/-- What is done before a token: blanks are skipped, possible keys given up and block collections
closed. -/
def settle? (l : Lexer) : Option Lexer :=
  (skipBlanks (2 * l.cursor.rest.length + 2) l).staleKeys?.map fun l => l.closeTo l.cursor.column

/-- What is done after that: a marker or a token is read, unless the text is at its end. -/
def next? (l : Lexer) : Option (Lexer × Bool) :=
  match l.cursor.rest with
  | [] => (l.closeTo (-1)).dropKey?.map fun l => (l, true)
  | x :: rest =>
    (if l.cursor.column = 0 ∧ x = '%' then l.directive?
      else if l.cursor.atMarker '-' then l.documentMarker? .documentStart
      else if l.cursor.atMarker '.' then l.documentMarker? .documentEnd
      else l.token? x rest).map fun l => (l, false)

theorem step?_eq (l : Lexer) : l.step? = l.settle?.bind next? := by
  rw [step?, settle?]
  cases (skipBlanks (2 * l.cursor.rest.length + 2) l).staleKeys? with
  | none => rfl
  | some settled =>
      simp only [Option.map_some, Option.bind_eq_bind, Option.bind_some, next?]
      generalize settled.closeTo settled.cursor.column = l
      cases l.cursor.rest with
      | nil => cases (l.closeTo (-1)).dropKey? <;> rfl
      | cons x rest =>
          simp only [apply_ite (Option.map _), Option.map_eq_bind]
          rfl

/-- A step depends on what is there once it is settled. -/
theorem step?_congr (h : l.settle? = m.settle?) : l.step? = m.step? := by
  rw [step?_eq, step?_eq, h]

theorem step?_of_settle? (h : l.settle? = some l) : l.step? = l.next? := by
  rw [step?_eq, h]
  rfl

end Lexer

/-! ## Blocks -/

/-- The tokens so far, the last one first, and the columns of the block collections that are open:
of the innermost one and of those around it. -/
structure Blocks where
  tokens : List Token
  indent : Int
  indents : List Int

namespace Blocks

/-- With further tokens, in their order. -/
def emit (b : Blocks) (tokens : List Token) : Blocks :=
  { b with tokens := tokens.reverse ++ b.tokens }

/-- With a block collection at a column, which is opened if there is none yet. -/
def reach (b : Blocks) (column : Nat) (start : Token) : Blocks :=
  if (column : Int) ≤ b.indent then b
  else ⟨start :: b.tokens, column, b.indent :: b.indents⟩

variable {b : Blocks}

theorem emit_emit (first second : List Token) :
    (b.emit first).emit second = b.emit (first ++ second) := by
  simp [emit]

@[simp] theorem emit_indent (tokens : List Token) : (b.emit tokens).indent = b.indent := rfl

theorem reach_of_le {column : Nat} {start : Token} (h : (column : Int) ≤ b.indent) :
    b.reach column start = b :=
  if_pos h

theorem reach_of_lt {column : Nat} {start : Token} (h : b.indent < column) :
    b.reach column start = ⟨start :: b.tokens, column, b.indent :: b.indents⟩ :=
  if_neg (Int.not_le.mpr h)

theorem reach_indent {column : Nat} {start : Token} (h : b.indent ≤ column) :
    (b.reach column start).indent = column := by
  rw [reach]
  split
  · omega
  · rfl

end Blocks

namespace Lexer

variable {l m n : Lexer}

/-- A lexer outside flow collections. -/
def inBlock (b : Blocks) (c : Cursor) (key? : Option PossibleKey) (keyAllowed : Bool)
    (adjacentAt : Nat) : Lexer :=
  ⟨c, b.tokens, [key?], keyAllowed, b.indent, b.indents, 0, adjacentAt⟩

section Settling

variable {b : Blocks} {c : Cursor} {key? : Option PossibleKey} {keyAllowed : Bool}
variable {adjacentAt : Nat} {rest : List Char}

/-- A possible key that is given up on the next line. -/
def Passing (key? : Option PossibleKey) (line : Nat) : Prop :=
  ∀ key, key? = some key → key.required = false ∧ key.line ≤ line

theorem passing_none (line : Nat) : Passing none line := nofun

theorem staleKeys?_of_passing {line : Nat} (hkey : Passing key? line) (hline : line < c.line) :
    (inBlock b c key? keyAllowed adjacentAt).staleKeys? =
      some (inBlock b c none keyAllowed adjacentAt) := by
  cases key? with
  | none => rfl
  | some key =>
      obtain ⟨hrequired, hbefore⟩ := hkey key rfl
      have hstale : key.line < c.line := by omega
      simp [staleKeys?, inBlock, hstale, hrequired]

theorem staleKeys?_none :
    (inBlock b c none keyAllowed adjacentAt).staleKeys? =
      some (inBlock b c none keyAllowed adjacentAt) := rfl

theorem closeTo_of_le (h : b.indent ≤ c.column) :
    (inBlock b c key? keyAllowed adjacentAt).closeTo c.column =
      inBlock b c key? keyAllowed adjacentAt := by
  have hkept : ¬ ((c.column : Int) < b.indent) := by omega
  cases hindents : b.indents with
  | nil => simp [closeTo, inBlock, inFlow, hindents, closeBlocks]
  | cons outer rest => simp [closeTo, inBlock, inFlow, hindents, closeBlocks, hkept]

/-- Closing the innermost collection first makes no difference. -/
theorem closeTo_of_lt {tokens : List Token} {indent outer column : Int} {indents : List Int}
    (h : column < indent) :
    (inBlock ⟨tokens, indent, outer :: indents⟩ c key? keyAllowed adjacentAt).closeTo column =
      (inBlock ⟨.blockEnd :: tokens, outer, indents⟩ c key? keyAllowed adjacentAt).closeTo
        column := by
  simp [closeTo, inBlock, inFlow, closeBlocks, h, emit]

theorem settle?_of_skipBlanks {older : Option PossibleKey}
    (hskip : skipBlanks (2 * l.cursor.rest.length + 2) l = inBlock b c older keyAllowed adjacentAt)
    (hstale : (inBlock b c older keyAllowed adjacentAt).staleKeys? =
      some (inBlock b c key? keyAllowed adjacentAt)) :
    l.settle? = some ((inBlock b c key? keyAllowed adjacentAt).closeTo c.column) := by
  rw [settle?, hskip, hstale]
  rfl

/-- Where a token starts, nothing is skipped. -/
theorem settle?_of_fresh (hc : Fresh c.rest) :
    (inBlock b c none keyAllowed adjacentAt).settle? =
      some ((inBlock b c none keyAllowed adjacentAt).closeTo c.column) :=
  settle?_of_skipBlanks (skipBlanks_of_fresh hc _) staleKeys?_none

/-- A blank in front of a token is skipped. -/
theorem step?_blank (hc : c.rest = ' ' :: rest) (hrest : Fresh rest) :
    (inBlock b c none keyAllowed adjacentAt).step? =
      (inBlock b (c.onLine 1 rest) none keyAllowed adjacentAt).step? := by
  apply step?_congr
  rw [settle?_of_fresh (c := c.onLine 1 rest) hrest]
  exact settle?_of_skipBlanks (skipBlanks_blanks 1 (Nat.le_add_left 1 _) hc hrest) staleKeys?_none

/-- A line is skipped up to its first token, and possible keys do not outlast it. -/
theorem step?_newLine (level : Nat) (hc : c.rest = newLine level ++ rest) (hrest : Fresh rest)
    (hkey : Passing key? c.line) :
    (inBlock b c key? keyAllowed adjacentAt).step? =
      (inBlock b (c.onNextLine level rest) none true adjacentAt).step? := by
  apply step?_congr
  rw [settle?_of_fresh (c := c.onNextLine level rest) hrest]
  have hlength : 2 * level < 2 * c.rest.length + 2 := by
    rw [hc]
    simp [newLine]
    omega
  have hskip := skipBlanks_newLine (l := inBlock b c key? keyAllowed adjacentAt) level hlength hc
    hrest
  have hallowed : (keyAllowed || !(inBlock b c key? keyAllowed adjacentAt).inFlow) = true := by
    simp [inFlow, inBlock]
  refine settle?_of_skipBlanks (hskip.trans ?_)
    (staleKeys?_of_passing (c := c.onNextLine level rest) hkey (Nat.lt_succ_self c.line))
  change Lexer.mk _ _ _ (keyAllowed || _) _ _ _ _ = _
  rw [hallowed]
  rfl

/-- The next line may be reached already. -/
theorem step?_passed {line : Nat} (hc : Fresh c.rest) (hkey : Passing key? line)
    (hline : line < c.line) :
    (inBlock b c key? keyAllowed adjacentAt).step? =
      (inBlock b c none keyAllowed adjacentAt).step? := by
  apply step?_congr
  rw [settle?_of_fresh hc]
  exact settle?_of_skipBlanks (skipBlanks_of_fresh hc _) (staleKeys?_of_passing hkey hline)

/-- It makes no difference if the innermost collection is closed already that ends here. -/
theorem step?_close {tokens : List Token} {indent outer : Int} {indents : List Int}
    (hc : Fresh c.rest) (hcolumn : (c.column : Int) < indent) :
    (inBlock ⟨tokens, indent, outer :: indents⟩ c none keyAllowed adjacentAt).step? =
      (inBlock ⟨.blockEnd :: tokens, outer, indents⟩ c none keyAllowed adjacentAt).step? := by
  apply step?_congr
  rw [settle?_of_fresh hc, settle?_of_fresh hc, closeTo_of_lt hcolumn]

end Settling

/-! ## Steps -/

/-- Steps that take tokens, each of which gets on in the text. -/
inductive Leads : Lexer → Lexer → Prop
  | refl (l : Lexer) : Leads l l
  | step {l m n : Lexer} (hstep : l.step? = some (m, false))
      (hless : m.cursor.rest.length < l.cursor.rest.length) (h : Leads m n) : Leads l n

theorem Leads.trans (hlm : Leads l m) (hmn : Leads m n) : Leads l n := by
  induction hlm with
  | refl l => exact hmn
  | step hstep hless h ih => exact .step hstep hless (ih hmn)

/-- As many steps as there are characters are enough. -/
theorem Leads.run? (h : Leads l m) (hend : m.step? = some (n, true)) {fuel : Nat}
    (hfuel : l.cursor.rest.length < fuel) : l.run? fuel = some n := by
  induction h generalizing fuel with
  | refl l =>
      obtain ⟨fuel, rfl⟩ : ∃ m, fuel = m + 1 := ⟨fuel - 1, by omega⟩
      rw [Lexer.run?, hend]
  | step hstep hless h ih =>
      obtain ⟨fuel, rfl⟩ : ∃ m, fuel = m + 1 := ⟨fuel - 1, by omega⟩
      rw [Lexer.run?, hstep]
      exact ih hend (by omega)

/-! ## Tokens -/

section Tokens

variable {b : Blocks} {c : Cursor} {key? : Option PossibleKey} {keyAllowed : Bool}
variable {adjacentAt : Nat} {x : Char} {rest : List Char}

/-- Where a token starts that is no marker of a document, it is read. -/
theorem step?_token (hsettle : l.settle? = some l) (hl : l.cursor.rest = x :: rest)
    (hdirective : x ≠ '%') (hdash : x = '-' → l.cursor.column ≠ 0) (hdot : x ≠ '.') :
    l.step? = (l.token? x rest).map fun l => (l, false) := by
  have hstart : l.cursor.atMarker '-' = false := by
    by_cases hx : x = '-'
    · exact l.cursor.not_atMarker_of_column (hdash hx)
    · exact l.cursor.not_atMarker_of_ne hl hx
  have hend : l.cursor.atMarker '.' = false := l.cursor.not_atMarker_of_ne hl hdot
  rw [step?_of_settle? hsettle, next?]
  simp only [hl, hdirective, and_false, hstart, hend, Bool.false_eq_true, ↓reduceIte]

theorem step?_leading (hx : Leading x) (hsettle : l.settle? = some l)
    (hl : l.cursor.rest = x :: rest) : l.step? = (l.token? x rest).map fun l => (l, false) :=
  step?_token hsettle hl hx.directive (fun hdash => absurd hdash hx.dash) hx.dot

theorem settle?_of_le (hc : Fresh c.rest) (hindent : b.indent ≤ c.column) :
    (inBlock b c none keyAllowed adjacentAt).settle? =
      some (inBlock b c none keyAllowed adjacentAt) := by
  rw [settle?_of_fresh hc, closeTo_of_le hindent]

/-- The possible key that starts at a place. -/
def keyAt (b : Blocks) (c : Cursor) : PossibleKey :=
  ⟨b.tokens.length, c.index, c.line, c.column, false⟩

/-- The possible key that a scalar is, if it may be one. -/
def savedKey (b : Blocks) (c : Cursor) (keyAllowed : Bool) : Option PossibleKey :=
  if keyAllowed then some (keyAt b c) else none

theorem savedKey_of_some {key : PossibleKey} (h : savedKey b c keyAllowed = some key) :
    key = keyAt b c := by
  rw [savedKey] at h
  split at h
  · exact (Option.some.inj h).symm
  · cases h

theorem passing_savedKey : Passing (savedKey b c keyAllowed) c.line := by
  intro key hkey
  rw [savedKey_of_some hkey]
  exact ⟨rfl, Nat.le_refl c.line⟩

theorem saveKey?_inBlock : (inBlock b c none keyAllowed adjacentAt).saveKey? =
    some (inBlock b c (savedKey b c keyAllowed) keyAllowed adjacentAt) := by
  cases keyAllowed <;> rfl

/-- A dash opens a sequence if none is open at its column. -/
theorem step?_dash (hc : c.rest = '-' :: rest) (hrest : endsWord rest = true)
    (hindent : b.indent ≤ c.column) (hcolumn : c.column ≠ 0) :
    (inBlock b c none true adjacentAt).step? =
      some (inBlock ((b.reach c.column .blockSequenceStart).emit [.blockEntry])
        (c.onLine 1 rest) none true adjacentAt, false) := by
  have hfresh : Fresh c.rest := hc ▸ fresh_cons rfl rfl (by decide) rest
  rw [step?_token (settle?_of_le hfresh hindent) hc (by decide) (fun _ => hcolumn) (by decide)]
  have htoken : (inBlock b c none true adjacentAt).token? '-' rest =
      Lexer.blockEntry? (inBlock b c none true adjacentAt) := by
    simp [token?, hrest]
  have hwidth : c.advanceBy 1 = c.onLine 1 rest := Cursor.advance_of_cons hc (by decide)
  rw [htoken, ← hwidth, Blocks.reach]
  split
  · rename_i hopen
    simp [ blockEntry?, openBlock, inBlock, inFlow, hopen, dropKey?, allowKey, take, emit,
      Blocks.emit]
  · rename_i hnew
    simp [ blockEntry?, openBlock, inBlock, inFlow, hnew, dropKey?, allowKey, take, emit,
      Blocks.emit]

theorem staleKeys?_of_near {key : PossibleKey} (hline : c.line ≤ key.line)
    (hindex : c.index ≤ key.index + keyLength) :
    (inBlock b c (some key) keyAllowed adjacentAt).staleKeys? =
      some (inBlock b c (some key) keyAllowed adjacentAt) := by
  have hsame : ¬ key.line < c.line := Nat.not_lt.mpr hline
  have hnear : ¬ key.index + keyLength < c.index := Nat.not_lt.mpr hindex
  simp [staleKeys?, inBlock, hsame, hnear]

/-- A colon makes a key of the scalar before it, and opens a mapping if none is open at the
column of the key. -/
theorem step?_colon {start : Cursor} (token : Token) (adjacentAt : Nat)
    (hc : c.rest = ':' :: rest) (hrest : endsWord rest = true) (hindent : b.indent ≤ start.column)
    (hcolumn : start.column ≤ c.column) (hline : c.line ≤ start.line)
    (hindex : c.index ≤ start.index + keyLength) :
    (inBlock (b.emit [token]) c (some (keyAt b start)) false adjacentAt).step? =
      some (inBlock ((b.reach start.column .blockMappingStart).emit [.key, token, .value])
        (c.onLine 1 rest) none false adjacentAt, false) := by
  have hx : Leading ':' := by decide
  have hinner : (b.emit [token]).indent ≤ c.column := by
    rw [Blocks.emit_indent]
    omega
  have hsettle : (inBlock (b.emit [token]) c (some (keyAt b start)) false adjacentAt).settle? =
      some (inBlock (b.emit [token]) c (some (keyAt b start)) false adjacentAt) := by
    rw [settle?_of_skipBlanks (skipBlanks_of_fresh (hx.fresh_rest hc) _)
      (staleKeys?_of_near hline hindex), closeTo_of_le hinner]
  have htoken : (inBlock (b.emit [token]) c (some (keyAt b start)) false adjacentAt).token? ':'
      rest = (inBlock (b.emit [token]) c (some (keyAt b start)) false adjacentAt).value? := by
    simp [token?, hrest]
  rw [step?_leading hx hsettle hc, htoken, ← hx.advanceBy_one hc, Blocks.reach]
  split
  · rename_i hopen
    simp [value?, openBlock, insert, inBlock, inFlow, keyAt, hopen, take, emit, Blocks.emit]
  · rename_i hnew
    have hbehind : b.tokens.length + 1 + 1 - b.tokens.length = 2 := by omega
    simp [value?, openBlock, insert, inBlock, inFlow, keyAt, hnew, hbehind, take, emit,
      Blocks.emit]

theorem token?_plain (hstarts : startsQuoted x = false) (hheld : forcesQuotes x = false) :
    l.token? x rest = l.plain? := by
  have hstart : ∀ y, startsQuoted y = true → x ≠ y := by
    rintro y hy rfl
    rw [hstarts] at hy
    cases hy
  have hforce : ∀ y, forcesQuotes y = true → x ≠ y := fun y => ne_of_forcesQuotes hheld
  simp [token?, hforce '[' (by decide), hforce '\x7b' (by decide), hforce ']' (by decide),
    hforce '\x7d' (by decide), hforce ',' (by decide), hstart '-' (by decide),
    hstart '?' (by decide), hforce ':' (by decide), hstart '*' (by decide),
    hstart '&' (by decide), hstart '!' (by decide), hstart '|' (by decide),
    hstart '>' (by decide), hforce '\'' (by decide), hforce '"' (by decide),
    hstart '%' (by decide), hstart '@' (by decide), hforce '\x60' (by decide)]

/-- The token of a text. -/
def textToken (text : String) : Token := .scalar text (!needsQuotes text)

/-- A text without quotes is read with the line break behind it, if there is one. -/
theorem step?_plain {text : String} (adjacentAt : Nat) (keyAllowed : Bool)
    (hplain : needsQuotes text = false) (hc : c.rest = text.toList ++ rest)
    (hindent : b.indent ≤ c.column) {gap : Gap} {after : Cursor}
    (hend : PlainEnd (b.indent + 1) (c.onLine text.toList.length rest) gap after) :
    (inBlock b c none keyAllowed adjacentAt).step? =
      some (inBlock (b.emit [textToken text]) after (savedKey b c keyAllowed) gap.hasBreak
        adjacentAt, false) := by
  have hbare := bare_of_needsQuotes hplain
  have hread := readPlain?_bare hbare (by omega) hc hend
  obtain ⟨x, more, hx⟩ := List.exists_cons_of_ne_nil hbare.nonempty
  have hheld := hbare.held x (by simp [hx])
  have hstarts : startsQuoted x = false := by simpa [hx] using hbare.starts
  have hleading := leading_of_bare hbare hx
  have hcs : c.rest = x :: (more ++ rest) := by rw [hc, hx, List.cons_append]
  rw [step?_leading hleading (settle?_of_le (hleading.fresh_rest hcs) hindent) hcs,
    token?_plain hstarts hheld, plain?, saveKey?_inBlock]
  simp only [Option.bind_eq_bind, Option.bind_some, inBlock, inFlow, Nat.lt_irrefl, decide_false,
    hread, String.ofList_toList]
  simp [textToken, hplain, Blocks.emit, emit]

/-- A text in quotes is read up to the closing quote. -/
theorem step?_quoted {text : String} (adjacentAt : Nat) (keyAllowed : Bool)
    (hquoted : needsQuotes text = true) (hc : c.rest = scalar text ++ rest)
    (hindent : b.indent ≤ c.column) :
    ∃ adjacent, (inBlock b c none keyAllowed adjacentAt).step? =
      some (inBlock (b.emit [textToken text]) (c.onLine (scalar text).length rest)
        (savedKey b c keyAllowed) false adjacent, false) := by
  have hlength : (scalar text).length = 1 + ((text.toList.flatMap escapeText).length + 1) := by
    simp [scalar, hquoted]
    omega
  rw [scalar, if_pos hquoted, List.cons_append, List.cons_append, List.append_assoc,
    List.singleton_append] at hc
  have hadvance : c.advance = c.onLine 1 (text.toList.flatMap escapeText ++ '"' :: rest) :=
    Cursor.advance_of_cons hc (by decide)
  have hread : readQuoted? false (c.advance.rest.length + 1) ⟨[], c.advance⟩ =
      some ⟨text.toList, c.onLine (scalar text).length rest⟩ := by
    rw [hadvance, readQuoted?_flatMap (Nat.succ_ne_zero _) rfl, Cursor.onLine_onLine, hlength]
  have htoken : (inBlock b c none keyAllowed adjacentAt).token? '"'
      (text.toList.flatMap escapeText ++ '"' :: rest) =
      (inBlock b c none keyAllowed adjacentAt).quoted? false := by
    simp [token?]
  refine ⟨(c.onLine (scalar text).length rest).index, ?_⟩
  have hx : Leading '"' := by decide
  rw [step?_leading hx (settle?_of_le (hx.fresh_rest hc) hindent) hc, htoken, quoted?,
    saveKey?_inBlock]
  simp only [Option.bind_eq_bind, Option.bind_some, inBlock, hread]
  simp [textToken, hquoted, Blocks.emit, emit, forbidKey]

/-- A key is read up to its colon, and remembered. -/
theorem step?_keyText {text : String} (adjacentAt : Nat) (hc : c.rest = scalar text ++ ':' :: rest)
    (hrest : endsWord rest = true) (hindent : b.indent ≤ c.column) :
    ∃ adjacent, (inBlock b c none true adjacentAt).step? =
      some (inBlock (b.emit [textToken text]) (c.onLine (scalar text).length (':' :: rest))
        (some (keyAt b c)) false adjacent, false) := by
  by_cases hquoted : needsQuotes text = true
  · exact step?_quoted adjacentAt true hquoted hc hindent
  · rw [Bool.not_eq_true] at hquoted
    have hscalar : scalar text = text.toList := by simp [scalar, hquoted]
    rw [hscalar] at hc ⊢
    exact ⟨adjacentAt, step?_plain adjacentAt true hquoted hc hindent (.colon rest hrest rfl)⟩

/-- The brackets of a flow collection, and their tokens. -/
inductive Brackets : Char → Char → Token → Token → Prop
  | sequence : Brackets '[' ']' .flowSequenceStart .flowSequenceEnd
  | mapping : Brackets '\x7b' '\x7d' .flowMappingStart .flowMappingEnd

/-- The lexer between the brackets of a flow collection with nothing in it. -/
def inBrackets (b : Blocks) (c : Cursor) (key? : Option PossibleKey) (adjacentAt : Nat) : Lexer :=
  ⟨c, b.tokens, [none, key?], true, b.indent, b.indents, 1, adjacentAt⟩

section Brackets

variable {y : Char} {start finish : Token}

theorem Brackets.leading (h : Brackets x y start finish) : Leading x ∧ Leading y := by
  cases h <;> decide

theorem step?_opening (h : Brackets x y start finish) (hc : c.rest = x :: rest)
    (hindent : b.indent ≤ c.column) :
    (inBlock b c none keyAllowed adjacentAt).step? =
      some (inBrackets (b.emit [start]) (c.onLine 1 rest) (savedKey b c keyAllowed) adjacentAt,
        false) := by
  have hx := h.leading.1
  have htoken : (inBlock b c none keyAllowed adjacentAt).token? x rest =
      (inBlock b c none keyAllowed adjacentAt).flowStart? start := by
    cases h <;> simp [token?]
  rw [step?_leading hx (settle?_of_le (hx.fresh_rest hc) hindent) hc, htoken, flowStart?,
    saveKey?_inBlock, ← hx.advanceBy_one hc]
  rfl

/-- A key that the collection could be is still near enough at its end. -/
theorem step?_closing (h : Brackets x y start finish) (c : Cursor) (rest : List Char) :
    (inBrackets (b.emit [start]) (c.onLine 1 (y :: rest)) (savedKey b c keyAllowed)
      adjacentAt).step? =
      some (inBlock (b.emit [start, finish]) (c.onLine 2 rest) (savedKey b c keyAllowed) false
        adjacentAt, false) := by
  have hy := h.leading.2
  have hrest : (c.onLine 1 (y :: rest)).rest = y :: rest := rfl
  have hadvance := hy.advanceBy_one hrest
  generalize hinside : c.onLine 1 (y :: rest) = inside at hrest hadvance
  have htoken : (inBrackets (b.emit [start]) inside (savedKey b c keyAllowed) adjacentAt).token?
      y rest = (inBrackets (b.emit [start]) inside (savedKey b c keyAllowed) adjacentAt).flowEnd?
        finish := by
    cases h <;> simp [token?]
  have hstale : (inBrackets (b.emit [start]) inside (savedKey b c keyAllowed)
      adjacentAt).staleKeys? =
      some (inBrackets (b.emit [start]) inside (savedKey b c keyAllowed) adjacentAt) := by
    rw [← hinside]
    cases keyAllowed with
    | false => rfl
    | true =>
        simp [staleKeys?, inBrackets, savedKey, keyAt, Cursor.onLine, keyLength]
  have hsettle : (inBrackets (b.emit [start]) inside (savedKey b c keyAllowed)
      adjacentAt).settle? =
      some (inBrackets (b.emit [start]) inside (savedKey b c keyAllowed) adjacentAt) := by
    rw [settle?, skipBlanks_of_fresh (hy.fresh_rest hrest), hstale]
    rfl
  have hwidth : c.onLine 2 rest = inside.advanceBy 1 := by
    rw [hadvance, ← hinside, Cursor.onLine_onLine]
  rw [step?_leading hy hsettle hrest, htoken, hwidth]
  rfl

end Brackets

/-- The marker at the start of a document. -/
theorem step?_documentStart (hc : c.rest = "---".toList ++ rest) (hrest : endsWord rest = true)
    (hcolumn : c.column = 0) :
    (inBlock ⟨[], -1, []⟩ c none keyAllowed adjacentAt).step? =
      some (inBlock ⟨[.documentStart], -1, []⟩ (c.onLine 3 rest) none false adjacentAt,
        false) := by
  have hmarker : c.rest = '-' :: '-' :: '-' :: rest := hc
  have hfresh : Fresh c.rest := hmarker ▸ fresh_cons rfl rfl (by decide) _
  have hindent : (-1 : Int) ≤ c.column := by omega
  have hadvance : c.advanceBy 3 = c.onLine 3 rest := Cursor.advanceBy_of_append hc (by decide)
  have hat : c.atMarker '-' = true := by simp [Cursor.atMarker, hmarker, hcolumn, hrest]
  have hcursor : (inBlock ⟨[], -1, []⟩ c none keyAllowed adjacentAt).cursor = c := rfl
  rw [step?_of_settle? (settle?_of_le hfresh hindent), next?]
  simp only [hcursor, hmarker, hat, Char.reduceEq, and_false, ↓reduceIte]
  rw [← hadvance]
  rfl

end Tokens

/-! ## Places -/

/-- The lexer goes on as one outside flow collections with this text ahead. What that one would do
first, it may have done already. -/
def Stands (l : Lexer) (rest : List Char) (column : Nat) (b : Blocks) (keyAllowed : Bool) : Prop :=
  ∃ c adjacentAt, c.rest = rest ∧ c.column = column ∧ rest.length ≤ l.cursor.rest.length ∧
    l.step? = (inBlock b c none keyAllowed adjacentAt).step?

namespace Stands

variable {b : Blocks} {column : Nat} {keyAllowed : Bool} {rest : List Char}

theorem of_inBlock {c : Cursor} {adjacentAt : Nat} :
    Stands (inBlock b c none keyAllowed adjacentAt) c.rest c.column b keyAllowed :=
  ⟨c, adjacentAt, rfl, rfl, Nat.le_refl _, rfl⟩

/-- Behind a token at the end of a line. -/
theorem of_line {c : Cursor} {key? : Option PossibleKey} {adjacentAt level : Nat}
    (hc : c.rest = newLine level ++ rest) (hrest : Fresh rest) (hkey : Passing key? c.line) :
    Stands (inBlock b c key? keyAllowed adjacentAt) rest (2 * level) b true := by
  refine ⟨c.onNextLine level rest, adjacentAt, rfl, rfl, ?_, step?_newLine level hc hrest hkey⟩
  change rest.length ≤ c.rest.length
  rw [hc]
  exact (List.suffix_append _ _).length_le

/-- Behind a token that reaches up to the next line. -/
theorem of_passed {c : Cursor} {key? : Option PossibleKey} {adjacentAt level : Nat}
    (hrest : Fresh rest) (hkey : Passing key? c.line) :
    Stands (inBlock b (c.onNextLine level rest) key? true adjacentAt) rest (2 * level) b true :=
  ⟨c.onNextLine level rest, adjacentAt, rfl, rfl, Nat.le_refl _,
    step?_passed hrest hkey (Nat.lt_succ_self _)⟩

theorem blank (h : Stands l (' ' :: rest) column b keyAllowed) (hrest : Fresh rest) :
    Stands l rest (column + 1) b keyAllowed := by
  obtain ⟨c, adjacentAt, hc, rfl, hlength, hstep⟩ := h
  refine ⟨c.onLine 1 rest, adjacentAt, rfl, rfl, Nat.le_of_succ_le hlength, ?_⟩
  rw [hstep, step?_blank hc hrest]

theorem line {level : Nat} (h : Stands l (newLine level ++ rest) column b keyAllowed)
    (hrest : Fresh rest) : Stands l rest (2 * level) b true := by
  obtain ⟨c, adjacentAt, hc, rfl, hlength, hstep⟩ := h
  rw [List.length_append] at hlength
  refine ⟨c.onNextLine level rest, adjacentAt, rfl, rfl, by omega, ?_⟩
  rw [hstep, step?_newLine level hc hrest (passing_none _)]

theorem close {tokens : List Token} {indent outer : Int} {indents : List Int}
    (h : Stands l rest column ⟨tokens, indent, outer :: indents⟩ keyAllowed) (hrest : Fresh rest)
    (hcolumn : column < indent) :
    Stands l rest column ⟨.blockEnd :: tokens, outer, indents⟩ keyAllowed := by
  obtain ⟨c, adjacentAt, rfl, rfl, hlength, hstep⟩ := h
  exact ⟨c, adjacentAt, rfl, rfl, hlength, hstep.trans (step?_close hrest hcolumn)⟩

theorem dash (h : Stands l ('-' :: rest) column b true) (hrest : endsWord rest = true)
    (hindent : b.indent ≤ column) (hcolumn : column ≠ 0) :
    ∃ m, Leads l m ∧ Stands m rest (column + 1)
      ((b.reach column .blockSequenceStart).emit [.blockEntry]) true := by
  obtain ⟨c, adjacentAt, hc, rfl, hlength, hstep⟩ := h
  rw [step?_dash hc hrest hindent hcolumn] at hstep
  exact ⟨_, .step hstep hlength (.refl _), of_inBlock⟩

theorem key {text : String} (h : Stands l (scalar text ++ ':' :: rest) column b true)
    (hrest : endsWord rest = true) (hindent : b.indent ≤ column)
    (hshort : (scalar text).length ≤ keyLength) :
    ∃ m, Leads l m ∧ Stands m rest (column + (scalar text).length + 1)
      ((b.reach column .blockMappingStart).emit [.key, textToken text, .value]) false := by
  obtain ⟨c, adjacentAt, hc, rfl, hlength, hstep⟩ := h
  obtain ⟨adjacent, hkey⟩ := step?_keyText adjacentAt hc hrest hindent
  have hcolon := step?_colon (textToken text) adjacent
    (c := c.onLine (scalar text).length (':' :: rest)) rfl hrest hindent
    (Nat.le_add_right _ _) (Nat.le_refl _) (Nat.add_le_add_left hshort c.index)
  have hless : (':' :: rest).length < l.cursor.rest.length := by
    have hpos := scalar_length_pos text
    rw [List.length_append] at hlength
    omega
  rw [hkey] at hstep
  exact ⟨_, .step hstep hless (.step hcolon (Nat.lt_succ_self _) (.refl _)), of_inBlock⟩

theorem text {text : String} {level : Nat}
    (h : Stands l (scalar text ++ (newLine level ++ rest)) column b keyAllowed)
    (hrest : Fresh rest) (hindent : b.indent < column) (hlevel : (2 * level : Nat) ≤ b.indent) :
    ∃ m, Leads l m ∧ Stands m rest (2 * level) (b.emit [textToken text]) true := by
  obtain ⟨c, adjacentAt, hc, rfl, hlength, hstep⟩ := h
  have hpos := scalar_length_pos text
  simp only [List.length_append] at hlength
  by_cases hquoted : needsQuotes text = true
  · obtain ⟨adjacent, hread⟩ :=
      step?_quoted adjacentAt keyAllowed hquoted hc (Int.le_of_lt hindent)
    have hless : (newLine level ++ rest).length < l.cursor.rest.length := by
      rw [List.length_append]
      omega
    rw [hread] at hstep
    exact ⟨_, .step hstep hless (.refl _), of_line rfl hrest passing_savedKey⟩
  · rw [Bool.not_eq_true] at hquoted
    have hscalar : scalar text = text.toList := by simp [scalar, hquoted]
    rw [hscalar] at hc hlength hpos
    have hless : rest.length < l.cursor.rest.length := by omega
    rw [step?_plain adjacentAt keyAllowed hquoted hc (Int.le_of_lt hindent)
      (.line level rest hrest.endsGap rfl (by omega))] at hstep
    exact ⟨_, .step hstep hless (.refl _), of_passed hrest passing_savedKey⟩

/-- A flow collection with nothing in it. -/
theorem brackets {x y : Char} {start finish : Token} {level : Nat}
    (h : Stands l (x :: y :: (newLine level ++ rest)) column b keyAllowed)
    (hbrackets : Brackets x y start finish) (hrest : Fresh rest) (hindent : b.indent ≤ column) :
    ∃ m, Leads l m ∧ Stands m rest (2 * level) (b.emit [start, finish]) true := by
  obtain ⟨c, adjacentAt, hc, rfl, hlength, hstep⟩ := h
  rw [step?_opening hbrackets hc hindent] at hstep
  exact ⟨_, .step hstep hlength (.step (step?_closing hbrackets c _) (Nat.lt_succ_self _)
    (.refl _)), of_line rfl hrest passing_savedKey⟩

/-! ### The start and the end of a document -/

theorem start {text : String} (htext : text.toList = "---".toList ++ rest)
    (hnull : '\x00' ∉ rest) (hrest : endsWord rest = true) :
    ∃ m, Leads (.start text) m ∧ Stands m rest 3 ⟨[.documentStart], -1, []⟩ false := by
  have hall : '\x00' ∉ text.toList := by
    rw [htext]
    simp [hnull]
  have hwhole := (Cursor.start_rest hall).trans htext
  have hstep : (Lexer.start text).step? = _ := step?_documentStart hwhole hrest rfl
  have hless : rest.length < (Lexer.start text).cursor.rest.length := by
    change rest.length < (Cursor.start text).rest.length
    rw [hwhole, List.length_append]
    exact Nat.lt_add_of_pos_left (by decide)
  exact ⟨_, .step hstep hless (.refl _), of_inBlock⟩

/-- At the end of the text the collections that are still open are closed. -/
theorem finish {tokens : List Token} (h : Stands l [] column b keyAllowed)
    (hindent : b.indent ≤ column)
    (hclosed : ∀ c adjacentAt, (inBlock b c none keyAllowed adjacentAt).closeTo (-1) =
      inBlock ⟨tokens, -1, []⟩ c none keyAllowed adjacentAt) :
    ∃ n, l.step? = some (n, true) ∧ n.tokens = tokens := by
  obtain ⟨c, adjacentAt, hc, rfl, hlength, hstep⟩ := h
  have hfresh : Fresh c.rest := hc ▸ fresh_nil
  have hnext : (inBlock b c none keyAllowed adjacentAt).cursor.rest = [] := hc
  refine ⟨inBlock ⟨tokens, -1, []⟩ c none keyAllowed adjacentAt, ?_, rfl⟩
  rw [hstep, step?_of_settle? (settle?_of_le hfresh hindent), next?, hnext]
  simp only [hclosed]
  rfl

end Stands

end Lexer

end VlanBinding.Yaml
