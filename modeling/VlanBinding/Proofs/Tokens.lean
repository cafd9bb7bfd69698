import VlanBinding.Proofs.Lexing
import VlanBinding.Yaml.Printer

/-!
The tokens of what the printer writes. Every node ends where a line does, and the line after it is
no further in than the collection that the node is in; the induction over the tree carries this.
Main statement: the tokens of a printed mapping are those of the tree, whatever its texts are, if
no key is too long to be taken for one.
-/

namespace VlanBinding.Yaml

open Lexer

/-! ## Tokens of a tree -/

mutual

/-- The tokens of a tree. -/
def Tree.tokens : Tree → List Token
  | .text s => [textToken s]
  | .list [] => [.flowSequenceStart, .flowSequenceEnd]
  | .map [] => [.flowMappingStart, .flowMappingEnd]
  | .list (item :: rest) =>
      .blockSequenceStart :: (.blockEntry :: (item.tokens ++ itemTokens rest)) ++ [.blockEnd]
  | .map ((key, value) :: rest) =>
      .blockMappingStart :: ([.key, textToken key, .value] ++ (value.tokens ++ entryTokens rest)) ++
        [.blockEnd]

/-- The tokens of items in a list. -/
def itemTokens : List Tree → List Token
  | [] => []
  | item :: rest => .blockEntry :: (item.tokens ++ itemTokens rest)

/-- The tokens of entries in a mapping. -/
def entryTokens : List (String × Tree) → List Token
  | [] => []
  | (key, value) :: rest => [.key, textToken key, .value] ++ (value.tokens ++ entryTokens rest)

end

mutual

/-- No key is too long to be remembered up to its colon. -/
def Tree.ShortKeys : Tree → Prop
  | .text _ => True
  | .list items => ShortKeysItems items
  | .map entries => ShortKeysEntries entries

def ShortKeysItems : List Tree → Prop
  | [] => True
  | item :: rest => item.ShortKeys ∧ ShortKeysItems rest

def ShortKeysEntries : List (String × Tree) → Prop
  | [] => True
  | (key, value) :: rest =>
      (scalar key).length ≤ keyLength ∧ value.ShortKeys ∧ ShortKeysEntries rest

end

/-! ## Reading up to the next line -/

/-- The lexer reads a text that stands at a column up to the next line, which is no further in than
a level. -/
def Reads (cs : List Char) (column : Nat) (b : Blocks) (keyAllowed : Bool) (level : Nat)
    (after : Blocks) : Prop :=
  ∀ l k rest, k ≤ level → Fresh rest →
    Stands l (cs ++ (newLine k ++ rest)) column b keyAllowed →
      ∃ m, Leads l m ∧ Stands m rest (2 * k) after true

/-- The text of a node in a collection at a level. -/
def ReadsNode (cs : List Char) (level column : Nat) (keyAllowed : Bool) (tokens : List Token) :
    Prop :=
  ∀ b : Blocks, b.indent = (2 * level : Nat) →
    Reads cs column b keyAllowed level (b.emit tokens)

/-- The text of items or entries at a level, from the first one on, which opens their collection
if it is not open yet. -/
def ReadsBlock (cs : List Char) (level : Nat) (start : Token) (tokens : List Token) : Prop :=
  ∀ b : Blocks, b.indent ≤ (2 * level : Nat) →
    Reads cs (2 * level) b true level ((b.reach (2 * level) start).emit tokens)

/-- The text of further items or entries at a level, if there are any. -/
inductive ReadsMore (level : Nat) : List Char → List Token → Prop
  | none : ReadsMore level [] []
  | lines {cs : List Char} {start : Token} {tokens : List Token}
      (hfresh : ∀ rest, Fresh (cs ++ rest)) (h : ReadsBlock cs level start tokens) :
      ReadsMore level (newLine level ++ cs) tokens

section Reading

variable {cs more : List Char} {level column : Nat} {keyAllowed : Bool} {b after : Blocks}
variable {tokens moreTokens : List Token} {start : Token}

theorem Reads.append (h : Reads cs column b keyAllowed level after)
    (hmore : ReadsMore level more tokens) (hindent : after.indent = (2 * level : Nat)) :
    Reads (cs ++ more) column b keyAllowed level (after.emit tokens) := by
  intro l k rest hk hrest hl
  cases hmore with
  | none =>
      rw [List.append_nil] at hl
      exact h l k rest hk hrest hl
  | lines hfresh hblock =>
      rw [List.append_assoc, List.append_assoc] at hl
      obtain ⟨m, hlm, hm⟩ := h l level _ (Nat.le_refl level) (hfresh _) hl
      obtain ⟨n, hmn, hn⟩ := hblock after (Int.le_of_eq hindent) m k rest hk hrest hm
      rw [Blocks.reach_of_le (Int.le_of_eq hindent.symm)] at hn
      exact ⟨n, hlm.trans hmn, hn⟩

theorem ReadsNode.append (h : ReadsNode cs level column keyAllowed tokens)
    (hmore : ReadsMore level more moreTokens) :
    ReadsNode (cs ++ more) level column keyAllowed (tokens ++ moreTokens) := by
  intro b hindent
  rw [← Blocks.emit_emit]
  exact (h b hindent).append hmore hindent

/-- A text behind a blank. -/
theorem readsNode_text (text : String) (hcolumn : 2 * level < column) :
    ReadsNode (' ' :: scalar text) level column keyAllowed [textToken text] := by
  intro b hindent l k rest hk hrest hl
  exact (hl.blank (fresh_scalar text _)).text hrest (by omega) (by omega)

/-- An empty collection behind a blank. -/
theorem readsNode_brackets {x y : Char} {finish : Token} (h : Brackets x y start finish)
    (hcolumn : 2 * level < column) :
    ReadsNode [' ', x, y] level column keyAllowed [start, finish] := by
  intro b hindent l k rest hk hrest hl
  exact (hl.blank (h.leading.1.fresh _)).brackets h hrest (by omega)

/-- The first item opens the list if it is not open yet. -/
theorem readsBlock_item (hlevel : level ≠ 0) (hends : ∀ rest, endsWord (cs ++ rest) = true)
    (h : ReadsNode cs level (2 * level + 1) true tokens) :
    ReadsBlock ('-' :: cs) level .blockSequenceStart (.blockEntry :: tokens) := by
  intro b hindent l k rest hk hrest hl
  have hinner : ((b.reach (2 * level) .blockSequenceStart).emit [.blockEntry]).indent =
      (2 * level : Nat) := Blocks.reach_indent hindent
  have hcolumn : 2 * level ≠ 0 := by omega
  obtain ⟨m, hlm, hm⟩ := hl.dash (hends _) hindent hcolumn
  obtain ⟨n, hmn, hn⟩ := h _ hinner m k rest hk hrest hm
  rw [Blocks.emit_emit] at hn
  exact ⟨n, hlm.trans hmn, hn⟩

/-- The first key opens the mapping if it is not open yet. -/
theorem readsBlock_entry {key : String} (hshort : (scalar key).length ≤ keyLength)
    (hends : ∀ rest, endsWord (cs ++ rest) = true)
    (h : ∀ column, 2 * level < column → ReadsNode cs level column false tokens) :
    ReadsBlock (scalar key ++ ':' :: cs) level .blockMappingStart
      ([.key, textToken key, .value] ++ tokens) := by
  intro b hindent l k rest hk hrest hl
  rw [List.append_assoc] at hl
  have hinner : ((b.reach (2 * level) .blockMappingStart).emit
      [.key, textToken key, .value]).indent = (2 * level : Nat) := Blocks.reach_indent hindent
  have hcolumn : 2 * level < 2 * level + (scalar key).length + 1 := by omega
  obtain ⟨m, hlm, hm⟩ := hl.key (hends _) hindent hshort
  obtain ⟨n, hmn, hn⟩ := h _ hcolumn _ hinner m k rest hk hrest hm
  rw [Blocks.emit_emit] at hn
  exact ⟨n, hlm.trans hmn, hn⟩

/-- A collection is closed on the next line. -/
theorem ReadsBlock.closed (h : ReadsBlock cs (level + 1) start tokens)
    (hindent : b.indent = (2 * level : Nat)) :
    Reads cs (2 * (level + 1)) b true level (b.emit (start :: tokens ++ [.blockEnd])) := by
  intro l k rest hk hrest hl
  obtain ⟨m, hlm, hm⟩ := h b (by omega) l k rest (by omega) hrest hl
  rw [Blocks.reach_of_lt (by omega)] at hm
  have hout : ((2 * k : Nat) : Int) < (2 * (level + 1) : Nat) := by omega
  have hclosed := hm.close hrest hout
  refine ⟨m, hlm, ?_⟩
  simpa [Blocks.emit] using hclosed

/-- A collection behind the colon of a key starts on the next line. -/
theorem ReadsBlock.afterKey (h : ReadsBlock cs (level + 1) start tokens)
    (hfresh : ∀ rest, Fresh (cs ++ rest)) :
    ReadsNode (newLine (level + 1) ++ cs) level column keyAllowed
      (start :: tokens ++ [.blockEnd]) := by
  intro b hindent l k rest hk hrest hl
  rw [List.append_assoc] at hl
  exact h.closed hindent l k rest hk hrest (hl.line (hfresh _))

/-- A collection behind a dash starts on the same line. -/
theorem ReadsBlock.afterDash (h : ReadsBlock cs (level + 1) start tokens)
    (hfresh : ∀ rest, Fresh (cs ++ rest)) :
    ReadsNode (' ' :: cs) level (2 * level + 1) true (start :: tokens ++ [.blockEnd]) := by
  intro b hindent l k rest hk hrest hl
  exact h.closed hindent l k rest hk hrest (hl.blank (hfresh _))

end Reading

/-! ## Trees -/

theorem endsWord_afterKey (t : Tree) (level : Nat) (rest : List Char) :
    endsWord (t.afterKey level ++ rest) = true := by
  cases t with
  | text s => rfl
  | list items => cases items <;> rfl
  | map entries => cases entries <;> rfl

theorem endsWord_afterDash (t : Tree) (level : Nat) (rest : List Char) :
    endsWord (t.afterDash level ++ rest) = true := by
  cases t with
  | text s => rfl
  | list items => cases items <;> rfl
  | map entries => cases entries <;> rfl

theorem fresh_dash (cs rest : List Char) : Fresh ('-' :: cs ++ rest) :=
  fresh_cons rfl rfl (by decide) _

/-- The first of some items, and what follows it. -/
theorem readsBlock_items {item : Tree} {more : List Char} {tokens : List Token} {level : Nat}
    (hlevel : level ≠ 0)
    (hitem : ReadsNode (item.afterDash level) level (2 * level + 1) true item.tokens)
    (hmore : ReadsMore level more tokens) :
    ReadsBlock ('-' :: (item.afterDash level ++ more)) level .blockSequenceStart
      (.blockEntry :: (item.tokens ++ tokens)) := by
  refine readsBlock_item hlevel ?_ (hitem.append hmore)
  intro rest
  rw [List.append_assoc]
  exact endsWord_afterDash item level _

/-- The first of some entries, and what follows it. -/
theorem readsBlock_entries {key : String} {value : Tree} {more : List Char} {tokens : List Token}
    {level : Nat} (hshort : (scalar key).length ≤ keyLength)
    (hvalue : ∀ column, 2 * level < column →
      ReadsNode (value.afterKey level) level column false value.tokens)
    (hmore : ReadsMore level more tokens) :
    ReadsBlock (scalar key ++ ':' :: (value.afterKey level ++ more)) level .blockMappingStart
      ([.key, textToken key, .value] ++ (value.tokens ++ tokens)) := by
  refine readsBlock_entry hshort ?_ fun column hcolumn => (hvalue column hcolumn).append hmore
  intro rest
  rw [List.append_assoc]
  exact endsWord_afterKey value level _

theorem fresh_entry (key : String) (cs rest : List Char) :
    Fresh (scalar key ++ cs ++ rest) := by
  rw [List.append_assoc]
  exact fresh_scalar key _

mutual

theorem Tree.readsNode : ∀ (t : Tree), t.ShortKeys → ∀ level,
    (∀ column, 2 * level < column →
      ReadsNode (t.afterKey level) level column false t.tokens) ∧
    ReadsNode (t.afterDash level) level (2 * level + 1) true t.tokens
  | .text s, _, level =>
      ⟨fun _ hcolumn => readsNode_text s hcolumn, readsNode_text s (Nat.lt_succ_self _)⟩
  | .list [], _, level =>
      ⟨fun _ hcolumn => readsNode_brackets .sequence hcolumn,
        readsNode_brackets .sequence (Nat.lt_succ_self _)⟩
  | .map [], _, level =>
      ⟨fun _ hcolumn => readsNode_brackets .mapping hcolumn,
        readsNode_brackets .mapping (Nat.lt_succ_self _)⟩
  | .list (item :: rest), h, level => by
      have hitem := (item.readsNode h.1 (level + 1)).2
      have hrest := readsMore_items rest h.2 (level + 1) (Nat.succ_ne_zero level)
      have hblock := readsBlock_items (Nat.succ_ne_zero level) hitem hrest
      have hfresh := fresh_dash (item.afterDash (level + 1) ++ writeItems (level + 1) rest)
      rw [Tree.afterKey, Tree.afterDash, List.append_assoc]
      exact ⟨fun _ _ => hblock.afterKey hfresh, hblock.afterDash hfresh⟩
  | .map ((key, value) :: rest), h, level => by
      have hvalue := (value.readsNode h.2.1 (level + 1)).1
      have hrest := readsMore_entries rest h.2.2 (level + 1)
      have hblock := readsBlock_entries h.1 hvalue hrest
      have hfresh := fresh_entry key
        (':' :: (value.afterKey (level + 1) ++ writeEntries (level + 1) rest))
      rw [Tree.afterKey, Tree.afterDash]
      simp only [List.append_assoc, List.cons_append]
      exact ⟨fun _ _ => hblock.afterKey hfresh, hblock.afterDash hfresh⟩

theorem readsMore_items : ∀ (items : List Tree), ShortKeysItems items → ∀ level, level ≠ 0 →
    ReadsMore level (writeItems level items) (itemTokens items)
  | [], _, level, _ => .none
  | item :: rest, h, level, hlevel => by
      have hitem := (item.readsNode h.1 level).2
      have hrest := readsMore_items rest h.2 level hlevel
      rw [writeItems, List.append_assoc]
      exact .lines (fresh_dash _) (readsBlock_items hlevel hitem hrest)

theorem readsMore_entries : ∀ (entries : List (String × Tree)), ShortKeysEntries entries →
    ∀ level, ReadsMore level (writeEntries level entries) (entryTokens entries)
  | [], _, level => .none
  | (key, value) :: rest, h, level => by
      have hvalue := (value.readsNode h.2.1 level).1
      have hrest := readsMore_entries rest h.2.2 level
      rw [writeEntries, List.append_assoc, List.append_assoc]
      exact .lines (fresh_entry key _) (readsBlock_entries h.1 hvalue hrest)

end

/-! ## Documents -/

theorem null_not_mem_scalar (text : String) : '\x00' ∉ scalar text :=
  fun hmem => (inner_of_mem_scalar hmem).2 rfl

theorem null_not_mem_newLine (level : Nat) : '\x00' ∉ newLine level := by
  simp [newLine]

mutual

/-- Nothing that is written ends the text too early. -/
theorem Tree.null_not_mem : ∀ (t : Tree) (level : Nat),
    '\x00' ∉ t.afterKey level ∧ '\x00' ∉ t.afterDash level
  | .text s, level => by
      have hscalar := null_not_mem_scalar s
      simp [Tree.afterKey, Tree.afterDash, hscalar]
  | .list [], level => by
      simp [Tree.afterKey, Tree.afterDash]
  | .map [], level => by
      simp [Tree.afterKey, Tree.afterDash]
  | .list (item :: rest), level => by
      have hline := null_not_mem_newLine (level + 1)
      have hitem := (item.null_not_mem (level + 1)).2
      have hrest := null_not_mem_writeItems rest (level + 1)
      simp [Tree.afterKey, Tree.afterDash, hline, hitem, hrest]
  | .map ((key, value) :: rest), level => by
      have hline := null_not_mem_newLine (level + 1)
      have hkey := null_not_mem_scalar key
      have hvalue := (value.null_not_mem (level + 1)).1
      have hrest := null_not_mem_writeEntries rest (level + 1)
      simp [Tree.afterKey, Tree.afterDash, hline, hkey, hvalue, hrest]

theorem null_not_mem_writeItems : ∀ (items : List Tree) (level : Nat),
    '\x00' ∉ writeItems level items
  | [], level => by
      simp [writeItems]
  | item :: rest, level => by
      have hline := null_not_mem_newLine level
      have hitem := (item.null_not_mem level).2
      have hrest := null_not_mem_writeItems rest level
      simp [writeItems, hline, hitem, hrest]

theorem null_not_mem_writeEntries : ∀ (entries : List (String × Tree)) (level : Nat),
    '\x00' ∉ writeEntries level entries
  | [], level => by
      simp [writeEntries]
  | (key, value) :: rest, level => by
      have hline := null_not_mem_newLine level
      have hkey := null_not_mem_scalar key
      have hvalue := (value.null_not_mem level).1
      have hrest := null_not_mem_writeEntries rest level
      simp [writeEntries, hline, hkey, hvalue, hrest]

end

/-- A document whose root is read from the first line to the last one. -/
theorem tokens?_of_reads {text : String} {cs : List Char} {after : Blocks} {tokens : List Token}
    (htext : text.toList = "---".toList ++ (newLine 0 ++ (cs ++ (newLine 0 ++ []))))
    (hnull : '\x00' ∉ cs) (hfresh : ∀ rest, Fresh (cs ++ rest))
    (h : Reads cs 0 ⟨[.documentStart], -1, []⟩ true 0 after) (hindent : after.indent ≤ (0 : Nat))
    (hclosed : ∀ c adjacentAt, (inBlock after c none true adjacentAt).closeTo (-1) =
      inBlock ⟨tokens, -1, []⟩ c none true adjacentAt) :
    tokens? text = some tokens.reverse := by
  have hlines : '\x00' ∉ newLine 0 ++ (cs ++ (newLine 0 ++ [])) := by
    simp [hnull, null_not_mem_newLine]
  obtain ⟨l, hstart, hl⟩ := Stands.start htext hlines rfl
  obtain ⟨m, hlm, hm⟩ := h l 0 [] (Nat.le_refl 0) fresh_nil (hl.line (hfresh _))
  obtain ⟨n, hend, rfl⟩ := hm.finish hindent hclosed
  rw [tokens?, (hstart.trans hlm).run? hend (by omega), Option.map_some]

/-- The tokens of a printed mapping are those of the tree. -/
theorem tokens?_renderMap {entries : List (String × Tree)} (h : ShortKeysEntries entries) :
    tokens? (renderMap entries) = some (.documentStart :: (Tree.map entries).tokens) := by
  match entries, h with
  | [], _ =>
      have hread : Reads ['\x7b', '\x7d'] 0 ⟨[.documentStart], -1, []⟩ true 0
          ⟨[.flowMappingEnd, .flowMappingStart, .documentStart], -1, []⟩ := by
        intro l k rest hk hrest hl
        exact hl.brackets .mapping hrest (by decide)
      have hfresh : ∀ rest, Fresh (['\x7b', '\x7d'] ++ rest) := by
        intro rest
        exact fresh_cons rfl rfl (by decide) _
      exact tokens?_of_reads rfl (by decide) hfresh hread (by decide) fun _ _ => rfl
  | (key, value) :: rest, h =>
      have hblock := readsBlock_entries h.1 (value.readsNode h.2.1 0).1
        (readsMore_entries rest h.2.2 0)
      have hread := hblock ⟨[.documentStart], -1, []⟩ (by decide)
      rw [Blocks.reach_of_lt (by decide)] at hread
      have hnull : '\x00' ∉
          scalar key ++ ':' :: (value.afterKey 0 ++ writeEntries 0 rest) := by
        have hkey := null_not_mem_scalar key
        have hvalue := (value.null_not_mem 0).1
        have hrest := null_not_mem_writeEntries rest 0
        simp [hkey, hvalue, hrest]
      have htext : (renderMap ((key, value) :: rest)).toList = "---".toList ++ (newLine 0 ++
          ((scalar key ++ ':' :: (value.afterKey 0 ++ writeEntries 0 rest)) ++
            (newLine 0 ++ []))) := by
        change (String.ofList ("---".toList ++ writeEntries 0 ((key, value) :: rest)) ++
          "\n").toList = _
        simp [newLine, writeEntries]
      rw [tokens?_of_reads htext hnull (fresh_entry key _) hread (Int.le_refl 0)
        fun _ _ => closeTo_of_lt (Int.negSucc_lt_zero 0)]
      simp [Tree.tokens]

end VlanBinding.Yaml
