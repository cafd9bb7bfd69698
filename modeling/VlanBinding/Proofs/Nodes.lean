import VlanBinding.Proofs.Tokens
import VlanBinding.Yaml.Node

/-!
The nodes of what the printer writes. The tokens of a tree are parsed to the same tree, with each
text marked as plain or quoted.
Main statement: a printed mapping is a text of one document, and that is the mapping.
-/

namespace VlanBinding.Yaml

open Lexer

mutual

/-- A tree as a node. -/
def Tree.node : Tree → Node
  | .text s => .scalar s (!needsQuotes s) none
  | .list items => .sequence (itemNodes items)
  | .map entries => .mapping (entryNodes entries)

def itemNodes : List Tree → List Node
  | [] => []
  | item :: rest => item.node :: itemNodes rest

def entryNodes : List (String × Tree) → List (Node × Node)
  | [] => []
  | (key, value) :: rest => (.scalar key (!needsQuotes key) none, value.node) :: entryNodes rest

end

theorem itemNodes_eq_map (items : List Tree) : itemNodes items = items.map Tree.node := by
  induction items with
  | nil => rfl
  | cons item rest ih => rw [itemNodes, ih, List.map_cons]

/-! ## Parsing -/

section Parsing

variable {s : ParseState} {fuel : Nat} {indentless : Bool} {more : List Token}

theorem parseNode?_textToken (text : String) (fuel : Nat) :
    parseNode? (fuel + 1) true indentless { s with tokens := textToken text :: more } =
      some (.scalar text (!needsQuotes text) none, { s with tokens := more }) := rfl

theorem parseNode?_sequenceStart (fuel : Nat) :
    parseNode? (fuel + 1) true indentless { s with tokens := .blockSequenceStart :: more } =
      parseBlockSequence? fuel [] { s with tokens := more } := by
  change (parseBlockSequence? fuel [] { s with tokens := more }).map _ = _
  cases parseBlockSequence? fuel [] { s with tokens := more } <;> rfl

theorem parseNode?_mappingStart (fuel : Nat) :
    parseNode? (fuel + 1) true indentless { s with tokens := .blockMappingStart :: more } =
      parseBlockMapping? fuel [] { s with tokens := more } := by
  change (parseBlockMapping? fuel [] { s with tokens := more }).map _ = _
  cases parseBlockMapping? fuel [] { s with tokens := more } <;> rfl

/-- No tree starts like what is around it. -/
theorem Tree.tokens_eq_cons (t : Tree) : ∃ first rest, t.tokens = first :: rest ∧
    first ∉ [Token.blockEntry, .key, .value, .blockEnd] := by
  cases t with
  | text s => exact ⟨textToken s, [], rfl, by simp [textToken]⟩
  | list items =>
      cases items with
      | nil => exact ⟨.flowSequenceStart, _, rfl, by decide⟩
      | cons item rest => exact ⟨.blockSequenceStart, _, rfl, by decide⟩
  | map entries =>
      cases entries with
      | nil => exact ⟨.flowMappingStart, _, rfl, by decide⟩
      | cons entry rest => exact ⟨.blockMappingStart, _, rfl, by decide⟩

/-- A tree is parsed where one may be missing. -/
theorem parseUnless?_tokens (t : Tree) {stop : List Token}
    (hstop : stop ⊆ [Token.blockEntry, .key, .value, .blockEnd]) (fuel : Nat) :
    parseUnless? (fuel + 1) stop true indentless { s with tokens := t.tokens ++ more } =
      parseNode? fuel true indentless { s with tokens := t.tokens ++ more } := by
  obtain ⟨first, rest, htokens, hfirst⟩ := t.tokens_eq_cons
  have hnone : first ∉ stop := fun hmem => hfirst (hstop hmem)
  rw [parseUnless?, ParseState.nextIs, htokens]
  simp [hnone]

/-- An item behind its indicator. -/
theorem parseBlockSequence?_entry {item : Tree} {after : ParseState} {items : List Node}
    (h : parseNode? fuel true false { s with tokens := item.tokens ++ more } =
      some (item.node, after)) :
    parseBlockSequence? (fuel + 2) items
        { s with tokens := .blockEntry :: (item.tokens ++ more) } =
      parseBlockSequence? (fuel + 1) (item.node :: items) after := by
  have hitem : parseUnless? (fuel + 1) [.blockEntry, .blockEnd] true false
      { s with tokens := item.tokens ++ more } = some (item.node, after) :=
    (parseUnless?_tokens item (by simp) fuel).trans h
  rw [parseBlockSequence?]
  simp [ParseState.nextIs, ParseState.drop, hitem]

/-- An entry: a key and its value behind their indicators. -/
theorem parseBlockMapping?_entry {key : String} {value : Tree} {after : ParseState}
    {entries : List (Node × Node)}
    (h : parseNode? (fuel + 1) true true { s with tokens := value.tokens ++ more } =
      some (value.node, after)) :
    parseBlockMapping? (fuel + 3) entries
        { s with tokens := [.key, textToken key, .value] ++ (value.tokens ++ more) } =
      parseBlockMapping? (fuel + 2)
        ((.scalar key (!needsQuotes key) none, value.node) :: entries) after := by
  have hkey : parseUnless? (fuel + 2) [.key, .value, .blockEnd] true true
      { s with tokens := textToken key :: .value :: (value.tokens ++ more) } =
        some (.scalar key (!needsQuotes key) none,
          { s with tokens := .value :: (value.tokens ++ more) }) :=
    (parseUnless?_tokens (.text key) (by simp) (fuel + 1)).trans (parseNode?_textToken key fuel)
  have hvalue : parseUnless? (fuel + 2) [.key, .value, .blockEnd] true true
      { s with tokens := value.tokens ++ more } = some (value.node, after) :=
    (parseUnless?_tokens value (by simp) (fuel + 1)).trans h
  rw [parseBlockMapping?]
  simp [ParseState.nextIs, ParseState.drop, hkey, hvalue]

mutual

/-- The tokens of a tree are parsed to its node, whatever follows them. -/
theorem Tree.parseNode?_tokens : ∀ (t : Tree) {fuel : Nat}, t.tokens.length ≤ fuel →
    ∀ (indentless : Bool) (more : List Token) (s : ParseState),
      parseNode? fuel true indentless { s with tokens := t.tokens ++ more } =
        some (t.node, { s with tokens := more })
  | .text word, fuel + 1, _, _, _, _ => parseNode?_textToken word fuel
  | .list [], fuel + 2, _, _, _, _ => rfl
  | .map [], fuel + 2, _, _, _, _ => rfl
  | .list (item :: rest), fuel + 1, hfuel, indentless, more, s => by
      have hitems : (itemTokens (item :: rest)).length < fuel := by
        simp only [Tree.tokens, itemTokens, List.length_append, List.length_cons,
          List.length_nil] at hfuel ⊢
        omega
      have hread := parseBlockSequence?_tokens (item :: rest) hitems [] more s
      rw [Tree.tokens, List.append_assoc, List.cons_append, parseNode?_sequenceStart]
      exact hread
  | .map ((key, value) :: rest), fuel + 1, hfuel, indentless, more, s => by
      have hentries : (entryTokens ((key, value) :: rest)).length < fuel := by
        simp only [Tree.tokens, entryTokens, List.length_append, List.length_cons,
          List.length_nil] at hfuel ⊢
        omega
      have hread := parseBlockMapping?_tokens ((key, value) :: rest) hentries [] more s
      rw [Tree.tokens, List.append_assoc, List.cons_append, parseNode?_mappingStart]
      exact hread

theorem parseBlockSequence?_tokens : ∀ (items : List Tree) {fuel : Nat},
    (itemTokens items).length < fuel →
      ∀ (before : List Node) (more : List Token) (s : ParseState),
        parseBlockSequence? fuel before
            { s with tokens := itemTokens items ++ .blockEnd :: more } =
          some (.sequence (before.reverse ++ itemNodes items), { s with tokens := more })
  | [], fuel + 1, _, before, more, s => by
      rw [itemNodes, List.append_nil]
      rfl
  | item :: rest, fuel, hfuel, before, more, s => by
      rw [itemTokens, List.length_cons, List.length_append] at hfuel
      obtain ⟨fuel, rfl⟩ : ∃ m, fuel = m + 2 := ⟨fuel - 2, by omega⟩
      have hfirst : item.tokens.length ≤ fuel := by omega
      have hothers : (itemTokens rest).length < fuel + 1 := by omega
      have hitem := item.parseNode?_tokens hfirst false (itemTokens rest ++ .blockEnd :: more) s
      have hrest := parseBlockSequence?_tokens rest hothers (item.node :: before) more s
      rw [itemTokens, List.cons_append, List.append_assoc, parseBlockSequence?_entry hitem, hrest,
        itemNodes, List.reverse_cons, List.append_assoc, List.singleton_append]

theorem parseBlockMapping?_tokens : ∀ (entries : List (String × Tree)) {fuel : Nat},
    (entryTokens entries).length < fuel →
      ∀ (before : List (Node × Node)) (more : List Token) (s : ParseState),
        parseBlockMapping? fuel before
            { s with tokens := entryTokens entries ++ .blockEnd :: more } =
          some (.mapping (before.reverse ++ entryNodes entries), { s with tokens := more })
  | [], fuel + 1, _, before, more, s => by
      rw [entryNodes, List.append_nil]
      rfl
  | (key, value) :: rest, fuel, hfuel, before, more, s => by
      simp only [entryTokens, List.length_append, List.length_cons, List.length_nil] at hfuel
      obtain ⟨fuel, rfl⟩ : ∃ m, fuel = m + 3 := ⟨fuel - 3, by omega⟩
      have hfirst : value.tokens.length ≤ fuel + 1 := by omega
      have hothers : (entryTokens rest).length < fuel + 2 := by omega
      have hvalue := value.parseNode?_tokens hfirst true (entryTokens rest ++ .blockEnd :: more) s
      have hrest := parseBlockMapping?_tokens rest hothers
        ((.scalar key (!needsQuotes key) none, value.node) :: before) more s
      rw [entryTokens, List.append_assoc, List.append_assoc, parseBlockMapping?_entry hvalue,
        hrest, entryNodes, List.reverse_cons, List.append_assoc, List.singleton_append]

end

end Parsing

/-! ## Documents -/

/-- A mapping is parsed as the root of a document. -/
theorem parseContent?_tokens (entries : List (String × Tree)) :
    parseContent? ⟨(Tree.map entries).tokens, [], 0, []⟩ =
      some ((Tree.map entries).node, ⟨[], [], 0, []⟩) := by
  have hfuel : (Tree.map entries).tokens.length ≤
      fuelFor ⟨(Tree.map entries).tokens, [], 0, []⟩ := by
    change _ ≤ 3 * (Tree.map entries).tokens.length + 3
    omega
  have hread := (Tree.map entries).parseNode?_tokens hfuel false [] ⟨[], [], 0, []⟩
  rw [List.append_nil] at hread
  match entries, hread with
  | [], hread => exact hread
  | (key, value) :: rest, hread => exact hread

/-- A printed mapping is the only document of its text. -/
theorem parse?_renderMap {entries : List (String × Tree)} (h : ShortKeysEntries entries) :
    parse? (renderMap entries) = some ⟨[(Tree.map entries).node], []⟩ := by
  have hexplicit : parseExplicit? ⟨.documentStart :: (Tree.map entries).tokens, [], 0, []⟩ =
      some ((Tree.map entries).node, ⟨[], [], 0, []⟩) := parseContent?_tokens entries
  rw [parse?, tokens?_renderMap h, Option.bind_some, parseTokens?]
  simp only [or_true, ↓reduceIte, hexplicit]
  rfl

end VlanBinding.Yaml
