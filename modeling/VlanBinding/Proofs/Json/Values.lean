import VlanBinding.Proofs.Json.Numbers
import VlanBinding.Proofs.Json.Strings

/-!
JSON values in text. Main statement: a value without floating point numbers that is not nested too
deep reads back from its text in any style, with the members of its objects in order; so its text
parses to the value with sorted members.
-/

namespace VlanBinding.Json

/-! ## Values and their sources -/

mutual

/-- How deep a value is nested. -/
def height : Json → Nat
  | arr items => heightItems items + 1
  | obj members => heightMembers members + 1
  | _ => 0

def heightItems : List Json → Nat
  | [] => 0
  | item :: rest => max item.height (heightItems rest)

def heightMembers : List (String × Json) → Nat
  | [] => 0
  | (_, value) :: rest => max value.height (heightMembers rest)

end

mutual

/-- All numbers in a value are integers of 64 bits. -/
def Integral : Json → Prop
  | num (.int i) => InRange i
  | num (.float _) => False
  | arr items => IntegralItems items
  | obj members => IntegralMembers members
  | _ => True

def IntegralItems : List Json → Prop
  | [] => True
  | item :: rest => item.Integral ∧ IntegralItems rest

def IntegralMembers : List (String × Json) → Prop
  | [] => True
  | (_, value) :: rest => value.Integral ∧ IntegralMembers rest

end

theorem integralItems_iff {items : List Json} :
    IntegralItems items ↔ ∀ item ∈ items, item.Integral := by
  induction items with
  | nil => simp [IntegralItems]
  | cons item rest ih => rw [IntegralItems, ih, List.forall_mem_cons]

theorem integralMembers_iff {members : List (String × Json)} :
    IntegralMembers members ↔ ∀ m ∈ members, m.2.Integral := by
  induction members with
  | nil => simp [IntegralMembers]
  | cons member rest ih => rw [IntegralMembers, ih, List.forall_mem_cons]

theorem heightItems_le_iff {items : List Json} {n : Nat} :
    heightItems items ≤ n ↔ ∀ item ∈ items, item.height ≤ n := by
  induction items with
  | nil => simp [heightItems]
  | cons item rest ih => rw [heightItems, Nat.max_le, ih, List.forall_mem_cons]

theorem heightMembers_le_iff {members : List (String × Json)} {n : Nat} :
    heightMembers members ≤ n ↔ ∀ m ∈ members, m.2.height ≤ n := by
  induction members with
  | nil => simp [heightMembers]
  | cons member rest ih => rw [heightMembers, Nat.max_le, ih, List.forall_mem_cons]

mutual

/-- A value as it is met in its text. -/
def written : Json → Source
  | null => .null
  | bool b => .bool b
  | num n => .num n
  | str s => .str s
  | arr items => .arr (writtenItems items) .closed
  | obj members => .obj (writtenMembers members) .closed

def writtenItems : List Json → List Source
  | [] => []
  | item :: rest => item.written :: writtenItems rest

def writtenMembers : List (String × Json) → List (Option String × Source)
  | [] => []
  | (key, value) :: rest => (some key, value.written) :: writtenMembers rest

end

mutual

theorem complete_written : ∀ v : Json, v.written.complete = true
  | null | bool _ | num _ | str _ => rfl
  | arr items => completeItems_written items
  | obj members => completeMembers_written members

theorem completeItems_written : ∀ items : List Json,
    Source.completeItems (writtenItems items) = true
  | [] => rfl
  | item :: rest => by
      rw [writtenItems, Source.completeItems, complete_written item, completeItems_written rest]
      rfl

theorem completeMembers_written : ∀ members : List (String × Json),
    Source.completeMembers (writtenMembers members) = true
  | [] => rfl
  | (key, value) :: rest => by
      rw [writtenMembers, Source.completeMembers, complete_written value,
        completeMembers_written rest]
      rfl

end

mutual

/-- What is met in the text of a value is that value, with its members sorted. -/
theorem toJson?_written : ∀ v : Json, v.written.toJson? = some v.sorted
  | null | bool _ | num _ | str _ => rfl
  | arr items => by
      rw [written, Source.toJson?, if_neg (by decide), toItems?_written items]
      rfl
  | obj members => by
      rw [written, Source.toJson?, if_neg (by decide), toMembers?_written members]
      rfl

theorem toItems?_written : ∀ items : List Json,
    Source.toItems? (writtenItems items) = some (sortedItems items)
  | [] => rfl
  | item :: rest => by
      rw [writtenItems, Source.toItems?, toJson?_written item, toItems?_written rest]
      rfl

theorem toMembers?_written : ∀ members : List (String × Json),
    Source.toMembers? (writtenMembers members) = some (sortedValues members)
  | [] => rfl
  | (key, value) :: rest => by
      simp only [writtenMembers, Source.toMembers?, toJson?_written value,
        toMembers?_written rest, sortedValues]

end

/-! ## Blanks -/

/-- A style that puts no more than blanks around commas and colons, and at the start of lines. -/
structure Style.Spacing (style : Style) : Prop where
  comma : ∃ blanks, style.comma = ',' :: blanks ∧ ∀ c ∈ blanks, isBlank c = true
  colon : ∃ blanks, style.colon = ':' :: blanks ∧ ∀ c ∈ blanks, isBlank c = true
  line : ∀ level, ∀ c ∈ style.line level, isBlank c = true

theorem Style.spacing_compact : Style.compact.Spacing where
  comma := ⟨[], rfl, List.forall_mem_nil _⟩
  colon := ⟨[], rfl, List.forall_mem_nil _⟩
  line := fun _ => by simp [Style.compact]

theorem Style.spacing_spaced : Style.spaced.Spacing where
  comma := ⟨[' '], rfl, List.forall_mem_singleton.mpr rfl⟩
  colon := ⟨[' '], rfl, List.forall_mem_singleton.mpr rfl⟩
  line := fun _ => by simp [Style.spaced]

theorem Style.spacing_pretty : Style.pretty.Spacing where
  comma := ⟨[], rfl, List.forall_mem_nil _⟩
  colon := ⟨[' '], rfl, List.forall_mem_singleton.mpr rfl⟩
  line := fun level => by
    have hblank : isBlank ' ' = true ∧ isBlank '\n' = true := by decide
    simp [Style.pretty, hblank]

theorem skipBlanks_append {blanks : List Char} (h : ∀ c ∈ blanks, isBlank c = true)
    (rest : List Char) : skipBlanks (blanks ++ rest) = skipBlanks rest :=
  List.dropWhile_append_of_pos h

theorem skipBlanks_of_not_blank {c : Char} (hc : isBlank c = false) (rest : List Char) :
    skipBlanks (c :: rest) = c :: rest := by
  rw [skipBlanks, List.dropWhile_cons, hc]
  rfl

theorem stops_of_blank {c : Char} (hc : isBlank c = true) (rest : List Char) :
    Stops (c :: rest) := by
  rintro _ ⟨⟩
  simp only [isBlank, Bool.or_eq_true, beq_iff_eq] at hc
  rcases hc with ((rfl | rfl) | rfl) | rfl <;> decide

/-- A closing bracket stops a number, with or without blanks before it. -/
theorem stops_of_closing {c : Char} {cs rest : List Char} (h : skipBlanks cs = c :: rest)
    (hc : c = ']' ∨ c = '}') : Stops cs := by
  cases cs with
  | nil => cases h
  | cons x cs =>
      by_cases hx : isBlank x = true
      · exact stops_of_blank hx cs
      · rw [skipBlanks_of_not_blank (by simpa using hx)] at h
        obtain ⟨rfl, rfl⟩ := List.cons.inj h
        rcases hc with rfl | rfl <;> rintro _ ⟨⟩ <;> decide

/-! ## Reading -/

section Reading

variable {fuel depth : Nat} {cs rest after : List Char}

theorem readValue_blanks {blanks : List Char} (h : ∀ c ∈ blanks, isBlank c = true)
    (fuel depth : Nat) (cs : List Char) :
    readValue fuel depth (blanks ++ cs) = readValue fuel depth cs := by
  cases fuel with
  | zero => rfl
  | succ fuel => rw [readValue, readValue, skipBlanks_append h]

theorem readValue_quoted (ascii : Bool) (text rest : List Char) :
    readValue (fuel + 1) depth (quoted ascii text ++ rest) = (.str (String.ofList text), rest) := by
  have hquoted : quoted ascii text ++ rest =
      '"' :: (text.flatMap (escape ascii) ++ '"' :: rest) := by
    simp [quoted]
  rw [hquoted, readValue, skipBlanks_of_not_blank (by decide)]
  simp [readString?_escape]

theorem readValue_integer {i : Int} (hi : InRange i) (hrest : Stops rest) :
    readValue (fuel + 1) depth (integer i ++ rest) = (.num (.int i), rest) := by
  obtain ⟨c, cs, hcs, hc⟩ := integer_eq_cons i
  have hne (x : Char) (hx : x ≠ '-' ∧ x.isDigit = false) : c ≠ x := ne_of_starts hc hx
  have hread := readNumber?_integer i hrest
  rw [hcs, List.cons_append] at hread ⊢
  rw [readValue, skipBlanks_of_not_blank (not_isBlank_of_starts hc)]
  simp only [if_neg (hne 'n' (by decide)), if_neg (hne 't' (by decide)),
    if_neg (hne 'f' (by decide)), if_neg (hne '"' (by decide)), if_neg (hne '[' (by decide)),
    if_neg (hne '{' (by decide)), if_pos hc, hread, value?_integerText hi]

theorem readValue_array (hdepth : depth < depthLimit) {c : Char} (hcs : skipBlanks cs = c :: rest)
    (hc : c ≠ ']') {items : List Source} {ending : Ending}
    (h : readItems fuel (depth + 1) (c :: rest) = (items, ending, after)) :
    readValue (fuel + 1) depth ('[' :: cs) = (.arr items ending, after) := by
  rw [readValue, skipBlanks_of_not_blank (by decide)]
  simp only [Char.reduceEq, ↓reduceIte, hcs]
  split
  · rename_i hclose
    exact absurd (List.cons.inj hclose).1 hc
  · simp only [h, atDepth, if_pos hdepth]

theorem readValue_array_nil (hdepth : depth < depthLimit) (rest : List Char) :
    readValue (fuel + 1) depth ('[' :: ']' :: rest) = (.arr [] .closed, rest) := by
  change (atDepth depth (.arr [] .closed), rest) = _
  rw [atDepth, if_pos hdepth]

theorem readValue_object_nil (hdepth : depth < depthLimit) (rest : List Char) :
    readValue (fuel + 1) depth ('{' :: '}' :: rest) = (.obj [] .closed, rest) := by
  change (atDepth depth (.obj [] .closed), rest) = _
  rw [atDepth, if_pos hdepth]

theorem readValue_object (hdepth : depth < depthLimit) {c : Char} (hcs : skipBlanks cs = c :: rest)
    (hc : c ≠ '}') {members : List (Option String × Source)} {ending : Ending}
    (h : readMembers fuel (depth + 1) (c :: rest) = (members, ending, after)) :
    readValue (fuel + 1) depth ('{' :: cs) = (.obj members ending, after) := by
  rw [readValue, skipBlanks_of_not_blank (by decide)]
  simp only [Char.reduceEq, ↓reduceIte, hcs]
  split
  · rename_i hclose
    exact absurd (List.cons.inj hclose).1 hc
  · simp only [h, atDepth, if_pos hdepth]

theorem nextItem_close {close : Char} (hclose : close ≠ ',') (hcs : skipBlanks cs = close :: rest) :
    nextItem close cs = .stop rest := by
  rw [nextItem, hcs]
  simp only [↓reduceIte]

theorem nextItem_comma {close c : Char} {more : List Char} (hcs : skipBlanks cs = ',' :: rest)
    (hrest : skipBlanks rest = c :: more) (hc : c ≠ close) :
    nextItem close cs = .more (c :: more) := by
  rw [nextItem, hcs]
  simp only [hrest, if_neg hc]

variable {item : Source} {items : List Source} {ending : Ending} {more : List Char}

theorem readItems_stop (hitem : readValue fuel depth cs = (item, rest))
    (hcomplete : item.complete = true) (hnext : nextItem ']' rest = .stop after) :
    readItems (fuel + 1) depth cs = ([item], .closed, after) := by
  rw [readItems]
  simp [hitem, hcomplete, hnext]

theorem readItems_more (hitem : readValue fuel depth cs = (item, rest))
    (hcomplete : item.complete = true) (hnext : nextItem ']' rest = .more more)
    (hmore : readItems fuel depth more = (items, ending, after)) :
    readItems (fuel + 1) depth cs = (item :: items, ending, after) := by
  rw [readItems]
  simp [hitem, hcomplete, hnext, hmore]

variable {key : Option String} {members : List (Option String × Source)} {text : List Char}

theorem readMembers_stop (hkey : readString? cs = some (key, rest))
    (hcolon : skipBlanks rest = ':' :: text) (hitem : readValue fuel depth text = (item, more))
    (hcomplete : item.complete = true) (hnext : nextItem '}' more = .stop after) :
    readMembers (fuel + 1) depth ('"' :: cs) = ([(key, item)], .closed, after) := by
  rw [readMembers]
  simp [hkey, hcolon, hitem, hcomplete, hnext]

theorem readMembers_more (hkey : readString? cs = some (key, rest))
    (hcolon : skipBlanks rest = ':' :: text) (hitem : readValue fuel depth text = (item, more))
    (hcomplete : item.complete = true) {others : List Char}
    (hnext : nextItem '}' more = .more others)
    (hmore : readMembers fuel depth others = (members, ending, after)) :
    readMembers (fuel + 1) depth ('"' :: cs) = ((key, item) :: members, ending, after) := by
  rw [readMembers]
  simp [hkey, hcolon, hitem, hcomplete, hnext, hmore]

end Reading

/-! ## What is written reads back -/

section Writing

variable {style : Style} {level : Nat}

/-- No value starts with a blank or with a closing bracket. -/
theorem write_eq_cons (style : Style) (level : Nat) {v : Json} (hv : v.Integral) :
    ∃ c cs, v.write style level = c :: cs ∧ isBlank c = false ∧ c ≠ ']' := by
  cases v with
  | null => exact ⟨'n', _, rfl, by decide⟩
  | bool b => cases b with
    | true => exact ⟨'t', _, rfl, by decide⟩
    | false => exact ⟨'f', _, rfl, by decide⟩
  | str s => exact ⟨'"', _, rfl, by decide⟩
  | num n =>
      cases n with
      | float x => exact hv.elim
      | int i =>
          obtain ⟨c, cs, hcs, hc⟩ := integer_eq_cons i
          exact ⟨c, cs, hcs, not_isBlank_of_starts hc, ne_of_starts hc (by decide)⟩
  | arr items => cases items <;> exact ⟨'[', _, rfl, by decide⟩
  | obj members => cases members <;> exact ⟨'{', _, rfl, by decide⟩

/-- The text behind an item stops there. -/
theorem stops_writeItems (hstyle : style.Spacing) (items : List Json) {tail : List Char}
    (htail : Stops tail) : Stops (writeItems style level items ++ tail) := by
  cases items with
  | nil => exact htail
  | cons item rest =>
      obtain ⟨blanks, hcomma, -⟩ := hstyle.comma
      rw [writeItems, hcomma]
      rintro _ ⟨⟩
      decide

theorem stops_writeMembers (hstyle : style.Spacing) (members : List (String × Json))
    {tail : List Char} (htail : Stops tail) :
    Stops (writeMembers style level members ++ tail) := by
  cases members with
  | nil => exact htail
  | cons member rest =>
      obtain ⟨blanks, hcomma, -⟩ := hstyle.comma
      rw [writeMembers, hcomma]
      rintro _ ⟨⟩
      decide

/-- Behind a comma the next item comes. -/
theorem nextItem_writeItems (hstyle : style.Spacing) {item : Json} (hitem : item.Integral)
    (rest : List Json) (tail : List Char) :
    nextItem ']' (writeItems style level (item :: rest) ++ tail) =
      .more (item.write style level ++ (writeItems style level rest ++ tail)) := by
  obtain ⟨blanks, hcomma, hblanks⟩ := hstyle.comma
  obtain ⟨c, cs, hcs, hblank, hclose⟩ := write_eq_cons style level hitem
  have htext : writeItems style level (item :: rest) ++ tail =
      ',' :: (blanks ++ (style.line level ++
        (item.write style level ++ (writeItems style level rest ++ tail)))) := by
    simp [writeItems, hcomma]
  rw [htext, hcs]
  refine nextItem_comma (skipBlanks_of_not_blank (by decide) _) ?_ hclose
  rw [skipBlanks_append hblanks, skipBlanks_append (hstyle.line level), List.cons_append,
    skipBlanks_of_not_blank hblank]
  rfl

/-- Behind a comma the next member comes. -/
theorem nextItem_writeMembers (hstyle : style.Spacing) (key : String) (value : Json)
    (rest : List (String × Json)) (tail : List Char) :
    nextItem '}' (writeMembers style level ((key, value) :: rest) ++ tail) =
      .more (quoted style.ascii key.toList ++
        (style.colon ++ (value.write style level ++ (writeMembers style level rest ++ tail)))) := by
  obtain ⟨blanks, hcomma, hblanks⟩ := hstyle.comma
  have htext : writeMembers style level ((key, value) :: rest) ++ tail =
      ',' :: (blanks ++ (style.line level ++ (quoted style.ascii key.toList ++
        (style.colon ++
          (value.write style level ++ (writeMembers style level rest ++ tail)))))) := by
    simp [writeMembers, hcomma]
  rw [htext]
  refine nextItem_comma (skipBlanks_of_not_blank (by decide) _) ?_ (by decide)
  rw [skipBlanks_append hblanks, skipBlanks_append (hstyle.line level)]
  exact skipBlanks_of_not_blank (by decide) _

/-- A key is read up to the value behind its colon. -/
theorem readString?_key (hstyle : style.Spacing) (key : String) (text : List Char) :
    ∃ cs behind blanks, quoted style.ascii key.toList ++ (style.colon ++ text) = '"' :: cs ∧
      readString? cs = some (some key, behind) ∧ skipBlanks behind = ':' :: (blanks ++ text) ∧
      ∀ c ∈ blanks, isBlank c = true := by
  obtain ⟨blanks, hcolon, hblanks⟩ := hstyle.colon
  refine ⟨key.toList.flatMap (escape style.ascii) ++ '"' :: (style.colon ++ text),
    style.colon ++ text, blanks, ?_, ?_, ?_, hblanks⟩
  · simp [quoted]
  · rw [readString?_escape, String.ofList_toList]
  · rw [hcolon, List.cons_append, skipBlanks_of_not_blank (by decide)]

theorem skipBlanks_line (hstyle : style.Spacing) {c : Char} (hc : isBlank c = false)
    (rest : List Char) : skipBlanks (style.line level ++ c :: rest) = c :: rest := by
  rw [skipBlanks_append (hstyle.line level), skipBlanks_of_not_blank hc]

-- The induction is on the value. Each container takes two steps of fuel and at least two
-- characters, so twice the length of the text is enough; an item and what follows it are read with
-- what is left after one step, which is why the bounds of items are on the text behind them alone.
mutual

/-- A value is read up to its end, whatever follows it. -/
theorem readValue_write (hstyle : style.Spacing) : ∀ (v : Json) (level depth fuel : Nat)
    {rest : List Char}, v.Integral → depth + v.height ≤ depthLimit →
      2 * (v.write style level).length ≤ fuel → Stops rest →
        readValue fuel depth (v.write style level ++ rest) = (v.written, rest)
  | null, _, _, fuel + 1, _, _, _, _, _ => rfl
  | bool true, _, _, fuel + 1, _, _, _, _, _ => rfl
  | bool false, _, _, fuel + 1, _, _, _, _, _ => rfl
  | str s, level, depth, fuel + 1, rest, _, _, _, _ => by
      rw [write, readValue_quoted, String.ofList_toList]
      rfl
  | num (.int i), level, depth, 0, rest, _, _, hfuel, _ => by
      obtain ⟨c, cs, hcs, -⟩ := integer_eq_cons i
      simp [write, Number.text, hcs] at hfuel
  | num (.int i), level, depth, fuel + 1, rest, hi, _, _, hrest => readValue_integer hi hrest
  | arr [], level, depth, fuel + 1, rest, _, hdepth, _, _ => by
      rw [height, heightItems] at hdepth
      exact readValue_array_nil (by omega) rest
  | arr (item :: items), level, depth, fuel + 1, rest, hv, hdepth, hfuel, hrest => by
      obtain ⟨hitem, hitems⟩ : item.Integral ∧ IntegralItems items := hv
      rw [height, heightItems] at hdepth
      simp only [write, List.length_append, List.length_cons, List.length_nil] at hfuel
      obtain ⟨fuel, rfl⟩ : ∃ f, fuel = f + 1 := ⟨fuel - 1, by omega⟩
      have htail : skipBlanks (style.line level ++ ']' :: rest) = ']' :: rest :=
        skipBlanks_line hstyle (by decide) rest
      have hstops :
          Stops (writeItems style (level + 1) items ++ (style.line level ++ ']' :: rest)) :=
        stops_writeItems hstyle items (stops_of_closing htail (.inl rfl))
      have hfirst := readValue_write hstyle item (level + 1) (depth + 1) fuel hitem (by omega)
        (by omega) hstops
      have hread := readItems_write hstyle items hitems (by omega) (by omega) htail hfirst
        item.complete_written
      obtain ⟨c, cs, hcs, hblank, hclose⟩ := write_eq_cons style (level + 1) hitem
      have htext : (arr (item :: items)).write style level ++ rest =
          '[' :: (style.line (level + 1) ++ (item.write style (level + 1) ++
            (writeItems style (level + 1) items ++ (style.line level ++ ']' :: rest)))) := by
        simp [write]
      rw [hcs, List.cons_append] at hread htext
      rw [htext]
      exact readValue_array (by omega) (skipBlanks_line hstyle hblank _) hclose hread
  | obj [], level, depth, fuel + 1, rest, _, hdepth, _, _ => by
      rw [height, heightMembers] at hdepth
      exact readValue_object_nil (by omega) rest
  | obj ((key, value) :: members), level, depth, fuel + 1, rest, hv, hdepth, hfuel, hrest => by
      obtain ⟨hvalue, hmembers⟩ : value.Integral ∧ IntegralMembers members := hv
      rw [height, heightMembers] at hdepth
      simp only [write, List.length_append, List.length_cons, List.length_nil] at hfuel
      obtain ⟨fuel, rfl⟩ : ∃ f, fuel = f + 1 := ⟨fuel - 1, by omega⟩
      have htail : skipBlanks (style.line level ++ '}' :: rest) = '}' :: rest :=
        skipBlanks_line hstyle (by decide) rest
      have hstops :
          Stops (writeMembers style (level + 1) members ++ (style.line level ++ '}' :: rest)) :=
        stops_writeMembers hstyle members (stops_of_closing htail (.inr rfl))
      have hfirst := readValue_write hstyle value (level + 1) (depth + 1) fuel hvalue (by omega)
        (by omega) hstops
      have hread := readMembers_write hstyle members key hmembers (by omega) (by omega) htail
        hfirst value.complete_written
      have htext : (obj ((key, value) :: members)).write style level ++ rest =
          '{' :: (style.line (level + 1) ++ (quoted style.ascii key.toList ++ (style.colon ++
            (value.write style (level + 1) ++ (writeMembers style (level + 1) members ++
              (style.line level ++ '}' :: rest)))))) := by
        simp [write]
      obtain ⟨cs, -, -, hkey, -⟩ := readString?_key hstyle key (value.write style (level + 1) ++
        (writeMembers style (level + 1) members ++ (style.line level ++ '}' :: rest)))
      rw [hkey] at hread htext
      rw [htext]
      exact readValue_object (by omega) (skipBlanks_line hstyle (by decide) _) (by decide) hread

/-- The items behind one that was read. -/
theorem readItems_write (hstyle : style.Spacing) : ∀ (items : List Json) {level depth fuel : Nat}
    {first : Source} {cs tail rest : List Char}, IntegralItems items →
      depth + heightItems items ≤ depthLimit →
      2 * (writeItems style level items).length ≤ fuel →
      skipBlanks tail = ']' :: rest →
      readValue fuel depth cs = (first, writeItems style level items ++ tail) →
      first.complete = true →
        readItems (fuel + 1) depth cs = (first :: writtenItems items, .closed, rest)
  | [], level, depth, fuel, first, cs, tail, rest, _, _, _, htail, hfirst, hcomplete =>
      readItems_stop hfirst hcomplete (nextItem_close (by decide) htail)
  | item :: items, level, depth, fuel, first, cs, tail, rest, hitems, hdepth, hfuel, htail,
      hfirst, hcomplete => by
      rw [heightItems] at hdepth
      obtain ⟨blanks, hcomma, -⟩ := hstyle.comma
      simp only [writeItems, hcomma, List.length_append, List.length_cons] at hfuel
      obtain ⟨fuel, rfl⟩ : ∃ f, fuel = f + 1 := ⟨fuel - 1, by omega⟩
      have hstops : Stops (writeItems style level items ++ tail) :=
        stops_writeItems hstyle items (stops_of_closing htail (.inl rfl))
      have hitem := readValue_write hstyle item level depth fuel hitems.1 (by omega) (by omega)
        hstops
      have hread := readItems_write hstyle items hitems.2 (by omega) (by omega) htail hitem
        item.complete_written
      exact readItems_more hfirst hcomplete (nextItem_writeItems hstyle hitems.1 items tail) hread

/-- The members behind one whose key was read and whose value comes next. -/
theorem readMembers_write (hstyle : style.Spacing) : ∀ (members : List (String × Json))
    {level depth fuel : Nat} {first : Source} (key : String) {text tail rest : List Char},
      IntegralMembers members →
      depth + heightMembers members ≤ depthLimit →
      2 * (writeMembers style level members).length ≤ fuel →
      skipBlanks tail = '}' :: rest →
      readValue fuel depth text = (first, writeMembers style level members ++ tail) →
      first.complete = true →
        readMembers (fuel + 1) depth (quoted style.ascii key.toList ++ (style.colon ++ text)) =
          ((some key, first) :: writtenMembers members, .closed, rest)
  | [], level, depth, fuel, first, key, text, tail, rest, _, _, _, htail, hfirst, hcomplete => by
      obtain ⟨cs, behind, blanks, htext, hkey, hcolon, hblanks⟩ := readString?_key hstyle key text
      have hvalue := (readValue_blanks hblanks fuel depth text).trans hfirst
      rw [htext]
      exact readMembers_stop hkey hcolon hvalue hcomplete (nextItem_close (by decide) htail)
  | (name, value) :: members, level, depth, fuel, first, key, text, tail, rest, hmembers, hdepth,
      hfuel, htail, hfirst, hcomplete => by
      rw [heightMembers] at hdepth
      obtain ⟨comma, hcomma, -⟩ := hstyle.comma
      simp only [writeMembers, hcomma, List.length_append, List.length_cons] at hfuel
      obtain ⟨fuel, rfl⟩ : ∃ f, fuel = f + 1 := ⟨fuel - 1, by omega⟩
      have hstops : Stops (writeMembers style level members ++ tail) :=
        stops_writeMembers hstyle members (stops_of_closing htail (.inr rfl))
      have hmember := readValue_write hstyle value level depth fuel hmembers.1 (by omega)
        (by omega) hstops
      have hread := readMembers_write hstyle members name hmembers.2 (by omega) (by omega) htail
        hmember value.complete_written
      obtain ⟨cs, behind, blanks, htext, hkey, hcolon, hblanks⟩ := readString?_key hstyle key text
      have hvalue := (readValue_blanks hblanks (fuel + 1) depth text).trans hfirst
      rw [htext]
      exact readMembers_more hkey hcolon hvalue hcomplete
        (nextItem_writeMembers hstyle name value members tail) hread

end

/-- The text of a value is read as the value and nothing else. -/
theorem read_write (hstyle : style.Spacing) {v : Json} (hv : v.Integral)
    (hdepth : v.height ≤ depthLimit) :
    read (String.ofList (v.write style 0)) = (v.written, []) := by
  have hfuel : 2 * (v.write style 0).length ≤ 2 * (v.write style 0).length + 2 := by omega
  have hend : Stops [] := by rintro _ ⟨⟩
  have hread := readValue_write hstyle v 0 0 _ hv (by omega) hfuel hend
  rw [List.append_nil] at hread
  rw [read, String.toList_ofList, hread]

theorem parse?_write (hstyle : style.Spacing) {v : Json} (hv : v.Integral)
    (hdepth : v.height ≤ depthLimit) :
    parse? (String.ofList (v.write style 0)) = some v.sorted := by
  simp only [parse?, read_write hstyle hv hdepth, toJson?_written]
  rfl

end Writing

/-! ## ASCII -/

theorem ascii_of_digits {digits : List Char} (h : ∀ c ∈ digits, c.isDigit = true) :
    Ascii digits := by
  intro c hc
  have hdigit := h c hc
  simp only [Char.isDigit, Bool.and_eq_true, decide_eq_true_eq] at hdigit
  have hle : c.val.toNat ≤ 57 := UInt32.le_iff_toNat_le.mp hdigit.2
  rw [Char.toNat]
  omega

theorem ascii_integer (i : Int) : Ascii (integer i) := by
  have hdigits : Ascii (Nat.toDigits 10 i.natAbs) :=
    ascii_of_digits fun c => isDigit_of_mem_toDigits
  rw [integer]
  split <;> exact ascii_append.mpr ⟨by decide, hdigits⟩

theorem ascii_of_blanks {blanks : List Char} (h : ∀ c ∈ blanks, isBlank c = true) :
    Ascii blanks := by
  intro c hc
  have hblank := h c hc
  simp only [isBlank, Bool.or_eq_true, beq_iff_eq] at hblank
  rcases hblank with ((rfl | rfl) | rfl) | rfl <;> decide

section Ascii

variable {style : Style}

theorem Style.Spacing.ascii_comma (hstyle : style.Spacing) : Ascii style.comma := by
  obtain ⟨blanks, hcomma, hblanks⟩ := hstyle.comma
  exact hcomma ▸ ascii_cons.mpr ⟨by decide, ascii_of_blanks hblanks⟩

theorem Style.Spacing.ascii_colon (hstyle : style.Spacing) : Ascii style.colon := by
  obtain ⟨blanks, hcolon, hblanks⟩ := hstyle.colon
  exact hcolon ▸ ascii_cons.mpr ⟨by decide, ascii_of_blanks hblanks⟩

theorem Style.Spacing.ascii_line (hstyle : style.Spacing) (level : Nat) :
    Ascii (style.line level) :=
  ascii_of_blanks (hstyle.line level)

mutual

/-- Where characters beyond ASCII are escaped, the text of a value is ASCII. -/
theorem ascii_write (hstyle : style.Spacing) (hascii : style.ascii = true) :
    ∀ (v : Json) (level : Nat), v.Integral → Ascii (v.write style level)
  | null, _, _ => by rw [write]; decide
  | bool true, _, _ => by rw [write]; decide
  | bool false, _, _ => by rw [write]; decide
  | str s, _, _ => by
      rw [write, hascii]
      exact ascii_quoted s.toList
  | num (.int i), _, _ => by
      rw [write]
      exact ascii_integer i
  | arr [], _, _ => by rw [write]; decide
  | arr (item :: rest), level, hv => by
      have hitem := ascii_write hstyle hascii item (level + 1) hv.1
      have hrest := ascii_writeItems hstyle hascii rest (level + 1) hv.2
      simp [write, ascii_append, ascii_cons, ascii_nil, hstyle.ascii_line, hitem, hrest]
  | obj [], _, _ => by rw [write]; decide
  | obj ((key, value) :: rest), level, hv => by
      have hvalue := ascii_write hstyle hascii value (level + 1) hv.1
      have hrest := ascii_writeMembers hstyle hascii rest (level + 1) hv.2
      simp [write, hascii, ascii_append, ascii_cons, ascii_nil, ascii_quoted, hstyle.ascii_line,
        hstyle.ascii_colon, hvalue, hrest]

theorem ascii_writeItems (hstyle : style.Spacing) (hascii : style.ascii = true) :
    ∀ (items : List Json) (level : Nat), IntegralItems items →
      Ascii (writeItems style level items)
  | [], _, _ => ascii_nil
  | item :: rest, level, hitems => by
      have hitem := ascii_write hstyle hascii item level hitems.1
      have hrest := ascii_writeItems hstyle hascii rest level hitems.2
      simp [writeItems, ascii_append, hstyle.ascii_comma, hstyle.ascii_line, hitem, hrest]

theorem ascii_writeMembers (hstyle : style.Spacing) (hascii : style.ascii = true) :
    ∀ (members : List (String × Json)) (level : Nat), IntegralMembers members →
      Ascii (writeMembers style level members)
  | [], _, _ => ascii_nil
  | (key, value) :: rest, level, hmembers => by
      have hvalue := ascii_write hstyle hascii value level hmembers.1
      have hrest := ascii_writeMembers hstyle hascii rest level hmembers.2
      simp [writeMembers, hascii, ascii_append, ascii_quoted, hstyle.ascii_comma,
        hstyle.ascii_colon, hstyle.ascii_line, hvalue, hrest]

end

end Ascii

end VlanBinding.Json
