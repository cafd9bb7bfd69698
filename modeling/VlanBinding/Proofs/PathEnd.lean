import VlanBinding.Proofs.Joining
import VlanBinding.Proofs.UrlPath

/-!
A text put at the end of a URL as it is, behind a path that is known. Main statement: the path that
results ends in a segment that stands for the text exactly if the text can stand in a path as it is;
other texts are cut short, decoded, or climb the path.
-/

namespace VlanBinding.Http.Url

/-- A text that can stand in a path as it is: nothing in it parts a URL or does not count in it,
nothing in it is taken for an encoded byte, and it does not stand for a step in the path. -/
structure Addressable (text : List Char) : Prop where
  nonempty : text ≠ []
  plain : ∀ c ∈ text, c ∉ "/\\?#\t\n\r".toList
  visibleEnd : ∀ c ∈ text.getLast?, 0x20 < c.toNat
  unencoded : ¬ Percent.HasEncoded text
  noDots : text ≠ ['.'] ∧ text ≠ ['.', '.']

/-! ## What counts of a text -/

/-- What counts of a text in a path. -/
def pathPart (text : List Char) : List Char :=
  ((trailing text).takeWhile (· ≠ '#')).takeWhile (· ≠ '?')

theorem pathPart_sublist (text : List Char) : (pathPart text).Sublist text :=
  ((List.takeWhile_sublist _).trans (List.takeWhile_sublist _)).trans (trailing_sublist text)

/-- The text counts as a whole. -/
theorem pathPart_eq_self_iff {text : List Char} : pathPart text = text ↔
    trailing text = text ∧ ∀ c ∈ text, c ≠ '#' ∧ c ≠ '?' := by
  constructor
  · intro h
    have htrailing : trailing text = text := by
      apply (trailing_sublist text).eq_of_length_le
      calc text.length = (pathPart text).length := by rw [h]
        _ ≤ (trailing text).length :=
          ((List.takeWhile_sublist _).trans (List.takeWhile_sublist _)).length_le
    rw [pathPart, htrailing] at h
    have hhash : text.takeWhile (· ≠ '#') = text := by
      apply (List.takeWhile_sublist _).eq_of_length_le
      calc text.length = ((text.takeWhile (· ≠ '#')).takeWhile (· ≠ '?')).length := by rw [h]
        _ ≤ (text.takeWhile (· ≠ '#')).length := (List.takeWhile_sublist _).length_le
    rw [hhash, takeWhile_ne_eq_self_iff] at h
    rw [takeWhile_ne_eq_self_iff] at hhash
    exact ⟨htrailing, fun c hc => ⟨hhash c hc, h c hc⟩⟩
  · rintro ⟨htrailing, hplain⟩
    rw [pathPart, htrailing, takeWhile_ne_eq_self_iff.mpr fun c hc => (hplain c hc).1,
      takeWhile_ne_eq_self_iff.mpr fun c hc => (hplain c hc).2]

theorem not_mem_special_iff {c : Char} : c ∉ "/\\?#\t\n\r".toList ↔
    isSlash c = false ∧ isBreak c = false ∧ c ≠ '#' ∧ c ≠ '?' := by
  have hchars : "/\\?#\t\n\r".toList = ['/', '\\', '?', '#', '\t', '\n', '\r'] := rfl
  simp only [hchars, isSlash, isBreak, Bool.or_eq_false_iff, beq_eq_false_iff_ne, List.mem_cons,
    List.not_mem_nil, or_false, not_or, ne_eq]
  tauto

theorem Addressable.pathPart_eq {text : List Char} (h : Addressable text) :
    pathPart text = text := by
  rw [pathPart_eq_self_iff, trailing_eq_self_iff]
  have hplain := fun c hc => not_mem_special_iff.mp (h.plain c hc)
  exact ⟨⟨fun c hc => (hplain c hc).2.1, h.visibleEnd⟩, fun c hc => (hplain c hc).2.2⟩

theorem Addressable.queryOf_eq {text : List Char} (h : Addressable text) :
    queryOf ((trailing text).takeWhile (· ≠ '#')) = none := by
  obtain ⟨htrailing, hplain⟩ := pathPart_eq_self_iff.mp h.pathPart_eq
  have hhash : text.takeWhile (· ≠ '#') = text :=
    takeWhile_ne_eq_self_iff.mpr fun c hc => (hplain c hc).1
  have hquery : text.dropWhile (· ≠ '?') = [] := by
    rw [← List.append_nil text, dropWhile_ne_append fun c hc => (hplain c hc).2, List.dropWhile_nil]
  rw [htrailing, hhash, queryOf, hquery]

theorem Addressable.decode_encode {text : List Char} (h : Addressable text) :
    Percent.decode (Percent.encode isPathChar text) = Text.utf8 text := by
  rw [Percent.decode_encode_of_transparent transparent_isPathChar,
    Percent.decode_eq_utf8_iff.mpr h.unencoded]

theorem Addressable.encode_ne_nil {text : List Char} (h : Addressable text) :
    Percent.encode isPathChar text ≠ [] := by
  intro hnil
  have hdecode := h.decode_encode
  obtain ⟨c, cs, rfl⟩ := List.exists_cons_of_ne_nil h.nonempty
  rw [hnil, Text.utf8_cons] at hdecode
  have hpos := Text.length_utf8EncodeChar_pos c
  have hlength := congrArg List.length hdecode
  simp only [Percent.decode, List.length_nil, List.length_append] at hlength
  omega

/-! ## Behind a path -/

/-- The segments of the path with a text put behind others, the last one first. -/
def behind (front : List (List Char)) (text : List Char) : List (List Char) :=
  walk front (segments (pathPart text))

/-- A segment of a path that comes of the text. -/
def FromText (text segment : List Char) : Prop :=
  segment = [] ∨ ∃ piece ∈ segments (pathPart text), isDots 1 piece = false ∧
    isDots 2 piece = false ∧ segment = Percent.encode isPathChar piece

section Behind

variable {front : List (List Char)} {text name : List Char}

theorem behind_walked (front : List (List Char)) (text : List Char) :
    Walked front (FromText text) (behind front text) :=
  (Walked.refl _ _).walk (Or.inl rfl) fun piece hpiece hone htwo =>
    Or.inr ⟨piece, hpiece, hone, htwo, rfl⟩

theorem Addressable.behind_eq (h : Addressable text) (front : List (List Char)) :
    behind front text = Percent.encode isPathChar text :: front := by
  have hdots {n : Nat} (hn : text ≠ List.replicate n '.') : ¬ isDots n text = true := by
    intro hdots
    rcases dots_of_isDots hdots with htext | hencoded
    · exact hn htext
    · exact h.unencoded hencoded
  have hslash : ∀ c ∈ text, isSlash c = false :=
    fun c hc => (not_mem_special_iff.mp (h.plain c hc)).1
  have hone : ¬ isDots 1 text = true := hdots h.noDots.1
  have htwo : ¬ isDots 2 text = true := hdots h.noDots.2
  rw [behind, h.pathPart_eq, segments_of_noSlash hslash, walk, if_neg htwo, if_neg hone, walk]

/-- A segment that comes of the text and stands for it: the text can stand in a path as it is. -/
theorem FromText.addressable (h : FromText text name) (hne : name ≠ [])
    (hdecode : Percent.decode name = Text.utf8 text) : Addressable text := by
  rcases h with hnil | ⟨piece, hpiece, hone, htwo, rfl⟩
  · exact absurd hnil hne
  · obtain ⟨hsublist, hslash⟩ := of_mem_segments hpiece
    rw [Percent.decode_encode_of_transparent transparent_isPathChar] at hdecode
    -- a piece that is shorter than the text stands for fewer bytes
    have hlength : (Text.utf8 text).length ≤ (Text.utf8 piece).length := by
      rw [← hdecode]
      exact Percent.length_decode_le piece
    obtain rfl : piece = text :=
      Text.eq_of_sublist_of_length_utf8 (hsublist.trans (pathPart_sublist text)) hlength
    have hwhole : pathPart piece = piece :=
      (pathPart_sublist piece).eq_of_length_le hsublist.length_le
    obtain ⟨htrailing, hplain⟩ := pathPart_eq_self_iff.mp hwhole
    obtain ⟨hbreak, hend⟩ := trailing_eq_self_iff.mp htrailing
    constructor
    · rintro rfl
      exact hne rfl
    · intro c hc
      exact not_mem_special_iff.mpr ⟨hslash c hc, hbreak c hc, hplain c hc⟩
    · exact hend
    · exact Percent.decode_eq_utf8_iff.mp hdecode
    · constructor
      · rintro rfl
        cases hone
      · rintro rfl
        cases htwo

/-- The path ends in a segment that stands for the text exactly if the text can stand in it as it
is. -/
theorem behind_iff_addressable (front : List (List Char)) (text : List Char) :
    (∃ name, behind front text = name :: front ∧ name ≠ [] ∧
      Percent.decode name = Text.utf8 text) ↔ Addressable text := by
  constructor
  · rintro ⟨name, hpath, hne, hdecode⟩
    -- the path is longer than what stood in front of the text, so that its end comes of the text
    obtain ⟨new, old, hsplit, hold, hnew⟩ := behind_walked front text
    have hname : FromText text name := by
      cases new with
      | nil =>
          have hlength := hold.length_le
          rw [← List.nil_append old, ← hsplit, hpath, List.length_cons] at hlength
          exact absurd hlength (Nat.not_succ_le_self _)
      | cons first others =>
          rw [hpath, List.cons_append] at hsplit
          rw [(List.cons.inj hsplit).1]
          exact hnew first List.mem_cons_self
    exact hname.addressable hne hdecode
  · intro h
    exact ⟨_, h.behind_eq front, h.encode_ne_nil, h.decode_encode⟩

/-- Nothing that parts a URL is in the segments of a path. -/
theorem behind_unparted (hfront : ∀ segment ∈ front, ∀ c ∈ segment, c ≠ '/' ∧ c ≠ '?' ∧ c ≠ '#')
    (text : List Char) :
    ∀ segment ∈ behind front text, ∀ c ∈ segment, c ≠ '/' ∧ c ≠ '?' ∧ c ≠ '#' := by
  obtain ⟨new, old, hsplit, hold, hnew⟩ := behind_walked front text
  rw [hsplit, List.forall_mem_append]
  constructor
  · intro segment hsegment
    rcases hnew segment hsegment with rfl | ⟨piece, hpiece, -, -, rfl⟩
    · simp
    · exact not_mem_encode_of_noSlash (of_mem_segments hpiece).2
  · exact fun segment hsegment => hfront segment (hold.subset hsegment)

/-- The segments of a path can be read off the path. -/
theorem splitAt_behind_iff
    (hfront : ∀ segment ∈ front, ∀ c ∈ segment, c ≠ '/' ∧ c ≠ '?' ∧ c ≠ '#')
    (text name : List Char) :
    Text.splitAt '/' (slashed (behind front text).reverse) = [] :: (name :: front).reverse ↔
      behind front text = name :: front := by
  have hslash : ∀ segment ∈ (behind front text).reverse, '/' ∉ segment :=
    fun segment hsegment hc =>
      (behind_unparted hfront text segment (List.mem_reverse.mp hsegment) _ hc).1 rfl
  rw [splitAt_slashed hslash, List.cons_inj_right, List.reverse_inj]

end Behind

/-! ## Plain segments -/

/-- A segment that is not changed by being put into a URL. -/
structure Plain (segment : List Char) : Prop where
  chars : ∀ c ∈ segment, isPathChar c = true ∧ isSlash c = false
  noDots : isDots 1 segment = false ∧ isDots 2 segment = false

-- goes through the list; a search for an instance may go through all characters
instance (segment : List Char) : Decidable (Plain segment) :=
  haveI := List.decidableBAll (fun c => isPathChar c = true ∧ isSlash c = false) segment
  decidable_of_iff ((∀ c ∈ segment, isPathChar c = true ∧ isSlash c = false) ∧
      isDots 1 segment = false ∧ isDots 2 segment = false)
    ⟨fun h => ⟨h.1, h.2⟩, fun h => ⟨h.1, h.2⟩⟩

theorem of_isPathChar {c : Char} (h : isPathChar c = true) :
    0x20 < c.toNat ∧ c ≠ '#' ∧ c ≠ '?' := by
  rw [isPathChar, Bool.and_eq_true, Bool.and_eq_true] at h
  refine ⟨of_decide_eq_true h.1.1, ?_, ?_⟩ <;> (rintro rfl; revert h; decide)

theorem Plain.unparted {segment : List Char} (h : Plain segment) :
    ∀ c ∈ segment, c ≠ '/' ∧ c ≠ '?' ∧ c ≠ '#' := by
  intro c hc
  obtain ⟨hpath, hslash⟩ := h.chars c hc
  obtain ⟨-, hhash, hquery⟩ := of_isPathChar hpath
  refine ⟨?_, hquery, hhash⟩
  rintro rfl
  cases hslash

theorem Plain.walk_cons {segment : List Char} (h : Plain segment) (path rest : List (List Char)) :
    walk path (segment :: rest) = walk (segment :: path) rest := by
  rw [walk, h.noDots.2, if_neg Bool.false_ne_true, h.noDots.1, if_neg Bool.false_ne_true,
    Percent.encode_of_keep fun c hc => (h.chars c hc).1]

/-- Segments with a slash behind each. -/
def written (front : List (List Char)) : List Char := (front.map (· ++ ['/'])).flatten

section Written

variable {front : List (List Char)}

theorem of_mem_written (hfront : ∀ segment ∈ front, Plain segment) :
    ∀ c ∈ written front, 0x20 < c.toNat ∧ c ≠ '#' ∧ c ≠ '?' := by
  intro c hc
  obtain ⟨piece, hpiece, hc⟩ := List.mem_flatten.mp hc
  obtain ⟨segment, hsegment, rfl⟩ := List.mem_map.mp hpiece
  rcases List.mem_append.mp hc with hc | hc
  · exact of_isPathChar ((hfront segment hsegment).chars c hc).1
  · obtain rfl := List.mem_singleton.mp hc
    decide

/-- Plain segments are walked down to as they are. -/
theorem walk_written (hfront : ∀ segment ∈ front, Plain segment) (path : List (List Char))
    (rest : List Char) :
    walk path (segments (written front ++ rest)) =
      walk (front.reverse ++ path) (segments rest) := by
  induction front generalizing path with
  | nil => rfl
  | cons segment front ih =>
      obtain ⟨hsegment, hfront⟩ := List.forall_mem_cons.mp hfront
      have hsplit : written (segment :: front) ++ rest =
          segment ++ '/' :: (written front ++ rest) := by simp [written]
      rw [hsplit, segments_append fun c hc => (hsegment.chars c hc).2, hsegment.walk_cons,
        ih hfront, List.reverse_cons, List.append_assoc, List.singleton_append]

/-- A text behind plain segments on a server. -/
theorem parse?_written {secure : Bool} {origin : List Char} {authority : String}
    (h : Origin secure origin authority) (hfront : ∀ segment ∈ front, Plain segment)
    (text : List Char) :
    parse? (String.ofList (schemeOf secure ++ "://".toList ++
        (origin ++ '/' :: (written front ++ text)))) =
      some { secure, authority, query := queryOf ((trailing text).takeWhile (· ≠ '#')),
             path := String.ofList (slashed (behind front.reverse text).reverse) } := by
  have hchars := of_mem_written hfront
  have hcounts : (trailing (written front ++ text)).takeWhile (· ≠ '#') =
      written front ++ (trailing text).takeWhile (· ≠ '#') := by
    rw [trailing_append fun c hc => (hchars c hc).1,
      takeWhile_ne_append fun c hc => (hchars c hc).2.1]
  rw [parse?_origin h]
  simp only [hcounts]
  rw [takeWhile_ne_append fun c hc => (hchars c hc).2.2, walk_written hfront, List.append_nil,
    queryOf, dropWhile_ne_append fun c hc => (hchars c hc).2.2]
  rfl

end Written

/-! ## Bases -/

/-- A base is host and port behind a scheme and a path of plain segments, with any number of slashes
behind them. -/
structure IsBase (base : String) (secure : Bool) (authority : String) (root : List String) :
    Prop where
  plain : ∀ segment ∈ root, Plain segment.toList
  ends : root.getLast? ≠ some ""
  spelt : ∃ origin slashes, Origin secure origin authority ∧
    base.toList = schemeOf secure ++ "://".toList ++
      (origin ++ slashed (root.map String.toList)) ++ List.replicate slashes '/'

section IsBase

variable {base : String} {secure : Bool} {authority : String} {root : List String}

theorem slashed_append (front : List (List Char)) (rest : List Char) :
    slashed front ++ '/' :: rest = '/' :: (written front ++ rest) := by
  induction front with
  | nil => rfl
  | cons segment front ih =>
      have hfirst : slashed (segment :: front) = '/' :: (segment ++ slashed front) := rfl
      rw [hfirst, List.cons_append, List.append_assoc, ih]
      simp [written]

theorem IsBase.getLast?_ne {origin : List Char} (h : IsBase base secure authority root)
    (horigin : Origin secure origin authority) :
    (origin ++ slashed (root.map String.toList)).getLast? ≠ some '/' := by
  intro hslash
  rcases List.eq_nil_or_concat root with rfl | ⟨front, last, rfl⟩
  · rw [List.map_nil, slashed, List.map_nil, List.flatten_nil, List.append_nil] at hslash
    cases (horigin.inner _ (List.mem_of_getLast? hslash)).1
  · have hne : last.toList ≠ [] := by
      intro hnil
      apply h.ends
      rw [List.concat_eq_append, List.getLast?_concat, String.toList_eq_nil_iff.mp hnil]
    have hlast : origin ++ slashed ((front ++ [last]).map String.toList) =
        origin ++ slashed (front.map String.toList) ++ ['/'] ++ last.toList := by
      simp [slashed]
    rw [List.concat_eq_append, hlast, List.getLast?_append_of_ne_nil _ hne] at hslash
    have hchars := (h.plain last (by simp)).chars _ (List.mem_of_getLast? hslash)
    cases hchars.2

/-- A text behind plain segments behind a base. -/
theorem IsBase.parse?_behind (h : IsBase base secure authority root)
    {front : List (List Char)} (hfront : ∀ segment ∈ front, Plain segment) (text : List Char) :
    parse? (String.ofList (trimEnd base.toList ++ '/' :: (written front ++ text))) =
      some { secure, authority, query := queryOf ((trailing text).takeWhile (· ≠ '#')),
             path := String.ofList
              (slashed (behind (root.map String.toList ++ front).reverse text).reverse) } := by
  obtain ⟨origin, slashes, horigin, hbase⟩ := h.spelt
  have hne : origin ++ slashed (root.map String.toList) ≠ [] :=
    List.append_ne_nil_of_left_ne_nil horigin.ne_nil _
  have hsegments : ∀ segment ∈ root.map String.toList ++ front, Plain segment :=
    List.forall_mem_append.mpr ⟨List.forall_mem_map.mpr h.plain, hfront⟩
  have htext : trimEnd base.toList ++ '/' :: (written front ++ text) =
      schemeOf secure ++ "://".toList ++
        (origin ++ '/' :: (written (root.map String.toList ++ front) ++ text)) := by
    rw [hbase, trimEnd_replicate, trimEnd_append_of_getLast? hne (h.getLast?_ne horigin),
      List.append_assoc, List.append_assoc origin, slashed_append]
    simp [written]
  rw [htext]
  exact parse?_written horigin hsegments text

end IsBase

/-! ## Names in a path -/

/-- The path of a URL is these segments and one more, which stands for the text, and nothing follows
it. -/
structure Names (url : Url) (front : List String) (text : String) : Prop where
  path : ∃ name, Text.splitAt '/' url.path.toList = [] :: (front.map String.toList ++ [name]) ∧
    name ≠ [] ∧ Percent.decodeText? name = some text
  query : url.query = none

/-- The URL names a text that was put behind plain segments exactly if the text can stand in a path
as it is. -/
theorem names_iff_addressable {front : List String} {text : String} {url : Url}
    (hfront : ∀ segment ∈ front, Plain segment.toList)
    (hpath : url.path = String.ofList
      (slashed (behind (front.map String.toList).reverse text.toList).reverse))
    (hquery : Addressable text.toList → url.query = none) :
    url.Names front text ↔ Addressable text.toList := by
  have hunparted : ∀ segment ∈ (front.map String.toList).reverse,
      ∀ c ∈ segment, c ≠ '/' ∧ c ≠ '?' ∧ c ≠ '#' := by
    intro segment hsegment
    obtain ⟨word, hword, rfl⟩ := List.mem_map.mp (List.mem_reverse.mp hsegment)
    exact (hfront word hword).unparted
  have hends (name : List Char) : Text.splitAt '/' url.path.toList =
      [] :: (front.map String.toList ++ [name]) ↔
        behind (front.map String.toList).reverse text.toList =
          name :: (front.map String.toList).reverse := by
    rw [← splitAt_behind_iff hunparted, hpath, String.toList_ofList, List.reverse_cons,
      List.reverse_reverse]
  have hnamed := behind_iff_addressable (front.map String.toList).reverse text.toList
  constructor
  · rintro ⟨⟨name, hname, hne, hdecode⟩, -⟩
    apply hnamed.mp
    exact ⟨name, (hends name).mp hname, hne, Percent.decodeText?_eq_some_iff.mp hdecode⟩
  · intro haddressable
    obtain ⟨name, hname, hne, hdecode⟩ := hnamed.mpr haddressable
    exact ⟨⟨name, (hends name).mpr hname, hne, Percent.decodeText?_eq_some_iff.mpr hdecode⟩,
      hquery haddressable⟩

end VlanBinding.Http.Url
