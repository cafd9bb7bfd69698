import VlanBinding.Http.Url
import Mathlib.Data.List.Flatten

/-!
Texts as bytes and in URLs. Main statements: bytes give a text exactly if they are its UTF-8;
percent-encoding that leaves percent signs alone changes nothing of what a text stands for, and a
text stands for itself exactly if there is no encoded byte in it; pairs that are written as a form
are read back, whatever stands in front of them.
-/

namespace VlanBinding

/-! ## UTF-8 -/

namespace Text

/-- The bytes of a text. -/
def utf8 (cs : List Char) : List UInt8 := cs.flatMap String.utf8EncodeChar

@[simp]
theorem utf8_cons (c : Char) (cs : List Char) :
    utf8 (c :: cs) = String.utf8EncodeChar c ++ utf8 cs :=
  List.flatMap_cons

theorem toUTF8_ofList (cs : List Char) : (String.ofList cs).toUTF8 = ⟨(utf8 cs).toArray⟩ := by
  rw [String.toUTF8_eq_toByteArray, String.toByteArray_ofList, List.utf8Encode]
  apply ByteArray.ext
  apply Array.toList_inj.mp
  exact List.toList_data_toByteArray

theorem fromUTF8?_eq_some_iff {bytes : ByteArray} {text : String} :
    String.fromUTF8? bytes = some text ↔ bytes = text.toUTF8 := by
  rw [String.fromUTF8?]
  split
  · rw [Option.some.injEq, ← String.toByteArray_inj, String.toUTF8_eq_toByteArray]
    rfl
  · rename_i hinvalid
    refine iff_of_false (by simp) ?_
    rintro rfl
    exact hinvalid text.isValidUTF8

theorem fromUTF8?_utf8_iff {bytes : List UInt8} {text : String} :
    String.fromUTF8? ⟨bytes.toArray⟩ = some text ↔ bytes = utf8 text.toList := by
  have htext := toUTF8_ofList text.toList
  rw [String.ofList_toList] at htext
  rw [fromUTF8?_eq_some_iff, htext, ByteArray.mk.injEq]
  exact ⟨fun h => congrArg Array.toList h, congrArg List.toArray⟩

theorem utf8_injective {cs ds : List Char} (h : utf8 cs = utf8 ds) : cs = ds := by
  have hbytes : (String.ofList cs).toUTF8 = (String.ofList ds).toUTF8 := by
    rw [toUTF8_ofList, toUTF8_ofList, h]
  exact String.ofList_inj.mp (String.toByteArray_inj.mp hbytes)

theorem length_utf8EncodeChar_pos (c : Char) : 0 < (String.utf8EncodeChar c).length :=
  List.length_pos_iff.mpr String.utf8EncodeChar_ne_nil

/-- Whatever is left out of a text shortens its bytes. -/
theorem eq_of_sublist_of_length_utf8 {cs ds : List Char} (h : cs.Sublist ds)
    (hlength : (utf8 ds).length ≤ (utf8 cs).length) : cs = ds := by
  have hbytes : (utf8 cs).Sublist (utf8 ds) := h.flatMap String.utf8EncodeChar
  exact utf8_injective (hbytes.eq_of_length_le hlength)

/-! ## Separators -/

theorem splitAt_of_not_mem {separator : Char} {cs : List Char} (h : separator ∉ cs) :
    splitAt separator cs = [cs] := by
  induction cs with
  | nil => rfl
  | cons c rest ih =>
      obtain ⟨hc, hrest⟩ := not_or.mp (mt List.mem_cons.mpr h)
      rw [splitAt, if_neg (Ne.symm hc), ih hrest]

/-- A separator parts what is before it from what is behind it. -/
theorem splitAt_append_cons (separator : Char) (front rest : List Char) :
    splitAt separator (front ++ separator :: rest) =
      splitAt separator front ++ splitAt separator rest := by
  induction front with
  | nil => simp [splitAt]
  | cons c front ih =>
      rw [List.cons_append, splitAt, splitAt, ih]
      split
      · rw [List.cons_append]
      · cases hfront : splitAt separator front with
        | nil => exact absurd hfront (splitAt_ne_nil separator front)
        | cons first others => rfl

theorem splitAt_append {separator : Char} {front : List Char} (h : separator ∉ front)
    (rest : List Char) :
    splitAt separator (front ++ separator :: rest) = front :: splitAt separator rest := by
  rw [splitAt_append_cons, splitAt_of_not_mem h, List.singleton_append]

end Text

/-! ## Percent-encoding -/

namespace Http.Percent

open VlanBinding.Text

theorem decodeText?_eq_some_iff {cs : List Char} {text : String} :
    decodeText? cs = some text ↔ decode cs = utf8 text.toList :=
  fromUTF8?_utf8_iff

/-- An encoded byte stands at the front. -/
def StartsEncoded : List Char → Prop
  | '%' :: high :: low :: _ => (byte? high low).isSome = true
  | _ => False

/-- Somewhere in the text stands an encoded byte. -/
def HasEncoded (cs : List Char) : Prop :=
  ∃ high low, ['%', high, low] <:+: cs ∧ (byte? high low).isSome = true

theorem startsEncoded_iff {cs : List Char} :
    StartsEncoded cs ↔ ∃ high low rest, cs = '%' :: high :: low :: rest ∧
      (byte? high low).isSome = true := by
  constructor
  · intro h
    rw [StartsEncoded.eq_def] at h
    split at h
    · exact ⟨_, _, _, rfl, h⟩
    · exact h.elim
  · rintro ⟨high, low, rest, rfl, h⟩
    exact h

theorem hasEncoded_cons_iff {c : Char} {cs : List Char} :
    HasEncoded (c :: cs) ↔ StartsEncoded (c :: cs) ∨ HasEncoded cs := by
  constructor
  · rintro ⟨high, low, hinfix, hbyte⟩
    rcases List.infix_cons_iff.mp hinfix with ⟨rest, hrest⟩ | hinfix
    · exact Or.inl (startsEncoded_iff.mpr ⟨high, low, rest, hrest.symm, hbyte⟩)
    · exact Or.inr ⟨high, low, hinfix, hbyte⟩
  · rintro (hstarts | ⟨high, low, hinfix, hbyte⟩)
    · obtain ⟨high, low, rest, hcs, hbyte⟩ := startsEncoded_iff.mp hstarts
      exact ⟨high, low, List.IsPrefix.isInfix ⟨rest, hcs.symm⟩, hbyte⟩
    · exact ⟨high, low, List.infix_cons hinfix, hbyte⟩

theorem decode_of_startsEncoded {high low : Char} {b : UInt8} (h : byte? high low = some b)
    (rest : List Char) : decode ('%' :: high :: low :: rest) = b :: decode rest := by
  rw [decode, h]

theorem decode_cons {c : Char} {cs : List Char} (h : ¬ StartsEncoded (c :: cs)) :
    decode (c :: cs) = String.utf8EncodeChar c ++ decode cs := by
  by_cases hc : c = '%'
  · subst hc
    match cs, h with
    | [], _ => rfl
    | [_], _ => rfl
    | high :: low :: rest, h =>
        have hbyte : byte? high low = none := by simpa [StartsEncoded] using h
        rw [decode, hbyte]
  · exact decode_of_ne hc cs

/-- A text goes on with an encoded byte, or with a character that stands for itself. -/
@[elab_as_elim]
theorem decode_induction {motive : List Char → Prop} (nil : motive [])
    (encoded : ∀ high low b rest, byte? high low = some b → motive rest →
      motive ('%' :: high :: low :: rest))
    (plain : ∀ c cs, ¬ StartsEncoded (c :: cs) → motive cs → motive (c :: cs))
    (cs : List Char) : motive cs := by
  induction cs using decode.induct with
  | case1 => exact nil
  | case2 high low rest b hbyte ih => exact encoded high low b rest hbyte ih
  | case3 high low rest hbyte ih =>
      apply plain _ _ _ ih
      simp [StartsEncoded, hbyte]
  | case4 c rest hne ih =>
      apply plain _ _ _ ih
      rw [startsEncoded_iff]
      rintro ⟨high, low, others, hcs, -⟩
      obtain ⟨rfl, rfl⟩ := List.cons.inj hcs
      exact hne high low others rfl rfl

theorem digits_of_byte? {high low : Char} (h : (byte? high low).isSome = true) :
    (hexValue? high).isSome = true ∧ (hexValue? low).isSome = true := by
  rw [byte?] at h
  split at h
  · rename_i hhigh hlow
    simp [hhigh, hlow]
  · cases h

/-- Encoded bytes make the text longer than its bytes. -/
theorem length_decode_le (cs : List Char) : (decode cs).length ≤ (utf8 cs).length := by
  induction cs using decode_induction with
  | nil => exact Nat.le_refl 0
  | encoded high low b rest hbyte ih =>
      have hhigh := length_utf8EncodeChar_pos high
      have hlow := length_utf8EncodeChar_pos low
      rw [decode_of_startsEncoded hbyte]
      simp only [utf8_cons, List.length_append, List.length_cons]
      omega
  | plain c cs hstarts ih =>
      rw [decode_cons hstarts, utf8_cons, List.length_append, List.length_append]
      omega

/-- A text stands for itself exactly if no encoded byte is in it. -/
theorem decode_eq_utf8_iff {cs : List Char} : decode cs = utf8 cs ↔ ¬ HasEncoded cs := by
  induction cs with
  | nil =>
      refine iff_of_true rfl ?_
      rintro ⟨high, low, hinfix, -⟩
      simp at hinfix
  | cons c cs ih =>
      rw [hasEncoded_cons_iff]
      by_cases hstarts : StartsEncoded (c :: cs)
      · refine iff_of_false ?_ (by simp [hstarts])
        obtain ⟨high, low, rest, hcs, hbyte⟩ := startsEncoded_iff.mp hstarts
        obtain ⟨b, hb⟩ := Option.isSome_iff_exists.mp hbyte
        have hle := length_decode_le rest
        have hhigh := length_utf8EncodeChar_pos high
        have hlow := length_utf8EncodeChar_pos low
        intro heq
        have hlength := congrArg List.length heq
        rw [hcs, decode_of_startsEncoded hb] at hlength
        simp only [utf8_cons, List.length_append, List.length_cons] at hlength
        omega
      · rw [decode_cons hstarts, utf8_cons, List.append_cancel_left_eq, ih]
        simp [hstarts]

/-- Percent signs and the digits behind them are left as they are. -/
structure Transparent (keep : Char → Bool) : Prop where
  percent : keep '%' = true
  digit : ∀ c, (hexValue? c).isSome = true → keep c = true

theorem encodeChar_of_keep {keep : Char → Bool} {c : Char} (h : keep c = true) :
    encodeChar keep c = [c] := by
  rw [encodeChar, if_pos h]

theorem encode_cons (keep : Char → Bool) (c : Char) (cs : List Char) :
    encode keep (c :: cs) = encodeChar keep c ++ encode keep cs :=
  List.flatMap_cons

theorem encode_of_keep {keep : Char → Bool} {cs : List Char} (h : ∀ c ∈ cs, keep c = true) :
    encode keep cs = cs := by
  induction cs with
  | nil => rfl
  | cons c cs ih =>
      obtain ⟨hc, hcs⟩ := List.forall_mem_cons.mp h
      rw [encode_cons, encodeChar_of_keep hc, ih hcs, List.singleton_append]

/-- What is encoded starts with what it was, or with a percent sign. -/
theorem encode_eq_cons {keep : Char → Bool} {c : Char} {cs rest : List Char}
    (h : encode keep cs = c :: rest) (hc : (hexValue? c).isSome = true) :
    ∃ others, cs = c :: others ∧ rest = encode keep others := by
  cases cs with
  | nil => cases h
  | cons x others =>
      rw [encode_cons] at h
      by_cases hx : keep x = true
      · rw [encodeChar_of_keep hx, List.singleton_append] at h
        obtain ⟨rfl, rfl⟩ := List.cons.inj h
        exact ⟨others, rfl, rfl⟩
      · rw [encodeChar, if_neg hx] at h
        cases hbytes : String.utf8EncodeChar x with
        | nil => exact absurd hbytes String.utf8EncodeChar_ne_nil
        | cons b bytes =>
            rw [hbytes, List.flatMap_cons, encodeByte, List.cons_append, List.cons_append] at h
            rw [← (List.cons.inj h).1] at hc
            cases hc

theorem StartsEncoded.of_encode {keep : Char → Bool} {c : Char} {cs : List Char}
    (h : StartsEncoded (c :: encode keep cs)) : StartsEncoded (c :: cs) := by
  obtain ⟨high, low, rest, heq, hbyte⟩ := startsEncoded_iff.mp h
  obtain ⟨rfl, hcs⟩ := List.cons.inj heq
  obtain ⟨hhigh, hlow⟩ := digits_of_byte? hbyte
  obtain ⟨others, rfl, hothers⟩ := encode_eq_cons hcs hhigh
  obtain ⟨others, rfl, -⟩ := encode_eq_cons hothers.symm hlow
  exact hbyte

/-- A character of encoded text was left as it is, or belongs to an encoded byte. -/
theorem of_mem_encodeChar {keep : Char → Bool} {c x : Char} (h : x ∈ encodeChar keep c) :
    (x = c ∧ keep c = true) ∨ x = '%' ∨ ∃ n < 16, x = hexDigitUpper n := by
  rw [encodeChar] at h
  split at h
  · rename_i hkeep
    exact Or.inl ⟨List.mem_singleton.mp h, hkeep⟩
  · right
    obtain ⟨b, -, hb⟩ := List.mem_flatMap.mp h
    have hlt : b.toNat < 256 := b.toNat_lt
    simp only [encodeByte, List.mem_cons, List.not_mem_nil, or_false] at hb
    rcases hb with rfl | rfl | rfl
    · exact Or.inl rfl
    · exact Or.inr ⟨b.toNat / 16, by omega, rfl⟩
    · exact Or.inr ⟨b.toNat % 16, by omega, rfl⟩

/-- Encoding that leaves encoded bytes as they are changes nothing of what a text stands for. -/
theorem decode_encode_of_transparent {keep : Char → Bool} (hkeep : Transparent keep)
    (cs : List Char) : decode (encode keep cs) = decode cs := by
  induction cs using decode_induction with
  | nil => rfl
  | encoded high low b rest hbyte ih =>
      obtain ⟨hhigh, hlow⟩ := digits_of_byte? (Option.isSome_of_mem hbyte)
      simp only [encode_cons, encodeChar_of_keep hkeep.percent,
        encodeChar_of_keep (hkeep.digit high hhigh), encodeChar_of_keep (hkeep.digit low hlow),
        List.singleton_append]
      rw [decode_of_startsEncoded hbyte, decode_of_startsEncoded hbyte, ih]
  | plain c cs hstarts ih =>
      rw [encode_cons, decode_cons hstarts]
      by_cases hc : keep c = true
      · rw [encodeChar_of_keep hc, List.singleton_append, decode_cons (mt .of_encode hstarts), ih]
      · rw [encodeChar, if_neg hc, decode_flatMap_encodeByte, ih]

end Http.Percent

/-! ## Forms -/

namespace Http.Form

open VlanBinding.Text VlanBinding.Http.Percent

theorem isPlain_hexDigitUpper : ∀ n < 16, isPlain (hexDigitUpper n) = true := by
  decide

/-- Nothing else is written of a name or a value, so that no separator is. -/
theorem of_mem_encode {text : String} {x : Char} (h : x ∈ encode text) :
    x = '+' ∨ x = '%' ∨ isPlain x = true := by
  obtain ⟨c, -, hx⟩ := List.mem_flatMap.mp h
  split at hx
  · exact Or.inl (List.mem_singleton.mp hx)
  · rcases of_mem_encodeChar hx with ⟨rfl, hplain⟩ | rfl | ⟨n, hn, rfl⟩
    · exact Or.inr (Or.inr hplain)
    · exact Or.inr (Or.inl rfl)
    · exact Or.inr (Or.inr (isPlain_hexDigitUpper n hn))

theorem not_mem_encode (text : String) : '&' ∉ encode text ∧ '=' ∉ encode text := by
  constructor <;> (intro h; rcases of_mem_encode h with h | h | h <;> revert h <;> decide)

/-- With its spaces back, a name or a value is percent-encoded. -/
theorem map_encode (text : String) :
    (encode text).map (fun c => if c = '+' then ' ' else c) =
      Percent.encode (fun c => isPlain c || c == ' ') text.toList := by
  rw [encode, Percent.encode, List.map_flatMap]
  refine congrArg text.toList.flatMap (funext fun c => ?_)
  by_cases hspace : c = ' '
  · subst hspace
    rfl
  · have hkeep : (isPlain c || c == ' ') = isPlain c := by simp [hspace]
    rw [if_neg hspace, encodeChar, encodeChar, hkeep]
    refine (List.map_congr_left fun x hx => ?_).trans (List.map_id _)
    rw [← encodeChar] at hx
    have hplus : x ≠ '+' := by
      rcases of_mem_encodeChar hx with ⟨rfl, hplain⟩ | rfl | ⟨n, hn, rfl⟩
      · rintro rfl
        revert hplain
        decide
      · decide
      · intro heq
        have hplain := isPlain_hexDigitUpper n hn
        rw [heq] at hplain
        revert hplain
        decide
    rw [if_neg hplus, id]

/-- A name or a value is read back. -/
theorem decode?_encode (text : String) : decode? (encode text) = some text := by
  have hdecode := decode_encode (fun c => isPlain c || c == ' ') (by decide) text.toList []
  rw [decode?, map_encode, decodeText?_eq_some_iff]
  simpa [decode, utf8] using hdecode

theorem decodePair_encodePair (pair : String × String) :
    decodePair (encodePair pair) = (some pair.1, some pair.2) := by
  have hname : ∀ c ∈ encode pair.1, decide (c ≠ '=') = true := by
    intro c hc
    rw [decide_eq_true_iff]
    rintro rfl
    exact (not_mem_encode pair.1).2 hc
  rw [decodePair, encodePair, List.takeWhile_append_of_pos hname,
    List.dropWhile_append_of_pos hname]
  simp [decode?_encode]

theorem decodePairs_append_cons (front rest : List Char) :
    decodePairs (front ++ '&' :: rest) = decodePairs front ++ decodePairs rest := by
  rw [decodePairs, splitAt_append_cons, List.filter_append, List.map_append]
  rfl

theorem decodePairs_encodePair (pair : String × String) :
    decodePairs (encodePair pair) = [(some pair.1, some pair.2)] := by
  have hsplit : splitAt '&' (encodePair pair) = [encodePair pair] := by
    apply splitAt_of_not_mem
    rw [encodePair, List.mem_append, List.mem_cons]
    simp [not_mem_encode]
  have hfull : (encodePair pair).isEmpty = false := by simp [encodePair]
  rw [decodePairs, hsplit]
  simp [hfull, decodePair_encodePair]

/-- Pairs are read back in order. -/
theorem decodePairs_encodePairs (pairs : List (String × String)) :
    decodePairs (encodePairs pairs) = pairs.map fun pair => (some pair.1, some pair.2) := by
  induction pairs with
  | nil => rfl
  | cons pair pairs ih =>
      cases pairs with
      | nil =>
          have htext : encodePairs [pair] = encodePair pair := by
            simp [encodePairs, List.intercalate]
          rw [htext, decodePairs_encodePair]
          rfl
      | cons next pairs =>
          have htext : encodePairs (pair :: next :: pairs) =
              encodePair pair ++ '&' :: encodePairs (next :: pairs) := by
            simp [encodePairs, List.intercalate]
          rw [htext, decodePairs_append_cons, decodePairs_encodePair, ih]
          rfl

end Http.Form

namespace Http.Url

/-- Adding pairs to a URL changes nothing but its query. -/
theorem addPairs_eq (pairs : List (String × String)) (url : Url) :
    url.addPairs pairs = { url with query := (url.addPairs pairs).query } := by
  rw [addPairs.eq_def]
  split <;> rfl

theorem secure_addPairs (pairs : List (String × String)) (url : Url) :
    (url.addPairs pairs).secure = url.secure := by
  rw [addPairs_eq]

theorem authority_addPairs (pairs : List (String × String)) (url : Url) :
    (url.addPairs pairs).authority = url.authority := by
  rw [addPairs_eq]

theorem path_addPairs (pairs : List (String × String)) (url : Url) :
    (url.addPairs pairs).path = url.path := by
  rw [addPairs_eq]

/-- Pairs that are added come behind those that the URL has. -/
theorem decodePairs_addPairs (pair : String × String) (pairs : List (String × String)) (url : Url) :
    ∃ query, (url.addPairs (pair :: pairs)).query = some query ∧
      Form.decodePairs query.toList = Form.decodePairs (url.query.getD "").toList ++
        (pair :: pairs).map fun p => (some p.1, some p.2) := by
  rw [addPairs.eq_def]
  split
  · simp_all
  · rename_i hempty _
    refine ⟨_, rfl, ?_⟩
    rw [hempty, String.toList_ofList, Form.decodePairs_encodePairs]
    rfl
  · simp_all
  · refine ⟨_, rfl, ?_⟩
    have htext : (url.query.getD "" ++ "&" ++
        String.ofList (Form.encodePairs (pair :: pairs))).toList =
          (url.query.getD "").toList ++ '&' :: Form.encodePairs (pair :: pairs) := by
      simp
    rw [htext, Form.decodePairs_append_cons, Form.decodePairs_encodePairs]

end Http.Url

end VlanBinding
