import Mathlib.Data.List.Nodup
import VlanBinding.Json.Decoder

/-!
How records are read. Main statements: a record is read from members exactly if no known key is
there twice, all that is needed is there and every value can be taken up; a field then has the
value that stands under its key, or in its place where bare values are given, and what is left out
keeps its default.
-/

namespace VlanBinding

namespace Schema.Record

variable {S E R α : Type} {r : Record S E R} {x y : R}

/-! ## Values taken up one after the other -/

/-- Takes up values, each into its field. -/
def takeAll : List (Field S E R × S) → R → Except E R
  | [], x => .ok x
  | (field, value) :: rest, x =>
      match field.take value x with
      | .error e => .error e
      | .ok y => takeAll rest y

/-- The members under known keys, each with its field. -/
def given (r : Record S E R) (members : List (String × S)) : List (Field S E R × S) :=
  members.filterMap fun m => (r.fields.find? (·.key == m.1)).map (·, m.2)

theorem mem_given_iff {members : List (String × S)} {pair : Field S E R × S} :
    pair ∈ r.given members ↔
      ∃ key, (key, pair.2) ∈ members ∧ r.fields.find? (·.key == key) = some pair.1 := by
  obtain ⟨field, value⟩ := pair
  simp only [given, List.mem_filterMap, Option.map_eq_some_iff, Prod.mk.injEq, Prod.exists]
  constructor
  · rintro ⟨key, v, hmem, f, hfind, rfl, rfl⟩
    exact ⟨key, hmem, hfind⟩
  · rintro ⟨key, hmem, hfind⟩
    exact ⟨key, value, hmem, field, hfind, rfl, rfl⟩

theorem key_of_find? {key : String} {field : Field S E R}
    (h : r.fields.find? (·.key == key) = some field) : field.key = key := by
  simpa using List.find?_some h

/-! ## Members -/

section Members

variable {report : Problem → E} {skip : S → Except E Unit} {members : List (String × S)}
variable {seen seen' : List String}

/-- Members are taken up if no known key comes twice and what is unknown can be passed over. -/
theorem readMembers_eq_ok_iff :
    r.readMembers report skip (members.map fun m => (.ok m.1, m.2)) (x, seen) = .ok (y, seen') ↔
      (∀ m ∈ members, r.fields.find? (·.key == m.1) = none → skip m.2 = .ok ()) ∧
        ((r.given members).map (·.1.key)).Nodup ∧
        (∀ key ∈ (r.given members).map (·.1.key), key ∉ seen) ∧
        takeAll (r.given members) x = .ok y ∧
        seen' = ((r.given members).map (·.1.key)).reverse ++ seen := by
  induction members generalizing x seen with
  | nil => simp [readMembers, given, takeAll, eq_comm]
  | cons m members ih =>
      obtain ⟨key, value⟩ := m
      rw [List.map_cons, readMembers, readMember, List.forall_mem_cons]
      cases hfind : r.fields.find? (·.key == key) with
      | none =>
          have hgiven : r.given ((key, value) :: members) = r.given members := by
            simp [given, hfind]
          rw [hgiven]
          cases skip value with
          | error e => simp only [Except.map, reduceCtorEq, forall_const, false_and]
          | ok u => simp only [Except.map, ih, forall_const, true_and]
      | some field =>
          have hkey := key_of_find? hfind
          have hgiven : r.given ((key, value) :: members) = (field, value) :: r.given members := by
            simp [given, hfind]
          rw [hgiven]
          by_cases hseen : key ∈ seen
          · simp [hseen, hkey]
          · cases htake : field.take value x with
            | error e => simp [hseen, takeAll, htake, Except.map]
            | ok z =>
                simp only [List.contains_eq_mem, hseen, decide_false, Bool.false_eq_true,
                  ↓reduceIte, htake, Except.map, ih, takeAll, List.map_cons, List.nodup_cons,
                  hkey, List.mem_cons, List.reverse_cons]
                grind

theorem missing?_eq_none_iff :
    r.missing? seen = none ↔ ∀ field ∈ r.fields, field.needed = true → field.key ∈ seen := by
  simp [missing?]

/-- The members give the record: no known key is there twice, all that is needed is there, and
every value can be taken up. -/
structure Fits (r : Record S E R) (skip : S → Except E Unit) (members : List (String × S))
    (y : R) : Prop where
  unknown : ∀ m ∈ members, r.fields.find? (·.key == m.1) = none → skip m.2 = .ok ()
  distinct : ((r.given members).map (·.1.key)).Nodup
  taken : takeAll (r.given members) r.start = .ok y
  needed : ∀ field ∈ r.fields, field.needed = true →
    field.key ∈ (r.given members).map (·.1.key)

theorem ofMembers_eq_ok_iff :
    r.ofMembers report skip (members.map fun m => (.ok m.1, m.2)) (.ok ()) = .ok y ↔
      r.Fits skip members y := by
  rw [ofMembers]
  constructor
  · intro h
    cases hread : r.readMembers report skip (members.map fun m => (.ok m.1, m.2)) (r.start, []) with
    | error e => simp [hread] at h
    | ok state =>
        obtain ⟨value, seen⟩ := state
        obtain ⟨hunknown, hdistinct, -, htaken, hseen⟩ := readMembers_eq_ok_iff.mp hread
        simp only [hread] at h
        cases hmissing : r.missing? seen with
        | some key => simp [hmissing] at h
        | none =>
            simp only [hmissing, Except.ok.injEq] at h
            subst h hseen
            have hneeded := missing?_eq_none_iff.mp hmissing
            exact ⟨hunknown, hdistinct, htaken, by simpa using hneeded⟩
  · intro h
    let seen := ((r.given members).map (·.1.key)).reverse ++ []
    have hread : r.readMembers report skip (members.map fun m => (.ok m.1, m.2)) (r.start, []) =
        .ok (y, seen) :=
      readMembers_eq_ok_iff.mpr ⟨h.unknown, h.distinct, fun _ _ => List.not_mem_nil, h.taken, rfl⟩
    have hmissing : r.missing? seen = none :=
      missing?_eq_none_iff.mpr (by simpa [seen] using h.needed)
    simp only [hread, hmissing]

end Members

/-! ## Bare values -/

/-- Bare values are taken up by the fields in order, and only what may be left out is. -/
theorem of_readItems {report : Problem → E} {ending : Except E Unit} {tooMany : E}
    {fields : List (Field S E R)} {items : List S} {count : Nat}
    (h : r.readItems report ending tooMany fields items count x = .ok y) :
    takeAll (fields.zip items) x = .ok y ∧
      ∀ field ∈ fields.drop items.length, field.trailing = true := by
  induction fields generalizing items count x with
  | nil =>
      cases items with
      | nil =>
          cases ending with
          | error e => simp [readItems, Except.map] at h
          | ok u => simpa [readItems, Except.map, takeAll] using h
      | cons item items => simp [readItems] at h
  | cons field fields ih =>
      cases items with
      | nil =>
          cases ending with
          | error e => simp [readItems] at h
          | ok u =>
              by_cases htrailing : field.trailing = true
              · simp only [readItems, htrailing, ↓reduceIte] at h
                obtain ⟨htaken, hrest⟩ := ih h
                exact ⟨by simpa using htaken, List.forall_mem_cons.mpr ⟨htrailing, hrest⟩⟩
              · simp [readItems, htrailing] at h
      | cons item items =>
          cases htake : field.take item x with
          | error e => simp [readItems, htake] at h
          | ok z =>
              simp only [readItems, htake] at h
              obtain ⟨htaken, hrest⟩ := ih h
              refine ⟨?_, hrest⟩
              simpa only [List.zip_cons_cons, takeAll, htake] using htaken

/-! ## Single fields -/

/-- The field of a key keeps what is read of its value where `get` finds it, and no other field
touches that. -/
structure Keeps (r : Record S E R) (key : String) (read : S → Except E α) (get : R → α) :
    Prop where
  own : ∀ field ∈ r.fields, field.key = key →
    ∀ v x y, field.take v x = .ok y → read v = .ok (get y)
  other : ∀ field ∈ r.fields, field.key ≠ key → ∀ v x y, field.take v x = .ok y → get y = get x

section Keeps

variable {key : String} {read : S → Except E α} {get : R → α}
variable {pairs : List (Field S E R × S)}

/-- What is not given stays as it is. -/
theorem Keeps.get_of_not_mem (h : r.Keeps key read get) (hfields : ∀ p ∈ pairs, p.1 ∈ r.fields)
    (htaken : takeAll pairs x = .ok y) (hkey : ∀ p ∈ pairs, p.1.key ≠ key) : get y = get x := by
  induction pairs generalizing x with
  | nil =>
      cases htaken
      rfl
  | cons p pairs ih =>
      obtain ⟨hp, hpairs⟩ := List.forall_mem_cons.mp hfields
      obtain ⟨hne, hnot⟩ := List.forall_mem_cons.mp hkey
      rw [takeAll] at htaken
      cases htake : p.1.take p.2 x with
      | error e => simp [htake] at htaken
      | ok z =>
          simp only [htake] at htaken
          rw [ih hpairs htaken hnot, h.other p.1 hp hne _ _ _ htake]

/-- What is given once is what is read of its value. -/
theorem Keeps.get_of_mem (h : r.Keeps key read get) (hfields : ∀ p ∈ pairs, p.1 ∈ r.fields)
    (hdistinct : (pairs.map (·.1.key)).Nodup) (htaken : takeAll pairs x = .ok y)
    {p : Field S E R × S} (hp : p ∈ pairs) (hkey : p.1.key = key) : read p.2 = .ok (get y) := by
  induction pairs generalizing x with
  | nil => cases hp
  | cons q pairs ih =>
      obtain ⟨hq, hpairs⟩ := List.forall_mem_cons.mp hfields
      obtain ⟨hnot, hrest⟩ := List.nodup_cons.mp hdistinct
      rw [takeAll] at htaken
      cases htake : q.1.take q.2 x with
      | error e => simp [htake] at htaken
      | ok z =>
          simp only [htake] at htaken
          rcases List.mem_cons.mp hp with rfl | hp
          · have hothers : ∀ q ∈ pairs, q.1.key ≠ key := by
              intro q hq hsame
              apply hnot
              exact List.mem_map.mpr ⟨q, hq, hsame.trans hkey.symm⟩
            rw [h.get_of_not_mem hpairs htaken hothers]
            exact h.own _ hq hkey _ _ _ htake
          · exact ih hpairs hrest htaken hp

end Keeps

/-! ## Members in the order of the fields -/

/-- Members in the order of the fields, where a field that may be missing has one or none, and what
they make of a record. -/
inductive Gives : List (Field S E R) → List (String × S) → R → R → Prop
  | nil (x : R) : Gives [] [] x x
  | skip {field : Field S E R} {fields : List (Field S E R)} {members : List (String × S)}
      {x y : R} (hneeded : field.needed = false) (h : Gives fields members x y) :
      Gives (field :: fields) members x y
  | take {field : Field S E R} {fields : List (Field S E R)} {value : S}
      {members : List (String × S)} {x y z : R} (htake : field.take value x = .ok z)
      (h : Gives fields members z y) :
      Gives (field :: fields) ((field.key, value) :: members) x y

section Gives

variable {fields : List (Field S E R)} {members : List (String × S)}

theorem find?_key (hkeys : (r.fields.map (·.key)).Nodup) {field : Field S E R}
    (hfield : field ∈ r.fields) : r.fields.find? (·.key == field.key) = some field := by
  obtain ⟨found, hfound⟩ : ∃ found, r.fields.find? (·.key == field.key) = some found :=
    Option.isSome_iff_exists.mp (List.find?_isSome.mpr ⟨field, hfield, beq_self_eq_true _⟩)
  have hmem := List.mem_of_find?_eq_some hfound
  rw [hfound, List.inj_on_of_nodup_map hkeys hmem hfield (key_of_find? hfound)]

/-- The fields that are given, each with its value. -/
theorem Gives.pairs (h : Gives fields members x y) :
    ∃ pairs : List (Field S E R × S), members = pairs.map (fun p => (p.1.key, p.2)) ∧
      (pairs.map Prod.fst).Sublist fields ∧ takeAll pairs x = .ok y ∧
      ∀ field ∈ fields, field.needed = true → field ∈ pairs.map Prod.fst := by
  induction h with
  | nil x => exact ⟨[], rfl, List.Sublist.refl [], rfl, by simp⟩
  | @skip field _ _ _ _ hneeded _ ih =>
      obtain ⟨pairs, hmembers, hsub, htaken, hneeds⟩ := ih
      have hfirst : field.needed = true → field ∈ pairs.map Prod.fst := by simp [hneeded]
      exact ⟨pairs, hmembers, hsub.cons field, htaken,
        List.forall_mem_cons.mpr ⟨hfirst, hneeds⟩⟩
  | @take field fields value _ _ _ _ htake _ ih =>
      obtain ⟨pairs, rfl, hsub, htaken, hneeds⟩ := ih
      have hrest : ∀ f ∈ fields, f.needed = true →
          f ∈ ((field, value) :: pairs).map Prod.fst :=
        fun f hf hneed => List.mem_cons_of_mem _ (hneeds f hf hneed)
      refine ⟨(field, value) :: pairs, rfl, hsub.cons_cons field, ?_,
        List.forall_mem_cons.mpr ⟨fun _ => List.mem_cons_self, hrest⟩⟩
      simp only [takeAll, htake, htaken]

/-- Members in the order of the fields give the record, if no two fields have one key. -/
theorem Gives.fits {skip : S → Except E Unit} (hkeys : (r.fields.map (·.key)).Nodup)
    (h : Gives r.fields members r.start y) : r.Fits skip members y := by
  obtain ⟨pairs, rfl, hsub, htaken, hneeds⟩ := h.pairs
  have hfind : ∀ p ∈ pairs, r.fields.find? (·.key == p.1.key) = some p.1 := fun p hp =>
    find?_key hkeys (hsub.subset (List.mem_map_of_mem hp))
  have hgiven : r.given (pairs.map fun p => (p.1.key, p.2)) = pairs := by
    rw [given, List.filterMap_map]
    refine (List.filterMap_congr fun p hp => ?_).trans List.filterMap_some
    simp [hfind p hp]
  have hkey : pairs.map (·.1.key) = (pairs.map Prod.fst).map (·.key) := by simp
  constructor
  · intro m hm hnone
    obtain ⟨p, hp, rfl⟩ := List.mem_map.mp hm
    rw [hfind p hp] at hnone
    cases hnone
  · rw [hgiven, hkey]
    exact (hsub.map _).nodup hkeys
  · rw [hgiven]
    exact htaken
  · intro field hfield hneed
    rw [hgiven, hkey]
    exact List.mem_map_of_mem (hneeds field hfield hneed)

end Gives

end Schema.Record

/-! ## Records in JSON -/

namespace Json

open Schema

/-! ### Fields -/

section Fields

variable {R α : Type} {key : String} {d : Decoder α} {v : Source} {x y : R}

theorem map_eq_ok_iff {e : Except DecodeError α} {f : α → R} :
    e.map f = .ok y ↔ ∃ a, e = .ok a ∧ y = f a := by
  cases e <;> simp [Except.map, eq_comm]

@[simp]
theorem key_required (put : α → R → R) : (required key d put).key = key := rfl

@[simp]
theorem key_defaulted (put : α → R → R) : (defaulted key d put).key = key := rfl

@[simp]
theorem key_optional (put : Option α → R → R) : (optional key d put).key = key := rfl

@[simp]
theorem take_required (put : α → R → R) :
    (required key d put).take v x = .ok y ↔ ∃ a, d v = .ok a ∧ y = put a x := map_eq_ok_iff

@[simp]
theorem take_defaulted (put : α → R → R) :
    (defaulted key d put).take v x = .ok y ↔ ∃ a, d v = .ok a ∧ y = put a x := map_eq_ok_iff

@[simp]
theorem take_optional (put : Option α → R → R) :
    (optional key d put).take v x = .ok y ↔ ∃ a, d.nullable v = .ok a ∧ y = put a x :=
  map_eq_ok_iff

theorem nullable_of_ne_null (hv : v ≠ .null) : d.nullable v = (d v).map some := by
  cases v with
  | null => exact absurd rfl hv
  | bool | num | str | arr | obj | unreadable | broken => rfl

end Fields

/-! ### Whole records -/

variable {R α : Type} {r : JsonRecord R} {y : R}

theorem Ending.check_of_ne_cut {ending : Ending} (h : ending ≠ .cut) : ending.check = .ok () := by
  cases ending with
  | cut => exact absurd rfl h
  | closed | whole => rfl

theorem record_obj_eq_ok_iff {members : List (String × Source)} {ending : Ending}
    (hending : ending ≠ .cut) :
    Decoder.record r (.obj (members.map fun m => (some m.1, m.2)) ending) = .ok y ↔
      r.Fits Decoder.skip members y := by
  rw [Decoder.record, Ending.check_of_ne_cut hending, List.map_map]
  exact Record.ofMembers_eq_ok_iff

/-- A record that is written member by member in the order of its fields is read back. -/
theorem record_obj_of_gives (hkeys : (r.fields.map (·.key)).Nodup)
    {members : List (String × Source)} (h : Record.Gives r.fields members r.start y) :
    Decoder.record r (.obj (members.map fun m => (some m.1, m.2)) .closed) = .ok y :=
  (record_obj_eq_ok_iff (by decide)).mpr (h.fits hkeys)

theorem ofItems_eq_map (items : List Json) : Source.ofItems items = items.map Source.ofJson := by
  induction items with
  | nil => rfl
  | cons item rest ih => rw [Source.ofItems, ih, List.map_cons]

theorem ofMembers_eq_map (members : List (String × Json)) :
    Source.ofMembers members =
      (members.map fun m => (m.1, Source.ofJson m.2)).map fun m => (some m.1, m.2) := by
  induction members with
  | nil => rfl
  | cons member rest ih => rw [Source.ofMembers, ih, List.map_cons, List.map_cons]

/-- The part of a value that a field of a record is read from: the member under its key, or the
item in its place. -/
def part? (key : String) (place : Nat) : Json → Option Json
  | obj members => members.lookup key
  | arr items => items[place]?
  | _ => none

/-- A field is given by a part of a value, or has none there and may be left out. -/
inductive Sourced (pairs : List (Field Source DecodeError R × Source)) :
    Option Json → Field Source DecodeError R → Prop
  | given {part : Json} {field : Field Source DecodeError R}
      (h : (field, Source.ofJson part) ∈ pairs) : Sourced pairs (some part) field
  | omitted {field : Field Source DecodeError R} (hnot : ∀ p ∈ pairs, p.1.key ≠ field.key)
      (hmay : field.needed = false ∨ field.trailing = true) : Sourced pairs none field

variable {field : Field Source DecodeError R} {place : Nat}

theorem sourced_of_obj (hkeys : (r.fields.map (·.key)).Nodup) {members : List (String × Json)}
    (h : r.Fits Decoder.skip (members.map fun m => (m.1, Source.ofJson m.2)) y)
    (hfield : field ∈ r.fields) :
    Sourced (r.given (members.map fun m => (m.1, Source.ofJson m.2)))
      (members.lookup field.key) field := by
  cases hpart : members.lookup field.key with
  | some part =>
      obtain ⟨before, after, hmembers, -⟩ := List.lookup_eq_some_iff.mp hpart
      have hmem : (field.key, part) ∈ members := by simp [hmembers]
      apply Sourced.given
      apply Record.mem_given_iff.mpr
      exact ⟨field.key, List.mem_map.mpr ⟨_, hmem, rfl⟩, Record.find?_key hkeys hfield⟩
  | none =>
      have hnot : ∀ p ∈ r.given (members.map fun m => (m.1, Source.ofJson m.2)),
          p.1.key ≠ field.key := by
        intro p hp hkey
        obtain ⟨key, hmem, hfind⟩ := Record.mem_given_iff.mp hp
        obtain ⟨m, hm, hmp⟩ := List.mem_map.mp hmem
        have hne := List.lookup_eq_none_iff.mp hpart m hm
        rw [← hkey, Record.key_of_find? hfind, ← (Prod.mk.inj hmp).1] at hne
        simp at hne
      apply Sourced.omitted hnot
      left
      apply Bool.eq_false_iff.mpr
      intro hneed
      obtain ⟨p, hp, hkey⟩ := List.mem_map.mp (h.needed field hfield hneed)
      exact hnot p hp hkey

/-- The place of a key among the fields. -/
theorem getElem?_fields_inj (hkeys : (r.fields.map (·.key)).Nodup) {i : Nat}
    {other : Field Source DecodeError R} (hother : r.fields[i]? = some other)
    (hfield : r.fields[place]? = some field) (hkey : other.key = field.key) : i = place := by
  have hlt : i < (r.fields.map (·.key)).length := by
    rw [List.length_map]
    exact (List.getElem?_eq_some_iff.mp hother).1
  apply (List.getElem?_inj hlt hkeys).mp
  rw [List.getElem?_map, List.getElem?_map, hother, hfield, Option.map_some, Option.map_some, hkey]

theorem map_fst_zip_sublist {β : Type} (as : List α) (bs : List β) :
    ((as.zip bs).map Prod.fst).Sublist as := by
  induction as generalizing bs with
  | nil => exact List.nil_sublist _
  | cons a as ih =>
      cases bs with
      | nil => exact List.nil_sublist _
      | cons b bs => exact (ih bs).cons_cons a

theorem sourced_of_arr (hkeys : (r.fields.map (·.key)).Nodup) {items : List Json}
    (htrailing : ∀ field ∈ r.fields.drop (items.map Source.ofJson).length, field.trailing = true)
    (hfield : r.fields[place]? = some field) :
    Sourced (r.fields.zip (items.map Source.ofJson)) items[place]? field := by
  cases hpart : items[place]? with
  | some part =>
      apply Sourced.given
      apply List.mem_of_getElem? (i := place)
      rw [List.getElem?_zip_eq_some]
      exact ⟨hfield, by rw [List.getElem?_map, hpart, Option.map_some]⟩
  | none =>
      have hle : items.length ≤ place := List.getElem?_eq_none_iff.mp hpart
      apply Sourced.omitted
      · intro p hp hkey
        obtain ⟨i, hi⟩ := List.mem_iff_getElem?.mp hp
        obtain ⟨hfirst, hsecond⟩ := List.getElem?_zip_eq_some.mp hi
        have hlt := (List.getElem?_eq_some_iff.mp hsecond).1
        rw [List.length_map, getElem?_fields_inj hkeys hfirst hfield hkey] at hlt
        exact Nat.not_lt.mpr hle hlt
      · right
        apply htrailing
        apply List.mem_of_getElem? (i := place - items.length)
        rw [List.getElem?_drop, List.length_map, Nat.add_sub_cancel' hle, hfield]

/-- How a value gives a record: which fields are given, and by which parts of the value. -/
structure Filled (r : JsonRecord R) (v : Json) (y : R)
    (pairs : List (Field Source DecodeError R × Source)) : Prop where
  taken : Record.takeAll pairs r.start = .ok y
  distinct : (pairs.map (·.1.key)).Nodup
  known : ∀ p ∈ pairs, p.1 ∈ r.fields
  sourced : ∀ (place : Nat) field, r.fields[place]? = some field →
    Sourced pairs (v.part? field.key place) field

theorem exists_filled (hkeys : (r.fields.map (·.key)).Nodup) {v : Json}
    (h : decodeValue (.record r) v = .ok y) : ∃ pairs, Filled r v y pairs := by
  cases v with
  | obj members =>
      rw [decodeValue, Source.ofJson, ofMembers_eq_map, record_obj_eq_ok_iff (by decide)] at h
      refine ⟨_, h.taken, h.distinct, fun p hp => ?_, fun place field hfield =>
        sourced_of_obj hkeys h (List.mem_of_getElem? hfield)⟩
      obtain ⟨key, -, hfind⟩ := Record.mem_given_iff.mp hp
      exact List.mem_of_find?_eq_some hfind
  | arr items =>
      rw [decodeValue, Source.ofJson, ofItems_eq_map, Decoder.record] at h
      obtain ⟨htaken, htrailing⟩ := Record.of_readItems h
      have hsub : (((r.fields.zip (items.map Source.ofJson)).map Prod.fst).map (·.key)).Sublist
          (r.fields.map (·.key)) := (map_fst_zip_sublist _ _).map _
      rw [List.map_map] at hsub
      exact ⟨_, htaken, hsub.nodup hkeys, fun p hp => (List.of_mem_zip hp).1,
        fun place field hfield => sourced_of_arr hkeys htrailing hfield⟩
  | null | bool _ | str _ | num _ => cases h

section Parts

variable {read : Source → Except DecodeError α} {get : R → α} {v : Json} {key : String}

/-- What a field has is read from the part of the value that gives it. -/
theorem get_of_part? (hkeys : (r.fields.map (·.key)).Nodup)
    (h : decodeValue (.record r) v = .ok y) (hplace : r.fields[place]?.map (·.key) = some key)
    (hkeeps : r.Keeps key read get) {part : Json} (hpart : v.part? key place = some part) :
    read (Source.ofJson part) = .ok (get y) := by
  obtain ⟨pairs, hfilled⟩ := exists_filled hkeys h
  obtain ⟨field, hfield, rfl⟩ := Option.map_eq_some_iff.mp hplace
  have hsourced := hfilled.sourced place field hfield
  rw [hpart] at hsourced
  cases hsourced with
  | given hp => exact hkeeps.get_of_mem hfilled.known hfilled.distinct hfilled.taken hp rfl

/-- Without such a part the field has its default. -/
theorem get_of_part?_eq_none (hkeys : (r.fields.map (·.key)).Nodup)
    (h : decodeValue (.record r) v = .ok y) (hplace : r.fields[place]?.map (·.key) = some key)
    (hkeeps : r.Keeps key read get) (hpart : v.part? key place = none) : get y = get r.start := by
  obtain ⟨pairs, hfilled⟩ := exists_filled hkeys h
  obtain ⟨field, hfield, rfl⟩ := Option.map_eq_some_iff.mp hplace
  have hsourced := hfilled.sourced place field hfield
  rw [hpart] at hsourced
  cases hsourced with
  | omitted hnot _ => exact hkeeps.get_of_not_mem hfilled.known hfilled.taken hnot

/-- There is a part for a field that may not be left out. -/
theorem exists_part? (hkeys : (r.fields.map (·.key)).Nodup)
    (h : decodeValue (.record r) v = .ok y) (hfield : r.fields[place]? = some field)
    (hkey : field.key = key) (hneeded : field.needed = true) (htrailing : field.trailing = false) :
    ∃ part, v.part? key place = some part := by
  obtain ⟨pairs, hfilled⟩ := exists_filled hkeys h
  have hsourced := hfilled.sourced place field hfield
  rw [hkey] at hsourced
  cases hpart : v.part? key place with
  | some part => exact ⟨part, rfl⟩
  | none =>
      rw [hpart] at hsourced
      cases hsourced with
      | omitted _ hmay => simp [hneeded, htrailing] at hmay

end Parts

end Json

end VlanBinding
