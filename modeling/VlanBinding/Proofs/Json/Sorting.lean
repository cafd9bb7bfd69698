import VlanBinding.Proofs.Json.Values

/-!
Values whose objects have sorted members. Main statements: sorting a second time changes nothing,
so the text of a value that was sorted parses to that very value.
-/

namespace VlanBinding.Json

/-! ## Members in order -/

section Members

variable {key : String} {value : Json} {member : String × Json} {members : List (String × Json)}

/-- Each key is less than those behind it. -/
def Ordered (members : List (String × Json)) : Prop := members.Pairwise fun a b => a.1 < b.1

theorem mem_insertMember (h : member ∈ insertMember key value members) :
    member = (key, value) ∨ member ∈ members := by
  induction members with
  | nil => exact Or.inl (List.mem_singleton.mp h)
  | cons head rest ih =>
      rw [insertMember] at h
      split at h
      · exact (List.mem_cons.mp h)
      · split at h
        · exact (List.mem_cons.mp h).imp_right (List.mem_cons_of_mem _)
        · rcases List.mem_cons.mp h with rfl | h
          · exact Or.inr List.mem_cons_self
          · exact (ih h).imp_right (List.mem_cons_of_mem _)

theorem ordered_insertMember (key : String) (value : Json) (h : Ordered members) :
    Ordered (insertMember key value members) := by
  induction members with
  | nil => exact List.pairwise_singleton _ _
  | cons head rest ih =>
      obtain ⟨hhead, hrest⟩ := List.pairwise_cons.mp h
      rw [insertMember]
      split
      · rename_i hlt
        refine List.pairwise_cons.mpr ⟨fun m hm => ?_, h⟩
        rcases List.mem_cons.mp hm with rfl | hm
        · exact hlt
        · exact String.lt_trans hlt (hhead m hm)
      · rename_i hnot
        split
        · rename_i heq
          exact List.pairwise_cons.mpr ⟨fun m hm => heq ▸ hhead m hm, hrest⟩
        · rename_i hne
          refine List.pairwise_cons.mpr ⟨fun m hm => ?_, ih hrest⟩
          rcases mem_insertMember hm with rfl | hm
          · grind
          · exact hhead m hm

theorem insertMember_of_lt (h : ∀ m ∈ members, m.1 < key) :
    insertMember key value members = members ++ [(key, value)] := by
  induction members with
  | nil => rfl
  | cons head rest ih =>
      obtain ⟨hhead, hrest⟩ := List.forall_mem_cons.mp h
      have hne : key ≠ head.1 := by
        rintro rfl
        exact String.lt_irrefl _ hhead
      rw [insertMember, if_neg (String.lt_asymm hhead), if_neg hne, ih hrest, List.cons_append]

theorem ordered_foldl (members start : List (String × Json)) (h : Ordered start) :
    Ordered (members.foldl (fun sorted (k, v) => insertMember k v sorted) start) := by
  induction members generalizing start with
  | nil => exact h
  | cons head rest ih => exact ih _ (ordered_insertMember _ _ h)

theorem ordered_sortMembers (members : List (String × Json)) : Ordered (sortMembers members) :=
  ordered_foldl members [] .nil

theorem foldl_insertMember_of_ordered (start : List (String × Json))
    (h : Ordered (start ++ members)) :
    members.foldl (fun sorted (k, v) => insertMember k v sorted) start = start ++ members := by
  induction members generalizing start with
  | nil => simp
  | cons head rest ih =>
      have hhead : ∀ m ∈ start, m.1 < head.1 := fun m hm =>
        (List.pairwise_append.mp h).2.2 m hm head List.mem_cons_self
      change rest.foldl _ (insertMember head.1 head.2 start) = _
      rw [insertMember_of_lt hhead, ih _ (by simpa using h), List.append_assoc,
        List.singleton_append]

/-- Members in order stay as they are. -/
theorem sortMembers_of_ordered (h : Ordered members) : sortMembers members = members :=
  foldl_insertMember_of_ordered [] h

theorem mem_foldl_insertMember {start : List (String × Json)}
    (h : member ∈ members.foldl (fun sorted (k, v) => insertMember k v sorted) start) :
    member ∈ start ∨ member ∈ members := by
  induction members generalizing start with
  | nil => exact Or.inl h
  | cons head rest ih =>
      rcases ih h with h | h
      · rcases mem_insertMember h with rfl | h
        · exact Or.inr List.mem_cons_self
        · exact Or.inl h
      · exact Or.inr (List.mem_cons_of_mem _ h)

/-- Sorting adds no member. -/
theorem mem_of_mem_sortMembers (h : member ∈ sortMembers members) : member ∈ members :=
  (mem_foldl_insertMember h).resolve_left List.not_mem_nil

end Members

/-! ## Values -/

theorem sortedValues_insertMember (key : String) (value : Json)
    (members : List (String × Json)) :
    sortedValues (insertMember key value members) =
      insertMember key value.sorted (sortedValues members) := by
  induction members with
  | nil => rfl
  | cons head rest ih =>
      simp only [insertMember, sortedValues]
      split
      · rfl
      · split
        · rfl
        · rw [sortedValues, ih]

theorem sortedValues_sortMembers (members : List (String × Json)) :
    sortedValues (sortMembers members) = sortMembers (sortedValues members) := by
  have hfold (start : List (String × Json)) :
      sortedValues (members.foldl (fun sorted (k, v) => insertMember k v sorted) start) =
        (sortedValues members).foldl (fun sorted (k, v) => insertMember k v sorted)
          (sortedValues start) := by
    induction members generalizing start with
    | nil => rfl
    | cons head rest ih =>
        rw [List.foldl_cons, ih, sortedValues_insertMember]
        rfl
  exact hfold []

mutual

/-- Sorting once is enough. -/
theorem sorted_sorted : ∀ v : Json, v.sorted.sorted = v.sorted
  | null | bool _ | num _ | str _ => rfl
  | arr items => by rw [sorted, sorted, sortedItems_sortedItems items]
  | obj members => by
      rw [sorted, sorted, sortedValues_sortMembers, sortedValues_sortedValues members,
        sortMembers_of_ordered (ordered_sortMembers _)]

theorem sortedItems_sortedItems : ∀ items : List Json,
    sortedItems (sortedItems items) = sortedItems items
  | [] => rfl
  | item :: rest => by
      rw [sortedItems, sortedItems, sorted_sorted item, sortedItems_sortedItems rest]

theorem sortedValues_sortedValues : ∀ members : List (String × Json),
    sortedValues (sortedValues members) = sortedValues members
  | [] => rfl
  | (key, value) :: rest => by
      rw [sortedValues, sortedValues, sorted_sorted value, sortedValues_sortedValues rest]

end

mutual

theorem integral_sorted : ∀ {v : Json}, v.Integral → v.sorted.Integral
  | null, h | bool _, h | num _, h | str _, h => h
  | arr _, h => integralItems_sorted h
  | obj _, h => by
      have hvalues := integralMembers_iff.mp (integralMembers_sorted h)
      exact integralMembers_iff.mpr fun m hm => hvalues m (mem_of_mem_sortMembers hm)

theorem integralItems_sorted : ∀ {items : List Json}, IntegralItems items →
    IntegralItems (sortedItems items)
  | [], h => h
  | _ :: _, h => ⟨integral_sorted h.1, integralItems_sorted h.2⟩

theorem integralMembers_sorted : ∀ {members : List (String × Json)}, IntegralMembers members →
    IntegralMembers (sortedValues members)
  | [], h => h
  | _ :: _, h => ⟨integral_sorted h.1, integralMembers_sorted h.2⟩

end

mutual

theorem height_sorted_le : ∀ v : Json, v.sorted.height ≤ v.height
  | null | bool _ | num _ | str _ => Nat.le_refl _
  | arr items => Nat.succ_le_succ (heightItems_sorted_le items)
  | obj members => by
      have hvalues := heightMembers_le_iff.mp (heightMembers_sorted_le members)
      have hmembers : heightMembers (sortMembers (sortedValues members)) ≤ heightMembers members :=
        heightMembers_le_iff.mpr fun m hm => hvalues m (mem_of_mem_sortMembers hm)
      exact Nat.succ_le_succ hmembers

theorem heightItems_sorted_le : ∀ items : List Json,
    heightItems (sortedItems items) ≤ heightItems items
  | [] => Nat.le_refl _
  | item :: rest => by
      have hitem := height_sorted_le item
      have hrest := heightItems_sorted_le rest
      simp only [sortedItems, heightItems]
      omega

theorem heightMembers_sorted_le : ∀ members : List (String × Json),
    heightMembers (sortedValues members) ≤ heightMembers members
  | [] => Nat.le_refl _
  | (_, value) :: rest => by
      have hvalue := height_sorted_le value
      have hrest := heightMembers_sorted_le rest
      simp only [sortedValues, heightMembers]
      omega

end

/-- The text of a value that was sorted parses to that very value. -/
theorem parse?_write_sorted {style : Style} (hstyle : style.Spacing) {v : Json} (hv : v.Integral)
    (hdepth : v.height ≤ depthLimit) :
    parse? (String.ofList (v.sorted.write style 0)) = some v.sorted := by
  rw [parse?_write hstyle (integral_sorted hv) (Nat.le_trans v.height_sorted_le hdepth),
    sorted_sorted]

/-! ## Values that were read -/

mutual

/-- What a source is as a whole has sorted members. -/
theorem sorted_toJson? : ∀ (s : Source) {v : Json}, s.toJson? = some v → v.sorted = v
  | .null, _, h | .bool _, _, h | .num _, _, h | .str _, _, h => by cases h; rfl
  | .arr items ending, v, h => by
      rw [Source.toJson?] at h
      split at h
      · cases h
      · obtain ⟨values, hvalues, rfl⟩ := Option.map_eq_some_iff.mp h
        rw [sorted, sorted_toItems? items hvalues]
  | .obj members ending, v, h => by
      rw [Source.toJson?] at h
      split at h
      · cases h
      · obtain ⟨values, hvalues, rfl⟩ := Option.map_eq_some_iff.mp h
        rw [sorted, sortedValues_sortMembers, sorted_toMembers? members hvalues,
          sortMembers_of_ordered (ordered_sortMembers _)]
  | .unreadable, _, h | .broken, _, h => by cases h

theorem sorted_toItems? : ∀ (items : List Source) {values : List Json},
    Source.toItems? items = some values → sortedItems values = values
  | [], _, h => by cases h; rfl
  | item :: rest, values, h => by
      rw [Source.toItems?] at h
      split at h
      · rename_i v vs hv hvs
        cases h
        rw [sortedItems, sorted_toJson? item hv, sorted_toItems? rest hvs]
      · cases h

theorem sorted_toMembers? : ∀ (members : List (Option String × Source))
    {values : List (String × Json)},
    Source.toMembers? members = some values → sortedValues values = values
  | [], _, h => by cases h; rfl
  | (none, value) :: rest, values, h => by cases h
  | (some key, value) :: rest, values, h => by
      simp only [Source.toMembers?] at h
      split at h
      · rename_i v vs hkey hv hvs
        cases h
        rw [sortedValues, sorted_toJson? value hv, sorted_toMembers? rest hvs]
      · cases h

end

/-- What a text parses to has sorted members. -/
theorem sorted_parse? {text : String} {v : Json} (h : parse? text = some v) : v.sorted = v := by
  simp only [parse?] at h
  split at h
  · exact sorted_toJson? _ h
  · cases h

theorem sortedItems_eq_map (items : List Json) : sortedItems items = items.map sorted := by
  induction items with
  | nil => rfl
  | cons item rest ih => rw [sortedItems, ih, List.map_cons]

theorem mem_sortedValues {member : String × Json} {members : List (String × Json)}
    (h : member ∈ sortedValues members) : member.2.sorted = member.2 := by
  induction members with
  | nil => cases h
  | cons head rest ih =>
      rw [sortedValues] at h
      rcases List.mem_cons.mp h with rfl | h
      · exact sorted_sorted head.2
      · exact ih h

/-- In a value with sorted members, each item and each member has sorted members. -/
theorem sorted_of_mem_arr {items : List Json} (h : (arr items).sorted = arr items) {item : Json}
    (hitem : item ∈ items) : item.sorted = item := by
  have hitems : items.map sorted = items.map id := by
    rw [List.map_id, ← sortedItems_eq_map]
    exact Json.arr.inj h
  exact List.map_inj_left.mp hitems item hitem

theorem sorted_of_mem_obj {members : List (String × Json)} (h : (obj members).sorted = obj members)
    {member : String × Json} (hmember : member ∈ members) : member.2.sorted = member.2 := by
  have hmembers : sortMembers (sortedValues members) = members := Json.obj.inj h
  rw [← hmembers] at hmember
  exact mem_sortedValues (mem_of_mem_sortMembers hmember)

end VlanBinding.Json
