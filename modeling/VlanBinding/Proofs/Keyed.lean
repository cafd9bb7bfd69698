import Mathlib.Data.List.Perm.Basic
import Mathlib.Data.List.Nodup
import VlanBinding.Keyed

/-!
Entries as wholes: putting and erasing one after the other, and when entries with distinct keys
are decided by what is found under each key.
-/

namespace VlanBinding.Keyed

variable {κ α : Type} [DecidableEq κ]

/-- The keys of entries are pairwise distinct. -/
def DistinctKeys (entries : Keyed κ α) : Prop := (entries.map Prod.fst).Nodup

theorem put_put (key : κ) (value older : α) (entries : Keyed κ α) :
    put key value (put key older entries) = put key value entries := by
  induction entries with
  | nil => simp [put]
  | cons head tail ih =>
      by_cases hkey : head.1 = key
      · simp [put, hkey]
      · simp [put, hkey, ih]

theorem erase_cons (key : κ) (head : κ × α) (tail : Keyed κ α) :
    erase key (head :: tail) =
      if head.1 = key then erase key tail else head :: erase key tail := by
  by_cases hkey : head.1 = key
  · simp [erase, hkey]
  · simp [erase, hkey]

theorem erase_of_get?_eq_none {key : κ} {entries : Keyed κ α}
    (hnone : get? key entries = none) : erase key entries = entries := by
  induction entries with
  | nil => rfl
  | cons head tail ih =>
      by_cases hkey : head.1 = key
      · simp [get?, hkey] at hnone
      · simp only [get?, hkey, ↓reduceIte] at hnone
        simp [erase_cons, hkey, ih hnone]

/-- A new entry goes to the end, and goes again when its key is erased. -/
theorem erase_put_of_get?_eq_none {key : κ} {entries : Keyed κ α} (value : α)
    (hnone : get? key entries = none) :
    erase key (put key value entries) = entries := by
  induction entries with
  | nil => simp [put, erase]
  | cons head tail ih =>
      by_cases hkey : head.1 = key
      · simp [get?, hkey] at hnone
      · simp only [get?, hkey, ↓reduceIte] at hnone
        simp [put, erase_cons, hkey, ih hnone]

theorem mem_map_fst_put {key k : κ} {value : α} {entries : Keyed κ α} :
    k ∈ (put key value entries).map Prod.fst ↔
      k = key ∨ k ∈ entries.map Prod.fst := by
  induction entries with
  | nil => simp [put]
  | cons head tail ih =>
      by_cases hkey : head.1 = key
      · simp [put, hkey]
      · simp only [put, hkey, ↓reduceIte, List.map_cons, List.mem_cons, ih]
        exact or_left_comm

theorem distinctKeys_put {entries : Keyed κ α} (hdistinct : DistinctKeys entries)
    (key : κ) (value : α) : DistinctKeys (put key value entries) := by
  induction entries with
  | nil => simp [DistinctKeys, put]
  | cons head tail ih =>
      simp only [DistinctKeys, List.map_cons, List.nodup_cons] at hdistinct
      by_cases hkey : head.1 = key
      · subst hkey
        simpa [DistinctKeys, put] using hdistinct
      · have hhead : head.1 ∉ (put key value tail).map Prod.fst := by
          rw [mem_map_fst_put, not_or]
          exact ⟨hkey, hdistinct.1⟩
        simp only [DistinctKeys, put, hkey, ↓reduceIte, List.map_cons,
          List.nodup_cons]
        exact ⟨hhead, ih hdistinct.2⟩

theorem distinctKeys_erase {entries : Keyed κ α} (hdistinct : DistinctKeys entries)
    (key : κ) : DistinctKeys (erase key entries) :=
  hdistinct.sublist (List.filter_sublist.map Prod.fst)

/-- What is found under a key is there under it. -/
theorem mem_of_get?_eq_some {key : κ} {value : α} {entries : Keyed κ α}
    (hfound : get? key entries = some value) : (key, value) ∈ entries := by
  induction entries with
  | nil => cases hfound
  | cons head tail ih =>
      rw [get?] at hfound
      split at hfound
      · rename_i hkey
        obtain rfl := Option.some.inj hfound
        exact hkey ▸ List.mem_cons_self
      · exact List.mem_cons_of_mem _ (ih hfound)

theorem mem_iff_get? {entries : Keyed κ α} (hdistinct : DistinctKeys entries)
    {entry : κ × α} : entry ∈ entries ↔ get? entry.1 entries = some entry.2 := by
  induction entries with
  | nil => simp
  | cons head tail ih =>
      simp only [DistinctKeys, List.map_cons, List.nodup_cons] at hdistinct
      by_cases hkey : head.1 = entry.1
      · have hfresh : entry ∉ tail := by
          intro hmem
          exact hdistinct.1 (hkey ▸ List.mem_map_of_mem hmem)
        simp only [List.mem_cons, hfresh, or_false, get?, hkey, ↓reduceIte,
          Option.some.injEq]
        exact ⟨fun h => h ▸ rfl, fun h => Prod.ext hkey.symm h.symm⟩
      · have hne : entry ≠ head := fun h => hkey (h ▸ rfl)
        simp only [List.mem_cons, hne, false_or, get?, hkey, ↓reduceIte]
        exact ih hdistinct.2

/-- Entries with distinct keys that find the same under every key are the same up to order. -/
theorem perm_of_get?_eq {xs ys : Keyed κ α} (hxs : DistinctKeys xs)
    (hys : DistinctKeys ys) (hsame : ∀ key, get? key xs = get? key ys) :
    xs.Perm ys := by
  rw [List.perm_ext_iff_of_nodup hxs.of_map hys.of_map]
  intro entry
  rw [mem_iff_get? hxs, mem_iff_get? hys, hsame]

end VlanBinding.Keyed
