/-!
Values under keys, in the order in which the keys were first put. Main statements: what is found
under a key after a value was put or erased.
-/

namespace VlanBinding

/-- Values under pairwise distinct keys. -/
abbrev Keyed (κ α : Type) := List (κ × α)

namespace Keyed

variable {κ α : Type} [DecidableEq κ]

def get? (key : κ) : Keyed κ α → Option α
  | [] => none
  | (k, v) :: rest => if k = key then some v else get? key rest

def contains (key : κ) (entries : Keyed κ α) : Bool := (get? key entries).isSome

/-- Puts a value under a key, in place of one that is there already. -/
def put (key : κ) (value : α) : Keyed κ α → Keyed κ α
  | [] => [(key, value)]
  | (k, v) :: rest => if k = key then (key, value) :: rest else (k, v) :: put key value rest

def erase (key : κ) (entries : Keyed κ α) : Keyed κ α := entries.filter fun e => e.1 ≠ key

@[simp] theorem get?_nil (key : κ) : get? key ([] : Keyed κ α) = none := rfl

theorem get?_put (key k : κ) (value : α) (entries : Keyed κ α) :
    get? key (put k value entries) = if k = key then some value else get? key entries := by
  induction entries with
  | nil => simp [put, get?]
  | cons e rest ih =>
    by_cases h : e.1 = k <;> by_cases hk : e.1 = key <;> grind [put, get?]

theorem get?_erase (key k : κ) (entries : Keyed κ α) :
    get? key (erase k entries) = if k = key then none else get? key entries := by
  induction entries with
  | nil => simp [erase]
  | cons e rest ih =>
    by_cases h : e.1 = k <;> by_cases hk : e.1 = key <;> grind [erase, get?]

/-- What is found in entries taken up one after the other is the last value of the key. -/
theorem get?_foldl_put (key : κ) (entries : List (κ × α)) (start : Keyed κ α) :
    get? key (entries.foldl (fun kept e => put e.1 e.2 kept) start) =
      ((entries.reverse.find? (·.1 = key)).map (·.2)).or (get? key start) := by
  induction entries generalizing start with
  | nil => simp
  | cons e rest ih =>
    rw [List.foldl_cons, ih, get?_put, List.reverse_cons, List.find?_append]
    cases rest.reverse.find? (·.1 = key) <;> by_cases h : e.1 = key <;> simp [h]

end Keyed

end VlanBinding
