import VlanBinding.Schema.Problem

/-!
Records and the two ways to give one: as members under keys, in any order and with unknown ones
passed over, or as the bare values in the order of the fields. Reading starts from the record with
every default in it and takes up one value at a time, so the first thing wrong in the order of the
document is the one reported; a missing field is noticed at the end.

`S` is what a value is read from, `E` what reading can fail with and `R` the record.
-/

namespace VlanBinding.Schema

/-- One field of a record. -/
structure Field (S E R : Type) where
  key : String
  /-- whether an object must have it -/
  needed : Bool
  /-- whether an array may end before it -/
  trailing : Bool
  /-- reads the value into the record -/
  take : S → R → Except E R

namespace Field

variable {S E R α : Type}

/-- A field that must be there. -/
def required (key : String) (read : S → Except E α) (put : α → R → R) : Field S E R :=
  ⟨key, true, false, fun s r => (read s).map (put · r)⟩

/-- A field that keeps its default when it is left out. -/
def defaulted (key : String) (read : S → Except E α) (put : α → R → R) : Field S E R :=
  ⟨key, false, true, fun s r => (read s).map (put · r)⟩

/-- A field that an object, but not an array, may leave out. -/
def placed (key : String) (read : S → Except E α) (put : α → R → R) : Field S E R :=
  ⟨key, false, false, fun s r => (read s).map (put · r)⟩

end Field

/-- A record: its name, its value before anything is read, and its fields in order. -/
structure Record (S E R : Type) where
  name : String
  start : R
  fields : List (Field S E R)

namespace Record

variable {S E R : Type}

/-- What is wanted where there is no record at all. -/
def wanted (r : Record S E R) : String := "struct " ++ r.name

/-- What is wanted where an array is too short for the record. -/
def wantedLength (r : Record S E R) : String :=
  r.wanted ++ " with " ++ counted r.fields.length "element"

/-- Takes up one member. `seen` are the keys met so far. -/
def readMember (r : Record S E R) (report : Problem → E) (skip : S → Except E Unit)
    (key : String) (value : S) (state : R × List String) : Except E (R × List String) :=
  match r.fields.find? (·.key == key) with
  | none => (skip value).map fun () => state
  | some field =>
      if state.2.contains key then .error (report (.duplicate key))
      else (field.take value state.1).map (·, key :: state.2)

/-- Takes up members in order; a key may itself fail to be read. -/
def readMembers (r : Record S E R) (report : Problem → E) (skip : S → Except E Unit) :
    List (Except E String × S) → R × List String → Except E (R × List String)
  | [], state => .ok state
  | (.error e, _) :: _, _ => .error e
  | (.ok key, value) :: rest, state =>
      match r.readMember report skip key value state with
      | .error e => .error e
      | .ok state => readMembers r report skip rest state

/-- The first needed field that was not seen. -/
def missing? (r : Record S E R) (seen : List String) : Option String :=
  (r.fields.find? fun field => field.needed && !seen.contains field.key).map (·.key)

/-- The record that members give; `ending` tells whether the members end as they should. -/
def ofMembers (r : Record S E R) (report : Problem → E) (skip : S → Except E Unit)
    (members : List (Except E String × S)) (ending : Except E Unit) : Except E R :=
  match r.readMembers report skip members (r.start, []) with
  | .error e => .error e
  | .ok (value, seen) =>
    match ending with
    | .error e => .error e
    | .ok () =>
      match r.missing? seen with
      | some key => .error (report (.missing key))
      | none => .ok value

/-- Takes up items in the order of the fields. `count` fields have been read; `tooMany` is what a
surplus item is. -/
def readItems (r : Record S E R) (report : Problem → E) (ending : Except E Unit)
    (tooMany : E) : List (Field S E R) → List S → Nat → R → Except E R
  | [], [], _, value => ending.map fun () => value
  | [], _ :: _, _, _ => .error tooMany
  | field :: fields, item :: items, count, value =>
      match field.take item value with
      | .error e => .error e
      | .ok value => readItems r report ending tooMany fields items (count + 1) value
  | field :: fields, [], count, value =>
      match ending with
      | .error e => .error e
      | .ok () =>
        if field.trailing then
          readItems r report ending tooMany fields [] (count + 1) value
        else .error (report (.wrongLength count r.wantedLength))

/-- The record that bare values give. -/
def ofItems (r : Record S E R) (report : Problem → E) (items : List S)
    (ending : Except E Unit) (tooMany : E) : Except E R :=
  r.readItems report ending tooMany r.fields items 0 r.start

end Record

end VlanBinding.Schema
