import VlanBinding.Json.Basic

/-!
What a decoder sees of a JSON value: either a value already known as a whole, or text taken in as
far as it is JSON. A text that stops being JSON has a source, too, with a mark where it breaks off,
so that a decoder which goes through it in order meets whatever is wrong first.
-/

namespace VlanBinding.Json

/-- How the items of an array or an object end. -/
inductive Ending where
  /-- with the closing bracket -/
  | closed
  /-- with text that is no JSON -/
  | cut
  /-- with the last item of a value known as a whole -/
  | whole
deriving DecidableEq, Repr, Inhabited

/-- A JSON value as it is met by a decoder. -/
inductive Source where
  | null
  | bool (value : Bool)
  | num (value : Number)
  | str (text : String)
  | arr (items : List Source) (ending : Ending)
  /-- members whose key is `none` have a key that cannot be read -/
  | obj (members : List (Option String × Source)) (ending : Ending)
  /-- a value of the right form that cannot be read, but may be passed over -/
  | unreadable
  /-- text that is no JSON from here on -/
  | broken
deriving Repr, Inhabited

namespace Source

mutual

/-- Is the text of the value JSON to its end? Only then can it be passed over. -/
def complete : Source → Bool
  | arr items ending => ending != .cut && completeItems items
  | obj members ending => ending != .cut && completeMembers members
  | broken => false
  | _ => true

def completeItems : List Source → Bool
  | [] => true
  | item :: rest => item.complete && completeItems rest

def completeMembers : List (Option String × Source) → Bool
  | [] => true
  | (_, value) :: rest => value.complete && completeMembers rest

end

mutual

/-- A value known as a whole. -/
def ofJson : Json → Source
  | .null => null
  | .bool b => bool b
  | .num n => num n
  | .str s => str s
  | .arr items => arr (ofItems items) .whole
  | .obj members => obj (ofMembers members) .whole

def ofItems : List Json → List Source
  | [] => []
  | item :: rest => ofJson item :: ofItems rest

def ofMembers : List (String × Json) → List (Option String × Source)
  | [] => []
  | (key, value) :: rest => (some key, ofJson value) :: ofMembers rest

end

mutual

/-- The value, if all of it can be read. Objects have their members sorted, and the last of equal
keys wins. -/
def toJson? : Source → Option Json
  | null => some .null
  | bool b => some (.bool b)
  | num n => some (.num n)
  | str s => some (.str s)
  | arr items ending =>
      if ending = .cut then none else (toItems? items).map .arr
  | obj members ending =>
      if ending = .cut then none
      else (toMembers? members).map fun ms => .obj (sortMembers ms)
  | unreadable => none
  | broken => none

def toItems? : List Source → Option (List Json)
  | [] => some []
  | item :: rest =>
    match item.toJson?, toItems? rest with
    | some v, some vs => some (v :: vs)
    | _, _ => none

def toMembers? : List (Option String × Source) → Option (List (String × Json))
  | [] => some []
  | (key?, value) :: rest =>
    match key?, value.toJson?, toMembers? rest with
    | some key, some v, some vs => some ((key, v) :: vs)
    | _, _, _ => none

end

end Source

end VlanBinding.Json
