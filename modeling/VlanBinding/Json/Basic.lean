import VlanBinding.Decimal.Binary64

/-!
JSON values. An object is a list of members, in the order in which they are written; objects that
were read keep their members sorted by key, the last of two equal keys winning.
-/

namespace VlanBinding

/-- A JSON number: an integer of 64 bits, signed or not, or a binary floating point number. -/
inductive Json.Number where
  | int (value : Int)
  | float (value : Decimal.Binary64)
deriving DecidableEq, Repr, Inhabited

/-- A JSON value. -/
inductive Json where
  | null
  | bool (value : Bool)
  | num (value : Json.Number)
  | str (text : String)
  | arr (items : List Json)
  | obj (members : List (String × Json))
deriving Repr, Inhabited

namespace Json

/-- Puts a member in its place among sorted ones, replacing one of the same key. -/
def insertMember (key : String) (value : Json) : List (String × Json) → List (String × Json)
  | [] => [(key, value)]
  | (k, v) :: rest =>
      if key < k then (key, value) :: (k, v) :: rest
      else if key = k then (key, value) :: rest
      else (k, v) :: insertMember key value rest

/-- Members sorted by key, the last of equal keys kept. -/
def sortMembers (members : List (String × Json)) : List (String × Json) :=
  members.foldl (fun sorted (k, v) => insertMember k v sorted) []

mutual

/-- The value with the members of every object in it sorted by key. -/
def sorted : Json → Json
  | null => null
  | bool b => bool b
  | num n => num n
  | str s => str s
  | arr items => arr (sortedItems items)
  | obj members => obj (sortMembers (sortedValues members))

def sortedItems : List Json → List Json
  | [] => []
  | item :: rest => item.sorted :: sortedItems rest

def sortedValues : List (String × Json) → List (String × Json)
  | [] => []
  | (k, v) :: rest => (k, v.sorted) :: sortedValues rest

end

/-- The member of an object under a key. -/
def member? (key : String) : Json → Option Json
  | obj members => members.lookup key
  | _ => none

def nat (n : Nat) : Json := num (.int n)

/-- An array of strings. -/
def strings (texts : List String) : Json := arr (texts.map str)

end Json

end VlanBinding
