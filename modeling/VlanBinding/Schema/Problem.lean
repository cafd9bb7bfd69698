/-!
What can be wrong with a value that is to become part of a record, and how that is put into words.
-/

namespace VlanBinding.Schema

/-- What was found in place of what was wanted. -/
inductive Found where
  | null
  | unit
  | bool (value : Bool)
  | int (value : Int)
  /-- an integer beyond 64 bits -/
  | wideInt (value : Int) (width : String)
  | float (text : String)
  | str (quoted : String)
  | sequence
  | map
deriving DecidableEq, Repr

def Found.message : Found → String
  | null => "null"
  | unit => "unit value"
  | bool b => "boolean `" ++ (if b then "true" else "false") ++ "`"
  | int i => "integer `" ++ toString i ++ "`"
  | wideInt i width => "integer `" ++ toString i ++ "` as " ++ width
  | float text => "floating point `" ++ text ++ "`"
  | str quoted => "string " ++ quoted
  | sequence => "sequence"
  | map => "map"

/-- What is wrong with a value. -/
inductive Problem where
  | missing (key : String)
  | duplicate (key : String)
  | wrongType (found : Found) (wanted : String)
  | wrongValue (found : Found) (wanted : String)
  | wrongLength (length : Nat) (wanted : String)
deriving DecidableEq, Repr

def Problem.message : Problem → String
  | missing key => "missing field `" ++ key ++ "`"
  | duplicate key => "duplicate field `" ++ key ++ "`"
  | wrongType found wanted => "invalid type: " ++ found.message ++ ", expected " ++ wanted
  | wrongValue found wanted => "invalid value: " ++ found.message ++ ", expected " ++ wanted
  | wrongLength n wanted => "invalid length " ++ toString n ++ ", expected " ++ wanted

/-- A count with its noun, in the plural unless it is one. -/
def counted (n : Nat) (noun : String) : String :=
  toString n ++ " " ++ noun ++ (if n = 1 then "" else "s")

end VlanBinding.Schema
