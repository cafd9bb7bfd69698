import VlanBinding.Http.Percent
import VlanBinding.Text.Split

/-!
Pairs of names and values as the query of a URL.
-/

namespace VlanBinding.Http.Form

/-- Characters that stand for themselves. -/
def isPlain (c : Char) : Bool :=
  c.isAlphanum || c == '*' || c == '-' || c == '.' || c == '_'

/-- A name or a value, with a plus sign for each space. -/
def encode (text : String) : List Char :=
  text.toList.flatMap fun c => if c = ' ' then ['+'] else Percent.encodeChar isPlain c

def encodePair (pair : String × String) : List Char := encode pair.1 ++ '=' :: encode pair.2

/-- Pairs in order. -/
def encodePairs (pairs : List (String × String)) : List Char :=
  ['&'].intercalate (pairs.map encodePair)

/-- The text of a name or a value, if its bytes are UTF-8. -/
def decode? (cs : List Char) : Option String :=
  Percent.decodeText? (cs.map fun c => if c = '+' then ' ' else c)

/-- A name and its value, which is empty when there is no equals sign. -/
def decodePair (cs : List Char) : Option String × Option String :=
  (decode? (cs.takeWhile (· ≠ '=')), decode? ((cs.dropWhile (· ≠ '=')).drop 1))

/-- The pairs of a query. Nothing between two separators is no pair. -/
def decodePairs (cs : List Char) : List (Option String × Option String) :=
  ((Text.splitAt '&' cs).filter (!·.isEmpty)).map decodePair

end VlanBinding.Http.Form
