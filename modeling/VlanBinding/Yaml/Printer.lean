import VlanBinding.Json.Printer
import VlanBinding.Yaml.Plain

/-!
YAML text of trees of plain texts. A text is written without quotes when it reads back as itself.
-/

namespace VlanBinding.Yaml

open VlanBinding.Json

/-- A tree to be written. -/
inductive Tree where
  | text (text : String)
  | list (items : List Tree)
  | map (entries : List (String × Tree))
deriving Repr, Inhabited

/-! ## Texts -/

/-- The indicators that a plain scalar must not start with, and some that it could. -/
def startsQuoted (c : Char) : Bool := "&*?|-<>=!%@.".toList.contains c

/-- The characters that a plain scalar must not hold, and some that it could. -/
def forcesQuotes (c : Char) : Bool :=
  ":\x7b\x7d[],#\x60\"'\\\t\n\r".toList.contains c || c.toNat < 7 ||
    (0x0e ≤ c.toNat && c.toNat < 0x20 && c != '\x1b')

/-- Words that could be taken for something else than a text. -/
def reservedWords : List String :=
  ["yes", "Yes", "YES", "no", "No", "NO", "True", "TRUE", "true", "False", "FALSE", "false",
    "on", "On", "ON", "off", "Off", "OFF", "null", "Null", "NULL", "~"]

/-- Names of numbers that are no number of digits. -/
def isNumberWord (cs : List Char) : Bool :=
  ["inf", "infinity", "nan"].contains (String.ofList ((stripSign cs).map Char.toLower))

/-- Could the text be taken for a number? -/
def isNumeric (cs : List Char) : Bool := isDecimal cs || isNumberWord cs

/-- Does a text need quotes? -/
def needsQuotes (text : String) : Bool :=
  let cs := text.toList
  cs.isEmpty || cs.head? == some ' ' || cs.getLast? == some ' ' ||
    cs.head?.any startsQuoted || cs.any forcesQuotes || reservedWords.contains text ||
    cs.take 2 == ['0', 'x'] || isNumeric cs

/-- A character between double quotes: as in a JSON string, and with the delete character
escaped. -/
def escapeText (c : Char) : List Char :=
  if c = '\x7f' then unitEscape 0x7f else Json.escape false c

/-- A text as a scalar. -/
def scalar (text : String) : List Char :=
  if needsQuotes text then '"' :: text.toList.flatMap escapeText ++ ['"'] else text.toList

/-! ## Collections -/

/-- A line at a level of indentation. -/
def newLine (level : Nat) : List Char := '\n' :: List.replicate (2 * level) ' '

mutual

/-- What follows the colon of a key in a mapping at a level. -/
def Tree.afterKey (level : Nat) : Tree → List Char
  | .text s => ' ' :: scalar s
  | .list [] => " []".toList
  | .map [] => " \x7b\x7d".toList
  | .list (item :: rest) =>
      newLine (level + 1) ++ '-' :: item.afterDash (level + 1) ++ writeItems (level + 1) rest
  | .map ((key, value) :: rest) =>
      newLine (level + 1) ++ scalar key ++ ':' :: value.afterKey (level + 1) ++
        writeEntries (level + 1) rest

/-- What follows the dash of an item in a list at a level. -/
def Tree.afterDash (level : Nat) : Tree → List Char
  | .text s => ' ' :: scalar s
  | .list [] => " []".toList
  | .map [] => " \x7b\x7d".toList
  | .list (item :: rest) =>
      ' ' :: '-' :: item.afterDash (level + 1) ++ writeItems (level + 1) rest
  | .map ((key, value) :: rest) =>
      ' ' :: scalar key ++ ':' :: value.afterKey (level + 1) ++ writeEntries (level + 1) rest

/-- The items after the first one. -/
def writeItems (level : Nat) : List Tree → List Char
  | [] => []
  | item :: rest => newLine level ++ '-' :: item.afterDash level ++ writeItems level rest

/-- The entries after the first one. -/
def writeEntries (level : Nat) : List (String × Tree) → List Char
  | [] => []
  | (key, value) :: rest =>
      newLine level ++ scalar key ++ ':' :: value.afterKey level ++ writeEntries level rest

end

/-- A document whose root is a mapping. -/
def renderMap (entries : List (String × Tree)) : String :=
  String.ofList
    ("---".toList ++
      match entries with
      | [] => "\n\x7b\x7d".toList
      | _ => writeEntries 0 entries) ++ "\n"

end VlanBinding.Yaml
