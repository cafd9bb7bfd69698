import VlanBinding.Decimal.Shortest
import VlanBinding.Json.Basic
import VlanBinding.Text.Hex

/-!
JSON text in three styles: compact, indented, and with a blank after each comma and colon in ASCII
characters alone.
-/

namespace VlanBinding.Json

open VlanBinding.Text

/-- How JSON text is set. -/
structure Style where
  comma : List Char
  colon : List Char
  /-- what starts a line at a level of nesting -/
  line : Nat → List Char
  /-- whether characters beyond ASCII are written as escapes -/
  ascii : Bool

/-- Nothing between tokens. -/
def Style.compact : Style := ⟨[','], [':'], fun _ => [], false⟩

/-- One item a line, two blanks a level. -/
def Style.pretty : Style :=
  ⟨[','], [':', ' '], fun level => '\n' :: List.replicate (2 * level) ' ', false⟩

/-- A blank after commas and colons, and ASCII characters alone. -/
def Style.spaced : Style := ⟨[',', ' '], [':', ' '], fun _ => [], true⟩

/-- A code unit of sixteen bits as an escape. -/
def unitEscape (n : Nat) : List Char := '\\' :: 'u' :: hex4 n

/-- The escape of a character beyond ASCII: one code unit, or a pair of surrogates. -/
def wideEscape (c : Char) : List Char :=
  if c.toNat < 0x10000 then unitEscape c.toNat
  else
    let n := c.toNat - 0x10000
    unitEscape (0xD800 + n / 0x400) ++ unitEscape (0xDC00 + n % 0x400)

/-- A character inside a string. -/
def escape (ascii : Bool) (c : Char) : List Char :=
  if c = '"' then ['\\', '"']
  else if c = '\\' then ['\\', '\\']
  else if c = '\x08' then ['\\', 'b']
  else if c = '\x0c' then ['\\', 'f']
  else if c = '\n' then ['\\', 'n']
  else if c = '\r' then ['\\', 'r']
  else if c = '\t' then ['\\', 't']
  else if c.toNat < 0x20 then unitEscape c.toNat
  else if ascii && 0x7f < c.toNat then wideEscape c
  else [c]

/-- A string in quotes. -/
def quoted (ascii : Bool) (text : List Char) : List Char :=
  '"' :: text.flatMap (escape ascii) ++ ['"']

/-- An integer in decimal digits. -/
def integer (i : Int) : List Char :=
  (if i < 0 then ['-'] else []) ++ Nat.toDigits 10 i.natAbs

def Number.text : Number → List Char
  | .int i => integer i
  | .float x => x.toScientific

mutual

/-- The text of a value at a level of nesting. -/
def write (style : Style) (level : Nat) : Json → List Char
  | null => "null".toList
  | bool true => "true".toList
  | bool false => "false".toList
  | num n => n.text
  | str s => quoted style.ascii s.toList
  | arr [] => ['[', ']']
  | arr (item :: rest) =>
      '[' :: style.line (level + 1) ++ item.write style (level + 1) ++
        writeItems style (level + 1) rest ++ style.line level ++ [']']
  | obj [] => ['{', '}']
  | obj ((k, v) :: rest) =>
      '{' :: style.line (level + 1) ++ quoted style.ascii k.toList ++ style.colon ++
        v.write style (level + 1) ++ writeMembers style (level + 1) rest ++
        style.line level ++ ['}']

/-- The items after the first one, each after a comma. -/
def writeItems (style : Style) (level : Nat) : List Json → List Char
  | [] => []
  | item :: rest =>
      style.comma ++ style.line level ++ item.write style level ++
        writeItems style level rest

/-- The members after the first one, each after a comma. -/
def writeMembers (style : Style) (level : Nat) : List (String × Json) → List Char
  | [] => []
  | (k, v) :: rest =>
      style.comma ++ style.line level ++ quoted style.ascii k.toList ++ style.colon ++
        v.write style level ++ writeMembers style level rest

end

/-- The text of a value with nothing between tokens. -/
def compact (v : Json) : String := String.ofList (v.write .compact 0)

/-- The text of a value on lines. -/
def pretty (v : Json) : String := String.ofList (v.write .pretty 0)

/-- The text of a value in ASCII, with a blank after commas and colons. -/
def spaced (v : Json) : String := String.ofList (v.write .spaced 0)

end VlanBinding.Json
