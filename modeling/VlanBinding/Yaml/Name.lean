import VlanBinding.Text.Hex
import VlanBinding.Yaml.Cursor
import VlanBinding.Yaml.Token

/-!
Names in a YAML text: anchors, aliases, tags and directives.
-/

namespace VlanBinding.Yaml

open VlanBinding.Text

/-- The name of an anchor or an alias behind its indicator. -/
def readAnchor? (c : Cursor) : Option (String × Cursor) :=
  let (name, c) := c.advance.spanWhile isNameChar
  let ended :=
    match c.rest with
    | [] => true
    | x :: _ => isSpace x || isBreak x || "?:,]\x7d%@\x60".toList.contains x
  if name.isEmpty || !ended then none else some (String.ofList name, c)

/-! ## Tags -/

/-- The characters of a tag's name, escapes aside. -/
def isTagChar (c : Char) : Bool :=
  isNameChar c || ";/?:@&=+$,.!~*'()[]".toList.contains c

/-- How many octets a character takes that starts with the given one. -/
def octetCount? (octet : Nat) : Option Nat :=
  if octet < 0x80 then some 1
  else if octet / 0x20 = 6 then some 2
  else if octet / 0x10 = 14 then some 3
  else if octet / 0x08 = 30 then some 4
  else none

/-- An octet written as a percent sign and two digits. -/
def readOctet? (cs : List Char) : Option Nat :=
  match cs with
  | '%' :: a :: b :: _ => hexNumber? [a, b]
  | _ => none

/-- Octets after the first one of a character, put together. -/
def readTrailing? : Nat → Nat → Cursor → Option (Nat × Cursor)
  | 0, code, c => some (code, c)
  | count + 1, code, c => do
    let octet ← readOctet? c.rest
    if octet / 0x40 = 2 then readTrailing? count (256 * code + octet) (c.advanceBy 3)
    else none

/-- A character written as escaped octets, whose values are put one behind the other. -/
def readEscaped? (c : Cursor) : Option (Char × Cursor) := do
  let octet ← readOctet? c.rest
  let count ← octetCount? octet
  let (code, c) ← readTrailing? (count - 1) octet (c.advanceBy 3)
  if code.isValidChar then some (Char.ofNat code, c) else none

/-- The name of a tag as far as it goes. -/
def readTagName? : Nat → List Char → Cursor → Option (List Char × Cursor)
  | 0, name, c => some (name, c)
  | fuel + 1, name, c =>
    match c.rest with
    | '%' :: _ =>
      match readEscaped? c with
      | none => none
      | some (x, c) => readTagName? fuel (name ++ [x]) c
    | x :: _ =>
      if isTagChar x then readTagName? fuel (name ++ [x]) c.advance else some (name, c)
    | [] => some (name, c)

/-- A tag's name behind what its handle has taken, of which the exclamation mark is dropped.
There must be at least one character in both. -/
def readSuffix? (head : List Char) (c : Cursor) : Option (List Char × Cursor) := do
  let (name, rest) ← readTagName? (c.rest.length + 1) [] c
  if head.isEmpty && rest.index = c.index then none
  else some (head.drop 1 ++ name, rest)

/-- A handle: an exclamation mark, perhaps a name and another exclamation mark. -/
def readHandle? (c : Cursor) : Option (List Char × Cursor) :=
  match c.rest with
  | '!' :: _ =>
    let (name, c) := c.advance.spanWhile isNameChar
    match c.rest with
    | '!' :: _ => some ('!' :: name ++ ['!'], c.advance)
    | _ => some ('!' :: name, c)
  | _ => none

/-- A tag in angle brackets, or with a handle of its own, or local. -/
def readTag? (c : Cursor) : Option (Tag × Cursor) := do
  let (tag, c) ←
    match c.rest with
    | _ :: '<' :: _ => do
      let (name, c) ← readSuffix? [] (c.advanceBy 2)
      if c.rest.head? = some '>' then some (Tag.mk "" (String.ofList name), c.advance) else none
    | _ => do
      let (handle, c) ← readHandle? c
      if 2 ≤ handle.length ∧ handle.getLast? = some '!' then
        let (name, c) ← readSuffix? [] c
        some (Tag.mk (String.ofList handle) (String.ofList name), c)
      else
        let (name, c) ← readSuffix? handle c
        if name.isEmpty then some (Tag.mk "" "!", c)
        else some (Tag.mk "!" (String.ofList name), c)
  if endsWord c.rest then some (tag, c) else none

/-! ## Directives -/

/-- A part of a version: one to nine digits. -/
def readVersionPart? (c : Cursor) : Option Cursor :=
  let (digits, c) := c.spanWhile Char.isDigit
  if digits.isEmpty || 9 < digits.length then none else some c

/-- The two parts of a version. -/
def readVersion? (c : Cursor) : Option Cursor := do
  let c ← readVersionPart? (c.skipWhile isSpace)
  if c.rest.head? = some '.' then readVersionPart? c.advance else none

/-- The handle of a tag and what it stands for. -/
def readTagPrefix? (c : Cursor) : Option Cursor := do
  let (handle, c) ← readHandle? (c.skipWhile isSpace)
  if handle.getLast? ≠ some '!' then none
  let (_, c) ← readSuffix? [] (c.skipWhile isSpace)
  if endsWord c.rest then some c else none

/-- A directive with the rest of its line. Unknown ones are passed over. -/
def readDirective? (c : Cursor) : Option Cursor := do
  let (name, c) := c.advance.spanWhile isNameChar
  if name.isEmpty || !endsWord c.rest then none
  let c ←
    if String.ofList name = "YAML" then readVersion? c
    else if String.ofList name = "TAG" then readTagPrefix? c
    else some c.skipLine
  let c := c.skipWhile isSpace
  let c := if c.rest.head? = some '#' then c.skipLine else c
  if endsLine c.rest then some c.skipBreak else none

end VlanBinding.Yaml
