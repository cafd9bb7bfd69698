import VlanBinding.Json.Source
import VlanBinding.Text.Hex

/-!
Reading JSON text. Reading never fails: it gives the source that the text is, with a mark where it
stops being JSON, and the text behind the value.
-/

namespace VlanBinding.Json

open VlanBinding.Text VlanBinding.Decimal

def isBlank (c : Char) : Bool := c == ' ' || c == '\n' || c == '\t' || c == '\r'

def skipBlanks (cs : List Char) : List Char := cs.dropWhile isBlank

/-! ## Strings -/

/-- A piece of a string: a character, or a code unit that is half of a pair. -/
inductive StringPiece where
  | char (c : Char)
  | half
deriving DecidableEq, Repr

/-- The value of an escape of four hexadecimal digits. -/
def unitValue? : List Char → Option (Nat × List Char)
  | a :: b :: c :: d :: rest => (hexNumber? [a, b, c, d]).map (·, rest)
  | _ => none

def simpleEscape? : Char → Option Char
  | '"' => some '"'
  | '\\' => some '\\'
  | '/' => some '/'
  | 'b' => some '\x08'
  | 'f' => some '\x0c'
  | 'n' => some '\n'
  | 'r' => some '\r'
  | 't' => some '\t'
  | _ => none

/-- The piece after a backslash. A first half must be followed by the escape of a second half;
else it is half a pair, and so is a second half on its own. -/
def readEscape? : List Char → Option (StringPiece × List Char)
  | 'u' :: rest =>
    match unitValue? rest with
    | none => none
    | some (n, rest) =>
      if 0xDC00 ≤ n ∧ n < 0xE000 then some (.half, rest)
      else if 0xD800 ≤ n ∧ n < 0xDC00 then
        match rest with
        | '\\' :: 'u' :: more =>
          match unitValue? more with
          | none => none
          | some (m, after) =>
            if 0xDC00 ≤ m ∧ m < 0xE000 then
              some (.char (Char.ofNat (0x10000 + (n - 0xD800) * 0x400 + (m - 0xDC00))), after)
            else some (.half, rest)
        | _ => some (.half, rest)
      else some (.char (Char.ofNat n), rest)
  | c :: rest => (simpleEscape? c).map fun d => (.char d, rest)
  | [] => none

/-- The pieces of a string up to its closing quote, and the text behind it. -/
def readPieces? : Nat → List Char → Option (List StringPiece × List Char)
  | 0, _ => none
  | _ + 1, [] => none
  | fuel + 1, c :: rest =>
    if c = '"' then some ([], rest)
    else if c = '\\' then
      match readEscape? rest with
      | none => none
      | some (piece, rest) =>
        (readPieces? fuel rest).map fun (pieces, after) => (piece :: pieces, after)
    else if c.toNat < 0x20 then none
    else (readPieces? fuel rest).map fun (pieces, after) => (.char c :: pieces, after)

/-- The text of the pieces, if none is half of a pair. -/
def joinPieces? : List StringPiece → Option (List Char)
  | [] => some []
  | .char c :: rest => (joinPieces? rest).map (c :: ·)
  | .half :: _ => none

/-- A string behind its opening quote: `none` if the text breaks off in it, and a string of `none`
if it holds half of a pair. -/
def readString? (cs : List Char) : Option (Option String × List Char) :=
  (readPieces? (cs.length + 1) cs).map fun (pieces, rest) =>
    ((joinPieces? pieces).map String.ofList, rest)

/-! ## Numbers -/

/-- The written form of a number: its sign, the digits before and behind the point and those of
the exponent. -/
structure NumberText where
  negative : Bool
  whole : List Char
  fraction : Option (List Char)
  exponent : Option (Bool × List Char)
deriving DecidableEq, Repr

def digitsOf (cs : List Char) : List Char × List Char :=
  (cs.takeWhile Char.isDigit, cs.dropWhile Char.isDigit)

/-- The exponent of a number, if there is one. -/
def readExponent? : List Char → Option (Option (Bool × List Char) × List Char)
  | c :: rest =>
    if c = 'e' ∨ c = 'E' then
      let (negative, rest) : Bool × List Char :=
        match rest with
        | '+' :: more => (false, more)
        | '-' :: more => (true, more)
        | _ => (false, rest)
      match digitsOf rest with
      | ([], _) => none
      | (digits, rest) => some (some (negative, digits), rest)
    else some (none, c :: rest)
  | [] => some (none, [])

/-- The fraction of a number, if there is one. -/
def readFraction? : List Char → Option (Option (List Char) × List Char)
  | '.' :: rest =>
    match digitsOf rest with
    | ([], _) => none
    | (digits, rest) => some (some digits, rest)
  | cs => some (none, cs)

/-- A number and the text behind it. A zero is followed by no digit. -/
def readNumber? (cs : List Char) : Option (NumberText × List Char) :=
  let (negative, cs) : Bool × List Char :=
    match cs with
    | '-' :: rest => (true, rest)
    | _ => (false, cs)
  match digitsOf cs with
  | ([], _) => none
  | ('0' :: _ :: _, _) => none
  | (whole, rest) =>
    match readFraction? rest with
    | none => none
    | some (fraction, rest) =>
      (readExponent? rest).map fun (exponent, rest) =>
        (⟨negative, whole, fraction, exponent⟩, rest)

/-- Adds digits to a significand while it stays below `2 ^ 64`; gives the digits left over. -/
def addDigits (significand : Nat) : List Char → Nat × List Char
  | [] => (significand, [])
  | c :: rest =>
      let next := 10 * significand + (c.toNat - 48)
      if next < twoTo 64 then addDigits next rest else (significand, c :: rest)

/-- Divides by `10 ^ 308` until the exponent is at most 308 below zero. -/
def scaleDown : Nat → Binary64 → Nat → Option Binary64
  | 0, x, _ => some x
  | fuel + 1, x, k => do
    if x.isZero then return x
    else if k ≤ 308 then x.div? (← Binary64.ofNat? (tenTo k))
    else scaleDown fuel (← x.div? (← Binary64.ofNat? (tenTo 308))) (k - 308)

/-- A significand times a power of ten, each rounded on its own. -/
def scale (significand : Nat) (exponent : Int) : Option Binary64 := do
  let x ← Binary64.ofNat? significand
  if exponent < 0 then scaleDown 3 x exponent.natAbs
  else if x.isZero then return x
  else if 308 < exponent then none
  else x.mul? (← Binary64.ofNat? (tenTo exponent.toNat))

/-- The number that is written, or `none` if it is out of range. Of the digits only as many count
as fit into 64 bits. -/
def NumberText.value? (t : NumberText) : Option Number :=
  let (significand, dropped) := addDigits 0 t.whole
  match t.fraction, t.exponent, dropped with
  | none, none, [] =>
      if !t.negative then some (.int significand)
      else if significand = 0 ∨ twoTo 63 < significand then
        (scale significand 0).map fun x => .float x.neg
      else some (.int (-significand))
  | _, _, _ =>
      let fraction := t.fraction.getD []
      let (significand, ignored) := addDigits significand fraction
      let shift : Int := dropped.length - (fraction.length - ignored.length : Nat)
      let exponent : Int :=
        match t.exponent with
        | none => shift
        | some (negative, digits) =>
            let n : Int := Nat.ofDigitChars 10 digits 0
            if negative then shift - n else shift + n
      (scale significand exponent).map fun x => .float (if t.negative then x.neg else x)

/-! ## Values -/

/-- Containers may be nested this deep. -/
def depthLimit : Nat := 127

/-- A container within `depth` others: readable only if that is not too deep. -/
def atDepth (depth : Nat) (s : Source) : Source :=
  if depth < depthLimit then s else if s.complete then .unreadable else .broken

/-- Takes a word off the text. -/
def stripWord : List Char → List Char → Option (List Char)
  | [], cs => some cs
  | w :: ws, c :: cs => if w = c then stripWord ws cs else none
  | _ :: _, [] => none

/-- What comes after an item of an array or an object. -/
inductive Next where
  | more (rest : List Char)
  | stop (rest : List Char)
  | cut
deriving Repr

/-- Looks for a comma that is followed by something other than the closing bracket, or for the
closing bracket. -/
def nextItem (close : Char) (cs : List Char) : Next :=
  match skipBlanks cs with
  | ',' :: rest =>
    match skipBlanks rest with
    | [] => .cut
    | c :: more => if c = close then .cut else .more (c :: more)
  | c :: rest => if c = close then .stop rest else .cut
  | [] => .cut

mutual

/-- The value at the start of a text, and the text behind it. -/
def readValue : Nat → Nat → List Char → Source × List Char
  | 0, _, _ => (.broken, [])
  | fuel + 1, depth, cs =>
    match skipBlanks cs with
    | [] => (.broken, [])
    | c :: rest =>
      if c = 'n' then
        match stripWord ['u', 'l', 'l'] rest with
        | some rest => (.null, rest)
        | none => (.broken, [])
      else if c = 't' then
        match stripWord ['r', 'u', 'e'] rest with
        | some rest => (.bool true, rest)
        | none => (.broken, [])
      else if c = 'f' then
        match stripWord ['a', 'l', 's', 'e'] rest with
        | some rest => (.bool false, rest)
        | none => (.broken, [])
      else if c = '"' then
        match readString? rest with
        | some (some text, rest) => (.str text, rest)
        | some (none, rest) => (.unreadable, rest)
        | none => (.broken, [])
      else if c = '[' then
        match skipBlanks rest with
        | ']' :: rest => (atDepth depth (.arr [] .closed), rest)
        | rest =>
          let (items, ending, rest) := readItems fuel (depth + 1) rest
          (atDepth depth (.arr items ending), rest)
      else if c = '{' then
        match skipBlanks rest with
        | '}' :: rest => (atDepth depth (.obj [] .closed), rest)
        | rest =>
          let (members, ending, rest) := readMembers fuel (depth + 1) rest
          (atDepth depth (.obj members ending), rest)
      else if c = '-' ∨ c.isDigit then
        match readNumber? (c :: rest) with
        | some (text, rest) =>
          match text.value? with
          | some n => (.num n, rest)
          | none => (.unreadable, rest)
        | none => (.broken, [])
      else (.broken, [])

/-- The items of an array, of which there is at least one. -/
def readItems : Nat → Nat → List Char → List Source × Ending × List Char
  | 0, _, _ => ([], .cut, [])
  | fuel + 1, depth, cs =>
    let (item, rest) := readValue fuel depth cs
    if !item.complete then ([item], .cut, [])
    else
      match nextItem ']' rest with
      | .more rest =>
        let (items, ending, rest) := readItems fuel depth rest
        (item :: items, ending, rest)
      | .stop rest => ([item], .closed, rest)
      | .cut => ([item], .cut, [])

/-- The members of an object, of which there is at least one. -/
def readMembers : Nat → Nat → List Char → List (Option String × Source) × Ending × List Char
  | 0, _, _ => ([], .cut, [])
  | fuel + 1, depth, cs =>
    match cs with
    | '"' :: rest =>
      match readString? rest with
      | none => ([], .cut, [])
      | some (key, rest) =>
        match skipBlanks rest with
        | ':' :: rest =>
          let (value, rest) := readValue fuel depth rest
          if !value.complete then ([(key, value)], .cut, [])
          else
            match nextItem '}' rest with
            | .more rest =>
              let (members, ending, rest) := readMembers fuel depth rest
              ((key, value) :: members, ending, rest)
            | .stop rest => ([(key, value)], .closed, rest)
            | .cut => ([(key, value)], .cut, [])
        | _ => ([(key, .broken)], .cut, [])
    | _ => ([], .cut, [])

end

/-- The value at the start of a text, and the text behind it. -/
def read (text : String) : Source × List Char :=
  readValue (2 * text.toList.length + 2) 0 text.toList

/-- Is there nothing but blanks left? -/
def onlyBlanks (rest : List Char) : Bool := (skipBlanks rest).isEmpty

/-- The value that a text writes, if it is JSON as a whole. -/
def parse? (text : String) : Option Json :=
  let (source, rest) := read text
  if onlyBlanks rest then source.toJson? else none

end VlanBinding.Json
