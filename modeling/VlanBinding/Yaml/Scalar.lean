import VlanBinding.Text.Hex
import VlanBinding.Yaml.Cursor

/-!
Scalars as they stand in a YAML text: plain ones, quoted ones, and blocks of lines. Reading gives
the text that a scalar stands for and the place behind it, or nothing if it is malformed.
-/

namespace VlanBinding.Yaml

open VlanBinding.Text

/-! ## Folding

Between two words of a scalar there are blanks, or line breaks with blanks around them. A single
break is folded into a space, and of several the first one is dropped. -/

/-- What lies between two words. -/
inductive Gap where
  | blanks (text : List Char)
  /-- line breaks, at least one -/
  | folded (breaks : Nat)
  /-- an escaped line break, and further ones -/
  | joined (breaks : Nat)
deriving DecidableEq, Repr

/-- What the gap stands for. -/
def Gap.text : Gap → List Char
  | blanks text => text
  | folded 1 => [' ']
  | folded breaks => List.replicate (breaks - 1) '\n'
  | joined breaks => List.replicate breaks '\n'

/-- Has the gap a line break in it? -/
def Gap.hasBreak : Gap → Bool
  | blanks _ => false
  | _ => true

def Gap.addBlank (x : Char) : Gap → Gap
  | blanks text => blanks (text ++ [x])
  | gap => gap

def Gap.addBreak : Gap → Gap
  | blanks _ => folded 1
  | folded breaks => folded (breaks + 1)
  | joined breaks => joined (breaks + 1)

/-- Reads the rest of a gap. After a line break a tab left of `indent` is refused. -/
def readGap? : Nat → Int → Gap → Cursor → Option (Gap × Cursor)
  | 0, _, gap, c => some (gap, c)
  | fuel + 1, indent, gap, c =>
    match c.rest with
    | x :: _ =>
      if isSpace x then
        if gap.hasBreak && (c.column : Int) < indent && x == '\t' then none
        else readGap? fuel indent (gap.addBlank x) c.advance
      else if isBreak x then readGap? fuel indent gap.addBreak c.skipBreak
      else some (gap, c)
    | [] => some (gap, c)

/-! ## Plain scalars -/

/-- The characters up to a blank, a line break or an indicator that ends a plain scalar. -/
def plainRun (inFlow : Bool) : List Char → List Char
  | [] => []
  | x :: rest =>
    if isSpace x || isBreak x then []
    else if x == ':' && (endsWord rest || (inFlow && rest.head?.any isFlowIndicator)) then []
    else if inFlow && isFlowIndicator x then []
    else x :: plainRun inFlow rest

/-- A plain scalar as read so far: its text, the gap behind it, and the place behind that. -/
structure PlainState where
  text : List Char
  gap : Gap
  cursor : Cursor

/-- Reads words and gaps until something ends the scalar. -/
def readPlain? (inFlow : Bool) (indent : Int) : Nat → PlainState → Option PlainState
  | 0, s => some s
  | fuel + 1, s =>
    if s.cursor.atDocumentMarker || s.cursor.rest.head? == some '#' then some s
    else
      let run := plainRun inFlow s.cursor.rest
      let s : PlainState :=
        if run.isEmpty then s
        else ⟨s.text ++ s.gap.text ++ run, .blanks [], s.cursor.advanceBy run.length⟩
      match s.cursor.rest with
      | [] => some s
      | x :: _ =>
        if !(isSpace x || isBreak x) then some s
        else
          match readGap? (s.cursor.rest.length + 1) indent s.gap s.cursor with
          | none => none
          | some (gap, cursor) =>
            if !inFlow && (cursor.column : Int) < indent then some ⟨s.text, gap, cursor⟩
            else readPlain? inFlow indent fuel ⟨s.text, gap, cursor⟩

/-! ## Quoted scalars -/

/-- The character of a simple escape in double quotes. -/
def simpleEscape? : Char → Option Char
  | '0' => some '\x00'
  | 'a' => some '\x07'
  | 'b' => some '\x08'
  | 't' => some '\t'
  | '\t' => some '\t'
  | 'n' => some '\n'
  | 'v' => some '\x0b'
  | 'f' => some '\x0c'
  | 'r' => some '\r'
  | 'e' => some '\x1b'
  | ' ' => some ' '
  | '"' => some '"'
  | '\'' => some '\''
  | '\\' => some '\\'
  | 'N' => some '\u0085'
  | '_' => some '\u00a0'
  | 'L' => some '\u2028'
  | 'P' => some '\u2029'
  | _ => none

/-- How many hexadecimal digits follow an escape. -/
def escapeWidth? : Char → Option Nat
  | 'x' => some 2
  | 'u' => some 4
  | 'U' => some 8
  | _ => none

/-- A number as a character, unless it is half of a pair or too large. -/
def charOfNumber? (n : Nat) : Option Char :=
  if n.isValidChar then some (Char.ofNat n) else none

/-- The character of an escape, and how many characters it takes, the backslash included. -/
def readEscape? : List Char → Option (Char × Nat)
  | [] => none
  | x :: rest =>
    match escapeWidth? x with
    | none => (simpleEscape? x).map (·, 2)
    | some width =>
      let digits := rest.take width
      if digits.length < width then none
      else do
        let n ← hexNumber? digits
        let char ← charOfNumber? n
        return (char, 2 + width)

/-- A quoted scalar as read so far. -/
structure QuotedState where
  text : List Char
  cursor : Cursor

/-- Reads up to a blank, a line break or the closing quote. Tells whether it stopped behind an
escaped line break. -/
def quotedRun? (single : Bool) : Nat → QuotedState → Option (QuotedState × Bool)
  | 0, s => some (s, false)
  | fuel + 1, s =>
    match s.cursor.rest with
    | [] => some (s, false)
    | x :: rest =>
      if isSpace x || isBreak x then some (s, false)
      else if single then
        if x = '\'' then
          if rest.head? = some '\'' then
            quotedRun? single fuel ⟨s.text ++ ['\''], s.cursor.advanceBy 2⟩
          else some (s, false)
        else quotedRun? single fuel ⟨s.text ++ [x], s.cursor.advance⟩
      else if x = '"' then some (s, false)
      else if x = '\\' then
        if rest.head?.any isBreak then some (⟨s.text, s.cursor.advance.skipBreak⟩, true)
        else
          match readEscape? rest with
          | none => none
          | some (char, width) =>
            quotedRun? single fuel ⟨s.text ++ [char], s.cursor.advanceBy width⟩
      else quotedRun? single fuel ⟨s.text ++ [x], s.cursor.advance⟩

/-- Reads words and gaps up to the closing quote. A document must not start or end inside. -/
def readQuoted? (single : Bool) : Nat → QuotedState → Option QuotedState
  | 0, _ => none
  | fuel + 1, s =>
    if s.cursor.atDocumentMarker || s.cursor.rest.isEmpty then none
    else
      match quotedRun? single (s.cursor.rest.length + 1) s with
      | none => none
      | some (s, escaped) =>
        if s.cursor.rest.head? = some (if single then '\'' else '"') then
          some ⟨s.text, s.cursor.advance⟩
        else
          let gap := if escaped then Gap.joined 0 else .blanks []
          match readGap? (s.cursor.rest.length + 1) 0 gap s.cursor with
          | none => none
          | some (gap, cursor) => readQuoted? single fuel ⟨s.text ++ gap.text, cursor⟩

/-! ## Blocks of lines -/

/-- What becomes of the line breaks at the end of a block. -/
inductive Chomping where
  | strip
  | clip
  | keep
deriving DecidableEq, Repr

/-- The header of a block: chomping and indentation, in either order. -/
def readHeader? (c : Cursor) : Option (Chomping × Nat × Cursor) :=
  let chomping (x : Char) : Option Chomping :=
    if x = '+' then some .keep else if x = '-' then some .strip else none
  let increment (x : Char) : Nat := x.toNat - 48
  match c.rest with
  | x :: rest =>
    match chomping x with
    | some how =>
      match rest with
      | y :: _ =>
        if y.isDigit then
          if y = '0' then none else some (how, increment y, c.advanceBy 2)
        else some (how, 0, c.advance)
      | [] => some (how, 0, c.advance)
    | none =>
      if x.isDigit then
        if x = '0' then none
        else
          match rest.head?.bind chomping with
          | some how => some (how, increment x, c.advanceBy 2)
          | none => some (.clip, increment x, c.advance)
      else some (.clip, 0, c)
  | [] => some (.clip, 0, c)

/-- Reads indentation and line breaks in front of a line of a block. With an indentation of zero
it is still to be found out: `widest` is the greatest one met. -/
def readIndent? : Nat → Nat → Nat → Nat → Cursor → Option (Nat × Nat × Cursor)
  | 0, _, widest, breaks, c => some (widest, breaks, c)
  | fuel + 1, indent, widest, breaks, c =>
    let room := if indent = 0 then c.rest.length else indent - c.column
    let spaces := ((c.rest.take room).takeWhile (· == ' ')).length
    let c := c.advanceBy spaces
    let widest := max widest c.column
    match c.rest with
    | x :: _ =>
      if (indent = 0 ∨ c.column < indent) ∧ x = '\t' then none
      else if isBreak x then readIndent? fuel indent widest (breaks + 1) c.skipBreak
      else some (widest, breaks, c)
    | [] => some (widest, breaks, c)

/-- The text of a block as read so far. -/
structure BlockState where
  text : List Char
  /-- whether the last line has a break, not yet taken into the text -/
  pendingBreak : Bool
  /-- the breaks of empty lines behind it -/
  emptyLines : Nat
  /-- whether the last line starts with a blank -/
  indented : Bool
  cursor : Cursor

def breakText (present : Bool) : List Char := if present then ['\n'] else []

/-- Reads the lines of a block. In a folded one a break between two lines that start with no
blank becomes a space. -/
def readLines? (literal : Bool) (indent : Nat) : Nat → BlockState → Option BlockState
  | 0, s => some s
  | fuel + 1, s =>
    match s.cursor.rest with
    | [] => some s
    | x :: _ =>
      if s.cursor.column ≠ indent then some s
      else
        let indented := isSpace x
        let joint :=
          if !literal && s.pendingBreak && !s.indented && !indented then
            if s.emptyLines = 0 then [' '] else []
          else breakText s.pendingBreak
        let (line, cursor) := s.cursor.spanWhile (!isBreak ·)
        let text := s.text ++ joint ++ List.replicate s.emptyLines '\n' ++ line
        if cursor.rest.isEmpty then some ⟨text, false, 0, indented, cursor⟩
        else
          match readIndent? (cursor.rest.length + 1) indent 0 0 cursor.skipBreak with
          | none => none
          | some (_, emptyLines, cursor) =>
            readLines? literal indent fuel ⟨text, true, emptyLines, indented, cursor⟩

/-- A block behind its indicator, in a collection indented by `parent`. -/
def readBlock? (literal : Bool) (parent : Int) (c : Cursor) : Option (List Char × Cursor) := do
  let (chomping, increment, c) ← readHeader? c
  let c := c.skipWhile isSpace
  let c := if c.rest.head? = some '#' then c.skipLine else c
  if !endsLine c.rest then none
  let c := c.skipBreak
  let given := if increment = 0 then 0 else if 0 ≤ parent then (parent + increment).toNat
    else increment
  let (widest, emptyLines, c) ← readIndent? (c.rest.length + 1) given 0 0 c
  let indent := if given = 0 then max (max widest (parent + 1).toNat) 1 else given
  let s ← readLines? literal indent (c.rest.length + 1) ⟨[], false, emptyLines, false, c⟩
  let tail :=
    match chomping with
    | .strip => []
    | .clip => breakText s.pendingBreak
    | .keep => breakText s.pendingBreak ++ List.replicate s.emptyLines '\n'
  return (s.text ++ tail, s.cursor)

end VlanBinding.Yaml
