/-!
A place in a YAML text: the text from there on, and where the place is. Line feeds end lines; a
carriage return in front of one belongs to it, and on its own it is a line break that starts no
new line.
-/

namespace VlanBinding.Yaml

def isBreak (c : Char) : Bool := c == '\n' || c == '\r'

def isSpace (c : Char) : Bool := c == ' ' || c == '\t'

/-- A blank, a line break, or the end of the text. -/
def endsWord : List Char → Bool
  | [] => true
  | c :: _ => isSpace c || isBreak c

/-- A line break or the end of the text. -/
def endsLine : List Char → Bool
  | [] => true
  | c :: _ => isBreak c

/-- The characters of names of anchors, tags and directives. -/
def isNameChar (c : Char) : Bool := c.isAlphanum || c == '_' || c == '-'

/-- The characters that structure a flow collection. -/
def isFlowIndicator (c : Char) : Bool :=
  c == ',' || c == '[' || c == ']' || c == '{' || c == '}'

structure Cursor where
  rest : List Char
  index : Nat
  line : Nat
  column : Nat
deriving DecidableEq, Repr, Inhabited

namespace Cursor

/-- The start of a text. A text ends at its first null character. -/
def start (text : String) : Cursor := ⟨text.toList.takeWhile (· ≠ '\x00'), 0, 0, 0⟩

/-- Moves over one character. -/
def advance (c : Cursor) : Cursor :=
  match c.rest with
  | [] => c
  | x :: rest =>
    if x = '\n' then ⟨rest, c.index + 1, c.line + 1, 0⟩
    else ⟨rest, c.index + 1, c.line, c.column + 1⟩

/-- Moves over so many characters. -/
def advanceBy : Nat → Cursor → Cursor
  | 0, c => c
  | n + 1, c => advanceBy n c.advance

/-- Moves over the characters of a kind. -/
def skipWhile (kind : Char → Bool) (c : Cursor) : Cursor :=
  advanceBy (c.rest.takeWhile kind).length c

/-- The characters of a kind, and the place behind them. -/
def spanWhile (kind : Char → Bool) (c : Cursor) : List Char × Cursor :=
  (c.rest.takeWhile kind, c.skipWhile kind)

/-- Moves over one line break. -/
def skipBreak (c : Cursor) : Cursor :=
  match c.rest with
  | '\r' :: '\n' :: _ => c.advance.advance
  | x :: _ => if isBreak x then c.advance else c
  | [] => c

/-- Moves to the end of the line. -/
def skipLine (c : Cursor) : Cursor := c.skipWhile (!isBreak ·)

/-- Does the text go on with three of a character that stand alone at the start of a line? -/
def atMarker (c : Cursor) (x : Char) : Bool :=
  match c.column, c.rest with
  | 0, a :: b :: d :: rest => a == x && b == x && d == x && endsWord rest
  | _, _ => false

/-- Is there the start or the end of a document? -/
def atDocumentMarker (c : Cursor) : Bool := c.atMarker '-' || c.atMarker '.'

end Cursor

end VlanBinding.Yaml
