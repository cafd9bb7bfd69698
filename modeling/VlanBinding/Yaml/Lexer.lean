import VlanBinding.Yaml.Name
import VlanBinding.Yaml.Scalar

/-!
From YAML text to tokens. A token that may turn out to be a key is remembered; when a colon follows
it on its line, the tokens that make it one are put in front of it.
-/

namespace VlanBinding.Yaml

/-- A token that is a key if a colon follows. -/
structure PossibleKey where
  /-- how many tokens are in front of it -/
  position : Nat
  index : Nat
  line : Nat
  column : Nat
  /-- whether it can be nothing but a key -/
  required : Bool
deriving DecidableEq, Repr, Inhabited

structure Lexer where
  cursor : Cursor
  /-- the tokens so far, the last one first -/
  tokens : List Token
  /-- the possible key of each open flow collection, the innermost first, and of the block -/
  keys : List (Option PossibleKey)
  keyAllowed : Bool
  /-- the column of the innermost block collection -/
  indent : Int
  /-- those of the collections around it -/
  indents : List Int
  flowLevel : Nat
  /-- where a value may follow without a blank, behind a quoted key -/
  adjacentAt : Nat
deriving Repr, Inhabited

namespace Lexer

/-- How deep flow collections may be nested. -/
def flowLimit : Nat := 255

/-- A possible key may be this long. -/
def keyLength : Nat := 1024

def start (text : String) : Lexer where
  cursor := .start text
  tokens := []
  keys := [none]
  keyAllowed := true
  indent := -1
  indents := []
  flowLevel := 0
  adjacentAt := 0

def inFlow (l : Lexer) : Bool := 0 < l.flowLevel

def emit (l : Lexer) (t : Token) : Lexer := { l with tokens := t :: l.tokens }

/-- Puts a token behind the first `position` ones. -/
def insert (l : Lexer) (position : Nat) (t : Token) : Lexer :=
  let behind := l.tokens.length - position
  { l with tokens := l.tokens.take behind ++ t :: l.tokens.drop behind }

/-- Moves over an indicator of so many characters and emits its token. -/
def take (l : Lexer) (width : Nat) (t : Token) : Lexer :=
  { l.emit t with cursor := l.cursor.advanceBy width }

/-! ## Possible keys -/

/-- Gives up the innermost possible key, unless it must be one. -/
def dropKey? (l : Lexer) : Option Lexer :=
  match l.keys with
  | some key :: rest => if key.required then none else some { l with keys := none :: rest }
  | _ => some l

/-- Remembers the token that comes next as a possible key. -/
def saveKey? (l : Lexer) : Option Lexer :=
  if l.keyAllowed then do
    let key : PossibleKey :=
      ⟨l.tokens.length, l.cursor.index, l.cursor.line, l.cursor.column,
        l.inFlow && l.indent == l.cursor.column⟩
    let l ← l.dropKey?
    return { l with keys := some key :: l.keys.drop 1 }
  else some l

/-- Gives up the possible keys that are too far behind or on a line before. -/
def staleKeys? (l : Lexer) : Option Lexer := do
  let keys ← l.keys.mapM fun key? =>
    match key? with
    | some key =>
      if key.line < l.cursor.line || key.index + keyLength < l.cursor.index then
        if key.required then none else some none
      else some (some key)
    | none => some none
  return { l with keys }

/-! ## Indentation -/

/-- Opens a block collection at a column, if that is further in; its start goes to a position or
to the end. -/
def openBlock (l : Lexer) (column : Nat) (position : Option Nat) (t : Token) : Lexer :=
  if l.inFlow || (column : Int) ≤ l.indent then l
  else
    let l := { l with indents := l.indent :: l.indents, indent := column }
    match position with
    | some n => l.insert n t
    | none => l.emit t

/-- Closes block collections from the innermost one on. -/
def closeBlocks : List Int → Int → Lexer → Lexer
  | [], _, l => l
  | outer :: rest, column, l =>
    if column < l.indent then
      closeBlocks rest column { l.emit .blockEnd with indent := outer, indents := rest }
    else l

/-- Closes the block collections that are further in than a column. -/
def closeTo (l : Lexer) (column : Int) : Lexer :=
  if l.inFlow then l else closeBlocks l.indents column l

/-! ## Between tokens -/

/-- Moves over blanks, comments and line breaks. A tab is no indentation; a new line of a block
may start with a key. -/
def skipBlanks : Nat → Lexer → Lexer
  | 0, l => l
  | fuel + 1, l =>
    match l.cursor.rest with
    | x :: _ =>
      if x = ' ' ∨ (x = '\t' ∧ (l.inFlow || !l.keyAllowed)) then
        skipBlanks fuel { l with cursor := l.cursor.advance }
      else if isBreak x then
        skipBlanks fuel
          { l with cursor := l.cursor.skipBreak, keyAllowed := l.keyAllowed || !l.inFlow }
      else if x = '#' then skipBlanks fuel { l with cursor := l.cursor.skipLine }
      else l
    | [] => l

/-! ## Tokens -/

def forbidKey (l : Lexer) : Lexer := { l with keyAllowed := false }

def allowKey (l : Lexer) : Lexer := { l with keyAllowed := true }

def directive? (l : Lexer) : Option Lexer := do
  let l ← (l.closeTo (-1)).dropKey?
  let cursor ← readDirective? l.cursor
  return { l.forbidKey.emit .directive with cursor }

def documentMarker? (l : Lexer) (t : Token) : Option Lexer := do
  let l ← (l.closeTo (-1)).dropKey?
  return l.forbidKey.take 3 t

def flowStart? (l : Lexer) (t : Token) : Option Lexer := do
  let l ← l.saveKey?
  if l.flowLevel = flowLimit then none
  let l := { l with keys := none :: l.keys, flowLevel := l.flowLevel + 1 }
  return l.allowKey.take 1 t

def flowEnd? (l : Lexer) (t : Token) : Option Lexer := do
  let l ← l.dropKey?
  let l :=
    if l.inFlow then { l with keys := l.keys.drop 1, flowLevel := l.flowLevel - 1 } else l
  return l.forbidKey.take 1 t

def flowEntry? (l : Lexer) : Option Lexer := do
  let l ← l.dropKey?
  return l.allowKey.take 1 .flowEntry

def blockEntry? (l : Lexer) : Option Lexer := do
  if l.inFlow || !l.keyAllowed then none
  let l ← (l.openBlock l.cursor.column none .blockSequenceStart).dropKey?
  return l.allowKey.take 1 .blockEntry

def key? (l : Lexer) : Option Lexer := do
  if !l.inFlow && !l.keyAllowed then none
  let l ← (l.openBlock l.cursor.column none .blockMappingStart).dropKey?
  return { l with keyAllowed := !l.inFlow }.take 1 .key

def value? (l : Lexer) : Option Lexer :=
  match l.keys with
  | some key :: rest =>
    let l := l.insert key.position .key
    let l := l.openBlock key.column (some key.position) .blockMappingStart
    some ({ l with keys := none :: rest, keyAllowed := false }.take 1 .value)
  | _ =>
    if !l.inFlow && !l.keyAllowed then none
    else
      let l := l.openBlock l.cursor.column none .blockMappingStart
      some ({ l with keyAllowed := !l.inFlow }.take 1 .value)

def anchor? (l : Lexer) (isAlias : Bool) : Option Lexer := do
  let l ← l.saveKey?
  let (name, cursor) ← readAnchor? l.cursor
  return { l.forbidKey.emit (if isAlias then .aliasOf name else .anchor name) with cursor }

def tag? (l : Lexer) : Option Lexer := do
  let l ← l.saveKey?
  let (tag, cursor) ← readTag? l.cursor
  return { l.forbidKey.emit (.tag tag) with cursor }

def block? (l : Lexer) (literal : Bool) : Option Lexer := do
  let l ← l.saveKey?
  let (text, cursor) ← readBlock? literal l.indent l.cursor.advance
  return { l.allowKey.emit (.scalar (String.ofList text) false) with cursor }

def quoted? (l : Lexer) (single : Bool) : Option Lexer := do
  let l ← l.saveKey?
  let c := l.cursor.advance
  let s ← readQuoted? single (c.rest.length + 1) ⟨[], c⟩
  let l := l.forbidKey.emit (.scalar (String.ofList s.text) false)
  return { l with cursor := s.cursor, adjacentAt := s.cursor.index }

def plain? (l : Lexer) : Option Lexer := do
  let l ← l.saveKey?
  let s ← readPlain? l.inFlow (l.indent + 1) (l.cursor.rest.length + 1)
    ⟨[], .blanks [], l.cursor⟩
  let l := l.emit (.scalar (String.ofList s.text) true)
  return { l with cursor := s.cursor, keyAllowed := s.gap.hasBreak }

/-- The token that starts with a character. -/
def token? (l : Lexer) (x : Char) (rest : List Char) : Option Lexer :=
  let alone := endsWord rest
  if x = '[' then l.flowStart? .flowSequenceStart
  else if x = '{' then l.flowStart? .flowMappingStart
  else if x = ']' then l.flowEnd? .flowSequenceEnd
  else if x = '}' then l.flowEnd? .flowMappingEnd
  else if x = ',' then l.flowEntry?
  else if x = '-' && alone then l.blockEntry?
  else if x = '?' && alone then l.key?
  else if x = ':' && (alone || (l.inFlow &&
      (rest.head?.any isFlowIndicator || l.cursor.index == l.adjacentAt))) then l.value?
  else if x = '*' then l.anchor? true
  else if x = '&' then l.anchor? false
  else if x = '!' then l.tag?
  else if x = '|' && !l.inFlow then l.block? true
  else if x = '>' && !l.inFlow then l.block? false
  else if x = '\'' then l.quoted? true
  else if x = '"' then l.quoted? false
  else if x = '%' || x = '@' || x = '\x60' then none
  else l.plain?

/-- Reads one more token, or finds the end of the text. -/
def step? (l : Lexer) : Option (Lexer × Bool) := do
  let l ← (skipBlanks (2 * l.cursor.rest.length + 2) l).staleKeys?
  let l := l.closeTo l.cursor.column
  match l.cursor.rest with
  | [] =>
    let l ← (l.closeTo (-1)).dropKey?
    return (l, true)
  | x :: rest =>
    let l ←
      if l.cursor.column = 0 ∧ x = '%' then l.directive?
      else if l.cursor.atMarker '-' then l.documentMarker? .documentStart
      else if l.cursor.atMarker '.' then l.documentMarker? .documentEnd
      else l.token? x rest
    return (l, false)

/-- Reads tokens up to the end of the text. -/
def run? : Nat → Lexer → Option Lexer
  | 0, _ => none
  | fuel + 1, l =>
    match l.step? with
    | none => none
    | some (l, true) => some l
    | some (l, false) => run? fuel l

end Lexer

/-- The tokens of a text, if it is well formed as far as they go. -/
def tokens? (text : String) : Option (List Token) :=
  let l := Lexer.start text
  (l.run? (2 * l.cursor.rest.length + 2)).map (·.tokens.reverse)

end VlanBinding.Yaml
