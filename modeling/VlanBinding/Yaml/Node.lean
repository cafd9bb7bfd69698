import VlanBinding.Yaml.Lexer

/-!
The documents of a YAML text as trees. An alias stays a leaf; what it stands for is looked up among
the anchored nodes, so that a node may hold an alias of itself.
-/

namespace VlanBinding.Yaml

inductive Node where
  | scalar (text : String) (plain : Bool) (tag : Option Tag)
  | sequence (items : List Node)
  | mapping (entries : List (Node × Node))
  /-- the node with an anchor of this number -/
  | aliasOf (number : Nat)
deriving Repr, Inhabited

/-- The node where nothing is written. -/
def Node.empty : Node := .scalar "~" true none

/-- The anchored nodes by number. -/
abbrev Anchors := List (Nat × Node)

/-- A node, or what it stands for if it is an alias. -/
def Node.resolve (anchors : Anchors) : Node → Node
  | .aliasOf n => (anchors.lookup n).getD .empty
  | node => node

/-- What is left of the tokens, and what is known of anchors. -/
structure ParseState where
  tokens : List Token
  /-- the number that a name stands for at this place -/
  names : List (String × Nat)
  /-- the number of the next anchor -/
  next : Nat
  anchors : Anchors
deriving Repr, Inhabited

namespace ParseState

def drop (s : ParseState) : ParseState := { s with tokens := s.tokens.drop 1 }

/-- Gives a name to the node that follows. -/
def register (s : ParseState) (name : String) : ParseState :=
  { s with names := (name, s.next) :: s.names, next := s.next + 1 }

/-- Stores a node under its anchor, if it has one. -/
def store (s : ParseState) (number : Option Nat) (node : Node) : ParseState :=
  match number with
  | none => s
  | some n => { s with anchors := (n, node) :: s.anchors }

/-- The anchor and the tag in front of a node, in either order. -/
def properties (s : ParseState) : Option Nat × Option Tag × ParseState :=
  match s.tokens with
  | .anchor name :: .tag tag :: _ => (some s.next, some tag, (s.register name).drop.drop)
  | .tag tag :: .anchor name :: _ => (some s.next, some tag, (s.register name).drop.drop)
  | .anchor name :: _ => (some s.next, none, (s.register name).drop)
  | .tag tag :: _ => (none, some tag, s.drop)
  | _ => (none, none, s)

/-- Is the next token one of these? -/
def nextIs (s : ParseState) (tokens : List Token) : Bool :=
  match s.tokens with
  | t :: _ => tokens.contains t
  | [] => false

end ParseState

open ParseState

mutual

/-- A node. `block` allows block collections, `indentless` a sequence that is not indented. -/
def parseNode? : Nat → Bool → Bool → ParseState → Option (Node × ParseState)
  | 0, _, _, _ => none
  | fuel + 1, block, indentless, s =>
    match s.tokens with
    | .aliasOf name :: _ => (s.names.lookup name).map fun n => (.aliasOf n, s.drop)
    | _ =>
      let (number, tag, s) := s.properties
      let finish (result : Option (Node × ParseState)) : Option (Node × ParseState) :=
        result.map fun (node, s) => (node, s.store number node)
      match s.tokens with
      | .blockEntry :: _ =>
        if indentless then finish (parseIndentless? fuel [] s)
        else if tag.isSome || number.isSome then finish (some (.scalar "" true tag, s))
        else none
      | .scalar text plain :: _ => finish (some (.scalar text plain tag, s.drop))
      | .flowSequenceStart :: _ => finish (parseFlowSequence? fuel true [] s.drop)
      | .flowMappingStart :: _ => finish (parseFlowMapping? fuel true [] s.drop)
      | .blockSequenceStart :: _ =>
        if block then finish (parseBlockSequence? fuel [] s.drop)
        else if tag.isSome || number.isSome then finish (some (.scalar "" true tag, s))
        else none
      | .blockMappingStart :: _ =>
        if block then finish (parseBlockMapping? fuel [] s.drop)
        else if tag.isSome || number.isSome then finish (some (.scalar "" true tag, s))
        else none
      | _ =>
        if tag.isSome || number.isSome then finish (some (.scalar "" true tag, s)) else none

/-- A node, unless one of these tokens shows that nothing is written. -/
def parseUnless? (fuel : Nat) (stop : List Token) (block indentless : Bool) (s : ParseState) :
    Option (Node × ParseState) :=
  match fuel with
  | 0 => none
  | fuel + 1 => if s.nextIs stop then some (.empty, s) else parseNode? fuel block indentless s

/-- The entries of a sequence that is not indented. -/
def parseIndentless? : Nat → List Node → ParseState → Option (Node × ParseState)
  | 0, _, _ => none
  | fuel + 1, items, s =>
    if s.nextIs [.blockEntry] then
      match parseUnless? fuel [.blockEntry, .key, .value, .blockEnd] true false s.drop with
      | none => none
      | some (item, s) => parseIndentless? fuel (item :: items) s
    else some (.sequence items.reverse, s)

/-- The entries of a block sequence. -/
def parseBlockSequence? : Nat → List Node → ParseState → Option (Node × ParseState)
  | 0, _, _ => none
  | fuel + 1, items, s =>
    if s.nextIs [.blockEnd] then some (.sequence items.reverse, s.drop)
    else if s.nextIs [.blockEntry] then
      match parseUnless? fuel [.blockEntry, .blockEnd] true false s.drop with
      | none => none
      | some (item, s) => parseBlockSequence? fuel (item :: items) s
    else none

/-- The entries of a block mapping. A key or a value may be missing. -/
def parseBlockMapping? : Nat → List (Node × Node) → ParseState → Option (Node × ParseState)
  | 0, _, _ => none
  | fuel + 1, entries, s =>
    let stop : List Token := [.key, .value, .blockEnd]
    if s.nextIs [.blockEnd] then some (.mapping entries.reverse, s.drop)
    else if s.nextIs [.key, .value] then
      let key? :=
        if s.nextIs [.key] then parseUnless? fuel stop true true s.drop else some (.empty, s)
      match key? with
      | none => none
      | some (key, s) =>
        let value? :=
          if s.nextIs [.value] then parseUnless? fuel stop true true s.drop else some (.empty, s)
        match value? with
        | none => none
        | some (value, s) => parseBlockMapping? fuel ((key, value) :: entries) s
    else none

/-- The entries of a flow sequence, with commas between them. An entry may be a mapping of a
single pair. -/
def parseFlowSequence? : Nat → Bool → List Node → ParseState → Option (Node × ParseState)
  | 0, _, _, _ => none
  | fuel + 1, first, items, s =>
    if s.nextIs [.flowSequenceEnd] then some (.sequence items.reverse, s.drop)
    else if !first && !s.nextIs [.flowEntry] then none
    else
      let s := if first then s else s.drop
      if s.nextIs [.flowSequenceEnd] then some (.sequence items.reverse, s.drop)
      else
        let item? :=
          if s.nextIs [.key] then parseFlowPair? fuel s.drop else parseNode? fuel false false s
        match item? with
        | none => none
        | some (item, s) => parseFlowSequence? fuel false (item :: items) s

/-- A mapping of a single pair. A token that shows the key to be missing belongs to it. -/
def parseFlowPair? : Nat → ParseState → Option (Node × ParseState)
  | 0, _ => none
  | fuel + 1, s =>
    let key? :=
      if s.nextIs [.value, .flowEntry, .flowSequenceEnd] then some (.empty, s.drop)
      else parseNode? fuel false false s
    match key? with
    | none => none
    | some (key, s) =>
      let value? :=
        if s.nextIs [.value] then
          parseUnless? fuel [.flowEntry, .flowSequenceEnd] false false s.drop
        else some (.empty, s)
      value?.map fun (value, s) => (.mapping [(key, value)], s)

/-- The entries of a flow mapping, with commas between them. -/
def parseFlowMapping? : Nat → Bool → List (Node × Node) → ParseState →
    Option (Node × ParseState)
  | 0, _, _, _ => none
  | fuel + 1, first, entries, s =>
    if s.nextIs [.flowMappingEnd] then some (.mapping entries.reverse, s.drop)
    else if !first && !s.nextIs [.flowEntry] then none
    else
      let s := if first then s else s.drop
      if s.nextIs [.flowMappingEnd] then some (.mapping entries.reverse, s.drop)
      else
        let key? :=
          if s.nextIs [.key] then
            parseUnless? fuel [.value, .flowEntry, .flowMappingEnd] false false s.drop
          else if s.nextIs [.value] then some (.empty, s)
          else parseNode? fuel false false s
        match key? with
        | none => none
        | some (key, after) =>
          let value? :=
            if (s.nextIs [.key, .value]) && after.nextIs [.value] then
              parseUnless? fuel [.flowEntry, .flowMappingEnd] false false after.drop
            else some (.empty, after)
          match value? with
          | none => none
          | some (value, s) => parseFlowMapping? fuel false ((key, value) :: entries) s

end

/-- The documents of a text. -/
structure Stream where
  documents : List Node
  anchors : Anchors
deriving Repr, Inhabited

def fuelFor (s : ParseState) : Nat := 3 * s.tokens.length + 3

def dropDirectives : List Token → List Token
  | .directive :: rest => dropDirectives rest
  | tokens => tokens

/-- A document behind its start marker; it may be empty. -/
def parseContent? (s : ParseState) : Option (Node × ParseState) :=
  match s.tokens with
  | [] => some (.empty, s)
  | .directive :: _ => some (.empty, s)
  | .documentStart :: _ => some (.empty, s)
  | .documentEnd :: _ => some (.empty, s)
  | _ => parseNode? (fuelFor s) true false s

/-- A document with directives and a start marker. -/
def parseExplicit? (s : ParseState) : Option (Node × ParseState) :=
  match dropDirectives s.tokens with
  | .documentStart :: rest => parseContent? { s with tokens := rest }
  | _ => none

/-- The documents after the first one. Names of anchors end with their document. -/
def parseMore? : Nat → ParseState → Option (List Node × Anchors)
  | 0, _ => none
  | fuel + 1, s =>
    let s := { s with tokens := s.tokens.dropWhile (· = Token.documentEnd), names := [] }
    match s.tokens with
    | [] => some ([], s.anchors)
    | _ =>
      match parseExplicit? s with
      | none => none
      | some (document, s) =>
        (parseMore? fuel s).map fun (documents, anchors) => (document :: documents, anchors)

/-- The documents of a token sequence. Only the first may do without a start marker. -/
def parseTokens? (tokens : List Token) : Option Stream :=
  let s : ParseState := ⟨tokens, [], 0, []⟩
  match tokens with
  | [] => some ⟨[], []⟩
  | first :: _ =>
    let document? :=
      if first = .directive ∨ first = .documentStart then parseExplicit? s
      else parseNode? (fuelFor s) true false s
    match document? with
    | none => none
    | some (document, s) =>
      (parseMore? (s.tokens.length + 1) s).map fun (documents, anchors) =>
        ⟨document :: documents, anchors⟩

/-- The documents of a text, or nothing if it is no YAML. -/
def parse? (text : String) : Option Stream := (tokens? text).bind parseTokens?

end VlanBinding.Yaml
