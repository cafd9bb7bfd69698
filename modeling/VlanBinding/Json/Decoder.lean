import VlanBinding.Decimal.Shortest
import VlanBinding.Json.Reader
import VlanBinding.Schema.Record
import VlanBinding.Text.Quoted

/-!
Decoders from JSON into plain values and records. A decoder meets the source in the order of the
document and reports the first thing that is wrong with it.
-/

namespace VlanBinding.Json

open VlanBinding.Schema VlanBinding.Text

/-- Why JSON does not give the value that is wanted. -/
inductive DecodeError where
  /-- the text is no JSON -/
  | notJson
  | data (problem : Problem)
deriving DecidableEq, Repr

abbrev Decoder (α : Type) := Source → Except DecodeError α

/-- What a source is called where something else is wanted. -/
def Source.found? : Source → Option Found
  | null => some .null
  | bool b => some (.bool b)
  | num (.int i) => some (.int i)
  | num (.float x) => some (.float (String.ofList x.toScientific))
  | str s => some (.str (showText s))
  | arr _ _ => some .sequence
  | obj _ _ => some .map
  | unreadable => none
  | broken => none

/-- The error of a source that is not of the wanted kind. -/
def Source.mismatch (s : Source) (wanted : String) : DecodeError :=
  match s.found? with
  | some found => .data (.wrongType found wanted)
  | none => .notJson

namespace Decoder

def string : Decoder String
  | .str s => .ok s
  | s => .error (s.mismatch "a string")

/-- A path, which is a string under another name. -/
def path : Decoder String
  | .str s => .ok s
  | s => .error (s.mismatch "path string")

def bool : Decoder Bool
  | .bool b => .ok b
  | s => .error (s.mismatch "a boolean")

def uint16 : Decoder UInt16
  | .num (.int i) =>
      if 0 ≤ i ∧ i < UInt16.size then .ok (UInt16.ofNat i.toNat)
      else .error (.data (.wrongValue (.int i) "u16"))
  | s => .error (s.mismatch "u16")

def int64 : Decoder Int64
  | .num (.int i) =>
      if Int64.minValue.toInt ≤ i ∧ i ≤ Int64.maxValue.toInt then .ok (Int64.ofInt i)
      else .error (.data (.wrongValue (.int i) "i64"))
  | s => .error (s.mismatch "i64")

/-- Any value. -/
def value : Decoder Json := fun s =>
  match s.toJson? with
  | some v => .ok v
  | none => .error .notJson

/-- Null is the absence of a value. -/
def nullable {α : Type} (d : Decoder α) : Decoder (Option α)
  | .null => .ok none
  | s => (d s).map some

end Decoder

/-- Whether items end as they should. -/
def Ending.check : Ending → Except DecodeError Unit
  | .cut => .error .notJson
  | _ => .ok ()

namespace Decoder

/-- The items of an array in order. -/
def items {α : Type} (d : Decoder α) : List Source → Except DecodeError (List α)
  | [] => .ok []
  | s :: rest =>
    match d s with
    | .error e => .error e
    | .ok v => (items d rest).map (v :: ·)

def list {α : Type} (d : Decoder α) : Decoder (List α)
  | .arr sources ending =>
    match items d sources with
    | .error e => .error e
    | .ok values => ending.check.map fun () => values
  | s => .error (s.mismatch "a sequence")

/-- A value under an unknown key is passed over, if it is JSON. -/
def skip (s : Source) : Except DecodeError Unit :=
  if s.complete then .ok () else .error .notJson

/-- A member with its key, if that can be read. -/
def keyed : Option String × Source → Except DecodeError String × Source
  | (some key, value) => (.ok key, value)
  | (none, value) => (.error .notJson, value)

/-- A record, from an object or from the array of its fields. -/
def record {R : Type} (r : Record Source DecodeError R) : Decoder R
  | .obj members ending =>
      r.ofMembers .data skip (members.map keyed) ending.check
  | .arr sources ending =>
      let tooMany :=
        match ending with
        | .whole => .data (.wrongLength sources.length "fewer elements in array")
        | _ => .notJson
      r.ofItems .data sources ending.check tooMany
  | s => .error (s.mismatch r.wanted)

end Decoder

/-! ## Fields -/

/-- A record that is read from JSON. -/
abbrev JsonRecord (R : Type) := Record Source DecodeError R

/-- A field that must be there. -/
def required {α R : Type} (key : String) (d : Decoder α) (put : α → R → R) :
    Field Source DecodeError R :=
  .required key d put

/-- A field that keeps its default when it is left out. -/
def defaulted {α R : Type} (key : String) (d : Decoder α) (put : α → R → R) :
    Field Source DecodeError R :=
  .defaulted key d put

/-- A field that may be left out or null. -/
def optional {α R : Type} (key : String) (d : Decoder α) (put : Option α → R → R) :
    Field Source DecodeError R :=
  .defaulted key d.nullable put

/-- A field that may be null and that an object, but not an array, may leave out. -/
def placed {α R : Type} (key : String) (d : Decoder α) (put : Option α → R → R) :
    Field Source DecodeError R :=
  .placed key d.nullable put

/-! ## Whole documents -/

/-- Decodes a text that is one JSON value and nothing else. -/
def decodeText {α : Type} (d : Decoder α) (text : String) : Except DecodeError α :=
  let (source, rest) := read text
  match d source with
  | .error e => .error e
  | .ok value => if onlyBlanks rest then .ok value else .error .notJson

/-- Decodes the value at the start of a text, whatever comes behind it. -/
def decodeHead {α : Type} (d : Decoder α) (text : String) : Except DecodeError α :=
  d (read text).1

/-- Decodes a value that is known as a whole. -/
def decodeValue {α : Type} (d : Decoder α) (value : Json) : Except DecodeError α :=
  d (Source.ofJson value)

/-! ## Members of written objects -/

/-- A member that is left out when there is no value. -/
def optionalMember {α : Type} (key : String) (write : α → Json) :
    Option α → List (String × Json)
  | none => []
  | some v => [(key, write v)]

/-- A member that is null when there is no value. -/
def nullableMember {α : Type} (key : String) (write : α → Json) (v : Option α) :
    String × Json :=
  (key, (v.map write).getD .null)

end VlanBinding.Json
