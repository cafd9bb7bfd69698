import VlanBinding.Decimal.Shortest
import VlanBinding.Schema.Problem
import VlanBinding.Text.Quoted
import VlanBinding.Yaml.Token

/-!
What an unquoted scalar is taken for where it is not wanted as a text: nothing, a truth value, a
number, or a text after all.
-/

namespace VlanBinding.Yaml

open VlanBinding.Decimal VlanBinding.Schema VlanBinding.Text

/-! ## Whole numbers -/

/-- The text behind a sign. -/
def stripSign (cs : List Char) : List Char :=
  match cs with
  | '+' :: rest => rest
  | '-' :: rest => rest
  | _ => cs

def isNegative (cs : List Char) : Bool := cs.head? == some '-'

/-- Digits with a zero in front of them, which are a text and no number. -/
def isPadded (cs : List Char) : Bool :=
  match stripSign cs with
  | '0' :: d :: rest => (d :: rest).all Char.isDigit
  | _ => false

/-- A digit of a base. -/
def digitOf? (base : Nat) (c : Char) : Option Nat :=
  (hexValue? c).filter (· < base)

/-- A natural number in a base, with at least one digit. -/
def natural? (base : Nat) (cs : List Char) : Option Nat :=
  if cs.isEmpty then none
  else cs.foldlM (fun n c => (digitOf? base c).map (base * n + ·)) 0

/-- The base that the letter after a zero gives. -/
def baseOf? : Char → Option Nat
  | 'x' => some 16
  | 'o' => some 8
  | 'b' => some 2
  | _ => none

/-- A number behind a base mark, if it has no more than 64 bits. One that is not negative may have
a plus sign both in front of the mark and behind it. -/
def based? (cs : List Char) : Option Int :=
  match stripSign cs with
  | '0' :: mark :: digits => do
    let base ← baseOf? mark
    if isNegative cs then
      let n ← natural? base digits
      if n ≤ twoTo 63 then some (-(n : Int)) else none
    else
      let n ← natural? base (if digits.head? = some '+' then digits.drop 1 else digits)
      if n < twoTo 64 then some n else none
  | _ => none

/-- A number in decimal digits, with or without a sign. -/
def whole? (cs : List Char) : Option Int :=
  (natural? 10 (stripSign cs)).map fun n => if isNegative cs then -(n : Int) else n

/-- An integer as it is found, by the bits that it needs: 64, 128, or too many. -/
def foundInt? (i : Int) : Option Found :=
  if -twoTo 63 ≤ i ∧ i < twoTo 64 then some (.int i)
  else if 0 ≤ i then if i < twoTo 128 then some (.wideInt i "u128") else none
  else if -twoTo 127 ≤ i then some (.wideInt i "i128") else none

/-! ## Floating point numbers -/

/-- The parts of a decimal number: significand and exponent. There is at least one digit before
the exponent, and an exponent has at least one. -/
def decimalParts? (cs : List Char) : Option (Nat × Int) :=
  let whole := cs.takeWhile Char.isDigit
  let rest := cs.dropWhile Char.isDigit
  let (fraction, rest) : List Char × List Char :=
    match rest with
    | '.' :: more => (more.takeWhile Char.isDigit, more.dropWhile Char.isDigit)
    | _ => ([], rest)
  if whole.isEmpty && fraction.isEmpty then none
  else
    let significand := Nat.ofDigitChars 10 (whole ++ fraction) 0
    match rest with
    | [] => some (significand, -(fraction.length : Int))
    | e :: more =>
      if e ≠ 'e' ∧ e ≠ 'E' then none
      else
        let digits := stripSign more
        if digits.isEmpty || !digits.all Char.isDigit then none
        else
          let n : Int := Nat.ofDigitChars 10 digits 0
          let n := if isNegative more then -n else n
          some (significand, n - fraction.length)

/-- Is the text a number in decimal notation, with or without a sign? -/
def isDecimal (cs : List Char) : Bool := (decimalParts? (stripSign cs)).isSome

/-- A decimal number as the binary number next to it, if that is finite. An exponent beyond any
use is cut. -/
def decimal? (cs : List Char) : Option Binary64 := do
  let (significand, exponent) ← decimalParts? (stripSign cs)
  let negative := isNegative cs
  let size : Int := (Nat.toDigits 10 significand).length + exponent
  if significand = 0 ∨ size < -400 then some ⟨negative, 0, Binary64.leastExponent⟩
  else if 400 < size then none
  else Binary64.ofDecimal? negative significand exponent

/-- The text of an infinite number. -/
def infinityText (negative : Bool) : String := if negative then "-inf" else "inf"

/-- The names of the numbers that no digits write. -/
def isInfinityMark (cs : List Char) : Bool :=
  [".inf", ".Inf", ".INF"].contains (String.ofList cs)

def isNanMark (cs : List Char) : Bool := [".nan", ".NaN", ".NAN"].contains (String.ofList cs)

/-- A floating point number in a plain scalar. Any number of plus signs may stand in front of the
infinite one; decimal notation beyond all finite ones is a text. -/
def plainFloat? (cs : List Char) : Option String :=
  if isInfinityMark (cs.dropWhile (· = '+')) then some (infinityText false)
  else if isNegative cs && isInfinityMark (cs.drop 1) then some (infinityText true)
  else if isNanMark cs then some "NaN"
  else (decimal? cs).map fun x => String.ofList x.toPositional

/-- A floating point number where a tag demands one: named in words, or in decimal notation, where
one beyond all finite ones is infinite. -/
def taggedFloat? (cs : List Char) : Option String :=
  let word := String.ofList ((stripSign cs).map Char.toLower)
  if word = "nan" then some "NaN"
  else if word = "inf" ∨ word = "infinity" then some (infinityText (isNegative cs))
  else if !isDecimal cs then none
  else
    match decimal? cs with
    | some x => some (String.ofList x.toPositional)
    | none => some (infinityText (isNegative cs))

/-! ## What a scalar is -/

/-- What a plain scalar is taken for. -/
def plainFound (text : String) : Found :=
  let cs := text.toList
  let asText := Found.str (showText text)
  if text = "~" ∨ text = "null" then .unit
  else if text = "true" then .bool true
  else if text = "false" then .bool false
  else
    match based? cs with
    | some i => .int i
    | none =>
      if isPadded cs then asText
      else
        match (whole? cs).bind foundInt?, plainFloat? cs with
        | some found, _ => found
        | none, some shown => .float shown
        | none, none => asText

/-- What a scalar is taken for. A tag of the core schema forces its type. -/
def scalarFound (text : String) (plain : Bool) (tag : Option Tag) : Except Problem Found :=
  let cs := text.toList
  let asText := Found.str (showText text)
  match tag with
  | some ⟨"!!", "bool"⟩ =>
    if text = "true" then .ok (.bool true)
    else if text = "false" then .ok (.bool false)
    else .error (.wrongValue asText "a boolean")
  | some ⟨"!!", "int"⟩ =>
    match (whole? cs).filter fun (i : Int) => -twoTo 63 ≤ i ∧ i < twoTo 63 with
    | some i => .ok (.int i)
    | none => .error (.wrongValue asText "an integer")
  | some ⟨"!!", "float"⟩ =>
    match taggedFloat? cs with
    | some shown => .ok (.float shown)
    | none => .error (.wrongValue asText "a float")
  | some ⟨"!!", "null"⟩ =>
    if text = "~" ∨ text = "null" then .ok .unit else .error (.wrongValue asText "null")
  | some _ => .ok asText
  | none => .ok (if plain then plainFound text else asText)

/-- The problem with a scalar that is not wanted. -/
def scalarProblem (text : String) (plain : Bool) (tag : Option Tag) (wanted : String) :
    Problem :=
  match scalarFound text plain tag with
  | .ok found => .wrongType found wanted
  | .error problem => problem

/-- Is a scalar a value when nothing special is wanted? One that does not fit its tag is none, nor
is an integer of more than 64 bits. -/
def isValue (text : String) (plain : Bool) (tag : Option Tag) : Bool :=
  match scalarFound text plain tag with
  | .ok (.wideInt _ _) => false
  | .ok _ => true
  | .error _ => false

end VlanBinding.Yaml
