import VlanBinding.Text.Hex

/-!
Universally unique identifiers. One may be written in four ways and in either case of letters; it
is rendered in one.
-/

namespace VlanBinding

/-- An identifier of 128 bits, as its hexadecimal digits from the most significant on. -/
structure Uuid where
  digits : List (Fin 16)
  length_digits : digits.length = 32
deriving DecidableEq, Repr

namespace Uuid

open VlanBinding.Text

/-- A hexadecimal digit of either case. -/
def digit? (c : Char) : Option (Fin 16) :=
  match hexValue? c with
  | some n => if h : n < 16 then some ⟨n, h⟩ else none
  | none => none

/-- Digits without anything between them. -/
def ofDigits? (cs : List Char) : Option Uuid := do
  let digits ← cs.mapM digit?
  if h : digits.length = 32 then some ⟨digits, h⟩ else none

/-- The lengths of the parts between hyphens. -/
def groups : List Nat := [8, 4, 4, 4, 12]

/-- Takes the hyphens out of digits that stand in groups of the given lengths. -/
def joinGroups? : List Nat → List Char → Option (List Char)
  | [], cs => if cs.isEmpty then some [] else none
  | [n], cs => if cs.length = n then some cs else none
  | n :: ns, cs =>
    match cs.drop n with
    | '-' :: rest => (joinGroups? ns rest).map (cs.take n ++ ·)
    | _ => none

/-- Digits in five groups. -/
def ofGroups? (cs : List Char) : Option Uuid := (joinGroups? groups cs).bind ofDigits?

/-- Takes a word in lower case off the front of a text that may have it in any case. -/
def behind? : List Char → List Char → Option (List Char)
  | [], cs => some cs
  | w :: ws, c :: cs => if w = c.toLower then behind? ws cs else none
  | _ :: _, [] => none

/-- The identifier that a text writes: bare digits, digits in groups, groups in braces, or groups
behind the name of the scheme. -/
def parse? (text : String) : Option Uuid :=
  let cs := text.toList
  match cs with
  | '{' :: rest => if rest.getLast? = some '}' then ofGroups? rest.dropLast else none
  | _ =>
    match behind? "urn:uuid:".toList cs with
    | some rest => ofGroups? rest
    | none => if cs.contains '-' then ofGroups? cs else ofDigits? cs

/-- Puts hyphens between groups of the given lengths. -/
def splitGroups : List Nat → List Char → List Char
  | [], _ => []
  | [n], cs => cs.take n
  | n :: ns, cs => cs.take n ++ '-' :: splitGroups ns (cs.drop n)

/-- Digits in five groups, in lower case. -/
def render (u : Uuid) : String :=
  String.ofList (splitGroups groups (u.digits.map fun d => hexDigit d.val))

example : (parse? "0ED483E083EF4F7082501FCFA5D98C0E").map render =
    some "0ed483e0-83ef-4f70-8250-1fcfa5d98c0e" := by decide +kernel
example : (parse? "\x7b0ed483e0-83ef-4f70-8250-1fcfa5d98c0e\x7d").isSome := by decide +kernel
example : parse? "urn:uuid:0ED483E0-83ef-4f70-8250-1fcfa5d98c0e" =
    parse? "0ed483e083ef4f7082501fcfa5d98c0e" := by decide +kernel
example : parse? "\x7b0ed483e083ef4f7082501fcfa5d98c0e\x7d" = none := by decide +kernel

end Uuid

end VlanBinding
