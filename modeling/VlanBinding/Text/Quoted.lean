import VlanBinding.Text.Hex
import VlanBinding.Text.Unprintable

/-!
Text shown in double quotes inside a message, with an escape for every character that could be
mistaken.
-/

namespace VlanBinding.Text

/-- A character inside quotes. -/
def showChar (c : Char) : List Char :=
  if c = '"' then ['\\', '"']
  else if c = '\\' then ['\\', '\\']
  else if c = '\t' then ['\\', 't']
  else if c = '\r' then ['\\', 'r']
  else if c = '\n' then ['\\', 'n']
  else if c = '\x00' then ['\\', '0']
  else if isUnprintable c then ['\\', 'u', '{'] ++ Nat.toDigits 16 c.toNat ++ ['}']
  else [c]

/-- A text in quotes. -/
def showText (text : String) : String :=
  String.ofList ('"' :: text.toList.flatMap showChar ++ ['"'])

/-- Texts in quotes, in a list in brackets. -/
def showTexts (texts : List String) : String :=
  "[" ++ String.intercalate ", " (texts.map showText) ++ "]"

end VlanBinding.Text
