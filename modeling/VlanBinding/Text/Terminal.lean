import VlanBinding.Text.Hex

/-!
Text that is safe to be shown on a terminal: no character is left that rings, goes back, clears the
screen or begins a command.
-/

namespace VlanBinding.Text

/-- The characters of ASCII that ring, go back, clear the screen or begin a command. -/
def isBellOrEscape (c : Char) : Bool := ['\x07', '\x08', '\x0c', '\x1b', '\x7f'].contains c

/-- The control characters beyond ASCII, each of them a command. -/
def isHighControl (c : Char) : Bool := 0x80 ≤ c.toNat && c.toNat < 0xa0

/-- Two digits for the number of a character. -/
def hex2 (c : Char) : List Char := [hexDigit (c.toNat / 16 % 16), hexDigit (c.toNat % 16)]

/-- A character, or its number where a terminal would act upon it. -/
def terminalChar (c : Char) : List Char :=
  if isBellOrEscape c then ['\\', 'x'] ++ hex2 c
  else if isHighControl c then ['\\', 'u', '{'] ++ hex2 c ++ ['}']
  else [c]

/-- A text with which a terminal does nothing but show it. -/
def terminalText (text : String) : String := String.ofList (text.toList.flatMap terminalChar)

example : terminalText "\x1b[1m\x85\t" = "\\x1b[1m\\u\x7b85\x7d\t" := by decide +kernel

end VlanBinding.Text
