/-!
Texts cut into pieces.
-/

namespace VlanBinding.Text

/-- Splits a text at every character that is the separator. -/
def splitAt (separator : Char) : List Char → List (List Char)
  | [] => [[]]
  | c :: rest =>
    if c = separator then [] :: splitAt separator rest
    else
      match splitAt separator rest with
      | [] => [[c]]
      | first :: others => (c :: first) :: others

theorem splitAt_ne_nil (separator : Char) (cs : List Char) : splitAt separator cs ≠ [] := by
  cases cs with
  | nil => simp [splitAt]
  | cons c rest =>
    by_cases h : c = separator
    · simp [splitAt, h]
    · simp only [splitAt, h, if_false]
      split <;> simp

/-- A line without the carriage return at its end. -/
def dropReturn (line : List Char) : List Char :=
  if line.getLast? = some '\r' then line.dropLast else line

/-- The lines of a text. A line ends at a line feed, with or without a carriage return before it;
another one begins behind every line feed. -/
def lines (text : String) : List String :=
  (splitAt '\n' text.toList).map fun line => String.ofList (dropReturn line)

example : lines "a\r\n\rb\n" = ["a", "\rb", ""] := by decide +kernel

end VlanBinding.Text
