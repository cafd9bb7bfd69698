import VlanBinding.Text.Hex

/-!
IP addresses of both versions, read and written in their usual text forms.
-/

namespace VlanBinding.Net

open VlanBinding.Text

/-- An IP address: four octets, or eight groups of sixteen bits. -/
inductive IpAddress where
  | v4 (octets : List Nat)
  | v6 (groups : List Nat)
deriving DecidableEq, Repr, Inhabited

/-! ## Reading -/

/-- An octet in decimal digits, without zeros in front of others. -/
def readOctet? (cs : List Char) : Option (Nat × List Char) :=
  let digits := cs.takeWhile Char.isDigit
  let rest := cs.dropWhile Char.isDigit
  let n := Nat.ofDigitChars 10 digits 0
  if digits.isEmpty || 3 < digits.length || 255 < n then none
  else if digits.head? = some '0' ∧ 1 < digits.length then none
  else some (n, rest)

/-- A separator in front of every part but the first. -/
def readSeparator? (separator : Char) (index : Nat) : List Char → Option (List Char)
  | cs => if index = 0 then some cs else
    match cs with
    | c :: rest => if c = separator then some rest else none
    | [] => none

/-- So many octets from the one at `index` on. -/
def readOctets? : Nat → Nat → List Char → Option (List Nat × List Char)
  | 0, _, cs => some ([], cs)
  | count + 1, index, cs => do
    let cs ← readSeparator? '.' index cs
    let (n, cs) ← readOctet? cs
    let (ns, cs) ← readOctets? count (index + 1) cs
    return (n :: ns, cs)

/-- Four octets with points between them. -/
def readV4? (cs : List Char) : Option (List Nat × List Char) := readOctets? 4 0 cs

/-- A group of one to four hexadecimal digits. -/
def readGroup? (cs : List Char) : Option (Nat × List Char) :=
  let isHex := fun c => (hexValue? c).isSome
  let digits := cs.takeWhile isHex
  if digits.isEmpty || 4 < digits.length then none
  else (hexNumber? digits).map (·, cs.dropWhile isHex)

/-- Groups with colons between them, at most `room` of them; the last two may be given as four
octets. Tells whether they were. -/
def readGroups : Nat → Nat → List Char → List Nat × Bool × List Char
  | 0, _, cs => ([], false, cs)
  | room + 1, index, cs =>
    let octets? := do
      if room = 0 then none
      readV4? (← readSeparator? ':' index cs)
    match octets? with
    | some ([a, b, c, d], rest) => ([256 * a + b, 256 * c + d], true, rest)
    | _ =>
      match (readSeparator? ':' index cs).bind readGroup? with
      | none => ([], false, cs)
      | some (group, rest) =>
        let (groups, hasOctets, rest) := readGroups room (index + 1) rest
        (group :: groups, hasOctets, rest)

/-- Eight groups; one run of zero groups may be left out between two colons. -/
def readV6? (cs : List Char) : Option (List Nat × List Char) :=
  let (head, hasOctets, rest) := readGroups 8 0 cs
  if head.length = 8 then some (head, rest)
  else if hasOctets then none
  else
    match rest with
    | ':' :: ':' :: rest =>
      let (tail, _, rest) := readGroups (7 - head.length) 0 rest
      some (head ++ List.replicate (8 - head.length - tail.length) 0 ++ tail, rest)
    | _ => none

/-- The address that a text writes. -/
def IpAddress.parse? (text : String) : Option IpAddress :=
  let cs := text.toList
  match readV4? cs with
  | some (octets, rest) => if rest.isEmpty then some (.v4 octets) else none
  | none =>
    match readV6? cs with
    | some (groups, rest) => if rest.isEmpty then some (.v6 groups) else none
    | none => none

/-! ## Writing -/

def renderOctets (octets : List Nat) : List Char :=
  [ '.' ].intercalate (octets.map (Nat.toDigits 10))

def renderGroups (groups : List Nat) : List Char :=
  [ ':' ].intercalate (groups.map (Nat.toDigits 16))

/-- Length of the run of zeros at the front. -/
def zeroRun (groups : List Nat) : Nat := (groups.takeWhile (· == 0)).length

/-- Start and length of the longest run of zeros, the first of equal ones. -/
def longestZeroRun : Nat → List Nat → Nat × Nat
  | _, [] => (0, 0)
  | index, g :: rest =>
    let here := zeroRun (g :: rest)
    let (start, length) := longestZeroRun (index + 1) rest
    if length ≤ here then (index, here) else (start, length)

/-- The text of an address; a run of at least two zero groups is left out, and an address that
stands for one of four octets ends in them. -/
def IpAddress.render : IpAddress → List Char
  | v4 octets => renderOctets octets
  | v6 groups =>
    if groups.take 6 = [0, 0, 0, 0, 0, 0xffff] then
      "::ffff:".toList ++
        renderOctets ((groups.drop 6).flatMap fun g => [g / 256, g % 256])
    else
      let (start, length) := longestZeroRun 0 groups
      if 1 < length then
        renderGroups (groups.take start) ++ [':', ':'] ++
          renderGroups (groups.drop (start + length))
      else renderGroups groups

/-- The text of an address and a port number. -/
def renderSocket (address : IpAddress) (port : Nat) : String :=
  let host :=
    match address with
    | .v4 _ => address.render
    | .v6 _ => '[' :: address.render ++ [']']
  String.ofList (host ++ ':' :: Nat.toDigits 10 port)

end VlanBinding.Net
