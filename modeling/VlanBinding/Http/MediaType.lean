/-!
Media types: what kind of content a request says that it carries.
-/

namespace VlanBinding.Http

/-- A media type without its parameters, in lower case. -/
structure MediaType where
  type : String
  subtype : String
  suffix : Option String
deriving DecidableEq, Repr

namespace MediaType

/-- Characters of names and of unquoted values. -/
def isToken (c : Char) : Bool := c.isAlphanum || "!#$%&'*+-.^_\x60|~".toList.contains c

/-- How far a parameter has been read. -/
inductive Progress where
  | start
  | name
  | valueStart
  | value
  | quoteStart
  | quoted
  | afterQuote
deriving DecidableEq, Repr

namespace Progress

def isQuotable (c : Char) : Bool := 31 < c.toNat && c.toNat < 127

/-- Takes in one more character, if it may stand there. -/
def next (c : Char) : Progress → Option Progress
  | start => if c = ' ' then some start else if isToken c then some name else none
  | name => if c = '=' then some valueStart else if isToken c then some name else none
  | valueStart => if c = '"' then some quoteStart else if isToken c then some value else none
  | value => if c = ';' then some start else if isToken c then some value else none
  | quoteStart => if isQuotable c then some quoted else none
  | quoted => if c = '"' then some afterQuote else if isQuotable c then some quoted else none
  | afterQuote => if c = ';' then some start else if c = ' ' then some afterQuote else none

/-- May the parameters end here? -/
def isFinal : Progress → Bool
  | name | quoteStart | quoted => false
  | _ => true

end Progress

/-- Are these well-formed parameters? -/
def isParameters (cs : List Char) : Bool :=
  ((cs.foldlM (fun p c => Progress.next c p) Progress.start).map Progress.isFinal).getD false

/-- A name in lower case. -/
def lower (cs : List Char) : String := String.ofList (cs.map Char.toLower)

/-- Splits a subtype at its last plus sign, unless it starts with it. -/
def splitSuffix (cs : List Char) : List Char × Option (List Char) :=
  match cs.reverse.dropWhile (· ≠ '+') with
  | _ :: c :: front => ((c :: front).reverse, some (cs.reverse.takeWhile (· ≠ '+')).reverse)
  | _ => (cs, none)

def parse? (text : String) : Option MediaType :=
  let cs := text.toList
  let type := cs.takeWhile isToken
  match type, cs.dropWhile isToken with
  | _ :: _, '/' :: rest =>
    let subtype := rest.takeWhile isToken
    let (name, suffix) := splitSuffix subtype
    let found : MediaType := ⟨lower type, lower name, suffix.map lower⟩
    match subtype, rest.dropWhile isToken with
    | _, [] => some found
    | _ :: _, ';' :: parameters => if isParameters parameters then some found else none
    | _, _ => none
  | _, _ => none

/-- Is it JSON, or something written in JSON? -/
def isJson (m : MediaType) : Bool :=
  m.type == "application" && (m.subtype == "json" || m.suffix == some "json")

example : (parse? "Application/Problem+JSON; charset=\"utf-8\"").map isJson = some true := by
  decide +kernel
example : (parse? "application/jsonx").map isJson = some false := by decide +kernel
example : parse? "application/json; charset" = none := by decide +kernel

end MediaType

end VlanBinding.Http
