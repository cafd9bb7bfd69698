/-!
Arguments of a command line: options with a value, flags, and positional values, as a command
declares them. A value is attached to its option or follows it; an option may be given once.
-/

namespace VlanBinding.Cli

/-- Why arguments are not accepted, or not to be acted upon. -/
inductive UsageError where
  | helpAsked
  | versionAsked
  /-- nothing is given where something is needed -/
  | nothingGiven
  | noSubcommand
  | unknownSubcommand
  | missingArgument
  | invalidValue
  | repeatedArgument
  | unknownArgument
  /-- a flag with a value -/
  | surplusValue
deriving DecidableEq, Repr

/-- What an argument does. -/
inductive ArgumentKind where
  | flag
  | text
  /-- text that must not be empty -/
  | path
  | help
  | version
deriving DecidableEq, Repr

namespace ArgumentKind

def takesValue : ArgumentKind → Bool
  | text | path => true
  | flag | help | version => false

/-- May this be the value? -/
def accepts (value : String) : ArgumentKind → Bool
  | path => value ≠ ""
  | _ => true

end ArgumentKind

/-- An argument that a command declares. -/
structure Argument where
  /-- the name, which is given behind two dashes unless the argument is positional -/
  name : String
  short : Option Char := none
  kind : ArgumentKind
deriving DecidableEq, Repr

def helpFlag : Argument := { name := "help", short := some 'h', kind := .help }

def versionFlag : Argument := { name := "version", short := some 'V', kind := .version }

/-- The arguments that a command declares. -/
structure Grammar where
  options : List Argument
  positionals : List Argument := []
  /-- the names that end the arguments of the command itself -/
  subcommands : List String := []
deriving Repr

/-- How far arguments have been read. -/
structure Progress where
  /-- values by the names of their arguments -/
  taken : List (String × String) := []
  /-- the last argument with a value, and the value unless it is still to come -/
  pending : Option (Argument × Option String) := none
  /-- the number of positional values so far -/
  position : Nat := 0
  /-- whether only positional values are left -/
  trailing : Bool := false
deriving Repr

namespace Progress

/-- Is the next argument a value, if it does not look like an option? -/
def isAwaiting (p : Progress) : Bool :=
  match p.pending with
  | some (_, none) => true
  | _ => false

def has (name : String) (p : Progress) : Bool := (p.taken.lookup name).isSome

/-- Takes up the value of an argument that was not given before. -/
def take (a : Argument) (value : String) (p : Progress) : Except UsageError Progress :=
  if p.has a.name then .error .repeatedArgument
  else if a.kind.accepts value then .ok { p with taken := p.taken ++ [(a.name, value)] }
  else .error .invalidValue

/-- Takes up the pending value. -/
def settle (p : Progress) : Except UsageError Progress :=
  match p.pending with
  | none => .ok p
  | some (_, none) => .error .invalidValue
  | some (a, some value) => { p with pending := none }.take a value

/-- Meets an option without a value attached. -/
def meet (a : Argument) (p : Progress) : Except UsageError Progress := do
  let p ← p.settle
  match a.kind with
  | .help => .error .helpAsked
  | .version => .error .versionAsked
  | .flag => p.take a "true"
  | .text | .path => .ok { p with pending := some (a, none) }

/-- Meets an option with a value attached. -/
def meetWith (a : Argument) (value : String) (p : Progress) : Except UsageError Progress := do
  if a.kind.takesValue then (← p.settle).take a value else .error .surplusValue

end Progress

namespace Grammar

/-- What stands behind two dashes: a name, and a value if there is an equals sign. -/
def readLong (s : Grammar) (cs : List Char) (p : Progress) : Except UsageError Progress :=
  let name := String.ofList (cs.takeWhile (· ≠ '='))
  match s.options.find? (·.name == name), cs.dropWhile (· ≠ '=') with
  | none, _ => .error .unknownArgument
  | some a, [] => p.meet a
  | some a, _ :: value => p.meetWith a (String.ofList value)

/-- What stands behind one dash: letters of options. The rest behind the first that takes a value
is its value. -/
def readShort (s : Grammar) : List Char → Progress → Except UsageError Progress
  | [], p => .ok p
  | c :: rest, p =>
    match s.options.find? (·.short == some c) with
    | none => .error .unknownArgument
    | some a =>
      if a.kind.takesValue then
        match rest with
        | [] => p.meet a
        | '=' :: value => p.meetWith a (String.ofList value)
        | value => p.meetWith a (String.ofList value)
      else
        match p.meet a with
        | .error e => .error e
        | .ok p => readShort s rest p

/-- A positional value. -/
def readPositional (s : Grammar) (arg : String) (p : Progress) : Except UsageError Progress :=
  match s.positionals[p.position]? with
  | some a => do
    let p ← p.settle
    .ok { p with pending := some (a, some arg), position := p.position + 1 }
  | none =>
    if s.subcommands.isEmpty || (p.trailing && s.subcommands.contains arg) then
      .error .unknownArgument
    else .error .unknownSubcommand

/-- A value, either of the option that waits for one or positional. -/
def readValue (s : Grammar) (arg : String) (p : Progress) : Except UsageError Progress :=
  match p.trailing, p.pending with
  | false, some (a, none) => .ok { p with pending := some (a, some arg) }
  | _, _ => s.readPositional arg p

/-- One argument that is no subcommand. -/
def readArgument (s : Grammar) (arg : String) (p : Progress) : Except UsageError Progress :=
  if p.trailing then s.readValue arg p
  else
    match arg.toList with
    | ['-', '-'] => .ok { p with trailing := true }
    | '-' :: '-' :: cs => s.readLong cs p
    | '-' :: c :: cs => s.readShort (c :: cs) p
    | _ => s.readValue arg p

/-- Reads arguments up to a subcommand, which is given back with what stands behind it. -/
def read (s : Grammar) : List String → Progress →
    Except UsageError (Progress × Option (String × List String))
  | [], p => .ok (p, none)
  | arg :: rest, p =>
    if !p.trailing && !p.isAwaiting && s.subcommands.contains arg then .ok (p, some (arg, rest))
    else
      match s.readArgument arg p with
      | .error e => .error e
      | .ok p => read s rest p

/-- Reads all arguments of a command without subcommands. Every positional value is needed. -/
def readAll (s : Grammar) (args : List String) : Except UsageError Progress := do
  let (p, _) ← s.read args {}
  let p ← p.settle
  if s.positionals.all fun a => p.has a.name then .ok p else .error .missingArgument

end Grammar

end VlanBinding.Cli
