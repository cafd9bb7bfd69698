import VlanBinding.Cli.Arguments
import VlanBinding.Json.Basic

/-!
The command lines of the two programs: the tool, which validates a topology file or asks the
service, and the service itself.
-/

namespace VlanBinding.Cli

/-- A host that is asked about. -/
structure HostQuery where
  host : String
  pretty : Bool := false
deriving DecidableEq, Repr

def HostQuery.toJson (q : HostQuery) : Json :=
  .obj [("host", .str q.host), ("pretty", .bool q.pretty)]

inductive Command where
  | validateTopology (path : String)
  | status
  | resolve (query : HostQuery)
  | bindings (query : HostQuery)
deriving DecidableEq, Repr

namespace Command

/-- The name that messages use. -/
def name : Command → String
  | validateTopology _ => "validate topology"
  | status => "status"
  | resolve _ => "resolve"
  | bindings _ => "bindings"

def toJson : Command → Json
  | validateTopology path => .obj [("ValidateTopology", .obj [("path", .str path)])]
  | status => .str "Status"
  | resolve query => .obj [("Resolve", query.toJson)]
  | bindings query => .obj [("Bindings", query.toJson)]

/-- Does the command work without the service? -/
def isOffline : Command → Bool
  | validateTopology _ => true
  | _ => false

def hostGrammar : Grammar where
  options := [{ name := "pretty", kind := .flag }, helpFlag]
  positionals := [{ name := "host", kind := .text }]

def pathGrammar : Grammar where
  options := [helpFlag]
  positionals := [{ name := "path", kind := .path }]

def hostQuery (args : List String) : Except UsageError HostQuery := do
  let p ← hostGrammar.readAll args
  pure ⟨(p.taken.lookup "host").getD "", p.has "pretty"⟩

/-- The names of the commands. -/
def names : List String := ["validate-topology", "status", "resolve", "bindings", "help"]

/-- The command of a name with its arguments. Help is given on one command at most. -/
def parse (name : String) (args : List String) : Except UsageError Command :=
  match name with
  | "validate-topology" => do
    let p ← pathGrammar.readAll args
    pure (validateTopology ((p.taken.lookup "path").getD ""))
  | "status" => do
    let _ ← Grammar.readAll { options := [helpFlag] } args
    pure status
  | "resolve" => resolve <$> hostQuery args
  | "bindings" => bindings <$> hostQuery args
  | _ =>
    match args with
    | [] => .error .helpAsked
    | [topic] => if names.contains topic then .error .helpAsked else .error .unknownSubcommand
    | _ => .error .unknownSubcommand

end Command

/-- A whole command line of the tool. -/
structure Invocation where
  verbosity : Option String := none
  serverConnection : String := "http://localhost:3366/"
  command : Command
deriving DecidableEq, Repr

namespace Invocation

def toolGrammar : Grammar where
  options :=
    [{ name := "verbosity", short := some 'v', kind := .text },
      { name := "server-connection", kind := .text }, helpFlag, versionFlag]
  subcommands := Command.names

/-- What the arguments of the tool ask for. What is wrong behind the name of a command is noticed
before a value that still waits in front of it. -/
def parse (args : List String) : Except UsageError Invocation := do
  match ← toolGrammar.read args {} with
  | (p, some (name, rest)) =>
    let command ← Command.parse name rest
    let p ← p.settle
    let i : Invocation := { verbosity := p.taken.lookup "verbosity", command }
    match p.taken.lookup "server-connection" with
    | some serverConnection => pure { i with serverConnection }
    | none => pure i
  | (p, none) =>
    let p ← p.settle
    if p.taken.isEmpty then .error .nothingGiven else .error .noSubcommand

end Invocation

/-- The arguments of the service. -/
def serviceGrammar : Grammar where
  options := [{ name := "config", kind := .path }, helpFlag, versionFlag]

/-- The settings file that the arguments of the service name. -/
def configOf (args : List String) : Except UsageError (Option String) := do
  pure ((← serviceGrammar.readAll args).taken.lookup "config")

end VlanBinding.Cli
