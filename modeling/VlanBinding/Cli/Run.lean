import VlanBinding.Cli.Command
import VlanBinding.Http.Network
import VlanBinding.Integration.LinkSource
import VlanBinding.Service.Status
import VlanBinding.Text.Split
import VlanBinding.Text.Terminal

/-!
What the tool does: validates a topology file the way the service loads it, or asks the service and
prints what it says.
-/

namespace VlanBinding.Cli

open VlanBinding.Http

/-- How urgent a message is. -/
inductive Level where
  | error
  | warn
  | info
  | debug
  | trace
deriving DecidableEq, Repr

namespace Level

def name : Level → String
  | error => "ERROR"
  | warn => "WARN"
  | info => "INFO"
  | debug => "DEBUG"
  | trace => "TRACE"

/-- From the most urgent on. -/
def rank : Level → Nat
  | error => 0
  | warn => 1
  | info => 2
  | debug => 3
  | trace => 4

/-- The level of a word in either case. -/
def ofWord? (word : String) : Option Level :=
  match word.toLower with
  | "error" => some error
  | "warn" => some warn
  | "info" => some info
  | "debug" => some debug
  | "trace" => some trace
  | _ => none

end Level

/-- What the tool puts out. -/
inductive Line where
  | message (level : Level) (text : String)
  | plain (text : String)
deriving DecidableEq, Repr

/-- Does a line come out at a level? Plain lines always do. -/
def Line.isShown (limit : Level) : Line → Bool
  | message level _ => level.rank ≤ limit.rank
  | plain _ => true

/-- How a command ended. -/
structure Report where
  /-- in order -/
  lines : List Line := []
  /-- the reasons of a failure, from the outermost on -/
  result : Except (List String) Unit := .ok ()

/-! ## Validation -/

/-- What is said of a node. -/
def nodeLines (node : Topology.Node) : List Line :=
  .message .info (node.name ++ ": " ++ toString node.ports.length ++ " port(s)") ::
    node.ports.map fun link =>
      .message .debug ("  " ++ link.switchName ++ " " ++ link.portName)

/-- Goes through the nodes of a document by their names, as the service finds them. -/
def describe (w : Wording) (index : Topology.Index) : List String → Report
  | [] => {}
  | name :: rest =>
    match index.node? name with
    | none => { result := .error [(Integration.Error.nodeNotFound name).message w] }
    | some node =>
      let report := describe w index rest
      { report with lines := nodeLines node ++ report.lines }

/-- The reasons why a topology file is refused. -/
def refusalChain (w : Wording) (path : String) (e : Topology.DocumentError) : List String :=
  ["validating " ++ path, e.message w] ++
    match e with
    | .unreadable _ => [w.io]
    | .invalid _ => []

/-- Validates a topology file. -/
def validateTopology (w : Wording) (file : File) : Report :=
  match Topology.Document.load file with
  | .error e => { result := .error (refusalChain w file.path e) }
  | .ok d =>
    let names := d.nodes.map (·.name)
    let report := describe w (.ofDocument d) names
    match report.result with
    | .error _ => report
    | .ok () =>
      let total := file.path ++ " is valid, " ++ toString names.length ++ " node(s)"
      { report with lines := report.lines ++ [.message .info total] }

/-! ## Asking the service -/

/-- The URL of a path of the service. -/
def apiUrl (connection path : String) : String :=
  String.ofList (trimEnd connection.toList ++ "/api/".toList ++ trimStart path.toList)

/-- Sends a request for a URL. -/
def fetch (url : String) (query : List (String × String)) (n : Network) :
    Option Response × Network :=
  match Url.parse? url with
  | none => (none, n)
  | some url => n.send { method := .get, url := url.addPairs query }

/-- What is said of the state of the service. -/
def statusLines (s : Service.Status) : List Line :=
  [.message .info ("version: " ++ s.version),
    .message .info
      (if s.enabled then "integration enabled, topology mode: " ++ s.topologyMode
        else "integration disabled"),
    .message .info ("running since: " ++ s.startedAt)]

/-- The state of the service, as it answers for it. -/
def reportStatus (w : Wording) : Option Response → Report
  | none => { result := .error [w.transport] }
  | some response =>
    if !response.status.isSuccess then
      { result := .error ["could not get status from server: " ++ response.body] }
    else
      match Json.decodeText Service.Status.decoder response.body with
      | .ok s => { lines := statusLines s }
      | .error .notJson => { result := .error ["reading service status", w.json] }
      | .error (.data problem) =>
        { result := .error ["reading service status", problem.message] }

/-- What the service answers about a host. `task` says what was tried. -/
def reportHost (w : Wording) (task : String) : Option Response → Report
  | none => { result := .error [task, w.transport] }
  | some response =>
    if response.status.isSuccess then { lines := [.plain response.body] }
    else
      { result := .error
          [task, "server responded with " ++ response.status.render ++ ": " ++ response.body] }

/-- The path under which a host is asked about. -/
def hostPath (kind host : String) : String := kind ++ "/" ++ host

/-- Asks about a host. -/
def askHost (connection kind : String) (q : HostQuery) (n : Network) :
    Option Response × Network :=
  fetch (apiUrl connection (hostPath kind q.host))
    [("pretty", if q.pretty then "true" else "false")] n

/-- Asks the service, after a first request that only shows whether it is there. -/
def askService (w : Wording) (i : Invocation) (n : Network) : Report × Network :=
  let connection := i.serverConnection
  match fetch (apiUrl connection "status") [] n with
  | (none, n) =>
    ({ result := .error
        ["could not connect to dm integration service at " ++ connection ++
          ", is it running?"] }, n)
  | (some _, n) =>
    match i.command with
    | .resolve q =>
      let (response, n) := askHost connection "topology" q n
      (reportHost w ("resolving host '" ++ q.host ++ "'") response, n)
    | .bindings q =>
      let (response, n) := askHost connection "bindings" q n
      (reportHost w ("getting bindings for host '" ++ q.host ++ "'") response, n)
    | _ =>
      let (response, n) := fetch (apiUrl connection "status") [] n
      (reportStatus w response, n)

/-- Runs a command. `find` finds the file of a path. -/
def execute (w : Wording) (find : String → File) (i : Invocation) (n : Network) :
    Report × Network :=
  match i.command with
  | .validateTopology path => (validateTopology w (find path), n)
  | _ => askService w i n

/-! ## The whole program -/

/-- How the whole program ended. -/
structure Ending where
  lines : List Line
  /-- what failed, if anything did -/
  failure : Option String

/-- The level to put out, and a warning if the word for it is unknown. -/
def limitOf (verbosity : Option String) : Level × List Line :=
  match verbosity with
  | none => (.info, [])
  | some word =>
    match Level.ofWord? word with
    | some level => (level, [])
    | none => (.info, [.message .warn ("Unknown Log LevelFilter " ++ word)])

/-- The reasons of a failure as messages. -/
def failureLines : List String → List Line
  | [] => []
  | reason :: causes =>
    .message .error ("ERROR: " ++ reason) ::
      causes.map fun cause => .message .error ("because: " ++ cause)

/-- Runs a command and puts out what its level shows. -/
def run (w : Wording) (find : String → File) (i : Invocation) (n : Network) : Ending × Network :=
  let (limit, warning) := limitOf i.verbosity
  let (report, n) := execute w find i n
  let shown (lines : List Line) : List Line := lines.filter (·.isShown limit)
  match report.result with
  | .ok () => (⟨shown (warning ++ report.lines), none⟩, n)
  | .error chain =>
    let lines := warning ++ report.lines ++ failureLines chain
    (⟨shown lines, some (i.command.name ++ " failed")⟩, n)

/-- The code with which the program ends when its arguments are not acted upon. -/
def UsageError.exitCode : UsageError → Nat
  | helpAsked | versionAsked => 0
  | _ => 2

def Ending.exitCode (e : Ending) : Nat := if e.failure.isSome then 1 else 0

/-! ## Output -/

/-- A row of the output, with the level of a message in front of its first row. -/
structure Row where
  level : Option Level := none
  text : String
deriving DecidableEq, Repr

/-- The rows of a line. A message cannot make the terminal do anything. -/
def Line.rows : Line → List Row
  | .message level text =>
    match Text.lines (Text.terminalText text) with
    | [] => []
    | first :: rest => { level := some level, text := first } :: rest.map fun text => { text }
  | .plain text => (Text.lines text).map fun text => { text }

def Ending.rows (e : Ending) : List Row := e.lines.flatMap Line.rows

/-- The rows that say which command failed, if one did. -/
def Ending.failureRows (e : Ending) : List Row :=
  (e.failure.map (Line.message .error)).toList.flatMap Line.rows

/-- A row as it is put out. -/
def Row.render (r : Row) : String :=
  match r.level with
  | some level => level.name ++ " " ++ r.text
  | none => r.text

/-- How the tool is called. -/
def usageText : List String :=
  ["usage: vlan-binding [--verbosity LEVEL] [--server-connection URL] COMMAND",
    "commands: validate-topology PATH, status, resolve [--pretty] HOST, bindings [--pretty] HOST"]

/-- What a process leaves behind. -/
structure Output where
  /-- lines for the standard output -/
  out : List String := []
  /-- lines for the standard error output -/
  err : List String := []
  exitCode : Nat := 0
deriving DecidableEq, Repr

/-- The output for arguments that are not acted upon. -/
def UsageError.output : UsageError → Output
  | helpAsked => { out := usageText }
  | versionAsked => { out := ["vlan-binding 1.0"] }
  | e => { err := usageText, exitCode := e.exitCode }

/-- The output of a run. One that failed says at its end which command did. -/
def Ending.output (e : Ending) : Output where
  out := (e.rows ++ e.failureRows).map Row.render
  exitCode := e.exitCode

/-- The files that a command reads. -/
def Command.files : Command → List String
  | .validateTopology path => [path]
  | _ => []

end VlanBinding.Cli
