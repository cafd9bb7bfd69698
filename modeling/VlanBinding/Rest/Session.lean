import VlanBinding.Http.Network
import VlanBinding.Rest.Error
import VlanBinding.Settings

/-!
Sending requests with a token. The token of a Keystone session is obtained when it is first needed
and kept until a service rejects it; a rejected token is renewed once for a request.
-/

namespace VlanBinding.Rest

open VlanBinding.Http

/-- What a client shows to a service. -/
inductive Credentials where
  | anonymous
  | token (token : String)
  | keystone (settings : Settings.Keystone)
deriving DecidableEq, Repr

namespace Credentials

/-- A Keystone session goes before a fixed token. -/
def ofSettings (token : Option String) (keystone : Option Settings.Keystone) : Credentials :=
  match keystone, token with
  | some k, _ => .keystone k
  | none, some t => .token t
  | none, none => .anonymous

/-- Can a rejected token be renewed? -/
def canRenew : Credentials → Bool
  | keystone _ => true
  | _ => false

end Credentials

/-- The state of a client between requests. -/
structure Session where
  network : Network := {}
  /-- the token held, shared by all clients of one Keystone session -/
  token : Option String := none
  /-- whether the client of the fabric controller is set up -/
  connected : Bool := false

/-- Actions that send requests and may fail. What they did stays done if they fail. -/
abbrev Action := ExceptT Error (StateM Session)

namespace Action

/-- Sends one request. `path` is what an error names. -/
def exchange (path : String) (method : Method) (url : String) (query : List (String × String))
    (token : Option String) (body : Option Json) : Action Response := do
  match Url.parse? url with
  | none => throw (.transport path)
  | some url =>
    let s ← get
    let (response, network) :=
      s.network.send { method, url := url.addPairs query, token, body }
    set { s with network }
    match response with
    | none => throw (.transport path)
    | some response => pure response

end Action

/-! ## Tokens -/

/-- What a user shows to Keystone. -/
def loginBody (k : Settings.Keystone) : Json :=
  .obj [("auth", .obj
    [("identity", .obj
      [("methods", .strings ["password"]),
        ("password", .obj
          [("user", .obj
            [("name", .str k.username),
              ("domain", .obj [("name", .str k.userDomainName)]),
              ("password", .str k.password)])])]),
      ("scope", .obj
        [("project", .obj
          [("name", .str k.projectName),
            ("domain", .obj [("name", .str k.projectDomainName)])])])])]

/-- Obtains a new token. -/
def issueToken (k : Settings.Keystone) : Action String := do
  let url := joinUrl k.authUrl "auth/tokens"
  let response ← Action.exchange url .post url [] none (some (loginBody k).sorted)
  if !response.status.isSuccess then throw (.ofStatus url response.status response.body)
  match response.header? "x-subject-token" with
  | some token => pure token
  | none => throw (.invalidResponse url (.missing "X-Subject-Token header"))

/-- The token held, or a new one, which is held from then on. -/
def heldToken (k : Settings.Keystone) : Action String := do
  match (← get).token with
  | some token => pure token
  | none =>
    let token ← issueToken k
    modify fun s => { s with token := some token }
    pure token

/-- Forgets the token held. -/
def forgetToken : Action Unit := modify fun s => { s with token := none }

namespace Credentials

/-- The token to send, if any. -/
def current : Credentials → Action (Option String)
  | anonymous => pure none
  | token t => pure (some t)
  | keystone k => some <$> heldToken k

/-- Sends a request with the current token, and once more with a new one if it is rejected. -/
def send (c : Credentials) (path : String) (method : Method) (url : String)
    (query : List (String × String)) (body : Option Json) : Action Response := do
  let first ← Action.exchange path method url query (← c.current) body
  if first.status = 401 ∧ c.canRenew then
    forgetToken
    Action.exchange path method url query (← c.current) body
  else pure first

end Credentials

end VlanBinding.Rest
