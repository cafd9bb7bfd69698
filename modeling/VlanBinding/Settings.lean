import VlanBinding.File
import VlanBinding.Json.Decoder
import VlanBinding.Json.Printer
import VlanBinding.Net.Address
import VlanBinding.Wording

/-!
The settings of the service. A file need not give all of them; what it leaves out has a default.
-/

namespace VlanBinding

open VlanBinding.Json

/-- How the API server of the fabric controller is reached. -/
structure Settings.ApiServer where
  host : String := "127.0.0.1"
  port : UInt16 := 8082
  useSsl : Bool := false
  /-- do not verify the certificate of the server -/
  insecure : Bool := false
  /-- the certificates to verify the server with -/
  caFile : Option String := none
  /-- a fixed token, for a server without expiring ones -/
  authToken : Option String := none
deriving DecidableEq, Repr, Inhabited

/-- How Neutron is reached. -/
structure Settings.Neutron where
  url : String := "http://127.0.0.1:9696"
  authToken : Option String := none
deriving DecidableEq, Repr, Inhabited

/-- Where the service listens. -/
structure Settings.Server where
  listenAddress : String := "0.0.0.0"
  port : UInt16 := 3366
deriving DecidableEq, Repr, Inhabited

/-- A user of Keystone, scoped to a project. -/
structure Settings.Keystone where
  authUrl : String
  username : String
  password : String
  projectName : String
  userDomainName : String := "Default"
  projectDomainName : String := "Default"
deriving DecidableEq, Repr, Inhabited

structure Settings where
  /-- when false, no port is ever acted upon -/
  enabled : Bool := false
  /-- the topology document; without one the fabric controller is asked -/
  topology : Option String := none
  apiServer : Settings.ApiServer := {}
  neutron : Settings.Neutron := {}
  server : Settings.Server := {}
  /-- where tokens come from; takes precedence over the fixed ones -/
  keystone : Option Settings.Keystone := none
  logFolder : String := "/var/log/dm-integration/"
deriving DecidableEq, Repr, Inhabited

namespace Settings

/-- A port number as JSON. -/
def portToJson (p : UInt16) : Json := .nat p.toNat

namespace ApiServer

def baseUrl (s : ApiServer) : String :=
  (if s.useSsl then "https" else "http") ++ "://" ++ s.host ++ ":" ++ toString s.port.toNat

def schema : JsonRecord ApiServer where
  name := "ApiServerConfig"
  start := {}
  fields :=
    [ defaulted "host" .string fun v s => { s with host := v },
      defaulted "port" .uint16 fun v s => { s with port := v },
      defaulted "use_ssl" .bool fun v s => { s with useSsl := v },
      defaulted "insecure" .bool fun v s => { s with insecure := v },
      optional "ca_file" .path fun v s => { s with caFile := v },
      optional "auth_token" .string fun v s => { s with authToken := v } ]

def toJson (s : ApiServer) : Json :=
  .obj [("host", .str s.host), ("port", portToJson s.port), ("use_ssl", .bool s.useSsl),
    ("insecure", .bool s.insecure), nullableMember "ca_file" .str s.caFile,
    nullableMember "auth_token" .str s.authToken]

end ApiServer

namespace Neutron

def schema : JsonRecord Settings.Neutron where
  name := "NeutronConfig"
  start := {}
  fields :=
    [ defaulted "url" .string fun v s => { s with url := v },
      optional "auth_token" .string fun v s => { s with authToken := v } ]

def toJson (s : Settings.Neutron) : Json :=
  .obj [("url", .str s.url), nullableMember "auth_token" .str s.authToken]

end Neutron

namespace Server

/-- The address and the port to listen on, if the address is one. -/
def socket? (s : Server) : Option String :=
  (Net.IpAddress.parse? s.listenAddress).map fun address =>
    Net.renderSocket address s.port.toNat

/-- Why there is no address to listen on, from the outermost reason on. -/
def addressFault (s : Server) : List String :=
  ["parsing listen address " ++ s.listenAddress, "invalid IP address syntax"]

def schema : JsonRecord Server where
  name := "ServerConfig"
  start := {}
  fields :=
    [ defaulted "listen_address" .string fun v s => { s with listenAddress := v },
      defaulted "port" .uint16 fun v s => { s with port := v } ]

def toJson (s : Server) : Json :=
  .obj [("listen_address", .str s.listenAddress), ("port", portToJson s.port)]

end Server

namespace Keystone

def schema : JsonRecord Keystone where
  name := "KeystoneConfig"
  start := { authUrl := "", username := "", password := "", projectName := "" }
  fields :=
    [ required "auth_url" .string fun v s => { s with authUrl := v },
      required "username" .string fun v s => { s with username := v },
      required "password" .string fun v s => { s with password := v },
      required "project_name" .string fun v s => { s with projectName := v },
      defaulted "user_domain_name" .string fun v s => { s with userDomainName := v },
      defaulted "project_domain_name" .string fun v s => { s with projectDomainName := v } ]

def decoder : Decoder Keystone := .record schema

def toJson (s : Keystone) : Json :=
  .obj [("auth_url", .str s.authUrl), ("username", .str s.username),
    ("password", .str s.password), ("project_name", .str s.projectName),
    ("user_domain_name", .str s.userDomainName),
    ("project_domain_name", .str s.projectDomainName)]

end Keystone

def schema : JsonRecord Settings where
  name := "DmIntegrationConfig"
  start := {}
  fields :=
    [ defaulted "enabled" .bool fun v s => { s with enabled := v },
      optional "topology" .path fun v s => { s with topology := v },
      defaulted "api_server" (.record ApiServer.schema) fun v s => { s with apiServer := v },
      defaulted "neutron" (.record Neutron.schema) fun v s => { s with neutron := v },
      defaulted "server" (.record Server.schema) fun v s => { s with server := v },
      optional "keystone" (.record Keystone.schema) fun v s => { s with keystone := v },
      defaulted "log_folder" .string fun v s => { s with logFolder := v } ]

def decoder : Decoder Settings := .record schema

def toJson (s : Settings) : Json :=
  .obj ([("enabled", .bool s.enabled), nullableMember "topology" .str s.topology,
      ("api_server", s.apiServer.toJson), ("neutron", s.neutron.toJson),
      ("server", s.server.toJson)] ++
    optionalMember "keystone" Keystone.toJson s.keystone ++
    [("log_folder", .str s.logFolder)])

/-- The settings as the text of their file. -/
def render (s : Settings) : String := s.toJson.pretty

/-- The settings that the text of a file gives. -/
def parse (text : String) : Except DecodeError Settings := decodeText decoder text

/-- Why there are no settings. -/
inductive LoadError where
  | missing
  | notText
  | malformed (error : DecodeError)
deriving DecidableEq, Repr

/-- The reasons from the outermost on. -/
def LoadError.chain (w : Wording) (path : String) (e : LoadError) : List String :=
  ("loading config from " ++ path) ::
    match e with
    | missing => ["could not read " ++ path]
    | notText => [w.io]
    | malformed .notJson => ["parsing " ++ path, w.json]
    | malformed (.data problem) => ["parsing " ++ path, problem.message]

/-- The settings that a file gives. -/
def load (file : File) : Except LoadError Settings :=
  match file.content with
  | none => .error .missing
  | some bytes =>
    match String.fromUTF8? bytes with
    | none => .error .notText
    | some text => (parse text).mapError .malformed

/-- Where the settings are, unless another place is given. -/
def defaultPath : String := "/etc/dm-integration/config.json"

end Settings

end VlanBinding
