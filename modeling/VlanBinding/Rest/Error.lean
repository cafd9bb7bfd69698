import VlanBinding.Http.Status
import VlanBinding.Json.Decoder
import VlanBinding.Wording

/-!
What can go wrong when a service is asked over REST. That something is not there, or is there
already, stands apart from other refusals, because some requests can live with it.
-/

namespace VlanBinding.Rest

open VlanBinding.Http

/-- What the answer to a successful request lacks. -/
inductive Flaw where
  | notJson
  | data (problem : Schema.Problem)
  /-- there is no such thing in it -/
  | missing (what : String)
deriving DecidableEq, Repr

/-- Why no connection can be set up at all. -/
inductive Misconfiguration where
  | unreadable (file : String)
  | noCertificate (file : String)
  /-- an object without a uuid cannot be addressed -/
  | noUuid (resource : String)
deriving DecidableEq, Repr

inductive Error where
  | notFound (path : String)
  | conflict (path : String)
  | http (path : String) (status : Status) (body : String)
  | transport (path : String)
  | invalidConfig (reason : Misconfiguration)
  | invalidResponse (path : String) (flaw : Flaw)
deriving DecidableEq, Repr

def Flaw.ofDecodeError : Json.DecodeError → Flaw
  | .notJson => .notJson
  | .data problem => .data problem

def Flaw.message (w : Wording) : Flaw → String
  | notJson => w.json
  | data problem => problem.message
  | missing what => "missing " ++ what

def Misconfiguration.message (w : Wording) : Misconfiguration → String
  | unreadable file => "reading " ++ file ++ ": " ++ w.io
  | noCertificate file => "parsing " ++ file ++ ": " ++ w.tls
  | noUuid resource => resource ++ " without uuid"

namespace Error

def message (w : Wording) : Error → String
  | notFound path => "'" ++ path ++ "' not found"
  | conflict path => "'" ++ path ++ "' already exists"
  | http path status body =>
      "request to '" ++ path ++ "' failed with " ++ status.render ++ ": " ++ body
  | transport path => "could not reach '" ++ path ++ "'"
  | invalidConfig reason => "invalid configuration '" ++ reason.message w ++ "'"
  | invalidResponse path flaw => "invalid response from '" ++ path ++ "': " ++ flaw.message w

/-- The error that a status other than success stands for. -/
def ofStatus (path : String) (status : Status) (body : String) : Error :=
  if status = 404 then notFound path
  else if status = 409 then conflict path
  else http path status body

def isNotFound : Error → Bool
  | notFound _ => true
  | _ => false

def isConflict : Error → Bool
  | conflict _ => true
  | _ => false

end Error

end VlanBinding.Rest
