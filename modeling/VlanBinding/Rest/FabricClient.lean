import VlanBinding.Fabric.Object
import VlanBinding.Json.Printer
import VlanBinding.Rest.Session
import VlanBinding.Text.Blank

/-!
The client of the fabric controller's REST API. Objects travel inside an object with one member
named for their kind; that something is not found is an answer where something was looked for.
-/

namespace VlanBinding.Rest

open VlanBinding.Fabric VlanBinding.Http VlanBinding.Json

/-- The certificates that a server has to show, in a file. -/
structure CertificateFile where
  path : String
  /-- what is in it: `none` if it cannot be read, else whether it is a certificate -/
  holdsCertificate : Option Bool
deriving DecidableEq, Repr

/-- How the fabric controller is reached. -/
structure FabricClient where
  baseUrl : String
  credentials : Credentials := .anonymous
  certificates : Option CertificateFile := none
deriving Repr

namespace FabricClient

/-- Why the client cannot be set up, if it cannot. -/
def misconfiguration? (c : FabricClient) : Option Misconfiguration :=
  c.certificates.bind fun file =>
    match file.holdsCertificate with
    | none => some (.unreadable file.path)
    | some false => some (.noCertificate file.path)
    | some true => none

/-- Sets the client up, unless it is already. -/
def connect (c : FabricClient) : Action Unit := do
  if !(← get).connected then
    match c.misconfiguration? with
    | some reason => throw (.invalidConfig reason)
    | none => modify fun s => { s with connected := true }

/-- Sends a request and gives back the JSON of a successful answer; nothing at all counts as
null. -/
def request (c : FabricClient) (method : Method) (path : String)
    (query : List (String × String) := []) (body : Option Json := none) : Action Json := do
  c.connect
  let response ← c.credentials.send path method (joinUrl c.baseUrl path) query body
  if !response.status.isSuccess then throw (.ofStatus path response.status response.body)
  if Text.isBlank response.body then pure .null
  else
    match parse? response.body with
    | some value => pure value
    | none => throw (.invalidResponse path .notJson)

/-- That something is not found becomes the absence of a value. -/
def orAbsent {α : Type} (action : Action (Option α)) : Action (Option α) :=
  tryCatch action fun e => if e.isNotFound then pure none else throw e

/-- An object inside the member of its kind. -/
def wrap {α : Type} [IsObject α] (object : α) : Json :=
  Json.obj [((IsObject.resource α).name, (IsObject.toJson object).sorted)]

/-- The object inside the member of its kind. -/
def unwrap (α : Type) [IsObject α] (path : String) (value : Json) : Action α :=
  match value.member? (IsObject.resource α).name with
  | none => throw (.invalidResponse path (.missing ((IsObject.resource α).name ++ " key")))
  | some inner =>
    match decodeValue IsObject.decoder inner with
    | .ok object => pure object
    | .error e => throw (.invalidResponse path (.ofDecodeError e))

/-- The uuid of the object of a name. -/
def idOf (c : FabricClient) (r : Resource) (fqName : FqName) : Action (Option String) := do
  let path := "fqname-to-id"
  let body := Json.obj [("fq_name", .strings fqName), ("type", .str r.name)]
  orAbsent do
    match (← c.request .post path [] (some body)).member? "uuid" with
    | some (.str uuid) => pure (some uuid)
    | _ => throw (.invalidResponse path (.missing "uuid"))

/-- The path of an object. -/
def objectPath (r : Resource) (uuid : String) : String := r.name ++ "/" ++ uuid

def read (α : Type) [IsObject α] (c : FabricClient) (uuid : String) : Action (Option α) :=
  let path := objectPath (IsObject.resource α) uuid
  orAbsent do some <$> unwrap α path (← c.request .get path)

def readByName (α : Type) [IsObject α] (c : FabricClient) (fqName : FqName) :
    Action (Option α) := do
  match ← c.idOf (IsObject.resource α) fqName with
  | some uuid => c.read α uuid
  | none => pure none

/-- The condition that a field has a value. -/
def filterOf (field value : String) : String := field ++ "==" ++ (Json.str value).compact

/-- The objects of a kind whose field has a value, with all that is known of them. -/
def list (α : Type) [IsObject α] (c : FabricClient) (field value : String) :
    Action (List α) := do
  let path := (IsObject.resource α).collection
  let query := [("detail", "true"), ("filters", filterOf field value)]
  match (← c.request .get path query).member? path with
  | some (.arr items) => items.mapM (unwrap α path)
  | _ => pure []

/-- Creates an object and gives back the uuid that it got. -/
def create {α : Type} [IsObject α] (c : FabricClient) (object : α) : Action String := do
  let r := IsObject.resource α
  let value ← c.request .post r.collection [] (some (wrap object))
  match (value.member? r.name).bind (·.member? "uuid") with
  | some (.str uuid) => pure uuid
  | _ => throw (.invalidResponse r.collection (.missing "uuid"))

def update {α : Type} [IsObject α] (c : FabricClient) (object : α) : Action Unit := do
  let r := IsObject.resource α
  match IsObject.uuid? object with
  | none => throw (.invalidConfig (.noUuid r.name))
  | some uuid =>
    let _ ← c.request .put (objectPath r uuid) [] (some (wrap object))

def delete (c : FabricClient) (r : Resource) (uuid : String) : Action Unit := do
  let _ ← c.request .delete (objectPath r uuid)

def deleteByName (c : FabricClient) (r : Resource) (fqName : FqName) : Action Unit := do
  match ← c.idOf r fqName with
  | some uuid => c.delete r uuid
  | none => throw (.notFound (":".intercalate fqName))

end FabricClient

end VlanBinding.Rest
