import VlanBinding.Http.Status
import VlanBinding.Integration.Error
import VlanBinding.Json.Printer

/-!
How the service replies.
-/

namespace VlanBinding.Service

/-- What a reply carries. -/
inductive Body where
  | empty
  | json (value : Json) (pretty : Bool)
  | failed (error : Integration.Error)
  /-- there is no topology to inspect -/
  | disabled
  /-- the request cannot be understood -/
  | rejected
deriving Repr

structure Reply where
  status : Http.Status
  body : Body
deriving Repr

namespace Reply

def failure (text : String) : String := "Something went wrong: " ++ text

/-- The text of the body, unless the request was not understood. -/
def text? (w : Wording) (r : Reply) : Option String :=
  match r.body with
  | .empty => some ""
  | .json value pretty => some (if pretty then value.pretty else value.compact)
  | .failed e => some (failure (e.message w))
  | .disabled => some (failure "device manager integration is disabled")
  | .rejected => none

def ok (value : Json) (pretty : Bool) : Reply := ⟨200, .json value pretty⟩

def noContent : Reply := ⟨204, .empty⟩

def badRequest : Reply := ⟨400, .rejected⟩

def notFound : Reply := ⟨404, .empty⟩

def notAllowed : Reply := ⟨405, .empty⟩

def tooLarge : Reply := ⟨413, .rejected⟩

def unsupported : Reply := ⟨415, .rejected⟩

def wrongShape : Reply := ⟨422, .rejected⟩

def disabled : Reply := ⟨503, .disabled⟩

/-- The status that tells of an error: unknown hosts, wrong data, and services that fail. -/
def statusOf (e : Integration.Error) : Http.Status :=
  match e with
  | .nodeNotFound _ => 404
  | e => if e.isPrecondition then 422 else 500

def ofError (e : Integration.Error) : Reply := ⟨statusOf e, .failed e⟩

/-- The reply without its body. -/
def bodiless (r : Reply) : Reply := { r with body := .empty }

end Reply

end VlanBinding.Service
