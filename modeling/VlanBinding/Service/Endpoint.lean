import VlanBinding.Http.Form
import VlanBinding.Service.Status

/-!
What the service can be asked: the paths that it knows, the methods that each of them allows, and
what is taken from a path and from a query.
-/

namespace VlanBinding.Service

open VlanBinding.Http

/-- What a path leads to. The part that names a port or a host is as it stands in the path. -/
inductive Endpoint where
  | status
  | ports
  | port (id : List Char)
  | topology (host : List Char)
  | bindings (host : List Char)
deriving DecidableEq, Repr

namespace Endpoint

/-- Where a path leads; a name in it must not be empty. -/
def ofPath? (path : List Char) : Option Endpoint :=
  match Text.splitAt '/' path with
  | [[], api, name] =>
    if api ≠ "api".toList then none
    else if name = "status".toList then some status
    else if name = "ports".toList then some ports
    else none
  | [[], api, name, c :: cs] =>
    if api ≠ "api".toList then none
    else if name = "ports".toList then some (port (c :: cs))
    else if name = "topology".toList then some (topology (c :: cs))
    else if name = "bindings".toList then some (bindings (c :: cs))
    else none
  | _ => none

/-- Methods that an endpoint allows. -/
def methods : Endpoint → List String
  | ports => ["POST"]
  | port _ => ["PUT", "DELETE"]
  | status | topology _ | bindings _ => ["GET", "HEAD"]

end Endpoint

/-- The layout that a query asks for. It may say so once at most, in one of two words. -/
def Layout.ofQuery? (query : List Char) : Option Layout :=
  match (Form.decodePairs query).filter (·.1 = some "pretty") with
  | [] => some {}
  | [(_, some "true")] => some ⟨some true⟩
  | [(_, some "false")] => some ⟨some false⟩
  | _ => none

end VlanBinding.Service
