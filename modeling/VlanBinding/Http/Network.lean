import VlanBinding.Http.Status
import VlanBinding.Http.Url
import VlanBinding.Json.Basic

/-!
Requests, responses, and a network of servers. Where a server can be reached it answers, and the
n-th request is answered with the n-th reply laid out, whichever server it goes to; a redirect is
followed. Main statement: whatever redirects a request takes, its token goes with it.
-/

namespace VlanBinding.Http

inductive Method where
  | get
  | post
  | put
  | delete
deriving DecidableEq, Repr

def Method.name : Method → String
  | get => "GET"
  | post => "POST"
  | put => "PUT"
  | delete => "DELETE"

structure Request where
  method : Method
  url : Url
  /-- sent as X-Auth-Token -/
  token : Option String := none
  body : Option Json := none
deriving Repr

structure Response where
  status : Status := 200
  headers : List (String × String) := []
  body : String := ""
deriving DecidableEq, Repr

/-- May the text be the value of a header? -/
def isHeaderValue (text : String) : Bool :=
  text.toList.all fun c => c == '\t' || (0x20 ≤ c.toNat && c.toNat != 0x7f)

/-- The first header of a name in lower case. -/
def Response.rawHeader? (name : String) (r : Response) : Option String :=
  (r.headers.find? fun h => h.1.toLower == name).map Prod.snd

/-- The first header of a name in lower case, unless it has characters outside ASCII. -/
def Response.header? (name : String) (r : Response) : Option String :=
  (r.rawHeader? name).bind fun text =>
    if text.toList.all fun c => c == '\t' || (0x20 ≤ c.toNat && c.toNat < 0x7f) then some text
    else none

inductive Reply where
  | response (response : Response)
  /-- no answer comes -/
  | drop
deriving DecidableEq, Repr

/-- The response in a reply, if there is one. -/
def Reply.response? : Reply → Option Response
  | response r => some r
  | drop => none

/-! ## Redirects -/

/-- What a client does about a response. -/
inductive Move where
  /-- it is the answer -/
  | accept
  | follow (request : Request)
  /-- it leads to no web service -/
  | abandon
deriving Repr

/-- A redirect says where to ask instead. Some ask for no more than a look there. -/
def Request.move (r : Request) (response : Response) : Move :=
  if !response.status.isRedirect then .accept
  else
    match (response.rawHeader? "location").map r.url.resolve with
    | none | some .nowhere => .accept
    | some .elsewhere => .abandon
    | some (.url url) =>
      if response.status = 307 ∨ response.status = 308 then .follow { r with url }
      else .follow { r with method := .get, url, body := none }

theorem Request.token_of_move {r next : Request} {response : Response}
    (h : r.move response = .follow next) : next.token = r.token := by
  rw [move] at h
  split at h
  · cases h
  · split at h
    · cases h
    · cases h
    · cases h
    · split at h <;> (cases h; rfl)

/-- A redirect that was followed, and the request it led to. -/
structure Detour where
  response : Response
  request : Request
deriving Repr

/-- A request that went out, and what came of it in the end. -/
structure Exchange where
  request : Request
  detours : List Detour := []
  reply : Reply
deriving Repr

/-- How many redirects are followed for one request. -/
def maxDetours : Nat := 9

/-- What the servers say when nothing is laid out any more. -/
def exhausted : Response := { status := 500, body := "script exhausted" }

/-- What becomes of a request that arrives, and the replies that are left. -/
def Request.deliver (reaches : Url → Bool) : Nat → List Reply → Request → Exchange × List Reply
  | _, [], r => ({ request := r, reply := .response exhausted }, [])
  | _, .drop :: rest, r => ({ request := r, reply := .drop }, rest)
  | limit, .response response :: rest, r =>
    match r.move response, limit with
    | .accept, _ => ({ request := r, reply := .response response }, rest)
    | .follow next, limit + 1 =>
      if reaches next.url then
        let (x, rest) := next.deliver reaches limit rest
        ({ x with request := r, detours := ⟨response, next⟩ :: x.detours }, rest)
      else ({ request := r, reply := .drop }, rest)
    | .follow _, 0 | .abandon, _ => ({ request := r, reply := .drop }, rest)

theorem Request.request_deliver (reaches : Url → Bool) (limit : Nat) (replies : List Reply)
    (r : Request) : (r.deliver reaches limit replies).1.request = r := by
  fun_cases deliver reaches limit replies r <;> rfl

/-- The token that a request shows is shown wherever it is sent on to. -/
theorem Request.token_of_detour {reaches : Url → Bool} {limit : Nat} {replies : List Reply}
    {r : Request} {d : Detour} (hd : d ∈ (r.deliver reaches limit replies).1.detours) :
    d.request.token = r.token := by
  fun_induction deliver reaches limit replies r with
  | case4 response rest r next limit hmove hreaches x left hx ih =>
    rw [hx] at ih
    rcases List.mem_cons.mp hd with rfl | hd
    · exact token_of_move hmove
    · exact (ih hd).trans (token_of_move hmove)
  | _ => simp at hd

/-! ## Networks -/

structure Network where
  /-- where a server answers -/
  reaches : Url → Bool := fun _ => false
  /-- what the coming requests are answered with -/
  replies : List Reply := []
  /-- what went over the network so far, in order -/
  log : List Exchange := []

/-- Sends a request; without a response if nobody answers. -/
def Network.send (r : Request) (n : Network) : Option Response × Network :=
  if n.reaches r.url && r.token.all isHeaderValue then
    let (x, replies) := r.deliver n.reaches maxDetours n.replies
    (x.reply.response?, { n with replies, log := n.log ++ [x] })
  else (none, n)

end VlanBinding.Http
