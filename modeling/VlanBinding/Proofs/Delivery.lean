import VlanBinding.Proofs.Bytes
import VlanBinding.Proofs.Prediction

/-!
Notifications that arrive as requests. Main statement: a request that cannot be understood, or whose
body is about another port than its path, is answered without a call; any other one makes exactly
the calls of the notification that it carries, and its reply tells how these ended.
-/

namespace VlanBinding

open VlanBinding.Integration VlanBinding.Json VlanBinding.Service

/-! ## Paths -/

namespace Service

/-- The part of a path behind the ports names one, percent-encoded. -/
theorem Endpoint.ofPath?_port {name : List Char} (hname : name ≠ []) (hpart : '/' ∉ name) :
    ofPath? ("/api/ports/".toList ++ name) = some (.port name) := by
  have hsplit : Text.splitAt '/' ("/api/ports/".toList ++ name) =
      [[], "api".toList, "ports".toList, name] := by
    rw [show "/api/ports/".toList ++ name =
      [] ++ '/' :: ("api".toList ++ '/' :: ("ports".toList ++ '/' :: name)) from rfl]
    rw [Text.splitAt_append List.not_mem_nil, Text.splitAt_append (by decide),
      Text.splitAt_append (by decide), Text.splitAt_of_not_mem hpart]
  cases name with
  | nil => exact absurd rfl hname
  | cons c cs =>
      rw [ofPath?, hsplit]
      rfl

/-! ## What a request tells -/

/-- The requests that tell of ports, each with the part of its path that names the port. -/
inductive Hook where
  | created
  | updated (name : List Char)
  | deleted (name : List Char)
deriving DecidableEq, Repr

/-- The request is one of this kind, by its method and its path. -/
def Request.Calls (r : Request) : Hook → Prop
  | .created => r.method = "POST" ∧ r.path = "/api/ports".toList
  | .updated name =>
      r.method = "PUT" ∧ r.path = "/api/ports/".toList ++ name ∧ name ≠ [] ∧ '/' ∉ name
  | .deleted name =>
      r.method = "DELETE" ∧ r.path = "/api/ports/".toList ++ name ∧ name ≠ [] ∧ '/' ∉ name

/-- The value in the body, if it is JSON, by its type and in fact, is not too large, and has the
wanted shape. -/
def Request.carried? {α : Type} (decoder : Decoder α) (r : Request) : Option α :=
  if r.saysJson = true ∧ r.body.size ≤ maxBody then (decodeBytes decoder r.body).toOption else none

/-- The port has the id of the path, or none of its own. -/
def Suits (id : String) (port : Neutron.Port) : Prop := port.id = "" ∨ port.id = id

instance (id : String) (port : Neutron.Port) : Decidable (Suits id port) :=
  inferInstanceAs (Decidable (_ ∨ _))

/-- The port, with the id of the path if it has none of its own. -/
def withId (id : String) (port : Neutron.Port) : Neutron.Port :=
  if port.id = "" then { port with id } else port

/-- What is made of a request. -/
inductive Reading where
  /-- its path, its type, its size or its body does not allow to understand it -/
  | garbled
  /-- its body is about another port than its path -/
  | mismatched
  | told (n : Notification)
deriving DecidableEq, Repr

def Hook.reading (r : Request) : Hook → Reading
  | .created =>
    match r.carried? Neutron.PortBody.decoder with
    | none => .garbled
    | some body => .told (.created body.port)
  | .updated name =>
    match Http.Percent.decodeText? name, r.carried? Neutron.PortUpdateBody.decoder with
    | some id, some body =>
      if Suits id body.port ∧ Suits id body.previousPort then
        .told (.updated (withId id body.port) (withId id body.previousPort))
      else .mismatched
    | _, _ => .garbled
  | .deleted name =>
    match Http.Percent.decodeText? name, r.carried? Neutron.PortBody.decoder with
    | some id, some body =>
      if Suits id body.port then .told (.deleted (withId id body.port)) else .mismatched
    | _, _ => .garbled

/-- What the body is taken for where its type and its size do not stand against it. -/
theorem content_of_fits {α : Type} (decoder : Decoder α) {r : Request}
    (hfits : r.saysJson = true ∧ r.body.size ≤ maxBody) :
    content decoder r =
      match decodeBytes decoder r.body with
      | .ok value => .ok value
      | .error .notJson => .error .badRequest
      | .error (.data _) => .error .wrongShape := by
  have hjson : ¬ (!r.saysJson) = true := by simp [hfits.1]
  exact (if_neg hjson).trans (if_neg (Nat.not_lt.mpr hfits.2))

theorem content_of_carried? {α : Type} {decoder : Decoder α} {r : Request} {body : α}
    (hbody : r.carried? decoder = some body) : content decoder r = .ok body := by
  rw [Request.carried?] at hbody
  split at hbody
  · rename_i hfits
    rw [content_of_fits decoder hfits]
    cases hdecoded : decodeBytes decoder r.body with
    | ok value =>
        rw [hdecoded] at hbody
        exact congrArg Except.ok (Option.some.inj hbody)
    | error e =>
        rw [hdecoded] at hbody
        cases hbody
  · cases hbody

theorem content_of_garbled {α : Type} {decoder : Decoder α} {r : Request}
    (hbody : r.carried? decoder = none) :
    ∃ reply, content decoder r = .error reply ∧ reply.body = .rejected := by
  rw [Request.carried?] at hbody
  split at hbody
  · rename_i hfits
    rw [content_of_fits decoder hfits]
    cases hdecoded : decodeBytes decoder r.body with
    | ok value =>
        rw [hdecoded] at hbody
        cases hbody
    | error e => cases e <;> exact ⟨_, rfl, rfl⟩
  · rename_i hfits
    rw [content]
    split
    · exact ⟨_, rfl, rfl⟩
    · rename_i hjson
      have hlarge : maxBody < r.body.size :=
        Nat.not_le.mp fun hsize => hfits ⟨by simpa using hjson, hsize⟩
      rw [if_pos hlarge]
      exact ⟨_, rfl, rfl⟩

theorem portOf_of_suits {id : String} {port : Neutron.Port} (h : Suits id port) :
    portOf id port = .ok (withId id port) := by
  have hid : (withId id port).id = id := by
    rw [withId]
    split
    · rfl
    · rename_i hsome
      exact h.resolve_left hsome
  exact if_pos hid

theorem portOf_of_not_suits {id : String} {port : Neutron.Port} (h : ¬ Suits id port) :
    portOf id port = .error (.invalidPort id (.otherPort port.id)) := by
  obtain ⟨hsome, hother⟩ := not_or.mp h
  simp [portOf, hsome, hother]

/-! ## Extracting -/

/-- What the service takes from a request, by what is made of it. -/
def Reading.Gives (taken : Except Reply (Except Error Notification)) : Reading → Prop
  | garbled => ∃ reply, taken = .error reply ∧ reply.body = .rejected
  | mismatched => ∃ id fault, taken = .ok (.error (.invalidPort id fault))
  | told n => taken = .ok (.ok n)

variable {name : List Char} {r : Request}

theorem notification_created (r : Request) :
    (Hook.created.reading r).Gives (notification .ports r) := by
  rw [Hook.reading]
  cases hbody : r.carried? Neutron.PortBody.decoder with
  | none =>
      obtain ⟨reply, hcontent, hrejected⟩ := content_of_garbled hbody
      refine ⟨reply, ?_, hrejected⟩
      simp only [notification, hcontent]
      rfl
  | some body =>
      have htaken : notification .ports r = .ok (.ok (.created body.port)) := by
        simp only [notification, content_of_carried? hbody]
        rfl
      exact htaken

theorem notification_updated (hmethod : r.method = "PUT") :
    ((Hook.updated name).reading r).Gives (notification (.port name) r) := by
  rw [Hook.reading]
  cases hname : Http.Percent.decodeText? name with
  | none =>
      refine ⟨.badRequest, ?_, rfl⟩
      simp only [notification, named, hname]
      rfl
  | some id =>
      cases hbody : r.carried? Neutron.PortUpdateBody.decoder with
      | none =>
          obtain ⟨reply, hcontent, hrejected⟩ := content_of_garbled hbody
          refine ⟨reply, ?_, hrejected⟩
          simp only [notification, named, hname, hmethod, hcontent]
          rfl
      | some body =>
          have htaken : notification (.port name) r = .ok (do
              let port ← portOf id body.port
              let previous ← portOf id body.previousPort
              pure (.updated port previous)) := by
            simp only [notification, named, hname, hmethod, content_of_carried? hbody]
            rfl
          by_cases hport : Suits id body.port
          · by_cases hprevious : Suits id body.previousPort
            · rw [portOf_of_suits hport, portOf_of_suits hprevious] at htaken
              simp only [hport, hprevious, and_self, ↓reduceIte]
              exact htaken
            · rw [portOf_of_suits hport, portOf_of_not_suits hprevious] at htaken
              simp only [hprevious, and_false, ↓reduceIte]
              exact ⟨_, _, htaken⟩
          · rw [portOf_of_not_suits hport] at htaken
            simp only [hport, false_and, ↓reduceIte]
            exact ⟨_, _, htaken⟩

theorem notification_deleted (hmethod : r.method = "DELETE") :
    ((Hook.deleted name).reading r).Gives (notification (.port name) r) := by
  have hother : r.method ≠ "PUT" := by
    rw [hmethod]
    decide
  rw [Hook.reading]
  cases hname : Http.Percent.decodeText? name with
  | none =>
      refine ⟨.badRequest, ?_, rfl⟩
      simp only [notification, named, hname]
      rfl
  | some id =>
      cases hbody : r.carried? Neutron.PortBody.decoder with
      | none =>
          obtain ⟨reply, hcontent, hrejected⟩ := content_of_garbled hbody
          refine ⟨reply, ?_, hrejected⟩
          simp only [notification, named, hname, hother, hcontent]
          rfl
      | some body =>
          have htaken : notification (.port name) r =
              .ok (Notification.deleted <$> portOf id body.port) := by
            simp only [notification, named, hname, hother, content_of_carried? hbody]
            rfl
          by_cases hport : Suits id body.port
          · rw [portOf_of_suits hport] at htaken
            simp only [hport, ↓reduceIte]
            exact htaken
          · rw [portOf_of_not_suits hport] at htaken
            simp only [hport, ↓reduceIte]
            exact ⟨_, _, htaken⟩

/-! ## Replying -/

/-- Where a request that tells of a port goes, and what is taken from it there. -/
theorem respond_of_calls (s : Service) {hook : Hook} (hr : r.Calls hook) :
    ∃ taken, (hook.reading r).Gives taken ∧
      s.respond r =
        match taken with
        | .error reply => pure reply
        | .ok n => s.notify n := by
  cases hook with
  | created =>
      obtain ⟨hmethod, hpath⟩ := hr
      have hroute : Endpoint.ofPath? r.path = some .ports := by
        rw [hpath]
        decide +kernel
      refine ⟨_, notification_created r, ?_⟩
      have hserved : s.respond r = s.serve .ports r := by
        simp [respond, hroute, Endpoint.methods, hmethod]
      exact hserved
  | updated name =>
      obtain ⟨hmethod, hpath, hname, hpart⟩ := hr
      have hroute : Endpoint.ofPath? r.path = some (.port name) := by
        rw [hpath]
        exact Endpoint.ofPath?_port hname hpart
      refine ⟨_, notification_updated hmethod, ?_⟩
      have hserved : s.respond r = s.serve (.port name) r := by
        simp [respond, hroute, Endpoint.methods, hmethod]
      exact hserved
  | deleted name =>
      obtain ⟨hmethod, hpath, hname, hpart⟩ := hr
      have hroute : Endpoint.ofPath? r.path = some (.port name) := by
        rw [hpath]
        exact Endpoint.ofPath?_port hname hpart
      refine ⟨_, notification_deleted hmethod, ?_⟩
      have hserved : s.respond r = s.serve (.port name) r := by
        simp [respond, hroute, Endpoint.methods, hmethod]
      exact hserved

section Running

variable {α σ : Type} {answers : Responder σ}

theorem run_attempt (p : Plan α) (t : σ) :
    p.attempt.run answers t =
      ⟨.ok (p.run answers t).result, (p.run answers t).exchanges, (p.run answers t).state⟩ := by
  induction p generalizing t with
  | done result => rfl
  | call c next ih => simp only [Plan.attempt, Plan.run_call, ih]

/-- What is heard of a notification is how its handling ended. -/
theorem run_notify (s : Service) (n : Notification) (t : σ) :
    let handled := (s.integrator.handle n).run answers t
    (s.notify (.ok n)).run answers t =
      ⟨.ok (replyTo (fun () => .noContent) handled.result), handled.exchanges,
        handled.state⟩ := by
  have hplan : s.notify (.ok n) = (s.integrator.handle n).attempt.bind fun ended =>
      .done (.ok (replyTo (fun () => .noContent) ended)) := by
    refine congrArg (s.integrator.handle n).attempt.bind (funext fun ended => ?_)
    cases ended <;> rfl
  simp only [hplan, Plan.run_bind, run_attempt, Plan.run_done, List.append_nil]

/-- The reply to a notification is empty if it was handled, and else tells the error by its
status. -/
theorem replyTo_cases (result : Except Error Unit) :
    let reply := replyTo (fun () => Reply.noContent) result
    (reply.status = 204 ∧ reply.body = .empty ↔ result = .ok ()) ∧
      ∀ e, result = .error e →
        reply.status =
          match e with
          | .nodeNotFound _ => 404
          | e => if e.isPrecondition then 422 else 500 := by
  cases result with
  | ok value => exact ⟨iff_of_true ⟨rfl, rfl⟩ rfl, fun e he => by cases he⟩
  | error failure =>
      constructor
      · refine iff_of_false ?_ (by simp)
        rintro ⟨-, hbody⟩
        cases hbody
      · intro e he
        cases he
        rfl

end Running

/-- A request that tells of a port makes the calls of its notification and leaves the state that
these leave, and its reply tells how they ended. One that cannot be understood, or is about another
port than it says, is answered without a call. -/
theorem respond_refines_handle {σ : Type} (answers : Responder σ) (s : Service) (t : σ)
    {r : Request} {hook : Hook} (hr : r.Calls hook) :
    let run := (s.respond r).run answers t
    ∃ reply, run.result = .ok reply ∧
      match hook.reading r with
      | .garbled => run.exchanges = [] ∧ run.state = t ∧ reply.body = .rejected
      | .mismatched => run.exchanges = [] ∧ run.state = t ∧ reply.status = 422
      | .told n =>
        let handled := (s.integrator.handle n).run answers t
        run.exchanges = handled.exchanges ∧ run.state = handled.state ∧
          (reply.status = 204 ∧ reply.body = .empty ↔ handled.result = .ok ()) ∧
          ∀ e, handled.result = .error e →
            reply.status =
              match e with
              | .nodeNotFound _ => 404
              | e => if e.isPrecondition then 422 else 500 := by
  intro run
  obtain ⟨taken, htaken, hplan⟩ := respond_of_calls s hr
  cases hreading : hook.reading r with
  | garbled =>
      rw [hreading] at htaken
      obtain ⟨reply, rfl, hrejected⟩ := htaken
      have hrun : run = ⟨.ok reply, [], t⟩ := congrArg (Plan.run answers · t) hplan
      exact ⟨reply, by rw [hrun], by rw [hrun], by rw [hrun], hrejected⟩
  | mismatched =>
      rw [hreading] at htaken
      obtain ⟨id, fault, rfl⟩ := htaken
      have hrun : run = ⟨.ok (.ofError (.invalidPort id fault)), [], t⟩ :=
        congrArg (Plan.run answers · t) hplan
      exact ⟨_, by rw [hrun], by rw [hrun], by rw [hrun], rfl⟩
  | told n =>
      rw [hreading] at htaken
      obtain rfl : taken = .ok (.ok n) := htaken
      have hrun : run = _ :=
        (congrArg (Plan.run answers · t) hplan).trans (run_notify s n t)
      exact ⟨_, by rw [hrun], by rw [hrun], by rw [hrun], replyTo_cases _⟩

end Service

/-! ## A port that goes -/

namespace Lab

/-- The body leaves the id of the port to the path. -/
def withdraw : Request where
  method := "DELETE"
  path := "/api/ports/port%2D1".toList
  contentType := some "application/json"
  body := (Neutron.PortBody.toJson ⟨{ adminPort with id := "" }⟩).compact.toUTF8

theorem withdraw_calls : withdraw.Calls (.deleted "port%2D1".toList) :=
  ⟨rfl, by decide +kernel, by decide, by decide⟩

theorem withdraw_reading :
    (Hook.deleted "port%2D1".toList).reading withdraw = .told (.deleted adminPort) := by
  decide +kernel

end Lab

namespace Service

/-- The interface of the port is looked for and not found, and the reply is empty. -/
theorem withdrawn_as_deleted :
    let run := ((withSource Lab.source "").respond Lab.withdraw).run Controller.answer Lab.start
    run.exchanges.map (·.call.name) =
        ["get_ports", "get_project", "get_virtual_machine_interface"] ∧
      ∃ reply, run.result = .ok reply ∧ reply.status = 204 ∧ reply.body = .empty := by
  have hrefines := respond_refines_handle Controller.answer (withSource Lab.source "")
    Lab.start Lab.withdraw_calls
  rw [Lab.withdraw_reading] at hrefines
  obtain ⟨reply, hreply, hexchanges, -, hiff, -⟩ := hrefines
  have hcalls : (((withSource Lab.source "").integrator.handle (.deleted Lab.adminPort)).run
      Controller.answer Lab.start).exchanges.map (·.call.name) =
        ["get_ports", "get_project", "get_virtual_machine_interface"] := by decide +kernel
  have hhandled : (((withSource Lab.source "").integrator.handle (.deleted Lab.adminPort)).run
      Controller.answer Lab.start).result = .ok () := by decide +kernel
  exact ⟨(congrArg (List.map _) hexchanges).trans hcalls, reply, hreply, hiff.mpr hhandled⟩

end Service

end VlanBinding
