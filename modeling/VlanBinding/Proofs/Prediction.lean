import VlanBinding.Proofs.Cabling
import VlanBinding.Proofs.Footprint

/-!
The inspection of a host predicts what is made there. Asking for the bindings of a host changes
nothing, and tells the bindings that the interface of a port on that host is then created with, or
else the very error that the creation ends in.
-/

namespace VlanBinding

open VlanBinding.Fabric VlanBinding.Integration VlanBinding.Json VlanBinding.Schema
open VlanBinding.Service

theorem Integration.Plan.Within.attempt {α : Type} {allowed : Call → Prop} {p : Plan α}
    (hp : p.Within allowed) : p.attempt.Within allowed := by
  induction p with
  | done r => trivial
  | call c next ih => exact ⟨hp.1, fun answer => ih answer (hp.2 answer)⟩

/-! ## The bindings that a reply tells -/

namespace Fabric

theorem KeyValuePair.decode_sorted (p : KeyValuePair) :
    KeyValuePair.decoder (Source.ofJson p.toJson.sorted) = .ok p := by
  have hsorted : p.toJson.sorted = .obj [("key", .str p.key), ("value", .str p.value)] := rfl
  rw [hsorted]
  rfl

theorem KeyValuePair.decode_items (pairs : List KeyValuePair) :
    Decoder.items KeyValuePair.decoder
      (Source.ofItems (Json.sortedItems (pairs.map KeyValuePair.toJson))) = .ok pairs := by
  induction pairs with
  | nil => rfl
  | cons p rest ih =>
      simp only [List.map_cons, Json.sortedItems, Source.ofItems, Decoder.items,
        KeyValuePair.decode_sorted, ih]
      rfl

/-- Pairs that were written with sorted members are read back. -/
theorem KeyValuePairs.decode_sorted (k : KeyValuePairs) :
    decodeValue KeyValuePairs.decoder k.toJson.sorted = .ok k := by
  have hlist : Decoder.list KeyValuePair.decoder (Source.ofJson
      (.arr (Json.sortedItems (k.pairs.map KeyValuePair.toJson)))) = .ok k.pairs := by
    simp only [Source.ofJson, Decoder.list, KeyValuePair.decode_items]
    rfl
  have hsorted : k.toJson.sorted =
      .obj [("key_value_pair",
        .arr (Json.sortedItems (k.pairs.map KeyValuePair.toJson)))] := rfl
  rw [decodeValue, hsorted, KeyValuePairs.decoder, Source.ofJson]
  simp only [Source.ofMembers, Decoder.record, List.map_cons, List.map_nil, Decoder.keyed,
    Record.ofMembers, Record.readMembers, Record.readMember, KeyValuePairs.schema, defaulted,
    Field.defaulted]
  simp [hlist, Except.map, Ending.check, Record.missing?]

end Fabric

/-- The bindings that a reply tells as key-value pairs. -/
def Service.Reply.pairs? (reply : Reply) : Option KeyValuePairs :=
  match reply.body with
  | .json value _ => do
    let pairs ← value.member? "key_value_pairs"
    (decodeValue KeyValuePairs.decoder pairs).toOption
  | _ => none

namespace Service

variable (source : LinkSource) (startedAt : String) {s t : Controller} {r : Request}
variable {host : String}

/-- The JSON about the bindings of a host. -/
def bindingsOf (host : String) (profile : Profile) : Json :=
  .obj [("host", .str host), ("profile", profile.toJson),
    ("key_value_pairs", profile.pairs.toJson)]

/-- The reply that something comes to, or the error that kept it from being done. -/
def replyTo {α : Type} (tell : α → Reply) : Except Error α → Reply
  | .ok a => tell a
  | .error e => .ofError e

theorem status_ofError (e : Error) : (Reply.ofError e).status ≠ 200 := by
  rw [Reply.ofError]
  simp only [Reply.statusOf]
  split
  · decide
  · split <;> decide

theorem pairs?_bindingsOf (host : String) (profile : Profile) (pretty : Bool) :
    (Reply.ok (bindingsOf host profile).sorted pretty).pairs? = some profile.pairs := by
  have hmember : (bindingsOf host profile).sorted.member? "key_value_pairs" =
      some profile.pairs.toJson.sorted := rfl
  simp only [Reply.pairs?, Reply.ok, hmember]
  simp [KeyValuePairs.decode_sorted, Except.toOption]

/-! ## Looking and notifying -/

/-- The request asks for the bindings of a host. -/
structure Request.AsksBindings (r : Request) (host : String) : Prop where
  method : r.method = "GET"
  path : ∃ name, Endpoint.ofPath? r.path = some (.bindings name) ∧ named name = .ok host
  layout : ∃ layout, layoutOf r = .ok layout

/-- The request tells that a port was created. -/
structure Request.TellsCreated (r : Request) (port : Neutron.Port) : Prop where
  method : r.method = "POST"
  path : Endpoint.ofPath? r.path = some .ports
  body : content Neutron.PortBody.decoder r = .ok ⟨port⟩

/-- A look at the bindings of a host only reads, and tells of its profile. -/
theorem look_bindings (hlook : r.AsksBindings host) (s : Controller) :
    let plan := (withSource source startedAt).respond r
    plan.Within (fun c => c.isWrite = false) ∧
      ∃ layout : Layout, plan.perform Controller.answer s =
        (.ok (replyTo (fun profile => .ok (bindingsOf host profile).sorted layout.isPretty)
          ((Profile.ofHost source host).perform Controller.answer s).1), s) := by
  intro plan
  obtain ⟨name, hpath, hname⟩ := hlook.path
  obtain ⟨layout, hlayout⟩ := hlook.layout
  have hplan : plan = (bindingsJson source host).attempt >>= fun found =>
      pure (replyTo (fun value => .ok value.sorted layout.isPretty) found) := by
    simp only [plan, respond, hpath, Endpoint.methods, hlook.method, serve, inspect, hname,
      hlayout]
    refine congrArg ((bindingsJson source host).attempt >>= ·) (funext fun found => ?_)
    cases found <;> rfl
  have hreads : (bindingsJson source host).Within fun c => c.isWrite = false :=
    ((Profile.ofHost_strict source host).within.mono
      fun c hc => Call.isWrite_of_asksLinks hc).bind fun _ => trivial
  obtain ⟨result, hresult, -⟩ := Controller.perform_ofHost_of_groups (s := s) rfl rfl source host
  have hattempt : (bindingsJson source host).attempt.perform Controller.answer s = _ :=
    Plan.perform_attempt _ s
  rw [hplan]
  refine ⟨hreads.attempt.bind fun _ => trivial, layout, ?_⟩
  rw [Plan.perform_bind_ok hattempt, hresult]
  cases result with
  | ok profile =>
      rw [bindingsJson, Plan.perform_bind_ok hresult]
      rfl
  | error e =>
      rw [bindingsJson, Plan.perform_bind_error hresult]
      rfl

/-- A request that tells of a new port has the notification handled. -/
theorem post_port {port : Neutron.Port} (hpost : r.TellsCreated port)
    {result : Except Error Unit}
    (hhandled : ((Integrator.enabled source).handle (.created port)).perform Controller.answer s =
      (result, t)) :
    ((withSource source startedAt).respond r).perform Controller.answer s =
      (.ok (replyTo (fun () => .noContent) result), t) := by
  have hplan : (withSource source startedAt).respond r =
      (withSource source startedAt).notify (.ok (.created port)) := by
    simp only [respond, hpost.path, Endpoint.methods, hpost.method, serve, notification,
      hpost.body]
    rfl
  have hattempt : ((Integrator.enabled source).handle (.created port)).attempt.perform
      Controller.answer s = _ := Plan.perform_attempt _ s
  rw [hplan, notify]
  change (((Integrator.enabled source).handle (.created port)).attempt >>= _).perform _ s = _
  rw [Plan.perform_bind_ok hattempt, hhandled]
  cases result <;> rfl

end Service

/-! ## Creating -/

namespace Controller

variable {source : LinkSource} {s : Controller} {port : Neutron.Port} {x : Need}
variable {core : Neutron.Network} {tag : UInt16} {network : VirtualNetwork}

/-- Where an interface is wanting and its network is known, its creation ends in the error of
the profile, or else it is made with the pairs of the profile. -/
theorem perform_create_of_profile (hneed : s.need? source port = some x)
    (hcore : Keyed.get? x.attachment.network s.coreNetworks = some core)
    (htag : core.vlanTag = some tag)
    (hnetwork : Keyed.get? x.attachment.network s.networks = some network)
    (hfresh : Keyed.get? x.fqName s.vmis = none) :
    let plan := (Integrator.enabled source).create port
    (∃ e, ((Profile.ofHost source x.attachment.host).perform answer s).1 = .error e ∧
      plan.perform answer s = (.error e, s)) ∨
    ∃ profile vmi,
      ((Profile.ofHost source x.attachment.host).perform answer s).1 = .ok profile ∧
      vmi.fqName = x.fqName ∧ vmi.bindings = some profile.pairs ∧
      plan.perform answer s = (.ok (), s.createVmi vmi) := by
  intro plan
  obtain ⟨project, howner, hplan⟩ := perform_create_of_tagged hneed hcore htag
  obtain ⟨_, a⟩ := x
  subst howner
  have hread : (Plan.ask (.getVmi (Need.fqName ⟨project.fqName, a⟩))).perform answer s =
      (.ok none, s) := by
    rw [← hfresh]
    rfl
  have hlook : (Plan.ask (.getVirtualNetwork a.network)).perform answer s =
      (.ok (some network), s) := by
    rw [← hnetwork]
    rfl
  have hmake : (Integrator.makeInterface source a tag project).perform answer s = _ :=
    Plan.perform_bind_ok hread
  simp only at hmake
  rw [Plan.perform_bind_ok hlook] at hmake
  simp only at hmake
  obtain ⟨result, hprofile, -⟩ := perform_ofHost_of_groups (s := s) rfl rfl source a.host
  cases result with
  | error e =>
      rw [Plan.perform_bind_error hprofile] at hmake
      exact Or.inl ⟨e, by rw [hprofile], hplan.trans hmake⟩
  | ok profile =>
      rw [Plan.perform_bind_ok hprofile] at hmake
      exact Or.inr ⟨profile, .make a.interfaceName network ⟨some tag⟩ profile.pairs project,
        by rw [hprofile], rfl, rfl, hplan.trans hmake⟩

end Controller

namespace Service

/-- A look at the bindings of a host foretells what becomes of a port that is created there. -/
theorem bindings_foretell_creation (source : LinkSource) (startedAt : String) (s : Controller)
    {look post : Request} {host network : String} {port : Neutron.Port} {project : Project}
    {core : Neutron.Network} {virtual : VirtualNetwork}
    (hlook : look.AsksBindings host) (hpost : post.TellsCreated port)
    (htagged : (((Integrator.enabled source).isTagged port).run Controller.answer s).result =
      .ok true)
    (hhost : port.hostId = some host) (hnetwork : port.networkId = some network)
    (hcore : Keyed.get? network s.coreNetworks = some core) (htag : core.vlanTag.isSome = true)
    (hproject : ((Integrator.projectOf port).run Controller.answer s).result = .ok project)
    (hfresh : Keyed.get? (project.fqName ++ [Attachment.interfaceName ⟨network, host⟩]) s.vmis =
      none)
    (hvirtual : Keyed.get? network s.networks = some virtual) :
    let service := withSource source startedAt
    let looked := (service.respond look).run Controller.answer s
    let posted := (service.respond post).run Controller.answer looked.state
    (∀ x ∈ looked.exchanges, x.call.isWrite = false) ∧ looked.state = s ∧
      ∃ reply, looked.result = .ok reply ∧
        (reply.status = 200 → ∃ pairs vmi, reply.pairs? = some pairs ∧
          posted.result = .ok .noContent ∧
          Keyed.get? (project.fqName ++ [Attachment.interfaceName ⟨network, host⟩])
            posted.state.vmis = some vmi ∧ vmi.bindings = some pairs) ∧
        (reply.status ≠ 200 → posted.result = .ok reply ∧ posted.state = s) := by
  intro service looked posted
  obtain ⟨a, ha⟩ := Controller.isTagged_iff.mp htagged
  obtain rfl := Controller.attachment_unique (b := ⟨network, host⟩) ha hnetwork hhost
  have hneed : s.need? source port = some ⟨project.fqName, ⟨network, host⟩⟩ :=
    Controller.need?_eq_some_iff.mpr
      ⟨ha, project, Controller.projectOf?_eq_some_iff.mpr hproject, rfl⟩
  obtain ⟨tag, htag⟩ := Option.isSome_iff_exists.mp htag
  obtain ⟨hwithin, layout, hlooked⟩ :=
    look_bindings source startedAt hlook s
  obtain ⟨hreply, hstate⟩ := Prod.mk.inj hlooked
  have hposted : ∀ {result t}, ((Integrator.enabled source).create port).perform
      Controller.answer s = (result, t) →
      posted.result = .ok (replyTo (fun () => .noContent) result) ∧ posted.state = t := by
    intro result t hcreated
    rw [← Integrator.handle_created] at hcreated
    have hrun := post_port source startedAt hpost hcreated
    rw [← hstate] at hrun
    exact Prod.mk.inj hrun
  refine ⟨fun x hx => hwithin.of_mem_exchanges hx, hstate, _, hreply, ?_⟩
  rcases Controller.perform_create_of_profile hneed hcore htag hvirtual hfresh with
    ⟨e, hprofile, hcreated⟩ | ⟨profile, vmi, hprofile, hfqName, hpairs, hcreated⟩
  · rw [hprofile]
    exact ⟨fun hok => absurd hok (status_ofError e), fun _ => hposted hcreated⟩
  · rw [hprofile]
    obtain ⟨hresult, hafter⟩ := hposted hcreated
    refine ⟨fun _ => ⟨profile.pairs, Controller.stored vmi, pairs?_bindingsOf .., hresult, ?_,
      hpairs⟩, fun hnot => absurd rfl hnot⟩
    change vmi.fqName = project.fqName ++ [Attachment.interfaceName ⟨network, host⟩] at hfqName
    rw [hafter, Controller.get?_createVmi, hfresh, if_pos hfqName, Option.none_or]

end Service

/-! ## A port on a host that was looked at -/

namespace Lab

def look : Request where
  path := "/api/bindings/compute1".toList

def post : Request where
  method := "POST"
  path := "/api/ports".toList
  contentType := some "application/json"
  body := (Neutron.PortBody.toJson ⟨adminPort⟩).compact.toUTF8

theorem look_asksBindings : look.AsksBindings "compute1" where
  method := rfl
  path := ⟨"compute1".toList, by decide +kernel, rfl⟩
  layout := ⟨{}, rfl⟩

theorem post_body :
    (Service.content Neutron.PortBody.decoder post).toOption = some ⟨adminPort⟩ := by
  decide +kernel

theorem post_tellsCreated : post.TellsCreated adminPort where
  method := rfl
  path := by decide +kernel
  body := by
    have hbody := post_body
    cases hcontent : Service.content Neutron.PortBody.decoder post with
    | error reply =>
        rw [hcontent] at hbody
        cases hbody
    | ok body =>
        rw [hcontent] at hbody
        exact congrArg Except.ok (Option.some.inj hbody)

theorem look_status :
    (((Service.withSource source "").respond look).run Controller.answer
      start).result.toOption.map (·.status) = some 200 := by
  decide +kernel

end Lab

namespace Service

/-- The interface of the port has the bindings that the look at its host told. -/
theorem created_as_foretold :
    let looked := ((withSource Lab.source "").respond Lab.look).run Controller.answer Lab.start
    let posted := ((withSource Lab.source "").respond Lab.post).run Controller.answer looked.state
    ∃ reply pairs vmi, looked.result = .ok reply ∧ reply.status = 200 ∧
      reply.pairs? = some pairs ∧ posted.result = .ok .noContent ∧
      Keyed.get? Lab.adminName posted.state.vmis = some vmi ∧ vmi.bindings = some pairs := by
  dsimp only
  have htagged : (((Integrator.enabled Lab.source).isTagged Lab.adminPort).run
      Controller.answer Lab.start).result = .ok true :=
    Controller.isTagged_iff.mpr ⟨Lab.place, by decide +kernel⟩
  have hproject : ((Integrator.projectOf Lab.adminPort).run Controller.answer
      Lab.start).result = .ok Lab.admin :=
    Controller.projectOf?_eq_some_iff.mp (by decide +kernel)
  obtain ⟨-, -, reply, hreply, hforetold, -⟩ := bindings_foretell_creation Lab.source ""
    Lab.start Lab.look_asksBindings Lab.post_tellsCreated htagged rfl rfl rfl
    (by decide +kernel) hproject rfl rfl
  have hkey : Lab.admin.fqName ++ [Attachment.interfaceName ⟨"net-1", "compute1"⟩] =
      Lab.adminName := by decide +kernel
  rw [hkey] at hforetold
  have hstatus := Lab.look_status
  rw [hreply] at hstatus
  have hok : reply.status = 200 := Option.some.inj hstatus
  obtain ⟨pairs, vmi, hforetold⟩ := hforetold hok
  exact ⟨reply, pairs, vmi, hreply, hok, hforetold⟩

end Service

end VlanBinding
