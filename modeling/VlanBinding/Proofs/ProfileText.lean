import VlanBinding.Proofs.Delivery
import VlanBinding.Proofs.Failing
import VlanBinding.Proofs.Json.Sorting

/-!
The text of a profile. Main statements: it is ASCII, whatever the names of switches, interfaces and
fabrics are; it is read as the links of the profile in order, so it tells profiles with different
links apart; and the reply about the bindings of a host carries the links twice, once as JSON and
once in a text that parses to the same.
-/

namespace VlanBinding

open VlanBinding.Fabric VlanBinding.Integration VlanBinding.Json VlanBinding.Schema
open VlanBinding.Service

namespace Integration

/-- A link as it is met in the text of a profile. -/
def LinkInformation.source (l : LinkInformation) : Source :=
  .obj [(some "port_id", .str l.portId), (some "switch_info", .str l.switchInfo),
    (some "fabric", .str l.fabric)] .closed

theorem LinkInformation.source_injective : Function.Injective LinkInformation.source := by
  rintro ⟨port, switch, fabric⟩ ⟨port', switch', fabric'⟩ h
  simpa [LinkInformation.source] using h

namespace Profile

/-- The links as they are met in the text of a profile. -/
def source (p : Profile) : Source :=
  .obj [(some "local_link_information", .arr (p.links.map LinkInformation.source) .closed)] .closed

/-- The links alone. -/
def linksJson (p : Profile) : Json := .obj [p.linksMember]

theorem writtenItems_links (links : List LinkInformation) :
    writtenItems (links.map LinkInformation.toJson) = links.map LinkInformation.source := by
  induction links with
  | nil => rfl
  | cons l rest ih => rw [List.map_cons, List.map_cons, writtenItems, ih]; rfl

theorem written_linksJson (p : Profile) : p.linksJson.written = p.source := by
  rw [linksJson, linksMember, written, writtenMembers, writtenMembers, written,
    writtenItems_links]
  rfl

theorem integral_linksMember (p : Profile) : p.linksMember.2.Integral := by
  refine integralItems_iff.mpr fun item hitem => ?_
  obtain ⟨l, -, rfl⟩ := List.mem_map.mp hitem
  exact ⟨trivial, trivial, trivial, trivial⟩

theorem height_linksMember_le (p : Profile) : p.linksMember.2.height ≤ 2 := by
  refine Nat.succ_le_succ (heightItems_le_iff.mpr fun item hitem => ?_)
  obtain ⟨l, -, rfl⟩ := List.mem_map.mp hitem
  exact Nat.le_refl 1

theorem integral_linksJson (p : Profile) : p.linksJson.Integral :=
  ⟨p.integral_linksMember, trivial⟩

theorem height_linksJson_le (p : Profile) : p.linksJson.height ≤ depthLimit := by
  have hlinks := p.height_linksMember_le
  have hheight : p.linksJson.height = max p.linksMember.2.height 0 + 1 := rfl
  rw [hheight, depthLimit]
  omega

theorem read_text (p : Profile) : Json.read p.text = (p.source, []) := by
  rw [← written_linksJson]
  exact read_write Style.spacing_spaced p.integral_linksJson p.height_linksJson_le

theorem parse?_text (p : Profile) : Json.parse? p.text = some p.linksJson.sorted :=
  parse?_write Style.spacing_spaced p.integral_linksJson p.height_linksJson_le

theorem ascii_text (p : Profile) : Ascii p.text.toList := by
  rw [text, spaced, String.toList_ofList]
  exact ascii_write Style.spacing_spaced rfl _ 0 p.integral_linksJson

/-- Profiles have one text exactly if they have the same links. -/
theorem text_eq_iff {p q : Profile} : p.text = q.text ↔ p.links = q.links := by
  constructor
  · intro h
    have hread := p.read_text.symm.trans ((congrArg Json.read h).trans q.read_text)
    have hlinks : p.links.map LinkInformation.source = q.links.map LinkInformation.source := by
      simpa [source] using (Prod.mk.inj hread).1
    exact LinkInformation.source_injective.list_map hlinks
  · intro h
    rw [text, text, linksMember, linksMember, h]

end Profile

end Integration

/-! ## The reply about the bindings of a host -/

namespace Service

variable {σ : Type} {answers : Responder σ} {t : σ} {service : Service} {r : Request}
variable {reply : Reply}

theorem eq_badRequest_of_named {name : List Char} (h : named name = .error reply) :
    reply = .badRequest := by
  rw [named] at h
  split at h
  · cases h
  · exact (Except.error.inj h).symm

theorem eq_badRequest_of_layoutOf (h : layoutOf r = .error reply) : reply = .badRequest := by
  rw [layoutOf] at h
  split at h
  · cases h
  · exact (Except.error.inj h).symm

theorem inspect_enabled {source : LinkSource} {name : List Char} {host : String} {layout : Layout}
    (hservice : service.integrator = .enabled source) (hname : named name = .ok host)
    (hlayout : layoutOf r = .ok layout) (look : LinkSource → String → Plan Json) :
    service.inspect name r look = (look source host).attempt >>= fun found =>
      pure (replyTo (fun value => .ok value.sorted layout.isPretty) found) := by
  simp only [inspect, hname, hlayout, hservice]
  refine congrArg ((look source host).attempt >>= ·) (funext fun found => ?_)
  cases found <;> rfl

/-- A successful reply tells what was found out about a host. -/
theorem inspect_ok {name : List Char} {look : LinkSource → String → Plan Json}
    (hreply : ((service.inspect name r look).run answers t).result = .ok reply)
    (hstatus : reply.status = 200) :
    ∃ source host value pretty, ((look source host).run answers t).result = .ok value ∧
      reply = .ok value.sorted pretty := by
  cases hname : named name with
  | error refusal =>
      rw [inspect, hname] at hreply
      obtain rfl : refusal = reply := Except.ok.inj hreply
      rw [eq_badRequest_of_named hname] at hstatus
      cases hstatus
  | ok host =>
      cases hlayout : layoutOf r with
      | error refusal =>
          rw [inspect, hname, hlayout] at hreply
          obtain rfl : refusal = reply := Except.ok.inj hreply
          rw [eq_badRequest_of_layoutOf hlayout] at hstatus
          cases hstatus
      | ok layout =>
          cases hservice : service.integrator with
          | disabled =>
              rw [inspect, hname, hlayout, hservice] at hreply
              obtain rfl : Reply.disabled = reply := Except.ok.inj hreply
              cases hstatus
          | enabled source =>
              have hfound : ((look source host).attempt.run answers t).result =
                  .ok ((look source host).run answers t).result := by
                rw [run_attempt]
              rw [inspect_enabled hservice hname hlayout, Plan.run_bind_of_ok hfound] at hreply
              cases hvalue : ((look source host).run answers t).result with
              | error e =>
                  rw [hvalue] at hreply
                  obtain rfl : Reply.ofError e = reply := Except.ok.inj hreply
                  exact absurd hstatus (status_ofError e)
              | ok value =>
                  rw [hvalue] at hreply
                  exact ⟨source, host, value, layout.isPretty, hvalue,
                    (Except.ok.inj hreply).symm⟩

/-- The request asks for the bindings of some host. -/
def Request.GetsBindings (r : Request) : Prop :=
  r.method = "GET" ∧ ∃ name, Endpoint.ofPath? r.path = some (.bindings name)

/-- A successful reply about bindings tells those of a profile. -/
theorem bindings_ok (hget : r.GetsBindings)
    (hreply : ((service.respond r).run answers t).result = .ok reply)
    (hstatus : reply.status = 200) :
    ∃ host profile pretty, reply = .ok (bindingsOf host profile).sorted pretty := by
  obtain ⟨hmethod, name, hpath⟩ := hget
  have hplan : service.respond r = service.inspect name r bindingsJson := by
    simp [respond, hpath, Endpoint.methods, hmethod, serve]
  rw [hplan] at hreply
  obtain ⟨source, host, value, pretty, hvalue, rfl⟩ := inspect_ok hreply hstatus
  obtain ⟨profile, -, htold, -⟩ := Plan.run_bind_eq_ok hvalue
  obtain rfl : bindingsOf host profile = value := Except.ok.inj htold
  exact ⟨host, profile, pretty, rfl⟩

theorem integral_bindingsOf (host : String) (p : Profile) : (bindingsOf host p).Integral := by
  have hlinks := p.integral_linksMember
  have hpairs : IntegralItems (p.pairs.pairs.map KeyValuePair.toJson) := by
    refine integralItems_iff.mpr fun item hitem => ?_
    obtain ⟨pair, -, rfl⟩ := List.mem_map.mp hitem
    exact ⟨trivial, trivial, trivial⟩
  have hprofile : p.toJson.Integral := by
    obtain ⟨links, vnicType, _ | group⟩ := p
    · exact ⟨hlinks, trivial, trivial⟩
    · exact ⟨hlinks, trivial, trivial, trivial⟩
  exact ⟨trivial, hprofile, ⟨hpairs, trivial⟩, trivial⟩

theorem height_bindingsOf_le (host : String) (p : Profile) :
    (bindingsOf host p).height ≤ depthLimit := by
  have hlinks := p.height_linksMember_le
  have hpairs : p.pairs.toJson.height ≤ 3 := by
    refine Nat.succ_le_succ (Nat.max_le.mpr ⟨Nat.succ_le_succ ?_, Nat.zero_le _⟩)
    refine heightItems_le_iff.mpr fun item hitem => ?_
    obtain ⟨pair, -, rfl⟩ := List.mem_map.mp hitem
    exact Nat.le_refl 1
  have hprofile : p.toJson.height ≤ 3 := by
    obtain ⟨links, vnicType, _ | group⟩ := p
    · exact Nat.succ_le_succ (Nat.max_le.mpr ⟨hlinks, Nat.zero_le _⟩)
    · exact Nat.succ_le_succ (Nat.max_le.mpr ⟨hlinks, Nat.zero_le _⟩)
  have hheight : (bindingsOf host p).height =
      max 0 (max p.toJson.height (max p.pairs.toJson.height 0)) + 1 := rfl
  rw [hheight, depthLimit]
  omega

/-- The text of such a reply parses to the JSON that it carries. -/
theorem parse?_text_bindingsOf (w : Wording) (host : String) (p : Profile) (pretty : Bool) :
    ∃ text, (Reply.ok (bindingsOf host p).sorted pretty).text? w = some text ∧
      Json.parse? text = some (bindingsOf host p).sorted := by
  have hparse {style : Style} (hstyle : style.Spacing) :=
    parse?_write_sorted hstyle (integral_bindingsOf host p) (height_bindingsOf_le host p)
  cases pretty with
  | true => exact ⟨_, rfl, hparse Style.spacing_pretty⟩
  | false => exact ⟨_, rfl, hparse Style.spacing_compact⟩

theorem member?_links (p : Profile) :
    p.toJson.sorted.member? "local_link_information" = some p.linksMember.2.sorted := by
  obtain ⟨links, vnicType, _ | group⟩ := p <;> rfl

/-- The text of every profile is ASCII, is read as its links in order and tells profiles with
different links apart. In a successful reply about bindings the text among the pairs parses to an
object with nothing but the links of the profile beside it. -/
theorem profile_text_decodes :
    (∀ p : Profile, Ascii p.text.toList ∧ Json.read p.text = (p.source, []) ∧
        Json.parse? p.text = some p.linksJson.sorted) ∧
      (∀ p q : Profile, p.text = q.text ↔ p.links = q.links) ∧
      ∀ (service : Service) (r : Request) {σ : Type} (answers : Responder σ) (t : σ)
        (reply : Reply) (w : Wording), r.GetsBindings →
          ((service.respond r).run answers t).result = .ok reply → reply.status = 200 →
            ∃ body value profile pairs told links,
              reply.text? w = some body ∧ Json.parse? body = some value ∧
              value.member? "profile" = some profile ∧
              value.member? "key_value_pairs" = some pairs ∧
              (decodeValue KeyValuePairs.decoder pairs).toOption.bind (·.get? "profile") =
                some told ∧
              profile.member? "local_link_information" = some links ∧
              Json.parse? told = some (.obj [("local_link_information", links)]) := by
  refine ⟨fun p => ⟨p.ascii_text, p.read_text, p.parse?_text⟩, fun p q => Profile.text_eq_iff, ?_⟩
  intro service r σ answers t reply w hget hreply hstatus
  obtain ⟨host, p, pretty, rfl⟩ := bindings_ok hget hreply hstatus
  obtain ⟨body, hbody, hvalue⟩ := parse?_text_bindingsOf w host p pretty
  have hpairs : (decodeValue KeyValuePairs.decoder p.pairs.toJson.sorted).toOption.bind
      (·.get? "profile") = some p.text := by
    rw [KeyValuePairs.decode_sorted]
    rfl
  exact ⟨body, _, p.toJson.sorted, p.pairs.toJson.sorted, p.text, p.linksMember.2.sorted, hbody,
    hvalue, rfl, rfl, hpairs, member?_links p, p.parse?_text⟩

end Service

namespace Lab

/-- Names with a quote, a backslash, a control character and one beyond the basic plane. -/
def oddProfile : Profile where
  links := [{ portId := "xe\"0\\0", switchInfo := "leaf\x01", fabric := "f😀" }]

end Lab

namespace Service

/-- The text of odd names decodes, and so does that in the reply about a host that is known. -/
theorem odd_names_decode :
    Json.read Lab.oddProfile.text = (Lab.oddProfile.source, []) ∧
      Lab.look.GetsBindings ∧
      ∃ reply body value profile told links,
        (((withSource Lab.source "").respond Lab.look).run Controller.answer Lab.start).result =
          .ok reply ∧
        reply.status = 200 ∧ reply.text? {} = some body ∧ Json.parse? body = some value ∧
        value.member? "profile" = some profile ∧
        profile.member? "local_link_information" = some links ∧
        Json.parse? told = some (.obj [("local_link_information", links)]) := by
  obtain ⟨hprofiles, -, hreplies⟩ := profile_text_decodes
  obtain ⟨name, hpath, -⟩ := Lab.look_asksBindings.path
  have hget : Lab.look.GetsBindings := ⟨Lab.look_asksBindings.method, name, hpath⟩
  have hstatus := Lab.look_status
  cases hreply : (((withSource Lab.source "").respond Lab.look).run Controller.answer
      Lab.start).result with
  | error e =>
      rw [hreply] at hstatus
      cases hstatus
  | ok reply =>
      rw [hreply] at hstatus
      have hok : reply.status = 200 := Option.some.inj hstatus
      obtain ⟨body, value, profile, pairs, told, links, hbody, hvalue, hprofile, -, -, hlinks,
        htold⟩ := hreplies _ _ _ _ reply {} hget hreply hok
      exact ⟨(hprofiles Lab.oddProfile).2.1, hget, reply, body, value, profile, told, links, rfl,
        hok, hbody, hvalue, hprofile, hlinks, htold⟩

end Service

end VlanBinding
