import VlanBinding.Proofs.Calls
import VlanBinding.Proofs.History

/-!
Which failures of services surface. Whatever call fails while a notification is handled, its error
is where the handling ends and what it ends with, but for one kind of call: a lookup of a node that
is to tell whether a host is managed. Such lookups come before the virtual network is asked for;
those that come after it are for the links of the host.
-/

namespace VlanBinding.Integration

open VlanBinding.Fabric

namespace Call

/-- Is the call, made after these exchanges, to tell whether a host is managed? -/
def TestsHost (earlier : List Exchange) (c : Call) : Prop :=
  c.looksUpNode = true ∧ ∀ x ∈ earlier, x.call.asksNetwork = false

end Call

theorem Exchange.exists_error_of_failed {x : Exchange} (hx : x.failed = true) :
    ∃ e, x.answer = .error e := by
  rw [Exchange.failed] at hx
  split at hx
  · cases hx
  · exact ⟨_, by assumption⟩

namespace Plan

variable {α β σ : Type} {allowed : Call → Prop} {respond : Responder σ}

theorem Strict.failed_last {p : Plan α} (hp : p.Strict allowed) (s : σ)
    {earlier later : List Exchange} {x : Exchange} {e : Error}
    (hsplit : (p.run respond s).exchanges = earlier ++ x :: later)
    (hfailed : x.answer = .error e) :
    later = [] ∧ (p.run respond s).result = .error e := by
  induction p generalizing s earlier with
  | done r => simp at hsplit
  | call c next ih =>
      rw [run_call] at hsplit ⊢
      cases earlier with
      | nil =>
          obtain ⟨rfl, hlater⟩ := List.cons.inj hsplit
          change (respond c s).1 = .error e at hfailed
          simp only [hfailed, hp.2.1 e, run_done] at hlater ⊢
          exact ⟨hlater.symm, trivial⟩
      | cons y earlier =>
          obtain ⟨rfl, hrest⟩ := List.cons.inj hsplit
          cases hanswer : (respond c s).1 with
          | ok a =>
              rw [hanswer] at hrest
              exact ih _ (hp.2.2 a) _ hrest
          | error e =>
              rw [hanswer, hp.2.1 e] at hrest
              simp at hrest

/-- All errors surface, but those of lookups of nodes. Once the virtual network is
asked for, these surface too. -/
def Surfaces : Plan α → Prop
  | done _ => True
  | call c next =>
      (c.looksUpNode = true ∨ ∀ e, next (.error e) = done (.error e)) ∧
        ∀ answer,
          if c.asksNetwork then (next answer).Strict fun _ => True
          else (next answer).Surfaces

theorem Strict.surfaces {p : Plan α} (hp : p.Strict allowed) : p.Surfaces := by
  induction p with
  | done r => trivial
  | call c next ih =>
      refine ⟨Or.inr hp.2.1, fun answer => ?_⟩
      cases answer with
      | error e =>
          rw [hp.2.1 e]
          split <;> trivial
      | ok a =>
          split
          · exact (hp.2.2 a).mono fun _ _ => trivial
          · exact ih _ (hp.2.2 a)

theorem surfaces_ask (c : Call) : (ask c).Surfaces := by
  refine ⟨Or.inr fun _ => rfl, fun answer => ?_⟩
  split <;> trivial

/-- Plans that do not ask for a virtual network may come first. -/
theorem Surfaces.bind {p : Plan α} {f : α → Plan β} (hp : p.Surfaces)
    (hwithin : p.Within fun c => c.asksNetwork = false) (hf : ∀ a, (f a).Surfaces) :
    (p >>= f).Surfaces := by
  change (p.bind f).Surfaces
  induction p with
  | done r =>
      cases r with
      | ok a => exact hf a
      | error e => trivial
  | call c next ih =>
      refine ⟨hp.1.imp_right fun hstops e => ?_, fun answer => ?_⟩
      · change (next (.error e)).bind f = _
        rw [hstops e]
        rfl
      · have hnext := hp.2 answer
        simp only [hwithin.1, Bool.false_eq_true, ↓reduceIte] at hnext ⊢
        exact ih answer hnext (hwithin.2 answer)

theorem Surfaces.failed_last {p : Plan α} (hp : p.Surfaces) (s : σ)
    {earlier later : List Exchange} {x : Exchange} {e : Error}
    (hsplit : (p.run respond s).exchanges = earlier ++ x :: later)
    (hfailed : x.answer = .error e) (hhost : ¬ x.call.TestsHost earlier) :
    later = [] ∧ (p.run respond s).result = .error e := by
  induction p generalizing s earlier with
  | done r => simp at hsplit
  | call c next ih =>
      rw [run_call] at hsplit ⊢
      cases earlier with
      | nil =>
          obtain ⟨rfl, hlater⟩ := List.cons.inj hsplit
          change (respond c s).1 = .error e at hfailed
          rcases hp.1 with hlookup | hstops
          -- nothing came before, so this lookup would be one for the host
          · exact absurd ⟨hlookup, by simp⟩ hhost
          · simp only [hfailed, hstops e, run_done] at hlater ⊢
            exact ⟨hlater.symm, trivial⟩
      | cons y earlier =>
          obtain ⟨rfl, hrest⟩ := List.cons.inj hsplit
          have hnext := hp.2 (respond c s).1
          cases hasks : c.asksNetwork with
          | true =>
              -- from here on every call has to succeed
              simp only [hasks, ↓reduceIte] at hnext
              exact hnext.failed_last _ hrest hfailed
          | false =>
              simp only [hasks, Bool.false_eq_true, ↓reduceIte] at hnext
              refine ih _ hnext _ hrest fun htests => hhost ⟨htests.1, ?_⟩
              intro y hy
              rcases List.mem_cons.mp hy with rfl | hy
              · exact hasks
              · exact htests.2 y hy

end Plan

/-! ## Handling a notification -/

theorem LinkSource.contains_surfaces (host : String) (source : LinkSource) :
    (source.contains host).Surfaces := by
  cases source with
  | document index => trivial
  | controller =>
      refine ⟨Or.inl rfl, fun answer => ?_⟩
      cases answer <;> trivial

namespace Integrator

theorem managed?_surfaces (source : LinkSource) (port : Neutron.Port) :
    (managed? source port).Surfaces := by
  rw [managed?]
  cases Attachment.ofPort? port with
  | none => trivial
  | some a =>
      refine Plan.Surfaces.bind (source.contains_surfaces a.host)
        ((source.contains_within a.host).mono ?_) fun known => ?_
      · rintro c rfl
        rfl
      · cases known <;> trivial

/-- Whatever follows once it is known whether the host of a port is managed. -/
theorem managed?_bind_surfaces {α : Type} (source : LinkSource) (port : Neutron.Port)
    {f : Option Attachment → Plan α} (hf : ∀ a, (f a).Surfaces) :
    (managed? source port >>= f).Surfaces :=
  (managed?_surfaces source port).bind (managed?_within (fun _ => rfl) source port) hf

theorem isTagged_surfaces (i : Integrator) (port : Neutron.Port) :
    (i.isTagged port).Surfaces := by
  cases i with
  | disabled => trivial
  | enabled source => exact managed?_bind_surfaces source port fun a => trivial

theorem anyTagged_surfaces (i : Integrator) (ports : List Neutron.Port) :
    (i.anyTagged ports).Surfaces := by
  induction ports with
  | nil => trivial
  | cons port rest ih =>
      refine (isTagged_surfaces i port).bind (isTagged_within (fun _ => rfl) i port)
        fun tagged => ?_
      cases tagged with
      | true => trivial
      | false => exact ih

theorem neededByOther_surfaces (i : Integrator) (port : Neutron.Port) (id : String) :
    (i.neededByOther port id).Surfaces := by
  rcases neededByOther_cases i port id with hplan | ⟨network, host, hplan⟩
  · rw [hplan]
    trivial
  · rw [hplan]
    exact Plan.Surfaces.bind (Plan.surfaces_ask _) ((Plan.within_ask _).mpr rfl)
      fun ports => anyTagged_surfaces i _

theorem create_surfaces (i : Integrator) (port : Neutron.Port) :
    (i.create port).Surfaces := by
  cases i with
  | disabled => trivial
  | enabled source =>
      refine managed?_bind_surfaces source port fun found => ?_
      cases found with
      | none => trivial
      | some a => exact (create_strict source port a).surfaces

theorem remove_surfaces (i : Integrator) (port : Neutron.Port) :
    (i.remove port).Surfaces := by
  cases i with
  | disabled => trivial
  | enabled source =>
      refine managed?_bind_surfaces source port fun found => ?_
      cases found with
      | none => trivial
      | some a => exact (remove_strict port a).surfaces

theorem sync_surfaces (i : Integrator) (port previous : Neutron.Port) :
    (i.sync port previous).Surfaces := by
  rw [sync]
  split
  · trivial
  · split
    · exact create_surfaces i port
    · exact (remove_surfaces i previous).bind
        ((remove_within i previous).mono fun c hc => hc.1) fun _ => create_surfaces i port

theorem handle_surfaces (i : Integrator) (n : Notification) : (i.handle n).Surfaces := by
  have hguard {port : Neutron.Port} {id : String} {f : Bool → Plan Unit}
      (hf : ∀ needed, (f needed).Surfaces) :
      (i.neededByOther port id >>= f).Surfaces :=
    (neededByOther_surfaces i port id).bind
      (neededByOther_within (fun _ => rfl) (fun _ _ => rfl) i port id) hf
  cases n with
  | created port => exact sync_surfaces i port _
  | updated port previous =>
      simp only [handle]
      split
      · trivial
      · split
        · exact sync_surfaces i port previous
        · refine hguard fun needed => ?_
          cases needed with
          | true => exact create_surfaces i port
          | false => exact sync_surfaces i port previous
  | deleted port =>
      simp only [handle]
      split
      · trivial
      · refine hguard fun needed => ?_
        cases needed with
        | true => trivial
        | false => exact remove_surfaces i port

/-- A call that fails while a notification is handled, and is not to tell whether a
host is managed, is the last one, and the notification fails with its error. -/
theorem failed_call_ends_handling {σ : Type} (respond : Responder σ) (i : Integrator)
    (n : Notification) (s : σ) {earlier later : List Exchange} {x : Exchange} {e : Error}
    (hsplit : ((i.handle n).run respond s).exchanges = earlier ++ x :: later)
    (hfailed : x.answer = .error e) (hhost : ¬ x.call.TestsHost earlier) :
    later = [] ∧ ((i.handle n).run respond s).result = .error e :=
  (handle_surfaces i n).failed_last s hsplit hfailed hhost

/-- The lookup that failed is the second one of the host, for its links. -/
theorem failed_link_lookup_ends_handling :
    let marks := [false, false, false, false, false, true]
    let run := ((enabled .controller).handle (.created Lab.adminPort)).run Lab.flaky
      (marks, Lab.live)
    (run.exchanges.map fun x => x.call.name) =
        ["read_node_by_hostname", "get_network", "get_project",
          "get_virtual_machine_interface", "get_virtual_network",
          "read_node_by_hostname"] ∧
      ∃ e, run.result = .error e := by
  intro marks run
  have hone : (run.exchanges.drop 5).length = 1 := by decide +kernel
  obtain ⟨x, hx⟩ := List.length_eq_one_iff.mp hone
  have hsplit : run.exchanges = run.exchanges.take 5 ++ [x] := by
    rw [← hx, List.take_append_drop]
  have hfailed : ∀ y ∈ run.exchanges.drop 5, y.failed = true := by decide +kernel
  obtain ⟨e, he⟩ := Exchange.exists_error_of_failed (hfailed x (hx ▸ List.mem_cons_self))
  have hasked : ∃ y ∈ run.exchanges.take 5, y.call.asksNetwork ≠ false := by decide +kernel
  obtain ⟨y, hy, hasks⟩ := hasked
  have hlast := failed_call_ends_handling Lab.flaky (.enabled .controller)
    (.created Lab.adminPort) (marks, Lab.live) hsplit he fun htests =>
      hasks (htests.2 y hy)
  exact ⟨by decide +kernel, e, hlast.2⟩

/-- A controller that does not answer whether it has a node is taken to have none: the
call fails and the notification does not. -/
theorem failed_host_lookup_is_ignored :
    ¬ ∀ (failures : Failures) (i : Integrator) (n : Notification) (s : Controller),
      let run := (i.handle n).run (Controller.respond failures) s
      (∃ x ∈ run.exchanges, x.failed = true) → ∃ e, run.result = .error e := by
  intro hclaim
  obtain ⟨e, he⟩ := hclaim [("read_node_by_hostname", "timeout")] (.enabled .controller)
    (.created Lab.adminPort) Lab.live (by decide +kernel)
  have hok : (((enabled .controller).handle (.created Lab.adminPort)).run
      (Controller.respond [("read_node_by_hostname", "timeout")])
      Lab.live).result.toOption.isSome = true := by decide +kernel
  rw [he] at hok
  cases hok

end Integrator

end VlanBinding.Integration
