import Mathlib.Data.List.Basic
import VlanBinding.Proofs.Failing

/-!
Taking the interface of a port away. It is taken out of the first port group that it is known to be
in, and deleted after that. Main statement: whichever call fails, the interface is never deleted
before it is taken out of the port group, and nothing has changed unless the group was written.
-/

namespace VlanBinding

open VlanBinding.Fabric VlanBinding.Integration

/-! ## References -/

/-- The reference denotes the interface: their uuids tell if both have one, else their names do. -/
def Fabric.Reference.Denotes (r : Reference) (v : VirtualMachineInterface) : Prop :=
  (r.uuid ≠ "" ∧ v.uuid = some r.uuid) ∨ ((r.uuid = "" ∨ v.uuid = none) ∧ r.target = v.fqName)

instance (r : Reference) (v : VirtualMachineInterface) : Decidable (r.Denotes v) :=
  inferInstanceAs (Decidable (_ ∨ _))

namespace Fabric.VirtualPortGroup

/-- The group with the references, in order, that do not denote the interface. -/
def without (g : VirtualPortGroup) (v : VirtualMachineInterface) : VirtualPortGroup :=
  { g with vmiRefs := g.vmiRefs.filter fun r => ¬ r.Denotes v }

theorem denotes_eq (r : Reference) (v : VirtualMachineInterface) :
    denotes r v = decide (r.Denotes v) := by
  rw [Bool.eq_iff_iff, decide_eq_true_iff, denotes, Reference.Denotes]
  cases hv : v.uuid with
  | none => simp
  | some uuid =>
      by_cases hr : r.uuid = ""
      · simp [hr]
      · simp only [hr, ne_eq, not_false_eq_true, ↓reduceIte, beq_iff_eq, true_and,
          Option.some.injEq, reduceCtorEq, or_self, false_and, or_false]
        exact eq_comm

theorem detach_eq (g : VirtualPortGroup) (v : VirtualMachineInterface) :
    g.detach v = g.without v := by
  simp only [detach, without, denotes_eq, decide_not]

/-- Interfaces that are taken out one after the other are all taken out. -/
theorem foldl_detach (vs : List VirtualMachineInterface) (g : VirtualPortGroup) :
    vs.foldl detach g =
      { g with vmiRefs := g.vmiRefs.filter fun r => ∀ v ∈ vs, ¬ r.Denotes v } := by
  induction vs generalizing g with
  | nil => simp
  | cons v vs ih =>
      rw [List.foldl_cons, ih, detach_eq]
      simp only [without, List.filter_filter, List.forall_mem_cons, mk.injEq, true_and]
      refine List.filter_congr fun r _ => ?_
      rw [Bool.decide_and, Bool.and_comm]

/-- In which order they are taken out does not matter. -/
theorem foldl_detach_of_perm {vs ws : List VirtualMachineInterface} (h : vs.Perm ws)
    (g : VirtualPortGroup) : vs.foldl detach g = ws.foldl detach g := by
  rw [foldl_detach, foldl_detach]
  simp only [h.mem_iff]

end Fabric.VirtualPortGroup

theorem Integration.Call.exists_of_name_eq_delete {c : Call}
    (hc : c.name = "delete_virtual_machine_interface") : ∃ name, c = .deleteVmi name := by
  cases c with
  | deleteVmi name => exact ⟨name, rfl⟩
  | _ => simp [name] at hc

namespace Controller

/-- The first port group that the interface is known to be in, if it is stored. -/
def groupOf? (v : VirtualMachineInterface) (m : Controller) : Option VirtualPortGroup :=
  v.portGroupBackRefs.head?.bind fun ref => Keyed.get? ref.uuid m.groups

/-- The write that takes the interface out of its port group, if it is in one. -/
def update (v : VirtualMachineInterface) (m : Controller) : List Call :=
  ((m.groupOf? v).map fun g => Call.updatePortGroup (g.without v)).toList

/-- The writes that take the interface away. -/
def removal (key : FqName) (v : VirtualMachineInterface) (m : Controller) : List Call :=
  m.update v ++ [.deleteVmi key]

/-- The port groups afterwards are those before, and the interface is taken out of its first. -/
def Leaves (v : VirtualMachineInterface) (before after : Controller) : Prop :=
  ∀ uuid, Keyed.get? uuid after.groups =
    if v.portGroupBackRefs.head?.map (·.uuid) = some uuid then
      (Keyed.get? uuid before.groups).map (·.without v)
    else Keyed.get? uuid before.groups

variable {m : Controller} {key : FqName} {v : VirtualMachineInterface}

theorem leaves_detached (hkeyed : m.GroupsKeyed) (v : VirtualMachineInterface) :
    Leaves v m (m.detached v) := by
  intro uuid
  rw [detached]
  cases hrefs : v.portGroupBackRefs with
  | nil => simp
  | cons ref rest =>
      simp only [List.head?_cons, Option.map_some, Option.some.injEq]
      cases hgroup : Keyed.get? ref.uuid m.groups with
      | none =>
          simp only
          split
          · rename_i huuid
            rw [← huuid, hgroup]
            rfl
          · rfl
      | some group =>
          have huuid := hkeyed ref.uuid group hgroup
          simp only
          rw [get?_updateGroup uuid (group.detach v) m
            (by simp [Keyed.contains, VirtualPortGroup.detach, huuid, hgroup])]
          change (if group.uuid = uuid then some (group.detach v) else _) = _
          rw [huuid]
          split
          · rename_i hsame
            rw [← hsame, hgroup, VirtualPortGroup.detach_eq]
            rfl
          · rfl

theorem made_update (v : VirtualMachineInterface) (m : Controller) :
    made (m.update v) m = m.detached v := by
  rw [update, groupOf?, detached]
  cases v.portGroupBackRefs with
  | nil => rfl
  | cons ref rest =>
      simp only [List.head?_cons, Option.bind_some]
      cases Keyed.get? ref.uuid m.groups with
      | none => rfl
      | some group =>
          simp only [Option.map_some, Option.toList_some, ← VirtualPortGroup.detach_eq]
          rfl

/-! ## Calls -/

/-- The calls among the exchanges that write. -/
def writes (log : List Exchange) : List Call := (log.map (·.call)).filter Call.isWrite

theorem writes_append (log rest : List Exchange) :
    writes (log ++ rest) = writes log ++ writes rest := by
  rw [writes, List.map_append, List.filter_append, writes, writes]

theorem mem_update_iff {c : Call} :
    c ∈ m.update v ↔ ∃ g, m.groupOf? v = some g ∧ c = .updatePortGroup (g.without v) := by
  rw [update, Option.mem_toList, Option.map_eq_some_iff]
  exact exists_congr fun g => and_congr_right fun _ => eq_comm

theorem isWrite_of_mem_removal {c : Call} (hc : c ∈ m.removal key v) : c.isWrite = true := by
  rw [removal, List.mem_append, mem_update_iff, List.mem_singleton] at hc
  rcases hc with ⟨g, -, rfl⟩ | rfl <;> rfl

theorem filter_isWrite_lookups {lookups : List Call}
    (hlookups : ∀ c ∈ lookups, c.isWrite = false) :
    (lookups ++ m.removal key v).filter Call.isWrite = m.removal key v := by
  rw [List.filter_append, List.filter_eq_nil_iff.mpr fun c hc => by simp [hlookups c hc],
    List.nil_append, List.filter_eq_self]
  exact fun c hc => isWrite_of_mem_removal hc

theorem run_detach (v : VirtualMachineInterface) (m : Controller) :
    ((Integrator.detach v).run answer m).result = .ok () ∧
      ∃ lookups, (∀ c ∈ lookups, c.isWrite = false) ∧
        ((Integrator.detach v).run answer m).exchanges.map (·.call) = lookups ++ m.update v := by
  rw [Integrator.detach, update, groupOf?]
  cases hrefs : v.portGroupBackRefs with
  | nil => exact ⟨rfl, [], by simp, rfl⟩
  | cons ref rest =>
      have hread : ((Plan.ask (.getPortGroup ref.uuid)).run answer m).result =
          .ok (Keyed.get? ref.uuid m.groups) := rfl
      simp only [List.head?_cons, Option.bind_some]
      rw [Plan.run_bind_of_ok hread]
      cases Keyed.get? ref.uuid m.groups with
      | none => exact ⟨rfl, [.getPortGroup ref.uuid], by simp [Call.isWrite], rfl⟩
      | some group =>
          refine ⟨rfl, [.getPortGroup ref.uuid], by simp [Call.isWrite], ?_⟩
          simp only [Option.map_some, Option.toList_some, ← VirtualPortGroup.detach_eq]
          rfl

/-- Without failures an interface that is there is looked up and then taken away. -/
theorem run_removeInterface (hvmi : Keyed.get? key m.vmis = some v) :
    ((Integrator.removeInterface key).run answer m).result = .ok () ∧
      ∃ lookups, (∀ c ∈ lookups, c.isWrite = false) ∧
        ((Integrator.removeInterface key).run answer m).exchanges.map (·.call) =
          lookups ++ m.removal key v := by
  have hask : ((Plan.ask (.getVmi key)).run answer m).result = .ok (some v) := by
    rw [← hvmi]
    rfl
  obtain ⟨hdetach, lookups, hlookups, hcalls⟩ := run_detach v m
  rw [Integrator.removeInterface, Plan.run_bind_of_ok hask]
  simp only
  rw [show ((Plan.ask (.getVmi key)).run answer m).state = m from rfl,
    Plan.run_bind_of_ok hdetach]
  refine ⟨rfl, .getVmi key :: lookups, ?_, ?_⟩
  · exact List.forall_mem_cons.mpr ⟨rfl, hlookups⟩
  · rw [List.map_append, List.map_append, hcalls, removal, List.append_assoc]
    rfl

/-- So it is when the project of the port is looked up first. -/
theorem run_project_removeInterface {port : Neutron.Port} {a : Attachment}
    (ha : Attachment.ofPort? port = some a) (hname : m.nameFor? port = some key)
    (hvmi : Keyed.get? key m.vmis = some v) :
    let p := Integrator.projectOf port >>= fun project =>
      Integrator.removeInterface (project.fqName ++ [a.interfaceName])
    (p.run answer m).result = .ok () ∧
      ∃ lookups, (∀ c ∈ lookups, c.isWrite = false) ∧
        (p.run answer m).exchanges.map (·.call) = lookups ++ m.removal key v := by
  intro p
  obtain ⟨project, hfound⟩ : ∃ project, m.projectOf? port = some project := by
    rw [← Option.isSome_iff_exists]
    by_contra hnone
    simp [nameFor?, Option.not_isSome_iff_eq_none.mp hnone] at hname
  have hkey : project.fqName ++ [a.interfaceName] = key :=
    Option.some.inj ((nameFor?_of_attachment ha hfound).symm.trans hname)
  have hperform := perform_projectOf_of_some hfound
  have hresult : ((Integrator.projectOf port).run answer m).result = .ok project :=
    congrArg Prod.fst hperform
  have hstate : ((Integrator.projectOf port).run answer m).state = m := congrArg Prod.snd hperform
  obtain ⟨hremove, lookups, hlookups, hcalls⟩ := run_removeInterface hvmi
  simp only [p, Plan.run_bind_of_ok hresult, hstate, hkey]
  refine ⟨hremove, ((Integrator.projectOf port).run answer m).exchanges.map (·.call) ++ lookups,
    ?_, ?_⟩
  · refine List.forall_mem_append.mpr ⟨fun c hc => ?_, hlookups⟩
    obtain ⟨x, hx, rfl⟩ := List.mem_map.mp hc
    exact (projectOf_strict_reads port).within.of_mem_exchanges hx
  · rw [List.map_append, hcalls, List.append_assoc]

/-! ## Calls that may fail -/

section

variable {σ : Type} {respond : Responder σ} {memory : σ → Controller} {s : σ}
variable {source : LinkSource} {port : Neutron.Port}

/-- How far taking an interface away gets: all is done, or the interface is left in no port group,
or nothing has changed. -/
inductive Takes (key : FqName) (v : VirtualMachineInterface) (before : Controller) :
    Except Error Unit → List Exchange → Controller → Prop
  | all {log : List Exchange} (hlog : Unfailing log) (hwrites : writes log = before.removal key v) :
      Takes key v before (.ok ()) log ((before.detached v).deleteVmi key)
  | half {log : List Exchange} {x : Exchange} {e : Error} (hlog : Unfailing log)
      (hx : x.answer = .error e) (hcall : x.call = .deleteVmi key)
      (hwrites : writes (log ++ [x]) = before.removal key v) :
      Takes key v before (.error e) (log ++ [x]) (before.detached v)
  | none {log : List Exchange} {x : Exchange} {e : Error} (hlog : Unfailing log)
      (hx : x.answer = .error e) (hwrites : writes log = [])
      (hcall : x.call.isWrite = true → x.call ∈ before.update v) :
      Takes key v before (.error e) (log ++ [x]) before

/-- Up to the update of the port group all calls look something up. -/
theorem of_prefix_update {lookups calls : List Call} {c : Call}
    (h : calls ++ [c] <+: lookups ++ m.update v) :
    (∀ d ∈ calls, d ∈ lookups) ∧ (c ∈ lookups ∨ c ∈ m.update v) := by
  have hbegins (h : calls ++ [c] <+: lookups) : (∀ d ∈ calls, d ∈ lookups) ∧ c ∈ lookups :=
    ⟨fun d hd => h.subset (List.mem_append_left _ hd),
      h.subset (List.mem_append_right _ (List.mem_singleton_self c))⟩
  rw [update] at h ⊢
  generalize m.groupOf? v = group at h ⊢
  cases group with
  | none =>
      rw [Option.map_none, Option.toList_none, List.append_nil] at h
      exact (hbegins h).imp_right Or.inl
  | some g =>
      rw [Option.map_some, Option.toList_some, List.prefix_concat_iff] at h
      rcases h with h | h
      · obtain ⟨rfl, hc⟩ := List.append_inj' h rfl
        exact ⟨fun d hd => hd, Or.inr (List.singleton_inj.mp hc ▸ List.mem_singleton_self c)⟩
      · exact (hbegins h).imp_right Or.inl

/-- A plan that looks up and then takes the interface away gets that far. -/
theorem Reaches.takes {sound : Outcome Unit Controller} {lookups : List Call}
    {r : Except Error Unit} {log : List Exchange} {after : Controller}
    (h : Reaches m sound r log after) (hlookups : ∀ c ∈ lookups, c.isWrite = false)
    (hresult : sound.result = .ok ()) (hunfailing : Unfailing sound.exchanges)
    (hcalls : sound.exchanges.map (·.call) = lookups ++ m.removal key v)
    (hstate : sound.state = made (sound.exchanges.map (·.call)) m) :
    Takes key v m r log after := by
  cases h with
  | whole =>
      rw [hresult, hstate, hcalls, made_append, made_of_reads hlookups, removal, made_append,
        made_update]
      apply Takes.all hunfailing
      rw [writes, hcalls, filter_isWrite_lookups hlookups]
  | @part earlier x e hearlier hfailed hpart =>
      have hwrites : writes (earlier ++ [x]) =
          (earlier.map (·.call) ++ [x.call]).filter Call.isWrite := by
        rw [writes, List.map_append]
        rfl
      rw [hcalls, removal, ← List.append_assoc, List.prefix_concat_iff] at hpart
      -- the run breaks off at the deletion itself, or at an earlier call
      rcases hpart with hall | hpart
      · rw [hall, List.append_assoc, ← removal, filter_isWrite_lookups hlookups] at hwrites
        obtain ⟨hmade, hx⟩ := List.append_inj' hall rfl
        rw [hmade, made_append, made_of_reads hlookups, made_update]
        exact .half hearlier hfailed (List.singleton_inj.mp hx) hwrites
      · obtain ⟨hreads, hx⟩ := of_prefix_update hpart
        have hquiet := fun c hc => hlookups c (hreads c hc)
        rw [made_of_reads hquiet]
        apply Takes.none hearlier hfailed
        · exact List.filter_eq_nil_iff.mpr fun c hc => by simp [hquiet c hc]
        · intro hwrite
          refine hx.resolve_left fun hread => ?_
          rw [hlookups _ hread] at hwrite
          cases hwrite

/-- What is looked up first makes no difference. -/
theorem Takes.prepend {earlier log : List Exchange} {r : Except Error Unit} {after : Controller}
    (hearlier : Unfailing earlier) (hreads : writes earlier = []) (h : Takes key v m r log after) :
    Takes key v m r (earlier ++ log) after := by
  cases h with
  | all hlog hwrites =>
      apply Takes.all (unfailing_append.mpr ⟨hearlier, hlog⟩)
      rw [writes_append, hreads, List.nil_append, hwrites]
  | half hlog hx hcall hwrites =>
      rw [← List.append_assoc]
      apply Takes.half (unfailing_append.mpr ⟨hearlier, hlog⟩) hx hcall
      rw [List.append_assoc, writes_append, hreads, List.nil_append, hwrites]
  | none hlog hx hwrites hcall =>
      rw [← List.append_assoc]
      apply Takes.none (unfailing_append.mpr ⟨hearlier, hlog⟩) hx _ hcall
      rw [writes_append, hreads, List.nil_append, hwrites]

theorem writes_of_within {α : Type} {p : Plan α} (hp : p.Within fun c => c.isWrite = false)
    (s : σ) : writes (p.run respond s).exchanges = [] := by
  apply List.filter_eq_nil_iff.mpr
  intro c hc
  obtain ⟨x, hx, rfl⟩ := List.mem_map.mp hc
  simp [hp.of_mem_exchanges hx]

/-- The interface of a tagged port is taken away as far as that. -/
theorem takes_remove (h : FailsCleanly respond memory)
    (htagged : (((Integrator.enabled source).isTagged port).run respond s).result = .ok true)
    (hname : (memory s).nameFor? port = some key)
    (hvmi : Keyed.get? key (memory s).vmis = some v) :
    Takes key v (memory s) (((Integrator.enabled source).remove port).run respond s).result
      (((Integrator.enabled source).remove port).run respond s).exchanges
      (memory (((Integrator.enabled source).remove port).run respond s).state) := by
  obtain ⟨found, hfound, hlog⟩ := Integrator.managed?_result respond source port s
  rw [Integrator.isTagged_result hfound] at htagged
  obtain ⟨a, rfl⟩ := Option.isSome_iff_exists.mp (Except.ok.inj htagged)
  have hwithin : (Integrator.managed? source port).Within fun c => c.isWrite = false :=
    Integrator.managed?_within (fun _ => rfl) source port
  have hmemory := h.answersFrom.memory_of_within hwithin s
  change memory ((Integrator.managed? source port).run respond s).state = _ at hmemory
  rw [Integrator.remove, Plan.run_bind_of_ok hfound]
  apply Takes.prepend (hlog rfl) (writes_of_within hwithin s)
  rw [← hmemory] at hname hvmi ⊢
  have hstrict := Integrator.remove_strict port a
  obtain ⟨hresult, lookups, hlookups, hcalls⟩ :=
    run_project_removeInterface (Integrator.ofPort?_of_managed? hfound) hname hvmi
  exact (h.run_strict hstrict _).takes hlookups hresult (hstrict.unfailing hresult) hcalls
    (run_answer_state _ _)

theorem failed_of_mem_concat {log : List Exchange} {x y : Exchange} (hlog : Unfailing log)
    (hy : y ∈ log ++ [x]) (hfailed : y.failed = true) : y = x := by
  rcases List.mem_append.mp hy with hy | hy
  · rw [hlog y hy] at hfailed
    cases hfailed
  · exact List.mem_singleton.mp hy

theorem failed_of_error {x : Exchange} {e : Error} (hx : x.answer = .error e) :
    x.failed = true := by
  rw [Exchange.failed, hx]

theorem call_ne_of_writes_eq_nil {log : List Exchange} {x : Exchange} (hlog : writes log = [])
    (hx : x ∈ log) (name : FqName) : x.call ≠ .deleteVmi name := by
  intro hcall
  have hread := List.filter_eq_nil_iff.mp hlog x.call (List.mem_map_of_mem hx)
  rw [hcall] at hread
  exact hread rfl

section

variable {r : Except Error Unit} {log : List Exchange} {after : Controller}

theorem Takes.result_iff (h : Takes key v m r log after) : r = .ok () ↔ Unfailing log := by
  cases h with
  | all hlog _ => exact iff_of_true rfl hlog
  | half _ hx _ _ | none _ hx _ _ =>
      refine iff_of_false (by simp) fun hlog => ?_
      have hanswered := hlog _ (List.mem_append_right _ (List.mem_singleton_self _))
      rw [failed_of_error hx] at hanswered
      cases hanswered

theorem Takes.writes_begin (h : Takes key v m r log after) :
    writes log <+: m.removal key v := by
  cases h with
  | all _ hwrites | half _ _ _ hwrites => exact hwrites ▸ List.prefix_refl _
  | @none log x e _ _ hwrites hcall =>
      rw [writes_append, hwrites, List.nil_append, removal]
      cases hwrite : x.call.isWrite with
      | false => simp [writes, hwrite]
      | true =>
          obtain ⟨g, hg, hx⟩ := mem_update_iff.mp (hcall hwrite)
          rw [writes, List.map_singleton, hx, update, hg]
          exact List.prefix_append [_] [Call.deleteVmi key]

theorem Takes.of_failed (h : Takes key v m r log after) {x : Exchange} (hx : x ∈ log)
    (hfailed : x.failed = true) :
    (x.call = .deleteVmi key ∧ after = m.detached v) ∨
      ((∀ y ∈ log, ∀ name, y.call ≠ .deleteVmi name) ∧ after = m) := by
  cases h with
  | all hlog _ =>
      rw [hlog x hx] at hfailed
      cases hfailed
  | half hlog _ hcall _ =>
      obtain rfl := failed_of_mem_concat hlog hx hfailed
      exact Or.inl ⟨hcall, rfl⟩
  | none hlog _ hwrites hcall =>
      obtain rfl := failed_of_mem_concat hlog hx hfailed
      refine Or.inr ⟨fun y hy name => ?_, rfl⟩
      rcases List.mem_append.mp hy with hy | hy
      · exact call_ne_of_writes_eq_nil hwrites hy name
      · obtain rfl := List.mem_singleton.mp hy
        intro hdelete
        obtain ⟨g, -, hupdate⟩ := mem_update_iff.mp (hcall (by rw [hdelete]; rfl))
        rw [hdelete] at hupdate
        cases hupdate

theorem Takes.of_ok (h : Takes key v m (.ok ()) log after) :
    writes log = m.removal key v ∧ after = (m.detached v).deleteVmi key := by
  cases h with
  | all _ hwrites => exact ⟨hwrites, rfl⟩

end

/-- Whichever call fails, the interface of a tagged port is taken out of its port group before it is
deleted. What fails before the deletion changes nothing; if the deletion fails, the interface is in
the port group no longer. Taking interfaces out of a group can be done in any order, and twice. -/
theorem interface_detached_before_deleted (h : FailsCleanly respond memory) (source : LinkSource)
    (port : Neutron.Port) (s : σ) (key : FqName) (v : VirtualMachineInterface)
    (hkeyed : (memory s).GroupsKeyed)
    (htagged : (((Integrator.enabled source).isTagged port).run respond s).result = .ok true)
    (hname : (memory s).nameFor? port = some key)
    (hvmi : Keyed.get? key (memory s).vmis = some v) :
    let run := ((Integrator.enabled source).remove port).run respond s
    let before := memory s
    let after := memory run.state
    (run.result = .ok () ↔ Unfailing run.exchanges) ∧
    writes run.exchanges <+: before.removal key v ∧
    (run.result = .ok () →
      writes run.exchanges = before.removal key v ∧
      (∀ other, Keyed.get? other after.vmis =
        if key = other then none else Keyed.get? other before.vmis) ∧
      Leaves v before after) ∧
    (∀ x ∈ run.exchanges, x.failed = true → x.call ≠ .deleteVmi key →
      (∀ y ∈ run.exchanges, ∀ name, y.call ≠ .deleteVmi name) ∧ after = before) ∧
    (∀ x ∈ run.exchanges, x.failed = true → x.call = .deleteVmi key →
      after.vmis = before.vmis ∧ Leaves v before after) ∧
    (∀ (g : VirtualPortGroup) (vs ws : List VirtualMachineInterface), vs.Perm ws →
      vs.foldl VirtualPortGroup.detach g = ws.foldl VirtualPortGroup.detach g) ∧
    ∀ (g : VirtualPortGroup) (w : VirtualMachineInterface),
      (g.detach w).detach w = g.detach w := by
  intro run before after
  have htakes : Takes key v before run.result run.exchanges after :=
    takes_remove h htagged hname hvmi
  have hleaves := leaves_detached hkeyed v
  refine ⟨htakes.result_iff, htakes.writes_begin, ?_, ?_, ?_, ?_, detach_detach⟩
  · intro hok
    rw [hok] at htakes
    obtain ⟨hwrites, hafter⟩ := htakes.of_ok
    refine ⟨hwrites, fun other => ?_, ?_⟩
    · rw [hafter, deleteVmi, Keyed.get?_erase, detached_vmis]
    · rw [hafter]
      exact hleaves
  · intro x hx hfailed hcall
    exact (htakes.of_failed hx hfailed).resolve_left fun hdelete => hcall hdelete.1
  · intro x hx hfailed hcall
    rcases htakes.of_failed hx hfailed with ⟨-, hafter⟩ | ⟨hkept, -⟩
    · rw [hafter, detached_vmis]
      exact ⟨rfl, hleaves⟩
    · exact absurd hcall (hkept x hx key)
  · exact fun g vs ws hperm => VirtualPortGroup.foldl_detach_of_perm hperm g

end

/-- The interface of one project is taken out of the port group of both, but its deletion fails;
and where the group cannot be written nothing happens. -/
theorem interface_detached_but_kept :
    let remove := (Integrator.enabled Lab.source).remove Lab.adminPort
    let kept := remove.run Lab.flaky ([false, false, false, false, true], Lab.bonded)
    let untouched := remove.run Lab.flaky ([false, false, false, true], Lab.bonded)
    kept.result ≠ .ok () ∧ kept.state.2.vmis = Lab.bonded.vmis ∧
      Leaves (Lab.bondedVmi "vmi-1" Lab.adminName) Lab.bonded kept.state.2 ∧
      (Keyed.get? "vpg-1" kept.state.2.groups).map (·.vmiRefs.map (·.uuid)) = some ["vmi-2"] ∧
      untouched.state.2 = Lab.bonded ∧
      untouched.exchanges.map (·.call.name) =
        ["get_project", "get_virtual_machine_interface", "get_virtual_port_group",
          "update_virtual_port_group"] := by
  intro remove kept untouched
  have hname : Lab.bonded.nameFor? Lab.adminPort = some Lab.adminName := by decide +kernel
  obtain ⟨-, -, -, hnone, hhalf, -⟩ := interface_detached_before_deleted Lab.flaky_failsCleanly
    Lab.source Lab.adminPort ([false, false, false, false, true], Lab.bonded) Lab.adminName
    (Lab.bondedVmi "vmi-1" Lab.adminName) Lab.bonded_groupsKeyed (by decide +kernel) hname rfl
  obtain ⟨-, -, -, huntouched, -⟩ := interface_detached_before_deleted Lab.flaky_failsCleanly
    Lab.source Lab.adminPort ([false, false, false, true], Lab.bonded) Lab.adminName
    (Lab.bondedVmi "vmi-1" Lab.adminName) Lab.bonded_groupsKeyed (by decide +kernel) hname rfl
  obtain ⟨x, hx, hfailed, hdelete⟩ : ∃ x ∈ kept.exchanges, x.failed = true ∧
      x.call.name = "delete_virtual_machine_interface" := by decide +kernel
  obtain ⟨y, hy, hfailed', hupdate⟩ : ∃ y ∈ untouched.exchanges, y.failed = true ∧
      y.call.name = "update_virtual_port_group" := by decide +kernel
  have hcall : x.call = .deleteVmi Lab.adminName := by
    by_contra hne
    obtain ⟨name, hname⟩ := Call.exists_of_name_eq_delete hdelete
    exact (hnone x hx hfailed hne).1 x hx name hname
  have hcall' : y.call ≠ .deleteVmi Lab.adminName := by
    intro hcall
    rw [hcall] at hupdate
    exact absurd hupdate (by decide)
  obtain ⟨hvmis, hleaves⟩ := hhalf x hx hfailed hcall
  exact ⟨by decide +kernel, hvmis, hleaves, by decide +kernel,
    (huntouched y hy hfailed' hcall').2, by decide +kernel⟩

end Controller

end VlanBinding
