import VlanBinding.Proofs.Handling

/-!
Notifications that are delivered again. Calls may fail while a notification is handled, and it may
end after any of its writes. Handled again without failures, it comes to what it would have come to
in the first place: creating is the last thing that it does, and what was removed or half removed
is not missed.
-/

namespace VlanBinding.Controller

open VlanBinding.Fabric VlanBinding.Integration

variable {source : LinkSource} {failures : Failures} {s t : Controller}
variable {port previous : Neutron.Port}

theorem perform_respond_inventory {α : Type} (failures : Failures) (p : Plan α)
    (s : Controller) :
    (p.perform (respond failures) s).2.inventory = s.inventory :=
  Plan.perform_invariant inventory (fun c s => respond_inventory c s) p s

theorem perform_respond_corePorts {α : Type} (failures : Failures) (p : Plan α)
    (s : Controller) :
    (p.perform (respond failures) s).2.corePorts = s.corePorts :=
  Plan.perform_invariant corePorts (fun c s => respond_corePorts c s) p s

/-! ## Plans that fail before they change anything -/

/-- The plan goes as it does without failures, or ends in an error and leaves
the controller as it was. -/
def Steady {α : Type} (failures : Failures) (p : Plan α) (s : Controller) : Prop :=
  p.perform (respond failures) s = p.perform answer s ∨
    ∃ e, p.perform (respond failures) s = (.error e, s)

theorem steady_ask (failures : Failures) (c : Call) (s : Controller) :
    Steady failures (Plan.ask c) s := by
  rcases respond_cases failures c s with ⟨_, -, h⟩ | ⟨-, h⟩
  · exact Or.inr ⟨_, h⟩
  · exact Or.inl h

theorem Steady.bind_of_ok {α β : Type} {p : Plan α} {f : α → Plan β} {a : α}
    (hfailing : p.perform (respond failures) s = (.ok a, s))
    (hsound : p.perform answer s = (.ok a, s)) (hf : Steady failures (f a) s) :
    Steady failures (p >>= f) s := by
  rw [Steady, Plan.perform_bind_ok hfailing, Plan.perform_bind_ok hsound]
  exact hf

/-- What only reads finds the same in spite of failures, unless it is kept from
it. -/
theorem perform_reading {α : Type} {p : Plan α}
    (hp : p.Strict fun c => c.isWrite = false) (failures : Failures)
    (s : Controller) :
    (∃ a, p.perform (respond failures) s = (.ok a, s) ∧
      p.perform answer s = (.ok a, s)) ∨
    ∃ e, p.perform (respond failures) s = (.error e, s) := by
  have hfailing : (p.perform (respond failures) s).2 = s :=
    hp.within.perform_state (fun c s hc => respond_state_of_read failures c s hc) s
  have hrespond : ∀ c s, respond failures c s = answer c s ∨
      ∃ e, (respond failures c s).1 = .error e := by
    intro c s
    rcases respond_cases failures c s with ⟨_, -, h⟩ | ⟨-, h⟩
    · exact Or.inr ⟨_, by rw [h]⟩
    · exact Or.inl h
  cases hresult : (p.perform (respond failures) s).1 with
  | error e => exact Or.inr ⟨e, Prod.ext hresult hfailing⟩
  | ok a =>
      have hok : p.perform (respond failures) s = (.ok a, s) :=
        Prod.ext hresult hfailing
      rcases hp.perform_eq_or_error hrespond s with hsame | ⟨e, herror⟩
      · exact Or.inl ⟨a, hok, hsame.symm.trans hok⟩
      · rw [hresult] at herror
        cases herror

/-- Reading first keeps a plan steady. -/
theorem Steady.bind {α β : Type} {p : Plan α} {f : α → Plan β}
    (hp : p.Strict fun c => c.isWrite = false)
    (hf : ∀ a, Steady failures (f a) s) : Steady failures (p >>= f) s := by
  rcases perform_reading hp failures s with ⟨a, hfailing, hsound⟩ | ⟨e, herror⟩
  · exact Steady.bind_of_ok hfailing hsound (hf a)
  · exact Or.inr ⟨e, Plan.perform_bind_error herror⟩

theorem steady_makeInterface (failures : Failures) (source : LinkSource)
    (a : Attachment) (tag : UInt16) (project : Project) (s : Controller) :
    Steady failures (Integrator.makeInterface source a tag project) s := by
  refine Steady.bind ((Plan.strict_ask _).mpr rfl) fun found => ?_
  cases found with
  | some vmi => exact Or.inl rfl
  | none =>
      refine Steady.bind ((Plan.strict_ask _).mpr rfl) fun found => ?_
      cases found with
      | none => exact Or.inl rfl
      | some network =>
          have hprofile := (Profile.ofHost_strict source a.host).mono
            fun c hc => Call.isWrite_of_asksLinks hc
          exact Steady.bind hprofile fun profile => steady_ask failures _ s

theorem steady_create (hsees : failures.sees source = true) (port : Neutron.Port)
    (s : Controller) :
    Steady failures ((Integrator.enabled source).create port) s := by
  refine Steady.bind_of_ok (perform_managed?_of_sees hsees port s)
    (answer_managed? source port s) ?_
  cases s.attachment? source port with
  | none => exact Or.inl rfl
  | some a =>
      refine Steady.bind ((Plan.strict_ask _).mpr rfl) fun network => ?_
      cases network.vlanTag with
      | none => exact Or.inl rfl
      | some tag =>
          have hproject := (projectOf_strict port).mono
            fun c hc => isWrite_of_asksInventory hc
          exact Steady.bind hproject fun project =>
            steady_makeInterface failures source a tag project s

theorem steady_detach (failures : Failures) (vmi : VirtualMachineInterface)
    (s : Controller) : Steady failures (Integrator.detach vmi) s := by
  rw [Integrator.detach]
  cases vmi.portGroupBackRefs with
  | nil => exact Or.inl rfl
  | cons ref rest =>
      refine Steady.bind ((Plan.strict_ask _).mpr rfl) fun found => ?_
      cases found with
      | none => exact Or.inl rfl
      | some group => exact steady_ask failures _ s

/-! ## Removing -/

/-- A removal that fails leaves as much to remove as there was. -/
theorem removeInterface_failing (failures : Failures) (fqName : FqName)
    (s : Controller) :
    let plan := Integrator.removeInterface fqName
    plan.perform (respond failures) s = plan.perform answer s ∨
    ∃ e t, plan.perform (respond failures) s = (.error e, t) ∧
      t.removed fqName = s.removed fqName := by
  intro plan
  have hread : (Plan.ask (.getVmi fqName)).perform answer s =
      (.ok (Keyed.get? fqName s.vmis), s) := rfl
  rcases steady_ask failures (.getVmi fqName) s with hsame | ⟨e, herror⟩
  · have hfailing : plan.perform (respond failures) s = _ :=
      Plan.perform_bind_ok (hsame.trans hread)
    rw [perform_removeInterface, hfailing]
    cases hvmi : Keyed.get? fqName s.vmis with
    | none => exact Or.inl (by rw [removed_of_none hvmi]; rfl)
    | some vmi =>
        simp only
        rcases steady_detach failures vmi s with hdetach | ⟨e, herror⟩
        · rw [Plan.perform_bind_ok (hdetach.trans (perform_detach vmi s))]
          rcases steady_ask failures (.deleteVmi fqName) (s.detached vmi) with
            hdelete | ⟨e, herror⟩
          · refine Or.inl ?_
            rw [hdelete, removed, hvmi]
            rfl
          · exact Or.inr ⟨e, _, herror, removed_detached hvmi⟩
        · exact Or.inr ⟨e, s, Plan.perform_bind_error herror, rfl⟩
  · exact Or.inr ⟨e, s, Plan.perform_bind_error herror, rfl⟩

/-- Once it has failed, taking the interface of a port away comes to what it
would have come to. -/
theorem remove_failing (hsees : failures.sees source = true) (port : Neutron.Port)
    (s : Controller) :
    let plan := (Integrator.enabled source).remove port
    plan.perform (respond failures) s = plan.perform answer s ∨
    ∃ e t, plan.perform (respond failures) s = (.error e, t) ∧
      plan.perform answer t = plan.perform answer s := by
  intro plan
  have hfailing : plan.perform (respond failures) s = _ :=
    Plan.perform_bind_ok (perform_managed?_of_sees hsees port s)
  have hsound : plan.perform answer s = _ :=
    Plan.perform_bind_ok (answer_managed? source port s)
  cases ha : s.attachment? source port with
  | none =>
      rw [ha] at hfailing hsound
      exact Or.inl (hfailing.trans hsound.symm)
  | some a =>
      rw [ha] at hfailing hsound
      have hproject := (projectOf_strict port).mono
        fun c hc => isWrite_of_asksInventory hc
      rcases perform_reading hproject failures s with
        ⟨project, hfound, hknown⟩ | ⟨e, herror⟩
      · have hneed : s.need? source port = some ⟨project.fqName, a⟩ := by
          simp [need?, ha, projectOf?, hknown, Except.toOption]
        simp only at hfailing hsound
        rw [Plan.perform_bind_ok hfound] at hfailing
        rw [Plan.perform_bind_ok hknown] at hsound
        rcases removeInterface_failing failures (project.fqName ++ [a.interfaceName])
            s with hsame | ⟨e, t, herror, hremoved⟩
        · exact Or.inl (hfailing.trans (hsame.trans hsound.symm))
        · refine Or.inr ⟨e, t, hfailing.trans herror, ?_⟩
          have hinventory := perform_respond_inventory failures plan s
          rw [hfailing, herror] at hinventory
          have hagain := hneed
          rw [← need?_of_inventory hinventory] at hagain
          rw [perform_remove_of_need hneed, perform_remove_of_need hagain]
          exact Prod.ext rfl hremoved
      · exact Or.inr ⟨e, s, hfailing.trans (Plan.perform_bind_error herror), rfl⟩

/-- Nothing is left to remove where it was removed, whether or not another
interface was made since. -/
theorem remove_again (hremove : ((Integrator.enabled source).remove port).perform
      answer s = (.ok (), t)) :
    let plan := (Integrator.enabled source).remove port
    plan.perform answer t = (.ok (), t) ∧
    ∀ vmi : VirtualMachineInterface, vmi.portGroupBackRefs = [] →
      Keyed.get? vmi.fqName t.vmis = none →
      plan.perform answer (t.createVmi vmi) = (.ok (), t) ∨
      plan.perform answer (t.createVmi vmi) = (.ok (), t.createVmi vmi) := by
  intro plan
  rcases perform_remove source port s with
    ⟨ha, hdone⟩ | ⟨x, hneed, hdone⟩ | ⟨-, -, e, herror⟩
  · obtain rfl : s = t := congrArg Prod.snd (hdone.symm.trans hremove)
    refine ⟨hdone, fun vmi _ _ => Or.inr ?_⟩
    apply perform_remove_of_unattached
    rw [attachment?_of_inventory (createVmi_inventory vmi s), ha]
  · obtain rfl : s.removed x.fqName = t :=
      congrArg Prod.snd (hdone.symm.trans hremove)
    have hinventory := removed_inventory x.fqName s
    have hneeds (t : Controller) (ht : t.inventory = s.inventory) :
        plan.perform answer t = (.ok (), t.removed x.fqName) := by
      rw [← need?_of_inventory ht] at hneed
      exact perform_remove_of_need hneed
    refine ⟨?_, fun vmi hrefs hfresh => ?_⟩
    · rw [hneeds _ hinventory, removed_removed]
    · rw [hneeds _ ((createVmi_inventory vmi _).trans hinventory)]
      -- What was made since goes again if it has the name, and stays if not.
      by_cases hname : vmi.fqName = x.fqName
      · rw [← hname] at hfresh ⊢
        exact Or.inl (by rw [removed_createVmi hrefs hfresh])
      · refine Or.inr ?_
        rw [removed_of_none]
        rw [get?_createVmi, get?_removed]
        simp [hname]
  · rw [hremove] at herror
    cases congrArg Prod.fst herror

/-! ## Notifications -/

/-- Handled again without failures, the plan comes to what it would have come to
in the first place. -/
def Resumes (failures : Failures) (p : Plan Unit) : Prop :=
  ∀ s, p.perform answer (p.perform (respond failures) s).2 = p.perform answer s

theorem create_again (source : LinkSource) (port : Neutron.Port) (s : Controller) :
    ((Integrator.enabled source).create port).perform answer
        (((Integrator.enabled source).create port).perform answer s).2 =
      ((Integrator.enabled source).create port).perform answer s := by
  rcases perform_create source port s with
    ⟨-, result, hperform⟩ | ⟨x, vmi, hneed, hfresh, hvmi, hperform⟩
  · rw [hperform, hperform]
  · rw [hperform]
    have hinventory := (createVmi_inventory vmi s).symm
    have hname := fqName_of_interfaceOf? hvmi
    rw [← hname] at hfresh
    have hgroups := (createVmi_groups vmi s).symm
    rw [need?_of_inventory hinventory] at hneed
    rw [interfaceOf?_of_groups hinventory hgroups] at hvmi
    have hstored : Keyed.get? x.fqName (s.createVmi vmi).vmis =
        some (stored vmi) := by
      rw [get?_createVmi, ← hname, hfresh]
      simp
    exact perform_create_of_stored hneed hvmi hstored

theorem create_resumes (hsees : failures.sees source = true)
    (port : Neutron.Port) :
    Resumes failures ((Integrator.enabled source).create port) := by
  intro s
  rcases steady_create hsees port s with hsame | ⟨e, herror⟩
  · rw [hsame]
    exact create_again source port s
  · rw [herror]

theorem remove_ends (source : LinkSource) (port : Neutron.Port) (s : Controller) :
    (∃ t, ((Integrator.enabled source).remove port).perform answer s =
      (.ok (), t)) ∨
    ∃ e, ((Integrator.enabled source).remove port).perform answer s =
      (.error e, s) := by
  rcases perform_remove source port s with
    ⟨-, hremove⟩ | ⟨x, -, hremove⟩ | ⟨-, -, e, hremove⟩
  · exact Or.inl ⟨s, hremove⟩
  · exact Or.inl ⟨_, hremove⟩
  · exact Or.inr ⟨e, hremove⟩

theorem remove_resumes (hsees : failures.sees source = true)
    (port : Neutron.Port) :
    Resumes failures ((Integrator.enabled source).remove port) := by
  intro s
  rcases remove_failing hsees port s with hsame | ⟨e, t, herror, hagain⟩
  · rw [hsame]
    rcases remove_ends source port s with ⟨t, hremove⟩ | ⟨e, hremove⟩
    · rw [hremove]
      exact (remove_again hremove).1
    · rw [hremove, hremove]
  · rw [herror]
    exact hagain

/-- To remove for the one port and then create for the other. -/
def replace (source : LinkSource) (port previous : Neutron.Port) : Plan Unit := do
  (Integrator.enabled source).remove previous
  (Integrator.enabled source).create port

/-- After the removal it does not matter that it is done again, before or after
the creation. -/
theorem replace_of_removed (hremove : ((Integrator.enabled source).remove
      previous).perform answer s = (.ok (), t)) (port : Neutron.Port) :
    let create := ((Integrator.enabled source).create port).perform answer t
    (replace source port previous).perform answer s = create ∧
    (replace source port previous).perform answer t = create ∧
    (replace source port previous).perform answer create.2 = create := by
  intro create
  obtain ⟨hagain, hcreated⟩ := remove_again hremove
  have hmiddle : (replace source port previous).perform answer t = create :=
    Plan.perform_bind_ok hagain
  refine ⟨Plan.perform_bind_ok hremove, hmiddle, ?_⟩
  rcases perform_create source port t with
    ⟨-, result, hperform⟩ | ⟨x, vmi, -, hfresh, hvmi, hperform⟩
  · have hcreate : create = (result, t) := hperform
    rw [hcreate]
    exact hmiddle.trans hcreate
  · have hcreate : create = (.ok (), t.createVmi vmi) := hperform
    have hrefs := portGroupBackRefs_of_interfaceOf? hvmi
    rw [← fqName_of_interfaceOf? hvmi] at hfresh
    rcases hcreated vmi hrefs hfresh with hgone | hkept
    · rw [hcreate]
      exact (Plan.perform_bind_ok hgone).trans hcreate
    · have hleft : create.2 = t.createVmi vmi := by rw [hcreate]
      rw [← hleft] at hkept
      exact (Plan.perform_bind_ok hkept).trans (create_again source port t)

theorem replace_resumes (hsees : failures.sees source = true)
    (port previous : Neutron.Port) :
    Resumes failures (replace source port previous) := by
  intro s
  rcases remove_failing hsees previous s with hsame | ⟨e, t, herror, hagain⟩
  · rcases remove_ends source previous s with ⟨t, hremove⟩ | ⟨e, hremove⟩
    · obtain ⟨hstart, hmiddle, hend⟩ := replace_of_removed hremove port
      have hfailing : (replace source port previous).perform (respond failures) s =
          ((Integrator.enabled source).create port).perform (respond failures) t :=
        Plan.perform_bind_ok (hsame.trans hremove)
      rw [hfailing, hstart]
      rcases steady_create hsees port t with hcreate | ⟨e, herror⟩
      · rw [hcreate]
        exact hend
      · rw [herror]
        exact hmiddle
    · have hfailing : (replace source port previous).perform (respond failures) s =
          (.error e, s) := Plan.perform_bind_error (hsame.trans hremove)
      rw [hfailing]
  · have hfailing : (replace source port previous).perform (respond failures) s =
        (.error e, t) := Plan.perform_bind_error herror
    rw [hfailing, replace, Plan.perform_bind, hagain, ← Plan.perform_bind]

theorem sync_resumes (hsees : failures.sees source = true)
    (port previous : Neutron.Port) :
    Resumes failures ((Integrator.enabled source).sync port previous) := by
  rw [Integrator.sync]
  simp only [Integrator.isEnabled, Bool.not_true, Bool.false_eq_true, ↓reduceIte]
  split
  · exact create_resumes hsees port
  · exact replace_resumes hsees port previous

/-- The guard is read first, and reads the same again. -/
theorem guarded_resumes (hsees : failures.sees source = true)
    (port : Neutron.Port) (id : String) {kept gone : Plan Unit}
    (hkept : Resumes failures kept) (hgone : Resumes failures gone) :
    Resumes failures (do
      if ← (Integrator.enabled source).neededByOther port id then kept else gone) := by
  intro s
  rcases perform_neededByOther failures source port id s with
    ⟨_, e, -, herror⟩ | hneeded
  · rw [Plan.perform_bind_error herror]
  · rw [hsees, Bool.true_and] at hneeded
    rw [Plan.perform_bind_ok hneeded,
      Plan.perform_bind_ok (answer_neededByOther source port id s)]
    generalize hplan : (if s.needed source port id then kept else gone) = plan
    have hinventory := perform_respond_inventory failures plan s
    have hports := perform_respond_corePorts failures plan s
    have hagain := answer_neededByOther source port id
      (plan.perform (respond failures) s).2
    rw [needed_of_inventory hinventory hports] at hagain
    rw [Plan.perform_bind_ok hagain, hplan]
    cases hcase : s.needed source port id with
    | true =>
        rw [hcase] at hplan
        exact hplan ▸ hkept s
    | false =>
        rw [hcase] at hplan
        exact hplan ▸ hgone s

/-! ## A source of links that fails to answer -/

theorem create_blind (hblind : failures.sees source = false)
    (port : Neutron.Port) (s : Controller) :
    ((Integrator.enabled source).create port).perform (respond failures) s =
      (.ok (), s) := by
  have hmanaged := perform_managed? failures source port s
  rw [hblind] at hmanaged
  exact Plan.perform_bind_ok hmanaged

theorem remove_blind (hblind : failures.sees source = false)
    (port : Neutron.Port) (s : Controller) :
    ((Integrator.enabled source).remove port).perform (respond failures) s =
      (.ok (), s) := by
  have hmanaged := perform_managed? failures source port s
  rw [hblind] at hmanaged
  exact Plan.perform_bind_ok hmanaged

theorem sync_blind (hblind : failures.sees source = false)
    (port previous : Neutron.Port) (s : Controller) :
    ((Integrator.enabled source).sync port previous).perform (respond failures) s =
      (.ok (), s) := by
  rw [Integrator.sync]
  simp only [Integrator.isEnabled, Bool.not_true, Bool.false_eq_true, ↓reduceIte]
  split
  · exact create_blind hblind port s
  · rw [Plan.perform_bind_ok (remove_blind hblind previous s)]
    exact create_blind hblind port s

/-- Where no host seems to be known, nothing is done, unless the guard fails. -/
theorem handle_blind (hblind : failures.sees source = false) (n : Notification)
    (s : Controller) :
    (((Integrator.enabled source).handle n).perform (respond failures) s).2 = s := by
  cases n with
  | created port =>
      rw [Integrator.handle, sync_blind hblind]
  | updated port previous =>
      simp only [Integrator.handle, Integrator.isEnabled, Bool.not_true,
        Bool.false_eq_true, ↓reduceIte]
      split
      · rw [sync_blind hblind]
      · rcases perform_neededByOther failures source previous port.id s with
          ⟨_, e, -, herror⟩ | hneeded
        · rw [Plan.perform_bind_error herror]
        · rw [hblind] at hneeded
          rw [Plan.perform_bind_ok hneeded]
          exact congrArg Prod.snd (sync_blind hblind port previous s)
  | deleted port =>
      simp only [Integrator.handle, Integrator.isEnabled, Bool.not_true,
        Bool.false_eq_true, ↓reduceIte]
      rcases perform_neededByOther failures source port port.id s with
        ⟨_, e, -, herror⟩ | hneeded
      · rw [Plan.perform_bind_error herror]
      · rw [hblind] at hneeded
        rw [Plan.perform_bind_ok hneeded]
        exact congrArg Prod.snd (remove_blind hblind port s)

theorem handle_resumes (hsees : failures.sees source = true) (n : Notification) :
    Resumes failures ((Integrator.enabled source).handle n) := by
  cases n with
  | created port => exact sync_resumes hsees port (.unbound port.id)
  | updated port previous =>
      simp only [Integrator.handle, Integrator.isEnabled, Bool.not_true,
        Bool.false_eq_true, ↓reduceIte]
      split
      · exact sync_resumes hsees port previous
      · exact guarded_resumes hsees previous port.id (create_resumes hsees port)
          (sync_resumes hsees port previous)
  | deleted port =>
      simp only [Integrator.handle, Integrator.isEnabled, Bool.not_true,
        Bool.false_eq_true, ↓reduceIte]
      exact guarded_resumes hsees port port.id (fun s => rfl)
        (remove_resumes hsees port)

/-- Whatever calls failed while a notification was handled, and wherever it
ended, handled again without failures it has the result, and leaves the
controller, that it would have had without any failure. -/
theorem redelivery_converges (i : Integrator) (n : Notification)
    (failures : Failures) (s : Controller) :
    let left := ((i.handle n).run (respond failures) s).state
    let again := (i.handle n).run (respond []) left
    let sound := (i.handle n).run (respond []) s
    again.result = sound.result ∧ again.state = sound.state := by
  intro left again sound
  have hresumes : (i.handle n).perform answer left = (i.handle n).perform answer s := by
    cases i with
    | disabled => cases n <;> rfl
    | enabled source =>
        cases hsees : failures.sees source with
        | true => exact handle_resumes hsees n s
        | false =>
            -- No host seems to be managed, so nothing was written.
            have hleft : left = s := handle_blind hsees n s
            rw [hleft]
  exact ⟨congrArg Prod.fst hresumes, congrArg Prod.snd hresumes⟩

end VlanBinding.Controller
