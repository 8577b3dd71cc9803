import DriverModules.Rpmsg.DevBind

/-!
# What a failing probe leaves behind

`rpmsg_dev_probe` has four effects, one after the other: it attaches the power domain, creates the
endpoint and writes it into the device, probes the driver and announces the channel. Each of them
may fail, and all errors leave through the one label `out`, which undoes nothing.

`rpmsgDevProbeOut` is the function with what cannot be seen in the device: the power domain and the
driver. `probeAtomic_iff` says which calls leave everything as it was when they fail.

## Main results, and what each rests on

* `rpmsgDevProbeOut_eq`: in the device it is the function of `DevBind`.
* `probeAtomic_iff`: all or nothing exactly when nothing fails behind an effect. It rests on what a
  call leaves in each of its cases (`rpmsgDevProbeOut_callback` for the long one). The table is as
  it was after a driver that fails; what stays is the name of the destroyed endpoint in
  `rpdev->ept`.
* `eptCreated_of_reachable`: what `probeAtomic_iff` asks of the state, that `rpdev->ept` names an
  endpoint that was created, holds in every run of `DevBind`. Without it the new endpoint could not
  be told from the old.
-/

open Transition

/-- What a call of `rpmsg_dev_probe` has done. -/
structure DevProbeOut where
  state : BindState
  ret : Except Errno Unit
  /-- A power domain it has attached still is. -/
  pmDomain : Bool
  /-- The driver's `probe` has succeeded, and its `remove` was not called. -/
  probed : Bool

namespace BindState

variable {s s' : BindState} {drv : RpmsgDriver} {env : DevProbeEnv} {attaches : Bool}

/-- `rpmsg_dev_probe`; `attaches` says that the device has a power domain to attach. -/
def rpmsgDevProbeOut (s : BindState) (drv : RpmsgDriver) (env : DevProbeEnv) (attaches : Bool) :
    DevProbeOut :=
  match env.pmDomainAttach with
  | .error err => ⟨s, .error err, false, false⟩
  | .ok () =>
    match drv.callback with
    | none =>
      match env.probe with
      | .error err => ⟨s, .error err, attaches, false⟩
      | .ok () => ⟨s, .ok (), attaches, true⟩
    | some cb =>
      match s.store.rpmsgCreateEpt (some s.rpdev) cb .null s.src env.ept with
      | (store, none) => ⟨{ s with store }, .error .ENOMEM, attaches, false⟩
      | (store, some (e, addr)) =>
        let s := { s with store, ept := some e, src := addr, created := e :: s.created }
        match env.probe with
        | .error err => ⟨s.rpmsgDestroyEpt e, .error err, attaches, false⟩
        | .ok () =>
          match s.virtioRpmsgAnnounce RPMSG_NS_CREATE env.rpmsgSendto with
          | .error fault => ⟨{ s with oops := some fault }, .ok (), attaches, true⟩
          | .ok ret => ⟨s, ret, attaches, true⟩

/-- It is the function the bus runs. -/
theorem rpmsgDevProbeOut_eq (s : BindState) (drv : RpmsgDriver) (env : DevProbeEnv)
    (attaches : Bool) :
    ((s.rpmsgDevProbeOut drv env attaches).state, (s.rpmsgDevProbeOut drv env attaches).ret) =
      s.rpmsgDevProbe drv env := by
  unfold rpmsgDevProbeOut rpmsgDevProbe
  rcases env.pmDomainAttach with err | ⟨⟩
  · rfl
  rcases drv.callback with - | cb
  · rcases env.probe with err | ⟨⟩ <;> rfl
  dsimp only
  rcases s.store.rpmsgCreateEpt (some s.rpdev) cb .null s.src env.ept with
    ⟨store, - | ⟨e, addr⟩⟩
  · rfl
  rcases env.probe with err | ⟨⟩
  · rfl
  dsimp only
  generalize virtioRpmsgAnnounce _ RPMSG_NS_CREATE env.rpmsgSendto = announced
  rcases announced with fault | ret <;> rfl

/-! ### The paths of the function -/

/-- There is no power domain to be had. -/
theorem rpmsgDevProbeOut_of_attach_error {err : Errno} (hpm : env.pmDomainAttach = .error err) :
    s.rpmsgDevProbeOut drv env attaches = ⟨s, .error err, false, false⟩ := by
  simp only [rpmsgDevProbeOut, hpm]

/-- A driver without callback is probed and no more. -/
theorem rpmsgDevProbeOut_noCallback (hcb : drv.callback = none)
    (hpm : env.pmDomainAttach = .ok ()) :
    s.rpmsgDevProbeOut drv env attaches = ⟨s, env.probe, attaches, env.probe.isOk⟩ := by
  simp only [rpmsgDevProbeOut, hpm, hcb]
  rcases env.probe with err | ⟨⟩ <;> rfl

/-- A driver with callback gets its endpoint or not. -/
theorem rpmsgDevProbeOut_callback {cb : RxCb} (hcb : drv.callback = some cb)
    (hpm : env.pmDomainAttach = .ok ()) :
    (∀ id t, ¬ s.store.Obtains s.src env.ept id t) ∧
        s.rpmsgDevProbeOut drv env attaches = ⟨s, .error .ENOMEM, attaches, false⟩ ∨
      ∃ id t, s.store.Obtains s.src env.ept id t ∧
        s.rpmsgDevProbeOut drv env attaches =
          match env.probe with
          | .error err =>
            ⟨(s.withEpt cb id t).rpmsgDestroyEpt s.store.next, .error err, attaches, false⟩
          | .ok () =>
            ⟨s.withEpt cb id t, if s.announce && s.featureNs then
              env.rpmsgSendto (s.nsMsg (.ofNat id) RPMSG_NS_CREATE) else .ok (), attaches,
              true⟩ := by
  rcases s.store.rpmsgCreateEpt_cases (some s.rpdev) cb .null s.src env.ept with
    ⟨hnone, hcreate⟩ | ⟨id, t, hid, hcreate⟩
  · exact .inl ⟨hnone, by simp only [rpmsgDevProbeOut, hpm, hcb, hcreate]⟩
  · refine .inr ⟨id, t, hid, ?_⟩
    have hannounce : (s.withEpt cb id t).virtioRpmsgAnnounce RPMSG_NS_CREATE env.rpmsgSendto =
        .ok (if s.announce && s.featureNs then
          env.rpmsgSendto (s.nsMsg (.ofNat id) RPMSG_NS_CREATE) else .ok ()) :=
      virtioRpmsgAnnounce_of_live (s := s.withEpt cb id t) rfl (withEpt_self cb id t)
    unfold withEpt at hannounce ⊢
    simp only [rpmsgDevProbeOut, hpm, hcb, hcreate]
    rcases env.probe with err | -
    · rfl
    · simp only [hannounce]

/-- **A call leaves the device as it was, or creates an endpoint for it.** -/
theorem rpmsgDevProbe_cases (s : BindState) (drv : RpmsgDriver) (env : DevProbeEnv) :
    (∃ ret, s.rpmsgDevProbe drv env = (s, ret)) ∨
      ∃ cb id t, s.store.Obtains s.src env.ept id t ∧
        ((∃ err, env.probe = .error err ∧ s.rpmsgDevProbe drv env =
          ((s.withEpt cb id t).rpmsgDestroyEpt s.store.next, .error err)) ∨
        ∃ ret, env.probe = .ok () ∧ s.rpmsgDevProbe drv env = (s.withEpt cb id t, ret)) := by
  rcases hpm : env.pmDomainAttach with err | ⟨⟩
  · exact .inl ⟨_, by simp only [rpmsgDevProbe, hpm]; rfl⟩
  rcases hcb : drv.callback with - | cb
  · exact .inl ⟨_, rpmsgDevProbe_noCallback hcb hpm⟩
  rcases rpmsgDevProbe_callback (s := s) hcb hpm with ⟨-, hout⟩ | ⟨id, t, hid, hout⟩
  · exact .inl ⟨_, hout⟩
  refine .inr ⟨cb, id, t, hid, ?_⟩
  rw [hout]
  rcases env.probe with err | ⟨⟩
  · exact .inl ⟨err, rfl, rfl⟩
  · exact .inr ⟨_, rfl, rfl⟩

/-! ### The endpoint the device names -/

@[simp] theorem rpmsgDestroyEpt_next (e : EptId) :
    (s.rpmsgDestroyEpt e).store.next = s.store.next := by
  simp only [rpmsgDestroyEpt, EptStore.rpmsgDestroyEpt]
  rcases s.store.epts e <;> rfl

theorem rpmsgDevRemove_next (rpmsgSendto : RpmsgNsMsg → Except Errno Unit) :
    (s.rpmsgDevRemove rpmsgSendto).store.next = s.store.next := by
  unfold rpmsgDevRemove
  split
  · rfl
  · split <;> simp

/-- `rpdev->ept` names an endpoint that was created. -/
def EptCreated (s : BindState) : Prop :=
  ∀ e, s.ept = some e → e < s.store.next

theorem EptCreated.rpmsgDevProbe (h : s.EptCreated) (drv : RpmsgDriver) (env : DevProbeEnv) :
    (s.rpmsgDevProbe drv env).1.EptCreated := by
  have hnew : ∀ cb id t, (s.withEpt cb id t).EptCreated := by
    intro cb id t e he
    obtain rfl := Option.some.inj he
    exact Nat.lt_succ_self _
  obtain ⟨ret, hout⟩ | ⟨cb, id, t, -, ⟨err, -, hout⟩ | ⟨ret, -, hout⟩⟩ :=
    s.rpmsgDevProbe_cases drv env
  · rwa [hout]
  · rw [hout]
    exact fun e he ↦ (hnew cb id t e he).trans_eq (rpmsgDestroyEpt_next _).symm
  · rw [hout]
    exact hnew cb id t

theorem EptCreated.step {ev : BindEvent} (h : s.EptCreated) (hstep : s.step ev = some s') :
    s'.EptCreated := by
  obtain ⟨drv, env, -, -, rfl⟩ | ⟨rpmsgSendto, _, -, -, rfl⟩ |
    ⟨rpdev, cb, priv, addr, env, -, rfl⟩ | ⟨e, _, -, -, -, rfl⟩ := step_cases hstep
  · have hprobe := h.rpmsgDevProbe drv env
    unfold reallyProbe
    generalize s.rpmsgDevProbe drv env = out at hprobe ⊢
    rcases out with ⟨s₁, err | ⟨⟩⟩ <;> exact hprobe
  · intro e he
    have he' : s.ept = some e := (rpmsgDevRemove_ept rpmsgSendto).symm.trans he
    exact (h e he').trans_eq (rpmsgDevRemove_next rpmsgSendto).symm
  · intro e he
    rcases s.store.rpmsgCreateEpt_cases rpdev cb priv addr env with
      ⟨-, hcreate⟩ | ⟨id, t, -, hcreate⟩
    · rw [hcreate]
      exact h e he
    · rw [hcreate]
      exact (h e he).trans (Nat.lt_succ_self _)
  · exact fun e' he' ↦ (h e' he').trans_eq (rpmsgDestroyEpt_next e).symm

/-- **It does so in every state of the device**, since ids of endpoints are not used twice. -/
theorem eptCreated_of_reachable {rpdev : RpdevId} {name : List UInt8} {src : UInt32}
    {announce featureNs : Bool}
    (h : Reachable step (registered rpdev name src announce featureNs) s) : s.EptCreated :=
  h.invariant (fun e he ↦ (by cases he)) fun _ hs _ hstep ↦ hs.step hstep

/-! ### All or nothing -/

/-- The law of `rpmsg_dev_probe`. -/
structure ProbeAtomic (s : BindState) (drv : RpmsgDriver) (out : DevProbeOut) : Prop where
  /-- A call that fails leaves the addresses as they were. -/
  endpoints : ∀ err, out.ret = .error err → out.state.store.endpoints = s.store.endpoints
  /-- And the device. -/
  device : ∀ err, out.ret = .error err → out.state.ept = s.ept ∧ out.state.src = s.src
  /-- The power domain is detached. -/
  pmDomain : ∀ err, out.ret = .error err → out.pmDomain = false
  /-- The driver is removed. -/
  probed : ∀ err, out.ret = .error err → out.probed = false
  /-- A driver with callback that is bound has its endpoint, under the address of the device. -/
  bound : out.ret = .ok () → ∀ cb, drv.callback = some cb → ∃ e ept, out.state.ept = some e ∧
    out.state.store.endpoints out.state.src.toNat = some e ∧
      out.state.store.epts e = some ept ∧ ept.cb = some cb

/-- Nothing fails behind an effect: not the announcement or the driver's probe behind the endpoint,
and not the endpoint or the driver's probe behind the power domain. -/
def NothingToUndo (s : BindState) (drv : RpmsgDriver) (env : DevProbeEnv) (attaches : Bool) :
    Prop :=
  s.KeepsBound (.probe drv env) ∧ (env.pmDomainAttach = .ok () → attaches = true →
    match drv.callback with
    | none => env.probe = .ok ()
    | some _ => ∃ id t, s.store.Obtains s.src env.ept id t)

/-- A call that fails with the device as it was. -/
theorem probeAtomic_error_iff {err : Errno} {pmDomain : Bool} :
    s.ProbeAtomic drv ⟨s, .error err, pmDomain, false⟩ ↔ pmDomain = false := by
  constructor
  · exact fun h ↦ h.pmDomain err rfl
  · rintro rfl
    exact ⟨fun _ _ ↦ rfl, fun _ _ ↦ ⟨rfl, rfl⟩, fun _ _ ↦ rfl, fun _ _ ↦ rfl, nofun⟩

/-- A driver with callback that is bound. -/
theorem probeAtomic_withEpt {cb : RxCb} {id : ℕ} {t : Idr EptId} {pmDomain probed : Bool}
    (hcb : drv.callback = some cb) (hid : s.store.Obtains s.src env.ept id t) :
    s.ProbeAtomic drv ⟨s.withEpt cb id t, .ok (), pmDomain, probed⟩ := by
  refine ⟨nofun, nofun, nofun, nofun, fun _ cb' hcb' ↦ ?_⟩
  obtain rfl := Option.some.inj (hcb.symm.trans hcb')
  obtain ⟨-, -, -, -, ht⟩ := Idr.alloc_eq_ok hid.2
  refine ⟨s.store.next, _, rfl, ?_, withEpt_self cb id t, rfl⟩
  show t (UInt32.ofNat id).toNat = some s.store.next
  rw [hid.toNat, ht, Function.update_self]

/-- A call that fails with the new endpoint in `rpdev->ept`, which named an older one. -/
theorem not_probeAtomic_of_ept {out : DevProbeOut} (err : Errno)
    (hnew : s.EptCreated) (hret : out.ret = .error err)
    (hept : out.state.ept = some s.store.next) : ¬ s.ProbeAtomic drv out := by
  intro h
  have hsame : s.ept = some s.store.next := (h.device err hret).1.symm.trans hept
  exact lt_irrefl _ (hnew _ hsame)

/-- **A call of `rpmsg_dev_probe` is all or nothing exactly when nothing fails behind an effect**: a
failure before the first effect is harmless, and each later one leaves what was done. -/
theorem probeAtomic_iff (s : BindState) (drv : RpmsgDriver) (env : DevProbeEnv) (attaches : Bool)
    (hnew : s.EptCreated) :
    s.ProbeAtomic drv (s.rpmsgDevProbeOut drv env attaches) ↔
      s.NothingToUndo drv env attaches := by
  rcases hpm : env.pmDomainAttach with err | ⟨⟩
  · rw [rpmsgDevProbeOut_of_attach_error hpm]
    exact iff_of_true (probeAtomic_error_iff.2 rfl)
      ⟨fun _ hok ↦ (nomatch hpm.symm.trans hok), fun hok ↦ (nomatch hpm.symm.trans hok)⟩
  rcases hcb : drv.callback with - | cb
  · have hkeeps : s.KeepsBound (.probe drv env) := fun hne ↦ absurd hcb hne
    rw [rpmsgDevProbeOut_noCallback hcb hpm]
    rcases hprobe : env.probe with err | ⟨⟩
    · have hundo : s.NothingToUndo drv env attaches ↔ attaches = false := by
        simp [NothingToUndo, hkeeps, hpm, hcb, hprobe]
      exact probeAtomic_error_iff.trans hundo.symm
    · refine iff_of_true ⟨nofun, nofun, nofun, nofun, fun _ cb hcb' ↦ ?_⟩ ⟨hkeeps, fun _ _ ↦ ?_⟩
      · exact nomatch hcb.symm.trans hcb'
      · rw [hcb]
        exact hprobe
  rcases @rpmsgDevProbeOut_callback s drv env attaches cb hcb hpm with
    ⟨hnone, hout⟩ | ⟨id, t, hid, hout⟩
  · have hundo : s.NothingToUndo drv env attaches ↔ attaches = false := by
      simp [NothingToUndo, KeepsBound, hpm, hcb, hnone]
    rw [hout]
    exact probeAtomic_error_iff.trans hundo.symm
  have hundo : s.NothingToUndo drv env attaches ↔ env.probe = .ok () ∧
      (s.announce = true → s.featureNs = true →
        env.rpmsgSendto (s.nsMsg (.ofNat id) RPMSG_NS_CREATE) = .ok ()) := by
    rw [NothingToUndo, keepsBound_probe_iff hcb hpm hid, hcb]
    exact and_iff_left fun _ _ ↦ ⟨id, t, hid⟩
  rw [hout, hundo]
  rcases hprobe : env.probe with err | ⟨⟩
  · -- the endpoint is destroyed, and its name stays in the device
    exact iff_of_false (not_probeAtomic_of_ept err hnew rfl rfl) fun h ↦ nomatch h.1
  rcases hsend : s.announce && s.featureNs with - | -
  · have hquiet : ¬ (s.announce = true ∧ s.featureNs = true) := by simpa using hsend
    exact iff_of_true (probeAtomic_withEpt hcb hid)
      ⟨rfl, fun hannounce hns ↦ absurd ⟨hannounce, hns⟩ hquiet⟩
  obtain ⟨hannounce, hns⟩ := Bool.and_eq_true_iff.1 hsend
  rcases hto : env.rpmsgSendto (s.nsMsg (.ofNat id) RPMSG_NS_CREATE) with err | ⟨⟩
  · -- nobody was told, and everything stays
    exact iff_of_false (not_probeAtomic_of_ept err hnew rfl rfl)
      fun h ↦ nomatch h.2 hannounce hns
  · exact iff_of_true (probeAtomic_withEpt hcb hid) ⟨rfl, fun _ _ ↦ rfl⟩

/-- A driver with callback is bound to a device with a power domain, and the channel announced. -/
theorem probeAtomic_bound :
    (registered 0 [97] RPMSG_ADDR_ANY true true).ProbeAtomic ⟨some (.driver 0)⟩
      ((registered 0 [97] RPMSG_ADDR_ANY true true).rpmsgDevProbeOut ⟨some (.driver 0)⟩
        ⟨.ok (), ⟨true, false⟩, .ok (), fun _ ↦ .ok ()⟩ true) := by
  refine (probeAtomic_iff _ _ _ _ fun e he ↦ (by cases he)).2
    ⟨fun _ _ _ _ _ ↦ ⟨rfl, fun _ _ ↦ rfl⟩, fun _ _ ↦ ?_⟩
  exact ⟨1024, _, rfl, rfl⟩

/-- The driver's probe fails. The device is left with the name of the endpoint that was freed, and
it asks for its address from now on. -/
theorem probeAtomic_driver_failed :
    let s := registered 0 [97] RPMSG_ADDR_ANY true true
    let out := s.rpmsgDevProbeOut ⟨some (.driver 0)⟩
      ⟨.ok (), ⟨true, false⟩, .error .ENODEV, fun _ ↦ .ok ()⟩ true
    out.ret = .error .ENODEV ∧ out.state.ept = some 0 ∧ (out.state.store.epts 0).isNone ∧
      out.state.src = 1024 ∧ out.pmDomain = true ∧ ¬ s.ProbeAtomic ⟨some (.driver 0)⟩ out := by
  refine ⟨rfl, rfl, rfl, rfl, rfl, fun h ↦ ?_⟩
  exact absurd (h.pmDomain .ENODEV rfl) (by decide)

end BindState
