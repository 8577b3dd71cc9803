import DriverModules.Lib.Replica
import DriverModules.Rpmsg.ChannelKeys
import DriverModules.Rpmsg.DevBind

/-!
# The name service from end to end

On one processor any number of rpmsg devices are bound to drivers and unbound, and
`rpmsg_dev_probe` and `rpmsg_dev_remove` announce that; the announcements are on the ring; and
`rpmsg_ns_cb` makes channels of them on the other processor. What the two ends should agree on are
the services: the devices bound to a driver with an rx callback, with the addresses of their
endpoints.

An announcement that is lost when a device is bound is no harm, since the probe fails with it. One
that is lost when a device is unbound is, because `rpmsg_dev_remove` goes on all the same. On the
other side, `rpmsg_ns_cb` goes on when the registration of a channel fails, and does not come back
to it.

## Main results

* `mirrors_iff`: the channels are the services, up to what is on the ring, exactly when neither
  happens, as long as the other processor runs. It rests on what one call does on its device
  (`services_step`) and on what one announcement does to the channels (`channelKeys_delivered`,
  `channelKeys_refused`).
-/

open Transition Replica

namespace BindState

/-- The announcement `virtio_rpmsg_announce_create` or `virtio_rpmsg_announce_destroy` puts on the
ring: `rpmsg_sendto` has returned 0 for it. -/
def announceSent (s : BindState) (flags : UInt32) (rpmsgSendto : RpmsgNsMsg → Except Errno Unit) :
    Option RpmsgNsMsg := do
  let e ← s.ept
  let ept ← s.store.epts e
  if s.announce && s.featureNs then
    match rpmsgSendto (s.nsMsg ept.addr flags) with
    | .ok () => some (s.nsMsg ept.addr flags)
    | .error _ => none
  else none

/-- That of `rpmsg_dev_probe`, which comes after the driver's own `probe`. -/
def probeSent (s : BindState) (drv : RpmsgDriver) (env : DevProbeEnv) : Option RpmsgNsMsg :=
  match env.pmDomainAttach, drv.callback with
  | .ok (), some cb =>
    match s.store.rpmsgCreateEpt (some s.rpdev) cb .null s.src env.ept, env.probe with
    | (store, some (e, addr)), .ok () =>
      announceSent { s with store, ept := some e, src := addr, created := e :: s.created }
        RPMSG_NS_CREATE env.rpmsgSendto
    | _, _ => none
  | _, _ => none

/-- The announcement a call puts on the ring. -/
def sent (s : BindState) : BindEvent → Option RpmsgNsMsg
  | .probe drv env => s.probeSent drv env
  | .remove rpmsgSendto => s.announceSent RPMSG_NS_DESTROY rpmsgSendto
  | .createOther .. | .destroyOther _ => none

/-- The device is bound to a driver with an rx callback, and such devices are announced. -/
def Announces (s : BindState) : Prop :=
  (∃ drv, s.driver = some drv ∧ drv.callback ≠ none) ∧ s.announce = true ∧ s.featureNs = true

/-- The service of the device. -/
def service (s : BindState) : ChannelKey :=
  nsKey (s.nsMsg s.src RPMSG_NS_CREATE)

end BindState

/-- The `n` devices of one processor, which share its endpoints, the announcements on the ring, and
the stack of the other processor. -/
structure NsLink (n : ℕ) where
  devs : Fin n → BindState
  inFlight : List RpmsgNsMsg
  host : Stack

inductive NsEvent (n : ℕ)
  /-- A call on a device. -/
  | dev (i : Fin n) (ev : BindEvent)
  /-- The oldest announcement reaches `rpmsg_ns_cb`. -/
  | deliver (registered : Bool)
  /-- Something else happens on the other processor. -/
  | host (ev : StackEvent)

/-- The event is an announcement for `v`, or the end of `v`. -/
def StackEvent.concerns (v : VrpId) : StackEvent → Bool
  | .nsMessage w _ _ _ | .remove w => w == v
  | _ => false

namespace NsLink

variable {n : ℕ}

/-- Devices `name i` with the addresses `src i`, none of them bound, beside a stack that has just
been started. -/
def registered (name : Fin n → List UInt8) (src : Fin n → UInt32) (announce : Fin n → Bool)
    (featureNs : Bool) : NsLink n where
  devs i := .registered i (name i) (src i) (announce i) featureNs
  inFlight := []
  host := .init

/-- What an owner of another endpoint destroys belongs to no device. -/
def spares (s : NsLink n) : BindEvent → Bool
  | .destroyOther e => decide (∀ i, e ∉ (s.devs i).created)
  | .probe .. | .remove _ | .createOther .. => true

/-- Device `i` is `dev`, and all see its endpoints. -/
def setDev (s : NsLink n) (i : Fin n) (dev : BindState) : Fin n → BindState :=
  Function.update (fun j ↦ { s.devs j with store := dev.store }) i dev

/-- One step; `v` is what the announcing processor is to the other. -/
def step (v : VrpId) (s : NsLink n) : NsEvent n → Option (NsLink n)
  | .dev i ev =>
    if s.spares ev ∧ ∀ j, (s.devs j).oops = none then
      ((s.devs i).step ev).map fun dev ↦
        { s with devs := s.setDev i dev, inFlight := s.inFlight ++ ((s.devs i).sent ev).toList }
    else none
  | .deliver registered =>
    match s.inFlight with
    | [] => none
    | msg :: inFlight =>
      (s.host.step (.nsMessage v msg RpmsgNsMsg.size registered)).map fun host ↦
        { s with inFlight, host }
  | .host ev =>
    if ev.concerns v then none else (s.host.step ev).map fun host ↦ { s with host }

/-- The services of the processor. -/
def services (s : NsLink n) : Set ChannelKey :=
  {k | ∃ i, (s.devs i).Announces ∧ (s.devs i).service = k}

end NsLink

/-- What an announcement says of the services. -/
def announcedBy (K : Set ChannelKey) (msg : RpmsgNsMsg) : Set ChannelKey :=
  if msg.flags &&& RPMSG_NS_DESTROY ≠ 0 then K \ {nsKey msg} else insert (nsKey msg) K

namespace NsLink

variable {n : ℕ}

/-- The announcements on the ring bring the channels of `v` to the services. -/
def Mirrors (v : VrpId) (s : NsLink n) : Prop :=
  Tracks announcedBy s.services (s.host.channelKeys v) s.inFlight

/-- The announcement that a service is gone gets through. -/
def Tells (s : NsLink n) : NsEvent n → Prop
  | .dev i (.remove rpmsgSendto) =>
    (s.devs i).Announces →
      rpmsgSendto ((s.devs i).nsMsg (s.devs i).src RPMSG_NS_DESTROY) = .ok ()
  | _ => True

/-- The channel of a service that is announced is there afterwards, unless a later announcement is
about the same service anyway. -/
def Registers (v : VrpId) (s : NsLink n) : NsEvent n → Prop
  | .deliver registered => ∀ msg inFlight, s.inFlight = msg :: inFlight →
    msg.flags &&& RPMSG_NS_DESTROY = 0 → nsKey msg ∉ s.host.channelKeys v →
      registered = true ∨ ∃ later ∈ inFlight, nsKey later = nsKey msg
  | _ => True

/-- What both sides have to do for the agreement. -/
def Conveys (v : VrpId) (s : NsLink n) (ev : NsEvent n) : Prop :=
  s.Tells ev ∧ s.Registers v ev

end NsLink

/-! ### The endpoints behind the addresses -/

/-- An endpoint that is not freed is in the table under its address, and that is not
`RPMSG_ADDR_ANY`. -/
structure EptStore.Listed (m : EptStore) : Prop where
  lt : ∀ {e ept}, m.epts e = some ept → e < m.next
  entry : ∀ {e ept}, m.epts e = some ept → m.endpoints ept.addr.toNat = some e
  addr : ∀ {e ept}, m.epts e = some ept → ept.addr ≠ RPMSG_ADDR_ANY

namespace EptStore

variable {m : EptStore} {e : EptId} {addr : UInt32} {env : EptEnv} {id : ℕ} {t : Idr EptId}

/-- No two endpoints have an address in common. -/
theorem Listed.unique (h : m.Listed) {e' : EptId} {ept ept' : RpmsgEndpoint}
    (he : m.epts e = some ept) (he' : m.epts e' = some ept') (haddr : ept.addr = ept'.addr) :
    e = e' := by
  have hentry := h.entry he
  rw [haddr, h.entry he'] at hentry
  exact (Option.some.inj hentry).symm

theorem Obtains.ne_any (h : m.Obtains addr env id t) : UInt32.ofNat id ≠ RPMSG_ADDR_ANY := by
  obtain ⟨-, -, -, hmax, -⟩ := Idr.alloc_eq_ok h.2
  have hle : id ≤ 2147483647 := hmax.trans (idMax_le addr)
  have hany : RPMSG_ADDR_ANY.toNat = 4294967295 := rfl
  intro heq
  rw [← heq, h.toNat] at hany
  omega

/-- A new endpoint. -/
theorem Listed.bind (h : m.Listed) (hid : m.Obtains addr env id t) {ept : RpmsgEndpoint}
    (haddr : ept.addr = .ofNat id) :
    Listed { m with endpoints := t, epts := Function.update m.epts m.next (some ept)
                    next := m.next + 1 } := by
  have hid' : ept.addr.toNat = id := haddr ▸ hid.toNat
  have hany := hid.ne_any
  obtain ⟨-, hfree, -, -, rfl⟩ := Idr.alloc_eq_ok hid.2
  constructor
  · intro e ept' he
    rcases Maps.update_eq_some.1 he with ⟨rfl, -⟩ | ⟨-, he⟩
    · exact Nat.lt_succ_self _
    · exact (h.lt he).trans (Nat.lt_succ_self _)
  · intro e ept' he
    show Function.update m.endpoints id (some m.next) ept'.addr.toNat = some e
    rcases Maps.update_eq_some.1 he with ⟨rfl, rfl⟩ | ⟨-, he⟩
    · rw [hid', Function.update_self]
    · have hentry := h.entry he
      have hne : ept'.addr.toNat ≠ id := by
        intro heq
        rw [heq, hfree] at hentry
        cases hentry
      rw [Function.update_of_ne hne, hentry]
  · intro e ept' he
    rcases Maps.update_eq_some.1 he with ⟨-, rfl⟩ | ⟨-, he⟩
    · rw [haddr]
      exact hany
    · exact h.addr he

theorem rpmsgDestroyEpt_epts_of_ne {e' : EptId} (hne : e' ≠ e) :
    (m.rpmsgDestroyEpt e).1.epts e' = m.epts e' := by
  rcases he : m.epts e with - | ept
  · simp [rpmsgDestroyEpt, he]
  · simp [rpmsgDestroyEpt, he, hne]

@[simp] theorem rpmsgDestroyEpt_next : (m.rpmsgDestroyEpt e).1.next = m.next := by
  rcases he : m.epts e with - | ept <;> simp [rpmsgDestroyEpt, he]

/-- A destruction, also one of an endpoint that is not there any more. -/
theorem Listed.destroy (h : m.Listed) (e : EptId) : (m.rpmsgDestroyEpt e).1.Listed := by
  rcases he : m.epts e with - | ept
  · simp only [rpmsgDestroyEpt, he]
    exact ⟨h.lt, h.entry, h.addr⟩
  · rw [rpmsgDestroyEpt_of_live he]
    refine ⟨fun he' ↦ h.lt (Maps.erase_eq_some.1 he').2, fun {e' ept'} he' ↦ ?_,
      fun he' ↦ h.addr (Maps.erase_eq_some.1 he').2⟩
    obtain ⟨hne, he'⟩ := Maps.erase_eq_some.1 he'
    have hother : ept'.addr.toNat ≠ ept.addr.toNat :=
      fun heq ↦ hne (h.unique he' he (UInt32.toNat_inj.1 heq))
    exact (Function.update_of_ne hother ..).trans (h.entry he')

end EptStore

/-! ### What a call does on its device -/

namespace BindState

variable {s s' : BindState} {e : EptId} {drv : RpmsgDriver} {ev : BindEvent} {env : DevProbeEnv}
  {rpmsgSendto : RpmsgNsMsg → Except Errno Unit}

/-- What holds of each device: its endpoints were made for it, and where it is bound to a driver
with an rx callback, `rpdev->ept` is there and has the address `rpdev->src`. -/
structure DevInv (s : BindState) : Prop where
  listed : s.store.Listed
  lt : ∀ e ∈ s.created, e < s.store.next
  own : ∀ e, s.ept = some e → e ∈ s.created
  bound : ∀ drv, s.driver = some drv → drv.callback ≠ none →
    ∃ e ept, s.ept = some e ∧ s.store.epts e = some ept ∧ ept.addr = s.src

/-- What a call leaves as it was. -/
structure Apart (s : BindState) (ev : BindEvent) (s' : BindState) : Prop where
  name : s'.name = s.name
  announce : s'.announce = s.announce
  featureNs : s'.featureNs = s.featureNs
  next : s.store.next ≤ s'.store.next
  created : ∀ e ∈ s'.created, e ∈ s.created ∨ s.store.next ≤ e
  /-- The endpoints of others. -/
  epts : ∀ e < s.store.next, e ∉ s.created → ev ≠ .destroyOther e →
    s'.store.epts e = s.store.epts e

/-- **How a probe can go**: nothing is bound that has an rx callback; an endpoint is made, and the
device is not bound; or it is bound, and announced. -/
inductive ProbeEnd (s : BindState) (drv : RpmsgDriver) : BindState → Option RpmsgNsMsg → Prop
  | quiet {driver : Option RpmsgDriver} {current : Option EptId} :
    (∀ drv', driver = some drv' → drv'.callback = none) →
    ProbeEnd s drv { s with driver, current } none
  | failed {cb : RxCb} {env : EptEnv} {id : ℕ} {t : Idr EptId} :
    s.store.Obtains s.src env id t →
    ProbeEnd s drv ((s.withEpt cb id t).rpmsgDestroyEpt s.store.next) none
  | unannounced {cb : RxCb} {env : EptEnv} {id : ℕ} {t : Idr EptId} :
    s.store.Obtains s.src env id t → ProbeEnd s drv (s.withEpt cb id t) none
  | bound {cb : RxCb} {env : EptEnv} {id : ℕ} {t : Idr EptId} {current : Option EptId} :
    s.store.Obtains s.src env id t → drv.callback = some cb →
    ProbeEnd s drv { s.withEpt cb id t with driver := some drv, current }
      (if s.announce && s.featureNs then some (s.nsMsg (.ofNat id) RPMSG_NS_CREATE) else none)

/-- What goes out is about the endpoint in `rpdev->ept`. -/
theorem announceSent_eq_some {flags : UInt32} {msg : RpmsgNsMsg}
    (h : s.announceSent flags rpmsgSendto = some msg) :
    ∃ e ept, s.ept = some e ∧ s.store.epts e = some ept ∧ msg = s.nsMsg ept.addr flags := by
  obtain ⟨e, hept, h⟩ := Option.bind_eq_some_iff.1 h
  obtain ⟨ept, he, h⟩ := Option.bind_eq_some_iff.1 h
  obtain ⟨-, h⟩ := Option.ite_none_right_eq_some.1 h
  split at h
  · exact ⟨e, ept, hept, he, (Option.some.inj h).symm⟩
  · cases h

/-- The address that is announced is one of the table. -/
theorem ProbeEnd.addr {sent : Option RpmsgNsMsg} {msg : RpmsgNsMsg}
    (h : s.ProbeEnd drv s' sent) (hmsg : sent = some msg) : msg.addr ≠ RPMSG_ADDR_ANY := by
  cases h with
  | quiet | failed | unannounced => cases hmsg
  | bound hid hcb =>
    obtain ⟨-, hmsg⟩ := Option.ite_none_right_eq_some.1 hmsg
    obtain rfl := Option.some.inj hmsg
    exact hid.ne_any

/-- What goes out for an endpoint that is there. -/
theorem announceSent_of_live {ept : RpmsgEndpoint} {flags : UInt32} (hept : s.ept = some e)
    (he : s.store.epts e = some ept) :
    s.announceSent flags rpmsgSendto =
      if s.announce && s.featureNs then
        match rpmsgSendto (s.nsMsg ept.addr flags) with
        | .ok () => some (s.nsMsg ept.addr flags)
        | .error _ => none
      else none := by
  simp only [announceSent, hept, he, Option.bind_eq_bind, Option.bind_some]

/-- **The outcomes of `rpmsg_dev_probe`.** -/
theorem probeEnd (s : BindState) (hdrv : s.driver = none) (drv : RpmsgDriver)
    (env : DevProbeEnv) : ProbeEnd s drv (s.reallyProbe drv env) (s.probeSent drv env) := by
  have hsame : ProbeEnd s drv s none := by
    have hquiet : ProbeEnd s drv { s with driver := none, current := s.current } none :=
      .quiet nofun
    rwa [← hdrv] at hquiet
  rcases hpm : env.pmDomainAttach with err | ⟨⟩
  · rw [show s.reallyProbe drv env = s by simp [reallyProbe, rpmsgDevProbe, hpm],
      show s.probeSent drv env = none by simp [probeSent, hpm]]
    exact hsame
  rcases hcb : drv.callback with - | cb
  · rw [reallyProbe, rpmsgDevProbe_noCallback hcb hpm,
      show s.probeSent drv env = none by simp [probeSent, hpm, hcb]]
    rcases env.probe with err | -
    · exact hsame
    · exact .quiet fun drv' hdrv' ↦ Option.some.inj hdrv' ▸ hcb
  have hmade := s.store.rpmsgCreateEpt_cases (some s.rpdev) cb .null s.src env.ept
  rcases rpmsgDevProbe_callback (s := s) hcb hpm with ⟨hnone, hprobe⟩ | ⟨id, t, hid, hprobe⟩
  · obtain ⟨-, hcreate⟩ | ⟨id, t, hid, -⟩ := hmade
    · rw [reallyProbe, hprobe, show s.probeSent drv env = none by
        simp [probeSent, hpm, hcb, hcreate]]
      exact hsame
    · exact absurd hid (hnone id t)
  obtain ⟨hnone, -⟩ | ⟨id', t', hid', hcreate⟩ := hmade
  · exact absurd hid (hnone id t)
  obtain ⟨rfl, rfl⟩ := hid.unique hid'
  rcases hret : env.probe with err | ⟨⟩
  · simp only [reallyProbe, hprobe, hret]
    rw [show s.probeSent drv env = none by simp [probeSent, hpm, hcb, hcreate, hret]]
    exact .failed hid
  have hsent : s.probeSent drv env = (s.withEpt cb id t).announceSent RPMSG_NS_CREATE
      env.rpmsgSendto := by
    simp only [probeSent, hpm, hcb, hcreate, hret]
    rfl
  rw [announceSent_of_live (s := s.withEpt cb id t) rfl (withEpt_self cb id t)] at hsent
  simp only [reallyProbe, hprobe, hret]
  rw [hsent]
  show ProbeEnd s drv _ (if s.announce && s.featureNs then
    match env.rpmsgSendto (s.nsMsg (.ofNat id) RPMSG_NS_CREATE) with
    | .ok () => some (s.nsMsg (.ofNat id) RPMSG_NS_CREATE)
    | .error _ => none
    else none)
  have hbound : ProbeEnd s drv
      { s.withEpt cb id t with driver := some drv, current := some s.store.next } _ :=
    .bound hid hcb
  rcases hquiet : s.announce && s.featureNs with - | -
  · rw [hquiet] at hbound
    simpa [hcb, withEpt] using hbound
  · rw [hquiet] at hbound
    rcases env.rpmsgSendto (s.nsMsg (.ofNat id) RPMSG_NS_CREATE) with err | ⟨⟩
    · exact .unannounced hid
    · simpa [hcb, withEpt] using hbound

/-- **What `rpmsg_dev_remove` changes**: at most the endpoint in `rpdev->ept` goes. -/
theorem rpmsgDevRemove_eq (s : BindState) (rpmsgSendto : RpmsgNsMsg → Except Errno Unit) :
    ∃ store oops, s.rpmsgDevRemove rpmsgSendto = { s with store, oops } ∧
      (store = s.store ∨ ∃ e, s.ept = some e ∧ store = (s.store.rpmsgDestroyEpt e).1) := by
  unfold rpmsgDevRemove
  split
  · next fault _ => exact ⟨s.store, some fault, rfl, .inl rfl⟩
  · split
    · exact ⟨s.store, s.oops, rfl, .inl rfl⟩
    · next e he => exact ⟨_, _, rfl, .inr ⟨e, he, rfl⟩⟩

theorem Apart.of_same {store : EptStore} {driver : Option RpmsgDriver} {current : Option EptId}
    {oops : Option Fault} (hnext : store.next = s.store.next)
    (hepts : ∀ e, e ∉ s.created → ev ≠ .destroyOther e → store.epts e = s.store.epts e) :
    s.Apart ev { s with store, driver, current, oops } where
  name := rfl
  announce := rfl
  featureNs := rfl
  next := hnext.ge
  created _ := .inl
  epts e _ := hepts e

/-- A device that is not bound to a driver with an rx callback, after some of its endpoints went. -/
theorem DevInv.unbound (h : s.DevInv) {store : EptStore} {driver : Option RpmsgDriver}
    {current : Option EptId} {oops : Option Fault} (hlisted : store.Listed)
    (hnext : store.next = s.store.next) (hcb : ∀ drv, driver = some drv → drv.callback = none) :
    DevInv { s with store, driver, current, oops } where
  listed := hlisted
  lt e he := (h.lt e he).trans_eq hnext.symm
  own := h.own
  bound drv hdrv hne := absurd (hcb drv hdrv) hne

theorem Apart.withEpt {cb : RxCb} {id : ℕ} {t : Idr EptId} : s.Apart ev (s.withEpt cb id t) where
  name := rfl
  announce := rfl
  featureNs := rfl
  next := Nat.le_succ _
  created e he := by
    rcases List.mem_cons.1 he with rfl | he
    · exact .inr le_rfl
    · exact .inl he
  epts e hlt _ _ := Function.update_of_ne hlt.ne ..

theorem DevInv.withEpt (h : s.DevInv) (hdrv : s.driver = none) {cb : RxCb} {env : EptEnv} {id : ℕ}
    {t : Idr EptId} (hid : s.store.Obtains s.src env id t) : (s.withEpt cb id t).DevInv where
  listed := h.listed.bind hid rfl
  lt e he := by
    rcases List.mem_cons.1 he with rfl | he
    · exact Nat.lt_succ_self _
    · exact (h.lt e he).trans (Nat.lt_succ_self _)
  own e he := by
    obtain rfl := Option.some.inj he
    exact List.mem_cons_self
  bound drv hdrv' := by cases hdrv.symm.trans hdrv'

/-- A probe keeps the invariant, and others keep their endpoints. -/
theorem DevInv.probe (h : s.DevInv) (hdrv : s.driver = none) {msg : Option RpmsgNsMsg}
    (hend : s.ProbeEnd drv s' msg) : s'.DevInv ∧ s.Apart ev s' := by
  cases hend with
  | quiet hcb =>
    exact ⟨h.unbound h.listed rfl hcb, .of_same rfl fun _ _ _ ↦ rfl⟩
  | @failed cb _ id t hid =>
    have hmade : (s.withEpt cb id t).DevInv := h.withEpt hdrv hid
    have hnext := EptStore.rpmsgDestroyEpt_next (m := (s.withEpt cb id t).store)
      (e := s.store.next)
    refine ⟨hmade.unbound (hmade.listed.destroy _) hnext fun drv' hdrv' ↦ ?_, ?_⟩
    · cases hdrv.symm.trans hdrv'
    · have hapart : s.Apart ev (s.withEpt cb id t) := .withEpt
      exact ⟨rfl, rfl, rfl, hapart.next.trans_eq hnext.symm, hapart.created,
        fun e hlt hown hev ↦
          (EptStore.rpmsgDestroyEpt_epts_of_ne hlt.ne).trans (hapart.epts e hlt hown hev)⟩
  | unannounced hid => exact ⟨h.withEpt hdrv hid, .withEpt⟩
  | @bound cb _ id t _ hid hcb =>
    have hmade : (s.withEpt cb id t).DevInv := h.withEpt hdrv hid
    have hapart : s.Apart ev (s.withEpt cb id t) := .withEpt
    refine ⟨⟨hmade.listed, hmade.lt, hmade.own, fun _ _ _ ↦ ?_⟩,
      ⟨rfl, rfl, rfl, hapart.next, hapart.created, hapart.epts⟩⟩
    exact ⟨_, _, rfl, withEpt_self cb id t, rfl⟩

/-- **Every call** on a device keeps its invariant, and others keep their endpoints. -/
theorem DevInv.step (h : s.DevInv) (hs : s.step ev = some s') : s'.DevInv ∧ s.Apart ev s' := by
  obtain ⟨drv, env, rfl, hnone, rfl⟩ | ⟨rpmsgSendto, drv, rfl, hdrv, rfl⟩ |
    ⟨rpdev, cb, priv, addr, env, rfl, rfl⟩ | ⟨e, ept, rfl, hother, he, rfl⟩ := step_cases hs
  · exact h.probe hnone (s.probeEnd hnone drv env)
  · have hnone : ∀ drv : RpmsgDriver, none = some drv → drv.callback = none := by simp
    obtain ⟨store, oops, hremove, rfl | ⟨e, hept, rfl⟩⟩ := s.rpmsgDevRemove_eq rpmsgSendto
    · rw [deviceReleaseDriver, hremove]
      exact ⟨h.unbound h.listed rfl hnone, .of_same rfl fun _ _ _ ↦ rfl⟩
    · rw [deviceReleaseDriver, hremove]
      refine ⟨h.unbound (h.listed.destroy e) EptStore.rpmsgDestroyEpt_next hnone,
        .of_same EptStore.rpmsgDestroyEpt_next fun e' hown _ ↦ ?_⟩
      refine EptStore.rpmsgDestroyEpt_epts_of_ne ?_
      rintro rfl
      exact hown (h.own e' hept)
  · rcases s.store.rpmsgCreateEpt_cases rpdev cb priv addr env with
      ⟨-, hcreate⟩ | ⟨id, t, hid, hcreate⟩
    · rw [hcreate]
      exact ⟨h, .of_same rfl fun _ _ _ ↦ rfl⟩
    · rw [hcreate]
      have hold : ∀ {x : Option RpmsgEndpoint}, ∀ e < s.store.next,
          Function.update s.store.epts s.store.next x e = s.store.epts e :=
        fun e hlt ↦ Function.update_of_ne hlt.ne ..
      refine ⟨⟨h.listed.bind hid rfl, fun e he ↦ (h.lt e he).trans (Nat.lt_succ_self _), h.own,
        fun drv hdrv hne ↦ ?_⟩, ⟨rfl, rfl, rfl, Nat.le_succ _, fun _ ↦ .inl,
          fun e hlt _ _ ↦ hold e hlt⟩⟩
      obtain ⟨e, ept, hept, he, haddr⟩ := h.bound drv hdrv hne
      exact ⟨e, ept, hept, (hold e (h.listed.lt he)).trans he, haddr⟩
  · have hkept : ∀ {e'}, e' ≠ e → (s.store.rpmsgDestroyEpt e).1.epts e' = s.store.epts e' :=
      EptStore.rpmsgDestroyEpt_epts_of_ne
    refine ⟨⟨h.listed.destroy e, fun e' he' ↦ (h.lt e' he').trans_eq
      EptStore.rpmsgDestroyEpt_next.symm, h.own, fun drv hdrv hne ↦ ?_⟩,
      .of_same EptStore.rpmsgDestroyEpt_next fun e' _ hev ↦ hkept ?_⟩
    · obtain ⟨e', ept', hept, he', haddr⟩ := h.bound drv hdrv hne
      refine ⟨e', ept', hept, (hkept ?_).trans he', haddr⟩
      rintro rfl
      exact hother (h.own e' hept)
    · rintro rfl
      exact hev rfl

end BindState

/-! ### The services of all devices -/

namespace NsLink

variable {n : ℕ} {s s' : NsLink n} {v : VrpId} {i j : Fin n} {ev : BindEvent} {dev : BindState}

/-- The devices share their endpoints, and no endpoint is that of two. -/
structure NsInv (s : NsLink n) : Prop where
  devInv : ∀ i, (s.devs i).DevInv
  shared : ∀ i j, (s.devs i).store = (s.devs j).store
  disjoint : ∀ i j, i ≠ j → ∀ e ∈ (s.devs i).created, e ∉ (s.devs j).created
  addr : ∀ msg ∈ s.inFlight, msg.addr ≠ RPMSG_ADDR_ANY

@[simp] theorem setDev_self : s.setDev i dev i = dev := Function.update_self ..

theorem setDev_of_ne (h : j ≠ i) : s.setDev i dev j = { s.devs j with store := dev.store } :=
  Function.update_of_ne h ..

theorem setDev_store : (s.setDev i dev j).store = dev.store := by
  rcases eq_or_ne j i with rfl | hne
  · rw [setDev_self]
  · rw [setDev_of_ne hne]

/-- What the others have made is not touched by a call on device `i`. -/
theorem NsInv.setDev (h : s.NsInv) (hspares : s.spares ev = true)
    (hs : (s.devs i).step ev = some dev) {inFlight : List RpmsgNsMsg}
    (haddr : ∀ msg ∈ inFlight, msg.addr ≠ RPMSG_ADDR_ANY) :
    NsInv { s with devs := s.setDev i dev, inFlight } := by
  obtain ⟨hdev, hapart⟩ := (h.devInv i).step hs
  have hnew : ∀ j, j ≠ i → ∀ e ∈ dev.created, e ∉ (s.devs j).created := by
    intro j hne e he hj
    rcases hapart.created e he with he | hle
    · exact h.disjoint j i hne e hj he
    · have hlt := (h.devInv j).lt e hj
      rw [h.shared j i] at hlt
      exact absurd hlt (not_lt.2 hle)
  refine ⟨fun j ↦ ?_, fun j k ↦ setDev_store.trans setDev_store.symm, fun j k hjk e he ↦ ?_, haddr⟩
  · show (s.setDev i dev j).DevInv
    rcases eq_or_ne j i with rfl | hne
    · rw [setDev_self]
      exact hdev
    · have hj := h.devInv j
      rw [setDev_of_ne hne]
      refine ⟨hdev.listed, fun e he ↦ ?_, hj.own, fun drv hdrv hcb ↦ ?_⟩
      · have hlt := hj.lt e he
        rw [h.shared j i] at hlt
        exact hlt.trans_le hapart.next
      · obtain ⟨e, ept, hept, he, hsrc⟩ := hj.bound drv hdrv hcb
        have hown := hj.own e hept
        rw [h.shared j i] at he
        refine ⟨e, ept, hept, (hapart.epts e ((h.devInv i).listed.lt he)
          (h.disjoint j i hne e hown) ?_).trans he, hsrc⟩
        rintro rfl
        exact of_decide_eq_true hspares j hown
  · change e ∈ (s.setDev i dev j).created at he
    show e ∉ (s.setDev i dev k).created
    rcases eq_or_ne j i with rfl | hj
    · rw [setDev_self] at he
      rw [setDev_of_ne hjk.symm]
      exact hnew k hjk.symm e he
    · rw [setDev_of_ne hj] at he
      rcases eq_or_ne k i with rfl | hk
      · rw [setDev_self]
        exact fun hk ↦ hnew j hj e hk he
      · rw [setDev_of_ne hk]
        exact h.disjoint j k hjk e he

/-- The services of the other devices. -/
def servicesBut (s : NsLink n) (i : Fin n) : Set ChannelKey :=
  {k | ∃ j, j ≠ i ∧ (s.devs j).Announces ∧ (s.devs j).service = k}

theorem mem_services {k : ChannelKey} :
    k ∈ s.services ↔ (s.devs i).Announces ∧ (s.devs i).service = k ∨ k ∈ s.servicesBut i := by
  constructor
  · rintro ⟨j, hj⟩
    rcases eq_or_ne j i with rfl | hne
    · exact .inl hj
    · exact .inr ⟨j, hne, hj⟩
  · rintro (hi | ⟨j, -, hj⟩)
    · exact ⟨i, hi⟩
    · exact ⟨j, hj⟩

theorem services_of_not (h : ¬ (s.devs i).Announces) : s.services = s.servicesBut i := by
  ext k
  rw [mem_services]
  exact or_iff_right fun hi ↦ h hi.1

theorem services_of_announces (h : (s.devs i).Announces) :
    s.services = insert (s.devs i).service (s.servicesBut i) := by
  ext k
  rw [mem_services, Set.mem_insert_iff, and_iff_right h, eq_comm]

theorem servicesBut_setDev (h : s'.devs = s.setDev i dev) :
    s'.servicesBut i = s.servicesBut i := by
  have hdev : ∀ j, j ≠ i → ((s'.devs j).Announces ↔ (s.devs j).Announces) ∧
      (s'.devs j).service = (s.devs j).service := by
    intro j hne
    rw [h, setDev_of_ne hne]
    exact ⟨Iff.rfl, rfl⟩
  ext k
  refine exists_congr fun j ↦ and_congr_right fun hne ↦ ?_
  rw [(hdev j hne).1, (hdev j hne).2]

/-- The address of an endpoint of device `i` is in no service of another. -/
theorem NsInv.notMem_servicesBut (h : s.NsInv) {e : EptId} {ept : RpmsgEndpoint}
    (hept : (s.devs i).ept = some e) (he : (s.devs i).store.epts e = some ept) (flags : UInt32) :
    nsKey ((s.devs i).nsMsg ept.addr flags) ∉ s.servicesBut i := by
  rintro ⟨j, hne, ⟨⟨drv, hdrv, hcb⟩, -⟩, hkey⟩
  obtain ⟨e', ept', hept', he', hsrc⟩ := (h.devInv j).bound drv hdrv hcb
  have haddr : ept'.addr = ept.addr := hsrc.trans (congrArg Prod.snd hkey)
  rw [h.shared j i] at he'
  obtain rfl := (h.devInv i).listed.unique he' he haddr
  exact h.disjoint j i hne e' ((h.devInv j).own e' hept') ((h.devInv i).own e' hept)

/-- What a call of device `i` sends has an address of the table. -/
theorem NsInv.addr_sent (h : s.NsInv) (hs : (s.devs i).step ev = some dev) {msg : RpmsgNsMsg}
    (hmsg : (s.devs i).sent ev = some msg) : msg.addr ≠ RPMSG_ADDR_ANY := by
  obtain ⟨drv, env, rfl, hnone, rfl⟩ | ⟨rpmsgSendto, drv, rfl, hdrv, rfl⟩ |
    ⟨rpdev, cb, priv, addr, env, rfl, rfl⟩ | ⟨e, ept, rfl, hother, he, rfl⟩ :=
    BindState.step_cases hs
  · exact ((s.devs i).probeEnd hnone drv env).addr hmsg
  · obtain ⟨e, ept, -, he, rfl⟩ := BindState.announceSent_eq_some hmsg
    exact (h.devInv i).listed.addr he
  · cases hmsg
  · cases hmsg

theorem announcedBy_create (K : Set ChannelKey) (s : BindState) (addr : UInt32) :
    announcedBy K (s.nsMsg addr RPMSG_NS_CREATE) =
      insert (nsKey (s.nsMsg addr RPMSG_NS_CREATE)) K :=
  if_neg (show ¬ RPMSG_NS_CREATE &&& RPMSG_NS_DESTROY ≠ 0 by decide)

theorem announcedBy_destroy (K : Set ChannelKey) (s : BindState) (addr : UInt32) :
    announcedBy K (s.nsMsg addr RPMSG_NS_DESTROY) =
      K \ {nsKey (s.nsMsg addr RPMSG_NS_DESTROY)} :=
  if_pos (show RPMSG_NS_DESTROY &&& RPMSG_NS_DESTROY ≠ 0 by decide)

/-- A probe: the services it adds are announced. -/
theorem services_probe {drv : RpmsgDriver} {msg : Option RpmsgNsMsg}
    (h : s'.devs = s.setDev i dev) (hdrv : (s.devs i).driver = none)
    (hend : (s.devs i).ProbeEnd drv dev msg) :
    s'.services = msg.toList.foldl announcedBy s.services := by
  have hnot : ¬ (s.devs i).Announces := by
    rintro ⟨⟨drv', hdrv', -⟩, -⟩
    cases hdrv.symm.trans hdrv'
  rw [services_of_not hnot]
  have hself : s'.devs i = dev := by rw [h, setDev_self]
  have hquiet : ¬ dev.Announces → s'.services = s.servicesBut i := by
    intro hdev
    rw [services_of_not (i := i) (by rwa [hself]), servicesBut_setDev h]
  have hnone : dev.driver = none → ¬ dev.Announces := by
    rintro hnone ⟨⟨drv', hdrv', -⟩, -⟩
    cases hnone.symm.trans hdrv'
  cases hend with
  | quiet hcb =>
    refine hquiet ?_
    rintro ⟨⟨drv', hdrv', hne⟩, -⟩
    exact hne (hcb drv' hdrv')
  | failed | unannounced => exact hquiet (hnone hdrv)
  | @bound cb _ id t current hid hcb =>
    have hiff : (s'.devs i).Announces ↔ ((s.devs i).announce && (s.devs i).featureNs) = true := by
      rw [hself, Bool.and_eq_true]
      exact and_iff_right ⟨drv, rfl, by rw [hcb]; exact nofun⟩
    split
    · next htold =>
      rw [services_of_announces (hiff.2 htold), servicesBut_setDev h, hself]
      exact (announcedBy_create ..).symm
    · next htold => exact hquiet fun hdev ↦ htold (hiff.1 (hself.symm ▸ hdev))

/-- The end of a binding: what goes out is right exactly when the announcement gets through. -/
theorem NsInv.services_remove (h : s.NsInv) {rpmsgSendto : RpmsgNsMsg → Except Errno Unit}
    (hs' : s'.devs = s.setDev i dev) (hdev : dev.driver = none) :
    s'.services =
        ((s.devs i).announceSent RPMSG_NS_DESTROY rpmsgSendto).toList.foldl announcedBy s.services ↔
      s.Tells (.dev i (.remove rpmsgSendto)) := by
  have hnot : ¬ (s'.devs i).Announces := by
    rw [hs', setDev_self]
    rintro ⟨⟨drv', hdrv', -⟩, -⟩
    cases hdev.symm.trans hdrv'
  rw [services_of_not hnot, servicesBut_setDev hs']
  by_cases hann : (s.devs i).Announces
  · obtain ⟨⟨drv, hdrv, hcb⟩, htold⟩ := id hann
    obtain ⟨e, ept, hept, he, hsrc⟩ := (h.devInv i).bound drv hdrv hcb
    have hkey : (s.devs i).service ∉ s.servicesBut i := by
      rw [BindState.service, ← hsrc]
      exact h.notMem_servicesBut hept he _
    rw [BindState.announceSent_of_live hept he, if_pos (Bool.and_eq_true_iff.2 htold), hsrc,
      services_of_announces hann]
    have htells : s.Tells (.dev i (.remove rpmsgSendto)) ↔
        rpmsgSendto ((s.devs i).nsMsg (s.devs i).src RPMSG_NS_DESTROY) = .ok () :=
      forall_prop_of_true hann
    rw [htells]
    rcases rpmsgSendto ((s.devs i).nsMsg (s.devs i).src RPMSG_NS_DESTROY) with err | ⟨⟩
    · -- the service is gone, and nothing says so
      refine iff_of_false (fun heq ↦ hkey ?_) nofun
      rw [heq]
      exact Set.mem_insert ..
    · refine iff_of_true ?_ rfl
      show _ = announcedBy (insert (s.devs i).service (s.servicesBut i)) _
      rw [announcedBy_destroy]
      exact (Set.insert_sdiff_self_of_notMem hkey).symm
  · refine iff_of_true ?_ fun hann' ↦ absurd hann' hann
    rw [services_of_not hann]
    rcases hmsg : (s.devs i).announceSent RPMSG_NS_DESTROY rpmsgSendto with - | msg
    · rfl
    · -- an endpoint that was never announced
      obtain ⟨e, ept, hept, he, rfl⟩ := BindState.announceSent_eq_some hmsg
      show _ = announcedBy (s.servicesBut i) _
      rw [announcedBy_destroy]
      exact (Set.sdiff_singleton_eq_self (h.notMem_servicesBut hept he _)).symm

/-- **A call on a device**: what it sends is what it does to the services, unless it ends a binding
and the announcement fails. -/
theorem NsInv.services_step (h : s.NsInv) (hs : (s.devs i).step ev = some dev)
    (hs' : s'.devs = s.setDev i dev) :
    s'.services = ((s.devs i).sent ev).toList.foldl announcedBy s.services ↔
      s.Tells (.dev i ev) := by
  obtain ⟨drv, env, rfl, hnone, rfl⟩ | ⟨rpmsgSendto, drv, rfl, hdrv, rfl⟩ |
    ⟨rpdev, cb, priv, addr, env, rfl, rfl⟩ | ⟨e, ept, rfl, hother, he, rfl⟩ :=
    BindState.step_cases hs
  · exact iff_of_true (services_probe hs' hnone ((s.devs i).probeEnd hnone drv env)) trivial
  · exact h.services_remove hs' rfl
  all_goals
    refine iff_of_true ?_ trivial
    have hself : (s'.devs i).Announces ↔ (s.devs i).Announces := by rw [hs', setDev_self]; rfl
    have hservice : (s'.devs i).service = (s.devs i).service := by rw [hs', setDev_self]; rfl
    ext k
    rw [mem_services (i := i), hself, hservice, servicesBut_setDev hs', ← mem_services]
    rfl

/-! ### Runs -/

/-- **What a step is**: a call on a device, a delivery, or something else on the other processor. -/
theorem step_cases {ev : NsEvent n} (h : s.step v ev = some s') :
    (∃ i ev' dev, ev = .dev i ev' ∧ s.spares ev' = true ∧ (s.devs i).step ev' = some dev ∧
      s' = { s with
        devs := s.setDev i dev
        inFlight := s.inFlight ++ ((s.devs i).sent ev').toList }) ∨
    (∃ registered msg, ev = .deliver registered ∧ s.inFlight = msg :: s'.inFlight ∧
      s.host.step (.nsMessage v msg RpmsgNsMsg.size registered) = some s'.host ∧
      s'.devs = s.devs) ∨
    ∃ ev' host, ev = .host ev' ∧ ev'.concerns v = false ∧ s.host.step ev' = some host ∧
      s' = { s with host } := by
  rcases ev with ⟨i, ev'⟩ | registered | ev'
  · obtain ⟨⟨hspares, -⟩, h⟩ := Option.ite_none_right_eq_some.1 h
    obtain ⟨dev, hdev, rfl⟩ := Option.map_eq_some_iff.1 h
    exact .inl ⟨i, ev', dev, rfl, hspares, hdev, rfl⟩
  · unfold step at h
    dsimp only at h
    split at h
    · cases h
    · next msg inFlight hflight =>
      obtain ⟨host, hhost, rfl⟩ := Option.map_eq_some_iff.1 h
      exact .inr (.inl ⟨registered, msg, rfl, hflight, hhost, rfl⟩)
  · obtain ⟨hconcerns, h⟩ := Option.ite_none_left_eq_some.1 h
    obtain ⟨host, hhost, rfl⟩ := Option.map_eq_some_iff.1 h
    exact .inr (.inr ⟨ev', host, rfl, Bool.eq_false_iff.2 hconcerns, hhost, rfl⟩)

theorem NsInv.step {ev : NsEvent n} (h : s.NsInv) (hs : s.step v ev = some s') : s'.NsInv := by
  obtain ⟨i, ev', dev, rfl, hspares, hdev, rfl⟩ | ⟨registered, msg, rfl, hflight, -, hdevs⟩ |
    ⟨ev', host, rfl, -, -, rfl⟩ := step_cases hs
  · refine h.setDev hspares hdev fun msg hmsg ↦ ?_
    rcases List.mem_append.1 hmsg with hmsg | hmsg
    · exact h.addr msg hmsg
    · exact h.addr_sent hdev (Option.mem_toList.1 hmsg)
  · refine ⟨hdevs ▸ h.devInv, hdevs ▸ h.shared, hdevs ▸ h.disjoint, fun msg' hmsg' ↦ h.addr msg' ?_⟩
    rw [hflight]
    exact List.mem_cons_of_mem _ hmsg'
  · exact ⟨h.devInv, h.shared, h.disjoint, h.addr⟩

/-- The channels of `v` are not changed by what does not concern `v`. -/
theorem channelKeys_of_unconcerned {t t' : Stack} {ev : StackEvent} (h : t.ChannelsInv)
    (hwf : t.Wf) (hs : t.step ev = some t') (hoops : t'.oops = none)
    (hev : ev.concerns v = false) : t'.channelKeys v = t.channelKeys v := by
  have hexec : t.exec ev = some (.ok t') := by
    rcases (Stack.step_eq_some hs).2 with hexec | ⟨fault, rfl⟩
    · exact hexec
    · cases hoops
  cases ev with
  | nsMessage w msg len registered =>
    obtain ⟨e, -, hcb⟩ := Option.map_eq_some_iff.1 hexec
    have hne : w ≠ v := ne_of_beq_false hev
    exact h.nsMessage_other (fun hw ↦ hne hw.1) (Stack.nsOutcome hcb)
  | remove w =>
    have hne : w ≠ v := ne_of_beq_false hev
    rw [(h.step_iff (v := v) hwf hs hoops trivial).2 trivial, Stack.announcedStep, if_neg hne]
  | _ => exact (h.step_iff (v := v) hwf hs hoops trivial).2 trivial

/-- What an announcement comes to, on a stack that runs on. -/
theorem nsOutcome_of_step {t t' : Stack} {msg : RpmsgNsMsg} {registered : Bool}
    (hs : t.step (.nsMessage v msg RpmsgNsMsg.size registered) = some t') (hoops : t'.oops = none) :
    t.NsOutcome v msg RpmsgNsMsg.size registered t' := by
  rcases (Stack.step_eq_some hs).2 with hexec | ⟨fault, rfl⟩
  · obtain ⟨e, -, hcb⟩ := Option.map_eq_some_iff.1 hexec
    exact Stack.nsOutcome hcb
  · cases hoops

/-- **An announcement does to the channels what it says**, if no channel fails to be registered. -/
theorem channelKeys_delivered {t t' : Stack} {msg : RpmsgNsMsg} {registered : Bool}
    (h : t.ChannelsInv) (hout : t.NsOutcome v msg RpmsgNsMsg.size registered t')
    (haddr : msg.addr ≠ RPMSG_ADDR_ANY)
    (hreg : msg.flags &&& RPMSG_NS_DESTROY = 0 → nsKey msg ∉ t.channelKeys v →
      registered = true) : t'.channelKeys v = announcedBy (t.channelKeys v) msg := by
  have hgranted : t.NsOutcome v msg RpmsgNsMsg.size true t' := by
    cases hout with
    | malformed hlen => exact absurd rfl hlen
    | known r hlen hflags hfind => exact .known r hlen hflags hfind
    | created hlen hflags hfind _ => exact .created hlen hflags hfind rfl
    | absent hlen hflags hfind => exact .absent hlen hflags hfind
    | destroyed r _ hlen hflags hfind hrpdevs => exact .destroyed r _ hlen hflags hfind hrpdevs
    | refused _ hflags hfind hrefused =>
      have hfree : nsKey msg ∉ t.channelKeys v := fun ⟨r, hr⟩ ↦
        (h.find_eq_none hfind r _ hr).2 rfl
      exact absurd (hrefused.symm.trans (hreg hflags hfree)) Bool.false_ne_true
  have hstep : t'.channelKeys v = Stack.announcedStep v (t.channelKeys v)
      (.nsMessage v msg RpmsgNsMsg.size true) :=
    (h.nsMessage_iff hgranted).2 (Stack.announcesExactly_of_ne haddr)
  rw [hstep, Stack.announcedStep, if_pos ⟨rfl, rfl⟩, announcedBy]

/-- A channel that is not registered is not there. -/
theorem channelKeys_refused {t t' : Stack} {msg : RpmsgNsMsg} (h : t.ChannelsInv)
    (hout : t.NsOutcome v msg RpmsgNsMsg.size false t') (haddr : msg.addr ≠ RPMSG_ADDR_ANY)
    (hflags : msg.flags &&& RPMSG_NS_DESTROY = 0) (hfree : nsKey msg ∉ t.channelKeys v) :
    t'.channelKeys v = t.channelKeys v := by
  cases hout with
  | malformed | refused => rfl
  | known r _ _ hfind =>
    obtain ⟨dst, hr, -, hdst⟩ := h.find_eq_some hfind
    obtain rfl := hdst haddr
    exact absurd ⟨r, hr⟩ hfree
  | created _ _ _ hreg => cases hreg
  | absent _ hdestroy _ => exact absurd hflags hdestroy
  | destroyed _ _ _ hdestroy _ _ => exact absurd hflags hdestroy

/-- Announcements that come after make good for one that was missed exactly when one of them is
about the same service. -/
theorem foldl_announcedBy_insert_iff {K : Set ChannelKey} {k : ChannelKey} (hk : k ∉ K)
    (msgs : List RpmsgNsMsg) :
    msgs.foldl announcedBy (insert k K) = msgs.foldl announcedBy K ↔
      ∃ msg ∈ msgs, nsKey msg = k := by
  induction msgs generalizing K with
  | nil =>
    refine iff_of_false (fun heq ↦ hk ?_) fun ⟨_, hmsg, _⟩ ↦ absurd hmsg List.not_mem_nil
    rw [List.foldl_nil, List.foldl_nil] at heq
    rw [← heq]
    exact Set.mem_insert ..
  | cons msg msgs ih =>
    rw [List.foldl_cons, List.foldl_cons]
    rcases eq_or_ne (nsKey msg) k with rfl | hne
    · -- this one says the same of both
      refine iff_of_true (congrArg (fun K ↦ msgs.foldl announcedBy K) ?_)
        ⟨msg, List.mem_cons_self, rfl⟩
      unfold announcedBy
      split
      · rw [Set.insert_sdiff_self_of_notMem hk, Set.sdiff_singleton_eq_self hk]
      · exact Set.insert_idem ..
    · obtain ⟨hinsert, hnot⟩ : announcedBy (insert k K) msg = insert k (announcedBy K msg) ∧
          k ∉ announcedBy K msg := by
        unfold announcedBy
        split
        · exact ⟨Set.insert_sdiff_of_notMem _ hne.symm, fun h ↦ hk h.1⟩
        · exact ⟨Set.insert_comm .., fun h ↦ h.elim (fun h ↦ hne h.symm) hk⟩
      rw [hinsert, ih hnot]
      simp [hne]

/-- **A delivery** keeps the two ends in agreement exactly when the channel that is announced gets
registered, or need not be. -/
theorem Mirrors.deliver_iff {registered : Bool} {msg : RpmsgNsMsg} (hm : s.Mirrors v) (h : s.NsInv)
    (hreach : Reachable Stack.step .init s.host) (hflight : s.inFlight = msg :: s'.inFlight)
    (hhost : s.host.step (.nsMessage v msg RpmsgNsMsg.size registered) = some s'.host)
    (hdevs : s'.devs = s.devs) (hoops : s'.host.oops = none) :
    s'.Mirrors v ↔ s.Registers v (.deliver registered) := by
  have hchannels := Stack.channelsInv_of_reachable hreach
  have hout := nsOutcome_of_step hhost hoops
  have hservices : s'.services = s.services := by rw [services, hdevs]; rfl
  have haddr := h.addr msg (by rw [hflight]; exact List.mem_cons_self)
  rw [Mirrors, hflight] at hm
  rw [Mirrors, hservices]
  by_cases hgets : msg.flags &&& RPMSG_NS_DESTROY = 0 → nsKey msg ∉ s.host.channelKeys v →
      registered = true
  · refine iff_of_true (hm.receive (channelKeys_delivered hchannels hout haddr hgets)) ?_
    intro msg' inFlight heq hflags hfree
    obtain ⟨rfl, rfl⟩ := List.cons.inj (hflight.symm.trans heq)
    exact .inl (hgets hflags hfree)
  · simp only [Classical.not_imp, Bool.not_eq_true] at hgets
    obtain ⟨hflags, hfree, rfl⟩ := hgets
    have hadds : announcedBy (s.host.channelKeys v) msg =
        insert (nsKey msg) (s.host.channelKeys v) := if_neg (not_not.2 hflags)
    rw [Tracks, List.foldl_cons, hadds] at hm
    rw [Tracks, channelKeys_refused hchannels hout haddr hflags hfree, ← hm, eq_comm,
      foldl_announcedBy_insert_iff hfree]
    constructor
    · rintro hlater msg' inFlight heq - -
      obtain ⟨rfl, rfl⟩ := List.cons.inj (hflight.symm.trans heq)
      exact .inr hlater
    · intro hreg
      exact (hreg msg _ hflight hflags hfree).resolve_left Bool.false_ne_true

/-- **One step** keeps the two ends in agreement exactly when it meets the condition. -/
theorem Mirrors.step_iff {ev : NsEvent n} (hm : s.Mirrors v) (h : s.NsInv)
    (hreach : Reachable Stack.step .init s.host) (hs : s.step v ev = some s')
    (hoops : s'.host.oops = none) : s'.Mirrors v ↔ s.Conveys v ev := by
  obtain ⟨i, ev', dev, rfl, -, hdev, rfl⟩ | ⟨registered, msg, rfl, hflight, hhost, hdevs⟩ |
    ⟨ev', host, rfl, hconcerns, hhost, rfl⟩ := step_cases hs
  · exact (hm.append_iff.trans (h.services_step hdev rfl)).trans (and_iff_left trivial).symm
  · exact (hm.deliver_iff h hreach hflight hhost hdevs hoops).trans (and_iff_right trivial).symm
  · refine iff_of_true ?_ ⟨trivial, trivial⟩
    rw [Mirrors, channelKeys_of_unconcerned (Stack.channelsInv_of_reachable hreach)
      (Stack.wf_of_reaches hreach) hhost hoops hconcerns]
    exact hm

/-- With the ring empty, the channels are the services. -/
theorem Mirrors.settled (h : s.Mirrors v) (hflight : s.inFlight = []) :
    s.host.channelKeys v = s.services := by
  rw [Mirrors, hflight] at h
  exact tracks_nil.1 h

end NsLink
