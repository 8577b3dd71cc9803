import DriverModules.Lib.Maps
import DriverModules.Rpmsg.Stack

/-!
# Binding drivers to an rpmsg device

`rpmsg_dev_probe` creates an endpoint for a driver with an rx callback and leaves its address in
`rpdev->ept`; `rpmsg_dev_remove` destroys what it finds there. The field belongs to the device and
the endpoint to one binding, and nothing sets the field back to `NULL`. Whether the next driver's
removal destroys an endpoint a second time is therefore decided by the drivers before it.

One device is followed through any sequence of drivers. The remote processor has other endpoints,
whose owners create and destroy them in between, so addresses are taken and given back.

## The endpoints apart from the device

`EptStore` is the endpoint table of the remote processor with the endpoints behind it and a count of
the destructions of each; ids are not used twice, so that "destroyed twice" can be said after the
memory was freed. `BindState` adds what belongs to the one device. `rpmsgDevProbe_callback` says
what a probe leaves behind in the one case that matters here, and nothing below it unfolds the
probe.

## Main results, and what each rests on

* `rpmsgCreateEpt_cases`, `rpmsgDestroyEpt_of_live` and `Wf`: the store keeps its order whatever is
  created and destroyed.
* `bindSound_iff`: the endpoints of a device come out even exactly when no binding that has an
  endpoint ends. As long as that is so, `rpdev->ept` is the endpoint of the binding (`BindInv`). The
  first step that breaks it leaves the device unbound with an endpoint in `rpdev->ept` (`Settles`),
  which is against the law at once, before anything is destroyed a second time.
* `bindSound_destroyed_twice`: the next driver without a callback then destroys it again.
-/

open Transition

/-! ### Endpoints in memory -/

/-- The endpoints of a remote processor: the table, the objects that are not freed, and how often
each was given to `rpmsg_destroy_ept`. Ids of objects are never used twice. -/
structure EptStore where
  endpoints : Idr EptId
  epts : EptId → Option RpmsgEndpoint
  next : EptId
  destroys : EptId → ℕ

namespace EptStore

def init : EptStore where
  endpoints := .empty
  epts _ := none
  next := 0
  destroys _ := 0

/-- `rpmsg_create_ept`, by way of `__rpmsg_create_ept`. -/
def rpmsgCreateEpt (m : EptStore) (rpdev : Option RpdevId) (cb : RxCb) (priv : Priv)
    (addr : UInt32) (env : EptEnv) : EptStore × Option (EptId × UInt32) :=
  if env.kzalloc then
    match m.endpoints.alloc m.next (idMin addr) (idMax addr) env.nomem with
    | .error _ => (m, none)
    | .ok (id, endpoints) =>
      let ept := { rpdev, refcount := 1, cb := some cb, addr := .ofNat id, priv }
      ({ m with
         endpoints
         epts := Function.update m.epts m.next (some ept)
         next := m.next + 1 }, some (m.next, .ofNat id))
  else (m, none)

/-- `rpmsg_destroy_ept`, by way of `__rpmsg_destroy_ept`. No delivery is under way, so the reference
it puts is the last one. -/
def rpmsgDestroyEpt (m : EptStore) (e : EptId) : EptStore × Option Fault :=
  let m := { m with destroys := Function.update m.destroys e (m.destroys e + 1) }
  match m.epts e with
  | none => (m, some .destroyEpt)
  | some ept =>
    ({ m with
       endpoints := m.endpoints.remove ept.addr.toNat
       epts := Function.update m.epts e none }, none)

end EptStore

/-! ### The device and its drivers -/

/-- The part of `struct rpmsg_driver` the bus looks at. -/
structure RpmsgDriver where
  callback : Option RxCb
  deriving DecidableEq, Repr

/-- What the rest of the kernel and the driver answer to `rpmsg_dev_probe`. -/
structure DevProbeEnv where
  /-- `dev_pm_domain_attach`. -/
  pmDomainAttach : Except Errno Unit
  ept : EptEnv
  /-- The driver's own `probe`. -/
  probe : Except Errno Unit
  rpmsgSendto : RpmsgNsMsg → Except Errno Unit

/-- The device, and the endpoints of its remote processor. -/
structure BindState where
  store : EptStore
  /-- `virtio_has_feature(vrp->vdev, VIRTIO_RPMSG_F_NS)`. -/
  featureNs : Bool
  rpdev : RpdevId
  /-- `id.name`. -/
  name : List UInt8
  announce : Bool
  src : UInt32
  ept : Option EptId
  /-- `dev.driver`. -/
  driver : Option RpmsgDriver
  oops : Option Fault
  /-- The endpoints `rpmsg_dev_probe` has created, the newest first. -/
  created : List EptId
  /-- The one of the binding that lasts. -/
  current : Option EptId

/-- `RPMSG_NS_CREATE`. -/
def RPMSG_NS_CREATE : UInt32 := 0

inductive BindEvent
  /-- The driver core tries to bind the driver `drv`. -/
  | probe (drv : RpmsgDriver) (env : DevProbeEnv)
  /-- The driver is unbound. -/
  | remove (rpmsgSendto : RpmsgNsMsg → Except Errno Unit)
  /-- Another endpoint of the processor is created. -/
  | createOther (rpdev : Option RpdevId) (cb : RxCb) (priv : Priv) (addr : UInt32) (env : EptEnv)
  /-- Its owner destroys it. -/
  | destroyOther (e : EptId)

namespace BindState

/-- The device as `rpmsg_create_channel` registers it; a board file may have set `announce`. -/
def registered (rpdev : RpdevId) (name : List UInt8) (src : UInt32) (announce featureNs : Bool) :
    BindState where
  store := .init
  featureNs := featureNs
  rpdev := rpdev
  name := name
  announce := announce
  src := src
  ept := none
  driver := none
  oops := none
  created := []
  current := none

/-- What `virtio_rpmsg_announce_create` and `virtio_rpmsg_announce_destroy` say of the endpoint. -/
def nsMsg (s : BindState) (addr flags : UInt32) : RpmsgNsMsg where
  name := strn RPMSG_NAME_SIZE s.name
  addr := addr
  flags := flags

/-- `virtio_rpmsg_announce_create` and `virtio_rpmsg_announce_destroy`, which differ in `flags`. -/
def virtioRpmsgAnnounce (s : BindState) (flags : UInt32)
    (rpmsgSendto : RpmsgNsMsg → Except Errno Unit) : Except Fault (Except Errno Unit) :=
  match s.ept with
  | some e =>
    if s.announce && s.featureNs then
      match s.store.epts e with
      | none => .error .send
      | some ept => .ok (rpmsgSendto (s.nsMsg ept.addr flags))
    else .ok (.ok ())
  | none => .ok (.ok ())

/-- `rpmsg_destroy_ept`. -/
def rpmsgDestroyEpt (s : BindState) (e : EptId) : BindState :=
  let (store, oops) := s.store.rpmsgDestroyEpt e
  { s with store, oops }

/-- `rpmsg_dev_probe`. -/
def rpmsgDevProbe (s : BindState) (drv : RpmsgDriver) (env : DevProbeEnv) :
    BindState × Except Errno Unit :=
  match env.pmDomainAttach with
  | .error err => (s, .error err)
  | .ok () =>
    match drv.callback with
    | none => (s, env.probe)
    | some cb =>
      match s.store.rpmsgCreateEpt (some s.rpdev) cb .null s.src env.ept with
      | (store, none) => ({ s with store }, .error .ENOMEM)
      | (store, some (e, addr)) =>
        let s := { s with store, ept := some e, src := addr, created := e :: s.created }
        match env.probe with
        | .error err => (s.rpmsgDestroyEpt e, .error err)
        | .ok () =>
          match s.virtioRpmsgAnnounce RPMSG_NS_CREATE env.rpmsgSendto with
          | .error fault => ({ s with oops := some fault }, .ok ())
          | .ok ret => (s, ret)

/-- `rpmsg_dev_remove`; nobody looks at the error it returns. -/
def rpmsgDevRemove (s : BindState) (rpmsgSendto : RpmsgNsMsg → Except Errno Unit) : BindState :=
  match s.virtioRpmsgAnnounce RPMSG_NS_DESTROY rpmsgSendto with
  | .error fault => { s with oops := some fault }
  | .ok _ =>
    match s.ept with
    | none => s
    | some e => s.rpmsgDestroyEpt e

/-- The driver core binds the driver when its probe returns 0, and not otherwise. -/
def reallyProbe (s : BindState) (drv : RpmsgDriver) (env : DevProbeEnv) : BindState :=
  match s.rpmsgDevProbe drv env with
  | (s, .error _) => s
  | (s, .ok ()) => { s with driver := some drv, current := drv.callback.bind fun _ ↦ s.ept }

/-- The driver core unbinds the driver. -/
def deviceReleaseDriver (s : BindState) (rpmsgSendto : RpmsgNsMsg → Except Errno Unit) :
    BindState :=
  { s.rpmsgDevRemove rpmsgSendto with driver := none, current := none }

/-- One call. -/
def step (s : BindState) (ev : BindEvent) : Option BindState :=
  if s.oops.isSome then none
  else
    match ev with
    | .probe drv env => if s.driver.isNone then some (s.reallyProbe drv env) else none
    | .remove rpmsgSendto =>
      if s.driver.isSome then some (s.deviceReleaseDriver rpmsgSendto) else none
    | .createOther rpdev cb priv addr env =>
      some { s with store := (s.store.rpmsgCreateEpt rpdev cb priv addr env).1 }
    | .destroyOther e =>
      if e ∈ s.created then none
      else (s.store.epts e).map fun _ ↦ s.rpmsgDestroyEpt e

end BindState

/-! ### The store -/

namespace EptStore

variable {m m' : EptStore} {e : EptId}

/-- Every endpoint is either there or was destroyed once, and the table holds only those there. -/
structure Wf (m : EptStore) : Prop where
  lt : ∀ {e ept}, m.epts e = some ept → e < m.next
  entry : ∀ {k e}, m.endpoints k = some e → ∃ ept, m.epts e = some ept ∧ ept.addr.toNat = k
  unfreed : ∀ {e ept}, m.epts e = some ept → m.destroys e = 0
  freedOnce : ∀ {e}, e < m.next → m.epts e = none → m.destroys e = 1
  beyond : ∀ {e}, m.next ≤ e → m.destroys e = 0

theorem wf_init : init.Wf where
  lt h := by cases h
  entry h := by cases h
  unfreed h := by cases h
  freedOnce h := by cases h
  beyond _ := rfl

theorem Wf.destroys_le (h : m.Wf) (e : EptId) : m.destroys e ≤ 1 := by
  rcases Nat.lt_or_ge e m.next with hlt | hge
  · rcases hept : m.epts e with - | ept
    · exact (h.freedOnce hlt hept).le
    · exact (h.unfreed hept).le.trans zero_le_one
  · exact (h.beyond hge).le.trans zero_le_one

/-- `__rpmsg_create_ept` finds memory, and `idr_alloc` the address `id`. -/
def Obtains (m : EptStore) (addr : UInt32) (env : EptEnv) (id : ℕ) (t : Idr EptId) : Prop :=
  env.kzalloc = true ∧
    m.endpoints.alloc m.next (idMin addr) (idMax addr) env.nomem = .ok (id, t)

theorem Obtains.unique {addr : UInt32} {env : EptEnv} {id id' : ℕ} {t t' : Idr EptId}
    (h : m.Obtains addr env id t) (h' : m.Obtains addr env id' t') : id = id' ∧ t = t' :=
  Prod.mk.inj (Except.ok.inj (h.2.symm.trans h'.2))

/-- The address is an `int` that is not negative, so it is the same number as a `u32`. -/
theorem Obtains.toNat {addr : UInt32} {env : EptEnv} {id : ℕ} {t : Idr EptId}
    (h : m.Obtains addr env id t) : (UInt32.ofNat id).toNat = id := by
  obtain ⟨-, -, -, hmax, -⟩ := Idr.alloc_eq_ok h.2
  have hle : id ≤ 2147483647 := hmax.trans (idMax_le addr)
  rw [UInt32.toNat_ofNat']
  omega

/-- **What a creation does.** -/
theorem rpmsgCreateEpt_cases (m : EptStore) (rpdev : Option RpdevId) (cb : RxCb) (priv : Priv)
    (addr : UInt32) (env : EptEnv) :
    (∀ id t, ¬ m.Obtains addr env id t) ∧ m.rpmsgCreateEpt rpdev cb priv addr env = (m, none) ∨
      ∃ id endpoints, m.Obtains addr env id endpoints ∧
        m.rpmsgCreateEpt rpdev cb priv addr env =
          ({ m with
             endpoints
             epts := Function.update m.epts m.next
               (some { rpdev, refcount := 1, cb := some cb, addr := .ofNat id, priv })
             next := m.next + 1 }, some (m.next, .ofNat id)) := by
  rcases hk : env.kzalloc with - | -
  · simp [Obtains, rpmsgCreateEpt, hk]
  · rcases ha : m.endpoints.alloc m.next (idMin addr) (idMax addr) env.nomem with err | ⟨id, t⟩
    · simp [Obtains, rpmsgCreateEpt, hk, ha]
    · exact .inr ⟨id, t, ⟨hk, ha⟩, by simp [rpmsgCreateEpt, hk, ha]⟩

/-- An endpoint under an address the table had free. -/
theorem Wf.bind {addr : UInt32} {env : EptEnv} {id : ℕ} {t : Idr EptId} {ept : RpmsgEndpoint}
    (h : m.Wf) (hid : m.Obtains addr env id t) (haddr : ept.addr = .ofNat id) :
    Wf { m with endpoints := t, epts := Function.update m.epts m.next (some ept)
                next := m.next + 1 } := by
  have hid' : ept.addr.toNat = id := haddr ▸ hid.toNat
  obtain ⟨-, -, -, -, rfl⟩ := Idr.alloc_eq_ok hid.2
  have hfree : m.epts m.next = none := by
    rcases hnext : m.epts m.next with - | ept
    · rfl
    · exact absurd (h.lt hnext) (lt_irrefl _)
  constructor
  · intro e ept' he
    rcases Maps.update_eq_some.1 he with ⟨rfl, -⟩ | ⟨-, he⟩
    · exact Nat.lt_succ_self _
    · exact (h.lt he).trans (Nat.lt_succ_self _)
  · intro k e hk
    rcases Maps.update_eq_some.1 hk with ⟨rfl, rfl⟩ | ⟨-, hk⟩
    · exact ⟨ept, Function.update_self .., hid'⟩
    · obtain ⟨ept', he, hk⟩ := h.entry hk
      exact ⟨ept', (Function.update_of_ne (h.lt he).ne ..).trans he, hk⟩
  · intro e ept' he
    rcases Maps.update_eq_some.1 he with ⟨rfl, -⟩ | ⟨-, he⟩
    · exact h.beyond (Nat.le_refl _)
    · exact h.unfreed he
  · intro e hlt he
    rcases eq_or_ne e m.next with rfl | hne
    · simp at he
    · have he : m.epts e = none := (Function.update_of_ne hne ..).symm.trans he
      exact h.freedOnce (lt_of_le_of_ne (Nat.lt_succ_iff.1 hlt) hne) he
  · exact fun hle ↦ h.beyond ((Nat.le_succ _).trans hle)

theorem rpmsgDestroyEpt_of_live {ept : RpmsgEndpoint} (he : m.epts e = some ept) :
    m.rpmsgDestroyEpt e =
      ({ m with
         endpoints := m.endpoints.remove ept.addr.toNat
         epts := Function.update m.epts e none
         destroys := Function.update m.destroys e (m.destroys e + 1) }, none) := by
  simp [rpmsgDestroyEpt, he]

/-- Its first destruction. -/
theorem Wf.destroy {ept : RpmsgEndpoint} (h : m.Wf) (he : m.epts e = some ept) :
    (m.rpmsgDestroyEpt e).1.Wf := by
  rw [rpmsgDestroyEpt_of_live he]
  have hlt := h.lt he
  constructor
  · exact fun he' ↦ h.lt (Maps.erase_eq_some.1 he').2
  · intro k e' hk
    obtain ⟨hne, hk⟩ := Maps.erase_eq_some.1 hk
    obtain ⟨ept', he', rfl⟩ := h.entry hk
    -- its own entry is the one that went
    have hother : e' ≠ e := by
      rintro rfl
      exact hne (by rw [Option.some.inj (he'.symm.trans he)])
    exact ⟨ept', (Function.update_of_ne hother ..).trans he', rfl⟩
  · intro e' ept' he'
    obtain ⟨hne, he'⟩ := Maps.erase_eq_some.1 he'
    exact (Function.update_of_ne hne ..).trans (h.unfreed he')
  · intro e' hlt' he'
    rcases eq_or_ne e' e with rfl | hne
    · exact (Function.update_self ..).trans (by rw [h.unfreed he])
    · have he' : m.epts e' = none := (Function.update_of_ne hne ..).symm.trans he'
      exact (Function.update_of_ne hne ..).trans (h.freedOnce hlt' he')
  · intro e' hle
    exact (Function.update_of_ne (hlt.trans_le hle).ne' ..).trans (h.beyond hle)

end EptStore

/-! ### What a binding leaves -/

/-- `rpmsg_destroy_ept` is never called for a destroyed endpoint; those of the bindings that are
over were destroyed; and an unbound device has none. -/
structure BindSound (s : BindState) : Prop where
  neverAgain : ∀ e, s.store.destroys e ≤ 1
  exactlyOnce : ∀ e ∈ s.created, s.current ≠ some e → s.store.destroys e = 1
  unbound : s.driver = none →
    s.ept = none ∧ ∀ e ∈ s.created, ∀ k, s.store.endpoints k ≠ some e

namespace BindState

variable {s s' : BindState} {e : EptId} {drv : RpmsgDriver}

/-- No binding with an endpoint of its own ends here: where a driver with an rx callback has got its
endpoint, its probe and the announcement succeed, and only drivers without one are unbound. -/
def KeepsBound (s : BindState) : BindEvent → Prop
  | .probe drv env =>
    drv.callback ≠ none → env.pmDomainAttach = .ok () → ∀ id t, s.store.Obtains s.src env.ept id t →
      env.probe = .ok () ∧ (s.announce = true → s.featureNs = true →
        env.rpmsgSendto (s.nsMsg (.ofNat id) RPMSG_NS_CREATE) = .ok ())
  | .remove _ => ∀ drv, s.driver = some drv → drv.callback = none
  | .createOther .. | .destroyOther _ => True

/-- A driver with callback that has got its endpoint. -/
theorem keepsBound_probe_iff {env : DevProbeEnv} {cb : RxCb} {id : ℕ} {t : Idr EptId}
    (hcb : drv.callback = some cb) (hpm : env.pmDomainAttach = .ok ())
    (hid : s.store.Obtains s.src env.ept id t) :
    s.KeepsBound (.probe drv env) ↔ env.probe = .ok () ∧
      (s.announce = true → s.featureNs = true →
        env.rpmsgSendto (s.nsMsg (.ofNat id) RPMSG_NS_CREATE) = .ok ()) := by
  constructor
  · exact fun hkeeps ↦ hkeeps (by rw [hcb]; exact nofun) hpm id t hid
  · rintro hok - - id' t' hid'
    obtain ⟨rfl, rfl⟩ := hid.unique hid'
    exact hok

/-- While no binding with an endpoint has ended, `rpdev->ept` is that of the binding. -/
structure BindInv (s : BindState) : Prop where
  wf : s.store.Wf
  lt : ∀ e ∈ s.created, e < s.store.next
  dead : ∀ e ∈ s.created, s.current ≠ some e → s.store.epts e = none
  ept_eq : s.ept = s.current
  current_iff : s.current ≠ none ↔ ∃ drv, s.driver = some drv ∧ drv.callback ≠ none
  current : ∀ e, s.current = some e → e ∈ s.created ∧ ∃ ept, s.store.epts e = some ept

theorem BindInv.current_of_unbound (h : s.BindInv) (hdrv : s.driver = none) : s.current = none := by
  by_contra hne
  obtain ⟨drv, hbound, -⟩ := h.current_iff.1 hne
  exact nomatch hdrv.symm.trans hbound

theorem BindInv.sound (h : s.BindInv) : BindSound s where
  neverAgain := h.wf.destroys_le
  exactlyOnce e he hcur := h.wf.freedOnce (h.lt e he) (h.dead e he hcur)
  unbound hdrv := by
    have hcur := h.current_of_unbound hdrv
    refine ⟨h.ept_eq.trans hcur, fun e he k hk ↦ ?_⟩
    obtain ⟨ept, hept, -⟩ := h.wf.entry hk
    have hnone := h.dead e he (by rw [hcur]; exact nofun)
    exact nomatch hnone.symm.trans hept

theorem bindInv_registered (rpdev : RpdevId) (name : List UInt8) (src : UInt32)
    (announce featureNs : Bool) : (registered rpdev name src announce featureNs).BindInv where
  wf := EptStore.wf_init
  lt _ h := by cases h
  dead _ h := by cases h
  ept_eq := rfl
  current_iff := by simp [registered]
  current _ h := by cases h

/-! ### One call -/

/-- A driver without callback: `rpmsg_dev_probe` is the driver's own. -/
theorem rpmsgDevProbe_noCallback {env : DevProbeEnv} (hcb : drv.callback = none)
    (hpm : env.pmDomainAttach = .ok ()) : s.rpmsgDevProbe drv env = (s, env.probe) := by
  simp [rpmsgDevProbe, hpm, hcb]

/-- The device with the endpoint `__rpmsg_create_ept` has made it. -/
def withEpt (s : BindState) (cb : RxCb) (id : ℕ) (t : Idr EptId) : BindState :=
  { s with
    store := { s.store with
      endpoints := t
      epts := Function.update s.store.epts s.store.next (some
        { rpdev := some s.rpdev, refcount := 1, cb := some cb, addr := .ofNat id, priv := .null })
      next := s.store.next + 1 }
    ept := some s.store.next
    src := .ofNat id
    created := s.store.next :: s.created }

theorem withEpt_self (cb : RxCb) (id : ℕ) (t : Idr EptId) :
    (s.withEpt cb id t).store.epts s.store.next = some
      { rpdev := some s.rpdev, refcount := 1, cb := some cb, addr := .ofNat id, priv := .null } :=
  Function.update_self ..

/-- The announcement of an endpoint that is there. -/
theorem virtioRpmsgAnnounce_of_live {ept : RpmsgEndpoint} {flags : UInt32}
    {rpmsgSendto : RpmsgNsMsg → Except Errno Unit} (hept : s.ept = some e)
    (he : s.store.epts e = some ept) :
    s.virtioRpmsgAnnounce flags rpmsgSendto = .ok
      (if s.announce && s.featureNs then rpmsgSendto (s.nsMsg ept.addr flags) else .ok ()) := by
  simp only [virtioRpmsgAnnounce, hept, he]
  split <;> rfl

/-- **What `rpmsg_dev_probe` leaves for a driver with callback**: without an endpoint everything as
it was; with one, the endpoint in `rpdev->ept`, whatever the driver and the announcement say. -/
theorem rpmsgDevProbe_callback {env : DevProbeEnv} {cb : RxCb} (hcb : drv.callback = some cb)
    (hpm : env.pmDomainAttach = .ok ()) :
    (∀ id t, ¬ s.store.Obtains s.src env.ept id t) ∧
        s.rpmsgDevProbe drv env = (s, .error .ENOMEM) ∨
      ∃ id t, s.store.Obtains s.src env.ept id t ∧
        s.rpmsgDevProbe drv env =
          match env.probe with
          | .error err => ((s.withEpt cb id t).rpmsgDestroyEpt s.store.next, .error err)
          | .ok () =>
            (s.withEpt cb id t, if s.announce && s.featureNs then
              env.rpmsgSendto (s.nsMsg (.ofNat id) RPMSG_NS_CREATE) else .ok ()) := by
  rcases s.store.rpmsgCreateEpt_cases (some s.rpdev) cb .null s.src env.ept with
    ⟨hnone, hcreate⟩ | ⟨id, t, hid, hcreate⟩
  · exact .inl ⟨hnone, by simp only [rpmsgDevProbe, hpm, hcb, hcreate]⟩
  · refine .inr ⟨id, t, hid, ?_⟩
    have hannounce : (s.withEpt cb id t).virtioRpmsgAnnounce RPMSG_NS_CREATE env.rpmsgSendto =
        .ok (if s.announce && s.featureNs then
          env.rpmsgSendto (s.nsMsg (.ofNat id) RPMSG_NS_CREATE) else .ok ()) :=
      virtioRpmsgAnnounce_of_live (s := s.withEpt cb id t) rfl (withEpt_self cb id t)
    unfold withEpt at hannounce ⊢
    simp only [rpmsgDevProbe, hpm, hcb, hcreate]
    rcases env.probe with err | -
    · rfl
    · simp only [hannounce]

/-- **Nothing sets `rpdev->ept` back.** -/
@[simp] theorem rpmsgDestroyEpt_ept (e : EptId) : (s.rpmsgDestroyEpt e).ept = s.ept := rfl

theorem rpmsgDevRemove_ept (rpmsgSendto : RpmsgNsMsg → Except Errno Unit) :
    (s.rpmsgDevRemove rpmsgSendto).ept = s.ept := by
  unfold rpmsgDevRemove
  split
  · rfl
  · split <;> rfl

/-- The removal of a driver from a device without endpoint. -/
theorem rpmsgDevRemove_of_null {rpmsgSendto : RpmsgNsMsg → Except Errno Unit}
    (hept : s.ept = none) : s.rpmsgDevRemove rpmsgSendto = s := by
  simp [rpmsgDevRemove, virtioRpmsgAnnounce, hept]

/-- **What one call does.** -/
theorem step_cases {ev : BindEvent} (h : s.step ev = some s') :
    (∃ drv env, ev = .probe drv env ∧ s.driver = none ∧ s' = s.reallyProbe drv env) ∨
    (∃ rpmsgSendto drv, ev = .remove rpmsgSendto ∧ s.driver = some drv ∧
      s' = s.deviceReleaseDriver rpmsgSendto) ∨
    (∃ rpdev cb priv addr env, ev = .createOther rpdev cb priv addr env ∧
      s' = { s with store := (s.store.rpmsgCreateEpt rpdev cb priv addr env).1 }) ∨
    ∃ e ept, ev = .destroyOther e ∧ e ∉ s.created ∧ s.store.epts e = some ept ∧
      s' = s.rpmsgDestroyEpt e := by
  unfold step at h
  split at h
  case isTrue => cases h
  rcases ev with ⟨drv, env⟩ | rpmsgSendto | ⟨rpdev, cb, priv, addr, env⟩ | e <;> dsimp only at h
  · obtain ⟨hnone, h⟩ := Option.ite_none_right_eq_some.1 h
    exact .inl ⟨drv, env, rfl, Option.isNone_iff_eq_none.1 hnone, (Option.some.inj h).symm⟩
  · obtain ⟨hsome, h⟩ := Option.ite_none_right_eq_some.1 h
    obtain ⟨drv, hdrv⟩ := Option.isSome_iff_exists.1 hsome
    exact .inr (.inl ⟨rpmsgSendto, drv, rfl, hdrv, (Option.some.inj h).symm⟩)
  · exact .inr (.inr (.inl ⟨rpdev, cb, priv, addr, env, rfl, (Option.some.inj h).symm⟩))
  · obtain ⟨hother, h⟩ := Option.ite_none_left_eq_some.1 h
    obtain ⟨ept, he, rfl⟩ := Option.map_eq_some_iff.1 h
    exact .inr (.inr (.inr ⟨e, ept, rfl, hother, he, rfl⟩))

/-! ### The calls that keep the invariant -/

/-- Another endpoint appears. -/
theorem BindInv.createOther (h : s.BindInv) (rpdev : Option RpdevId) (cb : RxCb) (priv : Priv)
    (addr : UInt32) (env : EptEnv) :
    BindInv { s with store := (s.store.rpmsgCreateEpt rpdev cb priv addr env).1 } := by
  rcases s.store.rpmsgCreateEpt_cases rpdev cb priv addr env with
    ⟨-, hcreate⟩ | ⟨id, t, hid, hcreate⟩
  · rw [hcreate]
    exact h
  · rw [hcreate]
    have hold : ∀ {e} {x : Option RpmsgEndpoint}, e ∈ s.created →
        Function.update s.store.epts s.store.next x e = s.store.epts e :=
      fun he ↦ Function.update_of_ne (h.lt _ he).ne ..
    refine ⟨h.wf.bind hid rfl, fun e he ↦ (h.lt e he).trans (Nat.lt_succ_self _),
      fun e he hcur ↦ (hold he).trans (h.dead e he hcur), h.ept_eq, h.current_iff, fun e he ↦ ?_⟩
    obtain ⟨hmem, ept, hept⟩ := h.current e he
    exact ⟨hmem, ept, (hold hmem).trans hept⟩

/-- Another endpoint is destroyed. -/
theorem BindInv.destroyOther {ept : RpmsgEndpoint} (h : s.BindInv) (hother : e ∉ s.created)
    (he : s.store.epts e = some ept) : (s.rpmsgDestroyEpt e).BindInv := by
  have hold : ∀ {e'}, e' ∈ s.created → (s.rpmsgDestroyEpt e).store.epts e' = s.store.epts e' := by
    intro e' he'
    have hne : e' ≠ e := by
      rintro rfl
      exact hother he'
    rw [rpmsgDestroyEpt, EptStore.rpmsgDestroyEpt_of_live he]
    exact Function.update_of_ne hne ..
  have hnext : (s.rpmsgDestroyEpt e).store.next = s.store.next := by
    rw [rpmsgDestroyEpt, EptStore.rpmsgDestroyEpt_of_live he]
  refine ⟨h.wf.destroy he, fun e' he' ↦ (h.lt e' he').trans_eq hnext.symm,
    fun e' he' hcur ↦ (hold he').trans (h.dead e' he' hcur), h.ept_eq, h.current_iff,
    fun e' he' ↦ ?_⟩
  obtain ⟨hmem, ept', hept⟩ := h.current e' he'
  exact ⟨hmem, ept', (hold hmem).trans hept⟩

/-- A driver without callback is bound, or unbound. -/
theorem BindInv.setDriver (h : s.BindInv) (hcur : s.current = none) {driver : Option RpmsgDriver}
    (hcb : ∀ drv, driver = some drv → drv.callback = none) :
    BindInv { s with driver, current := none } where
  wf := h.wf
  lt := h.lt
  dead e he _ := h.dead e he (by rw [hcur]; exact nofun)
  ept_eq := h.ept_eq.trans hcur
  current_iff := by
    refine iff_of_false (fun hne ↦ hne rfl) ?_
    rintro ⟨drv, hdrv, hne⟩
    exact hne (hcb drv hdrv)
  current _ he := by cases he

/-- A driver with callback is bound, to the endpoint made for it. -/
theorem BindInv.bindEpt (h : s.BindInv) (hcur : s.current = none) {cb : RxCb} {id : ℕ}
    {t : Idr EptId} {env : EptEnv} (hcb : drv.callback = some cb)
    (hid : s.store.Obtains s.src env id t) :
    BindInv { s.withEpt cb id t with driver := some drv, current := some s.store.next } := by
  constructor
  · exact h.wf.bind hid rfl
  · intro e he
    rcases List.mem_cons.1 he with rfl | he
    · exact Nat.lt_succ_self _
    · exact (h.lt e he).trans (Nat.lt_succ_self _)
  · intro e he hne
    rcases List.mem_cons.1 he with rfl | he
    · exact absurd rfl hne
    · exact (Function.update_of_ne (h.lt e he).ne ..).trans
        (h.dead e he (by rw [hcur]; exact nofun))
  · rfl
  · exact iff_of_true nofun ⟨drv, rfl, by rw [hcb]; exact nofun⟩
  · rintro e he
    obtain rfl := Option.some.inj he
    exact ⟨List.mem_cons_self, _, withEpt_self cb id t⟩

/-! ### Every call -/

/-- What a call may come to: it keeps the invariant and ends no binding with an endpoint, or it ends
one and leaves an unbound device with an endpoint. -/
def Settles (s : BindState) (ev : BindEvent) (s' : BindState) : Prop :=
  s.KeepsBound ev ∧ s'.BindInv ∨ ¬ s.KeepsBound ev ∧ s'.driver = none ∧ s'.ept ≠ none

theorem BindInv.reallyProbe (h : s.BindInv) (hdrv : s.driver = none) (drv : RpmsgDriver)
    (env : DevProbeEnv) : s.Settles (.probe drv env) (s.reallyProbe drv env) := by
  have hcur := h.current_of_unbound hdrv
  rcases hpm : env.pmDomainAttach with err | ⟨⟩
  · have hprobe : s.reallyProbe drv env = s := by
      simp [BindState.reallyProbe, rpmsgDevProbe, hpm]
    rw [hprobe]
    exact .inl ⟨fun _ hok ↦ (nomatch hpm.symm.trans hok), h⟩
  rcases hcb : drv.callback with - | cb
  · refine .inl ⟨fun hne ↦ absurd hcb hne, ?_⟩
    rw [BindState.reallyProbe, rpmsgDevProbe_noCallback hcb hpm]
    rcases env.probe with err | -
    · exact h
    · rw [hcb]
      exact h.setDriver hcur fun drv' hdrv' ↦ Option.some.inj hdrv' ▸ hcb
  rcases rpmsgDevProbe_callback (s := s) hcb hpm with ⟨hnone, hprobe⟩ | ⟨id, t, hid, hprobe⟩
  · rw [BindState.reallyProbe, hprobe]
    exact .inl ⟨fun _ _ id t hid ↦ absurd hid (hnone id t), h⟩
  have hkeeps := keepsBound_probe_iff hcb hpm hid
  have hdrv' : (s.withEpt cb id t).driver = none := hdrv
  simp only [BindState.reallyProbe, hprobe]
  rcases hret : env.probe with err | ⟨⟩
  · -- the driver's probe has failed
    exact .inr ⟨fun hk ↦ (nomatch hret.symm.trans (hkeeps.1 hk).1), hdrv', nofun⟩
  rw [hret, eq_self, true_and] at hkeeps
  rcases hsend : s.announce && s.featureNs with - | -
  · -- nobody is told
    have hquiet : ¬ (s.announce = true ∧ s.featureNs = true) := by simpa using hsend
    refine .inl ⟨hkeeps.2 fun ha hf ↦ absurd ⟨ha, hf⟩ hquiet, ?_⟩
    simpa [hcb, withEpt] using h.bindEpt hcur hcb hid
  · obtain ⟨hannounce, hns⟩ := Bool.and_eq_true_iff.1 hsend
    rcases hto : env.rpmsgSendto (s.nsMsg (.ofNat id) RPMSG_NS_CREATE) with err | ⟨⟩
    · -- the announcement has failed: the endpoint is left behind
      refine .inr ⟨fun hk ↦ (nomatch hto.symm.trans (hkeeps.1 hk hannounce hns)), ?_⟩
      simp [withEpt, hdrv]
    · refine .inl ⟨hkeeps.2 fun _ _ ↦ hto, ?_⟩
      simpa [hcb, withEpt] using h.bindEpt hcur hcb hid

theorem BindInv.deviceReleaseDriver (h : s.BindInv) {drv : RpmsgDriver} (hdrv : s.driver = some drv)
    (rpmsgSendto : RpmsgNsMsg → Except Errno Unit) :
    s.Settles (.remove rpmsgSendto) (s.deviceReleaseDriver rpmsgSendto) := by
  rcases hcb : drv.callback with - | cb
  · have hcur : s.current = none := by
      by_contra hne
      obtain ⟨drv', hdrv', hcb'⟩ := h.current_iff.1 hne
      obtain rfl := Option.some.inj (hdrv.symm.trans hdrv')
      exact hcb' hcb
    refine .inl ⟨fun drv' hdrv' ↦ Option.some.inj (hdrv.symm.trans hdrv') ▸ hcb, ?_⟩
    rw [BindState.deviceReleaseDriver, rpmsgDevRemove_of_null (h.ept_eq.trans hcur)]
    exact h.setDriver hcur nofun
  · have hcur : s.current ≠ none := h.current_iff.2 ⟨drv, hdrv, by rw [hcb]; exact nofun⟩
    refine .inr ⟨fun hk ↦ (nomatch hcb.symm.trans (hk drv hdrv)), rfl, ?_⟩
    show (s.rpmsgDevRemove rpmsgSendto).ept ≠ none
    rw [rpmsgDevRemove_ept, h.ept_eq]
    exact hcur

theorem BindInv.step {ev : BindEvent} (h : s.BindInv) (hstep : s.step ev = some s') :
    s.Settles ev s' := by
  obtain ⟨drv, env, rfl, hnone, rfl⟩ | ⟨rpmsgSendto, drv, rfl, hdrv, rfl⟩ |
    ⟨rpdev, cb, priv, addr, env, rfl, rfl⟩ | ⟨e, ept, rfl, hother, he, rfl⟩ := step_cases hstep
  · exact h.reallyProbe hnone drv env
  · exact h.deviceReleaseDriver hdrv rpmsgSendto
  · exact .inl ⟨trivial, h.createOther rpdev cb priv addr env⟩
  · exact .inl ⟨trivial, h.destroyOther hother he⟩

/-- **The endpoints of a device come out even exactly when no binding that has one ends**: every
probe of a driver with an rx callback that gets its endpoint succeeds, the announcement too, and no
such driver is ever unbound. -/
theorem bindSound_iff (rpdev : RpdevId) (name : List UInt8) (src : UInt32)
    (announce featureNs : Bool) (evs : List BindEvent) (s : BindState)
    (h : run step (registered rpdev name src announce featureNs) evs = some s) :
    Throughout step (fun _ ↦ BindSound) (registered rpdev name src announce featureNs) evs ↔
      Meets step KeepsBound (registered rpdev name src announce featureNs) evs := by
  refine throughout_iff_meets_of_inv (I := fun _ ↦ BindInv) (bindInv_registered ..)
    BindInv.sound (fun hinv hstep hk ↦ ?_) (fun hinv hstep hsound ↦ ?_) h
  · rcases hinv.step hstep with ⟨-, hinv'⟩ | ⟨hnot, -⟩
    · exact hinv'
    · exact absurd hk hnot
  · rcases hinv.step hstep with ⟨hk, -⟩ | ⟨-, hdrv, hept⟩
    · exact hk
    · exact absurd (hsound.unbound hdrv).1 hept

/-- A driver without callback comes and goes, and one with a callback is bound then. -/
theorem bindSound_bound :
    ∃ s, run step (registered 0 [97] RPMSG_ADDR_ANY true true)
        [.probe ⟨none⟩ ⟨.ok (), ⟨true, false⟩, .ok (), fun _ ↦ .ok ()⟩, .remove fun _ ↦ .ok (),
          .probe ⟨some (.driver 0)⟩ ⟨.ok (), ⟨true, false⟩, .ok (), fun _ ↦ .ok ()⟩] = some s ∧
      s.ept = some 0 ∧ s.src = 1024 ∧
      Throughout step (fun _ ↦ BindSound) (registered 0 [97] RPMSG_ADDR_ANY true true)
        [.probe ⟨none⟩ ⟨.ok (), ⟨true, false⟩, .ok (), fun _ ↦ .ok ()⟩, .remove fun _ ↦ .ok (),
          .probe ⟨some (.driver 0)⟩ ⟨.ok (), ⟨true, false⟩, .ok (), fun _ ↦ .ok ()⟩] := by
  obtain ⟨s, hs, hread⟩ := Option.map_eq_some_iff.1 (show Option.map
    (fun s : BindState ↦ (s.ept, s.src)) (run step (registered 0 [97] RPMSG_ADDR_ANY true true)
      [.probe ⟨none⟩ ⟨.ok (), ⟨true, false⟩, .ok (), fun _ ↦ .ok ()⟩, .remove fun _ ↦ .ok (),
        .probe ⟨some (.driver 0)⟩ ⟨.ok (), ⟨true, false⟩, .ok (), fun _ ↦ .ok ()⟩]) =
      some (some 0, 1024) by decide +kernel)
  obtain ⟨hept, hsrc⟩ := Prod.mk.inj hread
  refine ⟨s, hs, hept, hsrc, (bindSound_iff 0 [97] RPMSG_ADDR_ANY true true _ s hs).2 ?_⟩
  refine ⟨fun hne ↦ absurd rfl hne, fun s₁ hs₁ ↦ ⟨fun drv hdrv ↦ ?_, fun _ _ ↦
    ⟨fun _ _ _ _ _ ↦ ⟨rfl, fun _ _ ↦ rfl⟩, fun _ _ ↦ trivial⟩⟩⟩
  obtain rfl := Option.some.inj hs₁
  obtain rfl := Option.some.inj hdrv
  rfl

/-- A driver with a callback is bound and unbound, and then one without: the second removal destroys
the endpoint of the first binding again. -/
theorem bindSound_destroyed_twice :
    ∃ s, run step (registered 0 [97] RPMSG_ADDR_ANY false true)
        [.probe ⟨some (.driver 0)⟩ ⟨.ok (), ⟨true, false⟩, .ok (), fun _ ↦ .ok ()⟩,
          .remove fun _ ↦ .ok (),
          .probe ⟨none⟩ ⟨.ok (), ⟨true, false⟩, .ok (), fun _ ↦ .ok ()⟩,
          .remove fun _ ↦ .ok ()] = some s ∧
      s.created = [0] ∧ s.store.destroys 0 = 2 ∧ s.oops = some .destroyEpt ∧ ¬ BindSound s := by
  obtain ⟨s, hs, hread⟩ := Option.map_eq_some_iff.1 (show Option.map
    (fun s : BindState ↦ (s.created, s.store.destroys 0, s.oops))
    (run step (registered 0 [97] RPMSG_ADDR_ANY false true)
      [.probe ⟨some (.driver 0)⟩ ⟨.ok (), ⟨true, false⟩, .ok (), fun _ ↦ .ok ()⟩,
        .remove fun _ ↦ .ok (),
        .probe ⟨none⟩ ⟨.ok (), ⟨true, false⟩, .ok (), fun _ ↦ .ok ()⟩,
        .remove fun _ ↦ .ok ()]) = some ([0], 2, some .destroyEpt) by decide +kernel)
  obtain ⟨hcreated, hread⟩ := Prod.mk.inj hread
  obtain ⟨htwice, hoops⟩ := Prod.mk.inj hread
  refine ⟨s, hs, hcreated, htwice, hoops, fun hsound ↦ ?_⟩
  have hle := hsound.neverAgain 0
  omega

end BindState
