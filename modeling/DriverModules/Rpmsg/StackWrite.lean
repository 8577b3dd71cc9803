import DriverModules.Rpmsg.Send
import DriverModules.Rpmsg.StackFiles

/-!
# Writing to an endpoint device

`rpmsg_eptdev_write_iter`, through `rpmsg_send` and `rpmsg_trysend`, to the message that
`rpmsg_send_offchannel_raw` puts on the virtqueue. A write changes nothing in the stack. The source
of its message is the address the endpoint is bound to, so what was requested. The destination is
that of the rpmsg device: what was requested stays in `eptdev->chinfo` and is never looked at.

## Main results, and what each rests on

* `rpmsgEptdevWriteIter_eq_ok` and `virtioRpmsgSendWait_eq_ok`: what an accepted write has sent,
  read off the two functions. They need nothing of the state.
* `write_asRequested_iff`: in every reachable state an accepted write goes where the request said
  exactly when the request named the destination of the rpmsg device. The source is right by `Wf`:
  the endpoint of an open file is bound to the address that was asked for (`Current`), under which
  its remote processor finds it (`Tables.bound`). The destination is what is left.
* `write_asRequested_other_dst`: a request for 99 on a channel to 61 sends to 61.
-/

open Transition

/-- What the rest of the system answers to one write. -/
structure WriteEnv where
  kzalloc : Bool
  /-- `copy_from_iter_full` copies everything. -/
  copied : Bool
  /-- `mutex_lock_interruptible` is not interrupted. -/
  locked : Bool
  send : SendEnv

/-- What a call that sends a message returns, and the message it put on the virtqueue of a remote
processor, if it did. -/
structure SendResult (α : Type) where
  ret : Except Errno α
  queued : Option (VrpId × RpmsgMsg)
  deriving DecidableEq

namespace Stack

/-- What `virtio_rpmsg_send` and `virtio_rpmsg_trysend` have in common; none while the caller waits
for a buffer. -/
def virtioRpmsgSendWait (wait : Bool) (s : Stack) (e : EptId) (data : List UInt8) (len : Int32)
    (env : SendEnv) : Except Fault (Option (SendResult Unit)) :=
  match s.epts e with
  | none => .error .send
  | some ept =>
    match ept.rpdev.bind s.rpdevs, ept.rpdev.bind s.vrpOf with
    | some rpdev, some (v, vp) =>
      let c := { src := ept.addr, dst := rpdev.dst, data, len, wait }
      .ok ((rpmsgSendOffchannelRaw vp.layout c env).map fun (ret, queued) ↦
        { ret, queued := queued.map fun msg ↦ (v, msg) })
    | _, _ => .error .send

/-- `rpmsg_send`, by way of `virtio_rpmsg_send`. -/
def rpmsgSend := virtioRpmsgSendWait true

/-- `rpmsg_trysend`, by way of `virtio_rpmsg_trysend`. -/
def rpmsgTrysend := virtioRpmsgSendWait false

/-- `rpmsg_eptdev_write_iter`. -/
def rpmsgEptdevWriteIter (s : Stack) (file : EptFile) (data : List UInt8) (env : WriteEnv) :
    Except Fault (Option (SendResult ℕ)) :=
  match s.eptdevs file.eptdev with
  | none => .error .eptdev
  | some d =>
    if d.refs = 0 then .error .eptdev
    else if env.kzalloc = false then .ok (some { ret := .error .ENOMEM, queued := none })
    else if env.copied = false then .ok (some { ret := .error .EFAULT, queued := none })
    else if env.locked = false then .ok (some { ret := .error .ERESTARTSYS, queued := none })
    else
      match d.ept with
      | none => .ok (some { ret := .error .EPIPE, queued := none })
      | some e => do
        let send := if file.nonblock then rpmsgTrysend else rpmsgSend
        let res ← send s e data (.ofNat data.length) env.send
        return res.map fun res ↦
          { ret := res.ret.map fun _ ↦ data.length, queued := res.queued }

variable {s : Stack} {file : EptFile} {d : RpmsgEptdev} {data : List UInt8}
  {env : WriteEnv} {n : ℕ} {e : EptId}

/-! ### The message of a write -/

/-- A send that succeeds, by either of the two functions, has queued a message from the address of
the endpoint to the destination of its rpmsg device. -/
theorem virtioRpmsgSendWait_eq_ok {wait : Bool} {len : Int32} {env : SendEnv}
    {res : SendResult Unit} (h : s.virtioRpmsgSendWait wait e data len env = .ok (some res))
    (hret : res.ret = .ok ()) :
    ∃ ept r rpdev v vp msg, s.epts e = some ept ∧ ept.rpdev = some r ∧ s.rpdevs r = some rpdev ∧
      s.vrpOf r = some (v, vp) ∧ res.queued = some (v, msg) ∧ msg.hdr.src = ept.addr ∧
      msg.hdr.dst = rpdev.dst := by
  unfold virtioRpmsgSendWait at h
  rcases he : s.epts e with - | ept
  · simp [he] at h
  · simp only [he] at h
    split at h
    case h_2 => cases h
    case h_1 rpdev v vp hrpdev hv =>
      obtain ⟨r, hr, hrpdev⟩ := Option.bind_eq_some_iff.1 hrpdev
      rw [hr] at hv
      obtain ⟨⟨ret, queued⟩, hraw, hres⟩ := Option.map_eq_some_iff.1 (Except.ok.inj h)
      subst hres
      obtain rfl : ret = .ok () := hret
      obtain ⟨rfl, -⟩ := rpmsgSendOffchannelRaw_eq_ok hraw
      exact ⟨ept, r, rpdev, v, vp, _, rfl, hr, hrpdev, hv, rfl, rfl, rfl⟩

/-- A write that succeeds has sent by one of the two functions. -/
theorem rpmsgEptdevWriteIter_eq_ok {res : SendResult ℕ} (hx : s.eptdevs file.eptdev = some d)
    (h : s.rpmsgEptdevWriteIter file data env = .ok (some res)) (hret : res.ret = .ok n) :
    ∃ e sent, d.ept = some e ∧
      s.virtioRpmsgSendWait (!file.nonblock) e data (.ofNat data.length) env.send =
        .ok (some sent) ∧ sent.ret = .ok () ∧ res.queued = sent.queued := by
  unfold rpmsgEptdevWriteIter at h
  simp only [hx] at h
  have hfail : ∀ {errno : Errno}, (.ok (some { ret := .error errno, queued := none }) :
      Except Fault (Option (SendResult ℕ))) ≠ .ok (some res) := by
    intro errno herr
    obtain rfl := Option.some.inj (Except.ok.inj herr)
    cases hret
  split at h
  · cases h
  · split at h
    · exact absurd h hfail
    · split at h
      · exact absurd h hfail
      · split at h
        · exact absurd h hfail
        · rcases hd : d.ept with - | e
          · rw [hd] at h
            exact absurd h hfail
          · rw [hd] at h
            obtain ⟨sent, hsend, hpure⟩ := Folds.bind_eq_ok.1 h
            obtain ⟨sent', rfl, hres⟩ := Option.map_eq_some_iff.1 (Except.ok.inj hpure)
            subst hres
            refine ⟨e, sent', rfl, ?_, ?_, rfl⟩
            · rcases hn : file.nonblock with - | - <;> rw [hn] at hsend <;> exact hsend
            · rcases hsent : sent'.ret with errno | ⟨⟩
              · rw [hsent] at hret
                cases hret
              · rfl

/-! ### What was requested -/

/-- **The message goes where the request said**: from the address the endpoint is bound to, which is
the requested one unless any would do, and to the requested destination. -/
def AsRequested (s : Stack) (d : RpmsgEptdev) (res : SendResult ℕ) : Prop :=
  ∃ v vp msg e, res.queued = some (v, msg) ∧ d.ept = some e ∧ s.vrps v = some vp ∧
    vp.endpoints msg.hdr.src.toNat = some e ∧
    (d.eptinfo.src ≠ RPMSG_ADDR_ANY → msg.hdr.src = d.eptinfo.src) ∧
    msg.hdr.dst = d.eptinfo.dst

/-- **An accepted write goes where the request said exactly when the request named the destination
of the rpmsg device.** -/
theorem write_asRequested_iff {res : SendResult ℕ} {rpdev : RpmsgDevice}
    (hs : Reachable step init s) (hx : s.eptdevs file.eptdev = some d)
    (hrpdev : s.rpdevs d.rpdev = some rpdev)
    (hwrite : s.rpmsgEptdevWriteIter file data env = .ok (some res)) (hret : res.ret = .ok n) :
    s.AsRequested d res ↔ rpdev.dst = d.eptinfo.dst := by
  have hwf := wf_of_reaches hs
  obtain ⟨e, sent, hd, hsend, hsent, hqueued⟩ := rpmsgEptdevWriteIter_eq_ok hx hwrite hret
  obtain ⟨ept, r, rpdev', v, vp, msg, he, hr, hrpdev', hv, hmsg, hsrc, hdst⟩ :=
    virtioRpmsgSendWait_eq_ok hsend hsent
  obtain ⟨ept', he', hr', -, haddr⟩ := hwf.current.ept hx hd
  obtain rfl : ept = ept' := Option.some.inj (he.symm.trans he')
  obtain rfl : r = d.rpdev := Option.some.inj (hr.symm.trans hr')
  obtain rfl : rpdev = rpdev' := Option.some.inj (hrpdev.symm.trans hrpdev')
  obtain ⟨rpdev'', hrpdev'', hc, hvp⟩ := vrpOf_eq_some.1 hv
  obtain rfl : rpdev = rpdev'' := Option.some.inj (hrpdev.symm.trans hrpdev'')
  rw [hmsg] at hqueued
  constructor
  · rintro ⟨w, wp, msg', e', hqueued', -, -, -, -, hdst'⟩
    obtain ⟨rfl, rfl⟩ := Prod.mk.inj (Option.some.inj (hqueued.symm.trans hqueued'))
    exact hdst.symm.trans hdst'
  · intro hsame
    refine ⟨v, vp, msg, e, hqueued, hd, hvp, ?_, fun hne ↦ ?_, hdst.trans hsame⟩
    · rw [hsrc]
      exact hwf.tables.bound he hr hrpdev hc hvp
    · rw [← hwf.current.src hx] at hne ⊢
      exact hsrc.trans (haddr hne)

/-- Nothing fails, and a buffer is there at once. -/
def writeEnv : WriteEnv where
  kzalloc := true
  copied := true
  locked := true
  send := { firstBuf := true, waits := [], add := .ok () }

/-- The endpoint device 4 of `bringUp`, created with `src` and `dst`, while its file is open. -/
def openEptdev (src dst : UInt32) : RpmsgEptdev :=
  { rpmsgEptdev 3 2 { name := [], src, dst } with ept := some 5, refs := 2 }

/-- What is written to it: three bytes for address 61, whatever `dst` is. -/
def written (src : UInt32) : SendResult ℕ where
  ret := .ok 3
  queued := some (0,
    { hdr := { src, dst := 61, reserved := 0, len := 3, flags := 0 }, data := [1, 2, 3] })

theorem reachable_openEptdev (dst : UInt32) (hdst : dst = 61 ∨ dst = 99) :
    ∃ s rpdev, Reachable step init s ∧ s.files 0 = some { eptdev := 4, nonblock := true } ∧
      s.eptdevs 4 = some (openEptdev 1000 dst) ∧ s.rpdevs 2 = some rpdev ∧ rpdev.dst = 61 ∧
      s.rpmsgEptdevWriteIter { eptdev := 4, nonblock := true } [1, 2, 3] writeEnv =
        .ok (some (written 1000)) := by
  let view (s : Stack) : Bool := decide (
    s.files 0 = some { eptdev := 4, nonblock := true } ∧
    s.eptdevs 4 = some (openEptdev 1000 dst) ∧
    (s.rpdevs 2).map (·.dst) = some 61 ∧
    s.rpmsgEptdevWriteIter { eptdev := 4, nonblock := true } [1, 2, 3] writeEnv =
      .ok (some (written 1000)))
  have hrun : Option.map view (run step init (bringUp { name := [], src := 1000, dst } ++
      [.eptOpen 4 0 true { kzalloc := true, nomem := false }])) = some true := by
    rcases hdst with rfl | rfl <;> decide +kernel
  obtain ⟨s, hrun, hview⟩ := Option.map_eq_some_iff.1 hrun
  obtain ⟨hf, hx, hrpdev, hwrite⟩ := of_decide_eq_true hview
  obtain ⟨rpdev, hrpdev, hdst⟩ := Option.map_eq_some_iff.1 hrpdev
  exact ⟨s, rpdev, reachable_of_run hrun, hf, hx, hrpdev, hdst, hwrite⟩

/-- A write to an endpoint device that asked for the destination of its channel. -/
theorem write_asRequested_same_dst :
    ∃ s, Reachable step init s ∧ s.files 0 = some { eptdev := 4, nonblock := true } ∧
      s.AsRequested (openEptdev 1000 61) (written 1000) := by
  obtain ⟨s, rpdev, hs, hf, hx, hrpdev, hdst, hwrite⟩ := reachable_openEptdev 61 (.inl rfl)
  exact ⟨s, hs, hf, (write_asRequested_iff hs hx hrpdev hwrite rfl).2 hdst⟩

/-- An endpoint device for address 99 on the channel of the service at 61: the write is accepted and
its message goes to 61. -/
theorem write_asRequested_other_dst :
    ¬ ∀ (s : Stack) (f : FileId) (file : EptFile) (d : RpmsgEptdev) (data : List UInt8)
        (env : WriteEnv) (res : SendResult ℕ) (n : ℕ), Reachable step init s →
      s.files f = some file → s.eptdevs file.eptdev = some d →
      s.rpmsgEptdevWriteIter file data env = .ok (some res) → res.ret = .ok n →
        s.AsRequested d res := by
  intro h
  obtain ⟨s, rpdev, hs, hf, hx, hrpdev, hdst, hwrite⟩ := reachable_openEptdev 99 (.inr rfl)
  obtain ⟨v, vp, msg, e, hqueued, -, -, -, -, hmsg⟩ := h s 0 _ _ _ _ _ 3 hs hf hx hwrite rfl
  obtain ⟨-, rfl⟩ := Prod.mk.inj (Option.some.inj hqueued)
  exact absurd hmsg (by decide)

end Stack
