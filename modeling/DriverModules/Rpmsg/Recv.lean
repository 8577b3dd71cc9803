import DriverModules.Rpmsg.Endpoint

/-!
# Digesting one inbound message

`rpmsg_recv_single`: check the reported lengths, look the destination up in the endpoint table, hand
the payload to the endpoint's callback, give the buffer back to the remote. The header is whatever
an untrusted remote wrote, and `len` is whatever used length it reported.

The check is written in C's mixed widths. `sizeof(struct rpmsg_hdr)` is a `size_t`, so the
subtraction `len - sizeof(struct rpmsg_hdr)` is done in 64 bits and wraps around when fewer bytes
than a header were received. Then every payload length passes (`recvTooBig_of_short`).

## Main results, and what each rests on

* `deliver_eq_some`: a callback runs only for an endpoint that is in the table under the destination
  of the message and has one, with the length the header says.
* `rpmsgRecvSingle_safe_iff`: a callback gets a payload that lies inside what was received, and any
  other message is rejected, exactly when at least a header was received or the length is too large
  for a buffer anyway. It rests on the check alone, and holds whatever the endpoint table is.
* `rpmsgRecvSingle_of_tooBig`: a rejected message returns before the buffer is added to the ring
  again, so that its buffer is gone. What this costs is counted in `RecvRing`.
* `recvTooBig_eq_false_iff` and `recvTooBig_of_short`: the check is right for used lengths of at
  least a header, and worth nothing below.
-/

/-! ### The length check -/

/-- `len > vrp->buf_size || msg->len > (len - sizeof(struct rpmsg_hdr))`. -/
def recvTooBig (L : BufLayout) (msg : RpmsgHdr) (len : UInt32) : Bool :=
  decide (L.bufSize < len.toNat) ||
    decide (len.toUInt64 - UInt64.ofNat RpmsgHdr.size < msg.len.toUInt64)

/-- The payload the header announces lies inside the received bytes. -/
def PayloadInside (L : BufLayout) (msg : RpmsgHdr) (len : UInt32) : Prop :=
  RpmsgHdr.size + msg.len.toNat ≤ len.toNat ∧ len.toNat ≤ L.bufSize

instance (L : BufLayout) (msg : RpmsgHdr) (len : UInt32) : Decidable (PayloadInside L msg len) :=
  inferInstanceAs (Decidable (_ ∧ _))

variable {L : BufLayout} {msg : RpmsgHdr} {len : UInt32}

/-- With at least a header's worth of bytes the check decides exactly what it is there for. -/
theorem recvTooBig_eq_false_iff (hlen : RpmsgHdr.size ≤ len.toNat) :
    recvTooBig L msg len = false ↔ PayloadInside L msg len := by
  have hlt := len.toNat_lt
  have hm := msg.len.toNat_lt
  simp only [RpmsgHdr.size] at hlen
  simp only [recvTooBig, PayloadInside, RpmsgHdr.size, Bool.or_eq_false_iff,
    decide_eq_false_iff_not, UInt64.lt_iff_toNat_lt, UInt64.toNat_sub, UInt64.toNat_ofNat',
    UInt32.toNat_toUInt64, UInt16.toNat_toUInt64]
  omega

/-- **A used length below the header size wraps**: the second half of the check accepts every
payload length. -/
theorem recvTooBig_of_short (hlen : len.toNat < RpmsgHdr.size) :
    recvTooBig L msg len = decide (L.bufSize < len.toNat) := by
  have hm := msg.len.toNat_lt
  simp only [RpmsgHdr.size] at hlen
  have hwrap : ¬ len.toUInt64 - UInt64.ofNat RpmsgHdr.size < msg.len.toUInt64 := by
    simp only [RpmsgHdr.size, UInt64.lt_iff_toNat_lt, UInt64.toNat_sub, UInt64.toNat_ofNat',
      UInt32.toNat_toUInt64, UInt16.toNat_toUInt64]
    omega
  simp [recvTooBig, hwrap]

/-! ### The function -/

/-- One call of an endpoint's callback: `ept->cb(ept->rpdev, msg->data, msg->len, ept->priv,
msg->src)`. The payload starts right behind the header. -/
structure RxCall where
  ept : EptId
  cb : RxCb
  rpdev : Option RpdevId
  len : UInt16
  priv : Priv
  src : UInt32
  deriving DecidableEq, Repr

/-- What one run of `rpmsg_recv_single` did. -/
structure RecvResult where
  ret : Except Errno Unit
  call : Option RxCall
  /-- The buffer was added back to the virtqueue. -/
  readded : Bool

/-- The delivery to the endpoint bound to `dst`, if there is one and it still has its callback. -/
def deliver (endpoints : Idr EptId) (epts : EptId → Option RpmsgEndpoint) (msg : RpmsgHdr) :
    Option RxCall := do
  let e ← endpoints msg.dst.toNat
  let ept ← epts e
  let cb ← ept.cb
  return { ept := e, cb, rpdev := ept.rpdev, len := msg.len, priv := ept.priv, src := msg.src }

/-- `rpmsg_recv_single`, with `added` the result of `virtqueue_add_inbuf`. -/
def rpmsgRecvSingle (L : BufLayout) (endpoints : Idr EptId) (epts : EptId → Option RpmsgEndpoint)
    (msg : RpmsgHdr) (len : UInt32) (added : Except Errno Unit) : RecvResult :=
  if recvTooBig L msg len then
    { ret := .error .EINVAL, call := none, readded := false }
  else
    { ret := added, call := deliver endpoints epts msg, readded := added.isOk }

variable {endpoints : Idr EptId} {epts : EptId → Option RpmsgEndpoint} {added : Except Errno Unit}

theorem deliver_eq_some {call : RxCall} (h : deliver endpoints epts msg = some call) :
    ∃ e ept, endpoints msg.dst.toNat = some e ∧ epts e = some ept ∧ ept.cb = some call.cb ∧
      ept.priv = call.priv ∧ call.len = msg.len := by
  obtain ⟨e, he, h⟩ := Option.bind_eq_some_iff.1 h
  obtain ⟨ept, hept, h⟩ := Option.bind_eq_some_iff.1 h
  obtain ⟨cb, hcb, h⟩ := Option.bind_eq_some_iff.1 h
  obtain rfl := Option.some.inj h
  exact ⟨e, ept, he, hept, hcb, rfl, rfl⟩

theorem rpmsgRecvSingle_of_tooBig (h : recvTooBig L msg len = true) :
    rpmsgRecvSingle L endpoints epts msg len added =
      { ret := .error .EINVAL, call := none, readded := false } := by
  simp [rpmsgRecvSingle, h]

theorem rpmsgRecvSingle_of_not_tooBig (h : recvTooBig L msg len = false) :
    rpmsgRecvSingle L endpoints epts msg len added =
      { ret := added, call := deliver endpoints epts msg, readded := added.isOk } := by
  simp [rpmsgRecvSingle, h]

/-! ### The payload of a callback -/

/-- What the check is there for: the payload a callback is given lies inside the received bytes, and
every message whose payload does not is rejected. -/
structure RecvSafe (L : BufLayout) (msg : RpmsgHdr) (len : UInt32) (r : RecvResult) : Prop where
  inside : ∀ call, r.call = some call →
    RpmsgHdr.size + call.len.toNat ≤ len.toNat ∧ len.toNat ≤ L.bufSize
  rejected : ¬ PayloadInside L msg len → r.ret = .error .EINVAL ∧ r.call = none

/-- **The check is right exactly when a header's worth of bytes was received** (or the length is too
large for a buffer anyway): whatever the endpoint table and the virtqueue do. -/
theorem rpmsgRecvSingle_safe_iff (L : BufLayout) (endpoints : Idr EptId)
    (epts : EptId → Option RpmsgEndpoint) (msg : RpmsgHdr) (len : UInt32) :
    (∀ added, RecvSafe L msg len (rpmsgRecvSingle L endpoints epts msg len added)) ↔
      (RpmsgHdr.size ≤ len.toNat ∨ L.bufSize < len.toNat) := by
  constructor
  · intro h
    by_contra hcond
    have hshort : len.toNat < RpmsgHdr.size := by omega
    have hnot : ¬ PayloadInside L msg len := fun hin ↦ by
      have := hin.1
      omega
    have hpass : recvTooBig L msg len = false := by
      rw [recvTooBig_of_short hshort]
      exact decide_eq_false (by omega)
    -- a successful re-add is then what the caller sees
    have hret := ((h (.ok ())).rejected hnot).1
    rw [rpmsgRecvSingle_of_not_tooBig hpass] at hret
    exact absurd hret (by simp)
  · rintro hcond added
    rcases hbig : recvTooBig L msg len with - | -
    · have hin : PayloadInside L msg len := by
        rcases hcond with hlen | hlarge
        · exact (recvTooBig_eq_false_iff hlen).1 hbig
        · simp [recvTooBig, hlarge] at hbig
      refine ⟨fun call hcall ↦ ?_, fun hnot ↦ absurd hin hnot⟩
      rw [rpmsgRecvSingle_of_not_tooBig hbig] at hcall
      obtain ⟨-, -, -, -, -, -, hlen⟩ := deliver_eq_some hcall
      rwa [hlen]
    · rw [rpmsgRecvSingle_of_tooBig hbig]
      exact ⟨by simp, by simp⟩

/-- A remote that reports no received bytes and announces 496 of payload: the endpoint at address
1024 is handed 496 bytes of which none was received. -/
theorem rpmsgRecvSingle_short_unsafe :
    ¬ ∀ (L : BufLayout) (endpoints : Idr EptId) (epts : EptId → Option RpmsgEndpoint)
        (msg : RpmsgHdr) (len : UInt32) (added : Except Errno Unit),
      RecvSafe L msg len (rpmsgRecvSingle L endpoints epts msg len added) := by
  intro h
  let ept : RpmsgEndpoint :=
    { rpdev := some 0, refcount := 1, cb := some .rpmsgEptCb, addr := 1024, priv := .eptdev 0 }
  have hinside := (h (.ofProbe 256 4096) (fun id ↦ if id = 1024 then some 0 else none)
    (fun _ ↦ some ept) { src := 7, dst := 1024, reserved := 0, len := 496, flags := 0 } 0
    (.ok ())).inside ⟨0, .rpmsgEptCb, some 0, 496, .eptdev 0, 7⟩ (by decide)
  exact absurd hinside (by decide)
