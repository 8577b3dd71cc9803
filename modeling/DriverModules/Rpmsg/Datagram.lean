import DriverModules.Lib.Bytes
import DriverModules.Rpmsg.ReadState
import DriverModules.Rpmsg.Recv
import DriverModules.Rpmsg.Send

/-!
# A datagram from end to end

A message goes from the arguments of a send into the bytes of a TX buffer, from the bytes of an RX
buffer to a callback, from the callback into the queue of an endpoint device, and from there into
the buffer of a reader. On the way its length is an `int`, a `u16` in the header, the used length of
the virtqueue less a `size_t`, an `int` again and at last the length of a socket buffer.

The header has its fields one behind the other, in the byte order of the machine, which both sides
share.

## Main results, and what each rests on

* `RpmsgMsg.read_bytes`: the header and the payload are found again in a buffer that begins with the
  message, whatever stands behind it. It rests on the byte order being the same on both sides.
* `sendTooBig_iff`: the check of the sender, in C's widths: it refuses a negative length, which the
  conversion makes a large one.
* `datagram_intact`: a send that succeeds arrives, for every payload and every `int`. The payload a
  send accepts fits a `u16` (`fits_of_sendCheck`), and that is why the length survives the header.
-/

open Transition Bytes

/-! ### The header as bytes -/

namespace RpmsgHdr

/-- `struct rpmsg_hdr` in memory. -/
def bytes (msg : RpmsgHdr) : List UInt8 :=
  leBytes 4 msg.src.toNat ++ (leBytes 4 msg.dst.toNat ++ (leBytes 4 msg.reserved.toNat ++
    (leBytes 2 msg.len.toNat ++ leBytes 2 msg.flags.toNat)))

/-- The `struct rpmsg_hdr` a buffer begins with. -/
def ofBytes (buf : List UInt8) : RpmsgHdr where
  src := .ofNat (leNat ((buf.drop 0).take 4))
  dst := .ofNat (leNat ((buf.drop 4).take 4))
  reserved := .ofNat (leNat ((buf.drop 8).take 4))
  len := .ofNat (leNat ((buf.drop 12).take 2))
  flags := .ofNat (leNat ((buf.drop 14).take 2))

@[simp] theorem length_bytes (msg : RpmsgHdr) : msg.bytes.length = size := by
  simp [bytes, size]

/-- **A header is read as it was written**, whatever follows it. -/
theorem ofBytes_bytes (msg : RpmsgHdr) (rest : List UInt8) : ofBytes (msg.bytes ++ rest) = msg := by
  rcases msg with ⟨src, dst, reserved, len, flags⟩
  let s := leBytes 4 src.toNat
  let d := leBytes 4 dst.toNat
  let r := leBytes 4 reserved.toNat
  let l := leBytes 2 len.toNat
  let f := leBytes 2 flags.toNat
  let buf := s ++ (d ++ (r ++ (l ++ f))) ++ rest
  have hsrc : leNat ((buf.drop 0).take 4) = src.toNat :=
    leNat_field [] (d ++ (r ++ (l ++ f)) ++ rest) (by simp [buf, s]) src.toNat_lt
  have hdst : leNat ((buf.drop 4).take 4) = dst.toNat :=
    leNat_field s (r ++ (l ++ f) ++ rest) (by simp [buf, d]) dst.toNat_lt
  have hreserved : leNat ((buf.drop 8).take 4) = reserved.toNat :=
    leNat_field (s ++ d) (l ++ f ++ rest) (by simp [buf, r]) reserved.toNat_lt
  have hlen : leNat ((buf.drop 12).take 2) = len.toNat :=
    leNat_field (s ++ d ++ r) (f ++ rest) (by simp [buf, l]) len.toNat_lt
  have hflags : leNat ((buf.drop 14).take 2) = flags.toNat :=
    leNat_field (s ++ d ++ r ++ l) rest (by simp [buf, f]) flags.toNat_lt
  show ofBytes buf = _
  simp only [ofBytes, hsrc, hdst, hreserved, hlen, hflags, UInt32.ofNat_toNat, UInt16.ofNat_toNat]

end RpmsgHdr

/-- A message as it is shared with the remote: `sizeof(*msg) + len` bytes. -/
def RpmsgMsg.bytes (msg : RpmsgMsg) : List UInt8 :=
  msg.hdr.bytes ++ msg.data

/-- A buffer that begins with a message. -/
theorem RpmsgMsg.read_bytes {msg : RpmsgMsg} {buf : List UInt8} (h : msg.bytes <+: buf) :
    .ofBytes buf = msg.hdr ∧ (buf.drop RpmsgHdr.size).take msg.data.length = msg.data := by
  obtain ⟨rest, rfl⟩ := h
  rw [bytes, List.append_assoc]
  refine ⟨RpmsgHdr.ofBytes_bytes _ _, ?_⟩
  rw [List.drop_left' msg.hdr.length_bytes, List.take_left' rfl]

/-! ### The receiving side -/

/-- Where a callback of an endpoint device puts what. Its `buf` points behind the header, and
`skb_put_data` copies `len` bytes from there. -/
def RxCall.arrival (call : RxCall) (buf : List UInt8) (allocSkb : Bool) :
    Option (EptdevId × ReadEvent) :=
  match call.cb, call.priv with
  | .rpmsgEptCb, .eptdev x =>
    some (x, .rpmsgEptCb ((buf.drop RpmsgHdr.size).take call.len.toNat) allocSkb)
  | _, _ => none

/-- `rpmsg_recv_single` on the buffer `buf`, and what its callback does to the endpoint devices;
`none` while the callback waits for a `queue_lock`. -/
def rpmsgRecvBuf (L : BufLayout) (endpoints : Idr EptId) (epts : EptId → Option RpmsgEndpoint)
    (devs : EptdevId → ReadState) (buf : List UInt8) (len : UInt32) (added : Except Errno Unit)
    (allocSkb : Bool) : Option (RecvResult × (EptdevId → ReadState)) :=
  let r := rpmsgRecvSingle L endpoints epts (.ofBytes buf) len added
  match r.call.bind (·.arrival buf allocSkb) with
  | none => some (r, devs)
  | some (x, ev) => ((devs x).readStep ev).map fun dev ↦ (r, Function.update devs x dev)

/-- `dst` is bound to the endpoint device `x`, which is open, with an empty queue that nobody works
on. -/
structure BoundTo (endpoints : Idr EptId) (epts : EptId → Option RpmsgEndpoint)
    (devs : EptdevId → ReadState) (dst : UInt32) (e : EptId) (ept : RpmsgEndpoint)
    (x : EptdevId) : Prop where
  entry : endpoints dst.toNat = some e
  live : epts e = some ept
  cb : ept.cb = some .rpmsgEptCb
  priv : ept.priv = .eptdev x
  opened : (devs x).ept.isSome = true
  empty : (devs x).queue = []
  unlocked : (devs x).queueLock = none

/-- The callback a message for `dst` runs. -/
theorem BoundTo.deliver_eq {endpoints : Idr EptId} {epts : EptId → Option RpmsgEndpoint}
    {devs : EptdevId → ReadState} {e : EptId} {ept : RpmsgEndpoint} {x : EptdevId}
    {msg : RpmsgHdr} (h : BoundTo endpoints epts devs msg.dst e ept x) :
    deliver endpoints epts msg = some
      { ept := e, cb := .rpmsgEptCb, rpdev := ept.rpdev, len := msg.len, priv := .eptdev x
        src := msg.src } := by
  simp [deliver, h.entry, h.live, h.cb, h.priv]

/-- The device once a message has been queued. -/
def ReadState.accept (s : ReadState) (buf : List UInt8) : ReadState :=
  { s with
    nextSkb := s.nextSkb + 1
    queue := s.queue ++ [⟨s.nextSkb, buf⟩]
    accepted := s.accepted ++ [⟨s.nextSkb, buf⟩] }

/-- **The receiving half**: a message that passes the length check runs the one callback, which
queues its payload. -/
theorem BoundTo.rpmsgRecvBuf_eq {L : BufLayout} {endpoints : Idr EptId}
    {epts : EptId → Option RpmsgEndpoint} {devs : EptdevId → ReadState} {e : EptId}
    {ept : RpmsgEndpoint} {x : EptdevId} {msg : RpmsgMsg} {buf : List UInt8} {len : UInt32}
    (h : BoundTo endpoints epts devs msg.hdr.dst e ept x) (hbuf : msg.bytes <+: buf)
    (hlen : msg.hdr.len.toNat = msg.data.length) (hpass : recvTooBig L msg.hdr len = false)
    (added : Except Errno Unit) (allocSkb : Bool) :
    ∃ r devs', rpmsgRecvBuf L endpoints epts devs buf len added allocSkb = some (r, devs') ∧
      r.call = deliver endpoints epts msg.hdr ∧
      (allocSkb = true → devs' x = (devs x).accept msg.data) := by
  obtain ⟨hhdr, hpayload⟩ := msg.read_bytes hbuf
  let r : RecvResult :=
    { ret := added, call := deliver endpoints epts msg.hdr, readded := added.isOk }
  have hr : rpmsgRecvSingle L endpoints epts (.ofBytes buf) len added = r := by
    rw [hhdr, rpmsgRecvSingle_of_not_tooBig hpass]
  have harrival : r.call.bind (·.arrival buf allocSkb) =
      some (x, .rpmsgEptCb msg.data allocSkb) := by
    rw [show r.call = _ from h.deliver_eq, Option.bind_some, RxCall.arrival, hlen, hpayload]
  rcases allocSkb with - | -
  · refine ⟨r, devs, ?_, rfl, fun hskb ↦ by cases hskb⟩
    simp [rpmsgRecvBuf, hr, harrival, ReadState.readStep]
  · refine ⟨r, Function.update devs x ((devs x).accept msg.data), ?_, rfl, fun _ ↦ ?_⟩
    · simp [rpmsgRecvBuf, hr, harrival, ReadState.readStep, h.unlocked, ReadState.accept]
    · exact Function.update_self ..

/-- A read that nothing interferes with. -/
def readAlone (i : ℕ) (call : ReadCall) : List ReadEvent :=
  [.read i call, .next i, .next i, .next i, .next i]

theorem ReadState.run_readAlone {s : ReadState} {i : ℕ} {call : ReadCall} {skb : Skb}
    {queue : List Skb} (hidle : s.pcs i = .idle) (hept : s.ept.isSome = true)
    (hlock : s.queueLock = none) (hqueue : s.queue = skb :: queue)
    (hwritable : call.count ≤ call.writable) :
    ∃ s', run readStep s (readAlone i call) = some s' ∧
      s'.pcs i = .returned (.ok (min call.count skb.data.length))
        (skb.data.take (min call.count skb.data.length)) := by
  obtain ⟨e, hept⟩ := Option.isSome_iff_exists.1 hept
  have hcopy := copyOut_of_writable skb hwritable
  simp [readAlone, readStep, next, goto, setCall, hcopy, hidle, hept, hlock, hqueue]

/-! ### The lengths -/

/-- **Which lengths a send refuses**: all but those whose payload fits into a buffer. A negative one
becomes a huge `size_t`. -/
theorem sendTooBig_iff (vringSize va : ℕ) (len : Int32) :
    sendTooBig (.ofProbe vringSize va) len = true ↔
      ¬ (0 ≤ len.toInt ∧
        len.toInt ≤ (BufLayout.ofProbe vringSize va).bufSize - (RpmsgHdr.size : ℤ)) := by
  have hlt := len.toInt_lt
  have hle := len.le_toInt
  have hval : len.toInt64.toUInt64.toNat = (len.toBitVec.signExtend 64).toNat := rfl
  have hint : (len.toBitVec.signExtend 64).toInt = len.toInt :=
    BitVec.toInt_signExtend_of_le (by decide)
  rw [BitVec.toInt_eq_toNat_cond] at hint
  simp only [sendTooBig, RpmsgHdr.size, BufLayout.ofProbe_bufSize, decide_eq_true_eq,
    UInt64.lt_iff_toNat_lt, UInt64.toNat_sub, UInt64.toNat_ofNat', hval]
  split at hint <;> omega

/-- The `u16` in the header. -/
theorem toNat_hdr_len {c : SendCall} (hlen : c.len.toInt = c.data.length)
    (hfits : c.data.length < 65536) : (sendMsg c).hdr.len.toNat = c.data.length := by
  have hval : (sendMsg c).hdr.len.toNat = (c.len.toBitVec.signExtend 16).toNat := rfl
  have hint : c.len.toBitVec.toInt = c.data.length := hlen
  rw [hval, BitVec.signExtend_eq_setWidth_of_le _ (by decide), BitVec.toNat_setWidth]
  rw [BitVec.toInt_eq_toNat_cond] at hint
  split at hint <;> omega

/-- A send that passes its checks fits into a buffer. -/
theorem fits_of_sendCheck {vringSize va : ℕ} {c : SendCall}
    (hcheck : sendCheck (.ofProbe vringSize va) c = none) (hsrc : c.src ≠ RPMSG_ADDR_ANY)
    (hdst : c.dst ≠ RPMSG_ADDR_ANY) (hlen : c.len.toInt = c.data.length) :
    c.data.length + RpmsgHdr.size ≤ (BufLayout.ofProbe vringSize va).bufSize := by
  have hok : ¬ sendTooBig (.ofProbe vringSize va) c.len = true := by
    intro hbig
    simp [sendCheck, hsrc, hdst, hbig] at hcheck
  rw [sendTooBig_iff, not_not, hlen] at hok
  omega

/-- The whole payload is written. -/
theorem data_sendMsg {c : SendCall} (hlen : c.len.toInt = c.data.length) :
    (sendMsg c).data = c.data := by
  show c.data.take c.len.toInt.toNat = c.data
  rw [hlen, Int.toNat_natCast, List.take_length]

/-! ### From end to end -/

/-- **A datagram arrives as it was sent.** A send that succeeds has written a message which, put
into a buffer of a peer whose `dst` is an open endpoint device, makes one callback run, with the
source and the length of the send, and the next read of the device delivers as much of the payload
as fits into the reader's buffer. A length that does not fit is refused, and nothing is queued. -/
theorem datagram_intact (vringSize va : ℕ) (c : SendCall) (env : SendEnv)
    (hsrc : c.src ≠ RPMSG_ADDR_ANY) (hdst : c.dst ≠ RPMSG_ADDR_ANY) :
    (∀ queued, rpmsgSendOffchannelRaw (.ofProbe vringSize va) c env = some (.ok (), queued) →
      c.len.toInt = c.data.length →
      ∀ (L : BufLayout) endpoints epts devs e ept x,
        L.bufSize = (BufLayout.ofProbe vringSize va).bufSize →
        BoundTo endpoints epts devs c.dst e ept x →
        ∀ msg buf (len : UInt32) added allocSkb, queued = some msg → msg.bytes <+: buf →
          len.toNat = RpmsgHdr.size + c.data.length →
          ∃ r devs', rpmsgRecvBuf L endpoints epts devs buf len added allocSkb = some (r, devs') ∧
            r.call = some
              { ept := e, cb := .rpmsgEptCb, rpdev := ept.rpdev, len := .ofNat c.data.length
                priv := .eptdev x, src := c.src } ∧
            (allocSkb = true → ∀ i call, (devs x).pcs i = .idle → call.count ≤ call.writable →
              ∃ q, run ReadState.readStep (devs' x) (readAlone i call) = some q ∧
                q.pcs i = .returned (.ok (min c.data.length call.count))
                  (c.data.take (min c.data.length call.count)))) ∧
    (¬ (0 ≤ c.len.toInt ∧
        c.len.toInt ≤ (BufLayout.ofProbe vringSize va).bufSize - (RpmsgHdr.size : ℤ)) →
      rpmsgSendOffchannelRaw (.ofProbe vringSize va) c env = some (.error .EMSGSIZE, none)) := by
  constructor
  · intro queued hsend hlen L endpoints epts devs e ept x hL hbound msg buf len added allocSkb
      hqueued hbuf hused
    obtain ⟨hmsg, hcheck⟩ := rpmsgSendOffchannelRaw_eq_ok hsend
    obtain rfl : msg = sendMsg c := Option.some.inj (hqueued.symm.trans hmsg)
    have hfits := fits_of_sendCheck hcheck hsrc hdst hlen
    have hdata := data_sendMsg hlen
    have hlen' : (sendMsg c).hdr.len.toNat = c.data.length := by
      refine toNat_hdr_len hlen ?_
      rw [BufLayout.ofProbe_bufSize] at hfits
      omega
    have hpass : recvTooBig L (sendMsg c).hdr len = false := by
      refine (recvTooBig_eq_false_iff (by omega)).2 ⟨?_, ?_⟩ <;> omega
    have hcall : deliver endpoints epts (sendMsg c).hdr = some
        { ept := e, cb := .rpmsgEptCb, rpdev := ept.rpdev, len := .ofNat c.data.length
          priv := .eptdev x, src := c.src } := by
      rw [← hlen', UInt16.ofNat_toNat]
      exact hbound.deliver_eq
    have hbound' : BoundTo endpoints epts devs (sendMsg c).hdr.dst e ept x := hbound
    obtain ⟨r, devs', hrecv, hr, hdev⟩ :=
      hbound'.rpmsgRecvBuf_eq hbuf (by rw [hlen', hdata]) hpass added allocSkb
    refine ⟨r, devs', hrecv, hr.trans hcall, fun hskb i call hidle hwritable ↦ ?_⟩
    have hqueue : ((devs x).accept c.data).queue = [⟨(devs x).nextSkb, c.data⟩] := by
      simp [ReadState.accept, hbound.empty]
    rw [hdev hskb, hdata, Nat.min_comm]
    exact ReadState.run_readAlone (s := (devs x).accept c.data) hidle hbound.opened
      hbound.unlocked hqueue hwritable
  · intro hlen
    have hbig := (sendTooBig_iff vringSize va c.len).2 hlen
    simp [rpmsgSendOffchannelRaw, sendCheck, hsrc, hdst, hbig]

/-- Three bytes from 1025 to 1024, of which a reader with room for two gets the first two; and a
send of length -1. -/
theorem datagram_intact_three :
    (∃ r devs q, rpmsgRecvBuf (.ofProbe 256 0x1000) (Function.update Idr.empty 1024 (some 0))
        (fun _ ↦ some ⟨some 0, 1, some .rpmsgEptCb, 1024, .eptdev 0⟩) (fun _ ↦ .opened 0)
        (sendMsg ⟨1025, 1024, [1, 2, 3], 3, true⟩).bytes 19 (.ok ()) true = some (r, devs) ∧
      r.call = some ⟨0, .rpmsgEptCb, some 0, 3, .eptdev 0, 1025⟩ ∧
      run ReadState.readStep (devs 0) (readAlone 7 ⟨false, 2, 2⟩) = some q ∧
      q.pcs 7 = .returned (.ok 2) [1, 2]) ∧
    rpmsgSendOffchannelRaw (.ofProbe 256 0x1000) ⟨1025, 1024, [], -1, true⟩ ⟨true, [], .ok ()⟩ =
      some (.error .EMSGSIZE, none) := by
  constructor
  · have hbound : BoundTo (Function.update Idr.empty 1024 (some 0))
        (fun _ ↦ some ⟨some 0, 1, some .rpmsgEptCb, 1024, .eptdev 0⟩) (fun _ ↦ .opened 0) 1024 0
        ⟨some 0, 1, some .rpmsgEptCb, 1024, .eptdev 0⟩ 0 := by
      constructor <;> rfl
    obtain ⟨r, devs, hrecv, hcall, hread⟩ :=
      (datagram_intact 256 0x1000 ⟨1025, 1024, [1, 2, 3], 3, true⟩ ⟨true, [], .ok ()⟩
        (by decide) (by decide)).1 _ rfl rfl (.ofProbe 256 0x1000) _ _ _ _ _ _ rfl hbound
        _ _ 19 (.ok ()) true rfl List.prefix_rfl rfl
    obtain ⟨q, hq, hpc⟩ := hread rfl 7 ⟨false, 2, 2⟩ rfl (by decide)
    exact ⟨r, devs, q, hrecv, hcall, hq, hpc⟩
  · exact (datagram_intact 256 0x1000 ⟨1025, 1024, [], -1, true⟩ ⟨true, [], .ok ()⟩
      (by decide) (by decide)).2 (by decide)
