import DriverModules.Rpmsg.Types
import Mathlib.Data.List.Basic

/-!
# Sending one message

`rpmsg_send_offchannel_raw`, the function behind every send of the bus, for one caller: the argument
checks, the wait for a TX buffer, the message it writes into the buffer, and the add to the
virtqueue. What the rest of the system answers is a `SendEnv`: whether a buffer was there at once,
how each wait ended, and the result of `virtqueue_add_outbuf`.

The pieces are shared with the model of concurrent senders, which interleaves the same checks and
the same message with the steps of other callers.

Only the parts that decide the result are here. What a call does to the ring and to the other
callers is `TxState`, with one position for each access, and the two agree on the checks and on the
message.
-/

/-- The arguments of `rpmsg_send_offchannel_raw`. -/
structure SendCall where
  src : UInt32
  dst : UInt32
  /-- The bytes behind the `data` pointer. -/
  data : List UInt8
  len : Int32
  /-- Block until a TX buffer is available. -/
  wait : Bool
  deriving DecidableEq, Repr

/-- `len > vrp->buf_size - sizeof(struct rpmsg_hdr)`: the comparison is done in `size_t`, to which
the `int` is converted with its sign. -/
def sendTooBig (L : BufLayout) (len : Int32) : Bool :=
  decide (UInt64.ofNat L.bufSize - UInt64.ofNat RpmsgHdr.size < len.toInt64.toUInt64)

/-- The argument checks: no broadcast, and the payload has to fit into a buffer. -/
def sendCheck (L : BufLayout) (c : SendCall) : Option Errno :=
  if c.src = RPMSG_ADDR_ANY ∨ c.dst = RPMSG_ADDR_ANY then some .EINVAL
  else if sendTooBig L c.len then some .EMSGSIZE
  else none

/-- The message written into the TX buffer. -/
def sendMsg (c : SendCall) : RpmsgMsg where
  hdr := { src := c.src, dst := c.dst, reserved := 0, len := c.len.toInt16.toUInt16, flags := 0 }
  data := c.data.take c.len.toInt.toNat

@[simp] theorem sendMsg_src (c : SendCall) : (sendMsg c).hdr.src = c.src := rfl

@[simp] theorem sendMsg_dst (c : SendCall) : (sendMsg c).hdr.dst = c.dst := rfl

/-! ### One caller -/

/-- How one `wait_event_interruptible_timeout` ended. -/
inductive WaitOutcome
  | buffer
  | timeout
  | interrupted
  deriving DecidableEq, Repr

/-- What the rest of the system answers to one send. -/
structure SendEnv where
  /-- The first `get_a_tx_buf` found a buffer. -/
  firstBuf : Bool
  /-- The outcomes of the waits, in order. -/
  waits : List WaitOutcome
  /-- The result of `virtqueue_add_outbuf`. -/
  add : Except Errno Unit

/-- `while (!msg)`: `none` when the caller is still waiting after the given outcomes. An interrupted
wait returns a negative value, which the test `if (!err)` lets pass: the loop waits again. -/
def waitForBuf : List WaitOutcome → Option (Except Errno Unit)
  | [] => none
  | .buffer :: _ => some (.ok ())
  | .timeout :: _ => some (.error .ERESTARTSYS)
  | .interrupted :: ws => waitForBuf ws

/-- `get_a_tx_buf` and the wait behind it. -/
def grabBuf (c : SendCall) (env : SendEnv) : Option (Except Errno Unit) :=
  if env.firstBuf then some (.ok ())
  else if c.wait then waitForBuf env.waits
  else some (.error .ENOMEM)

/-- `rpmsg_send_offchannel_raw`: the return value and the message put on the virtqueue, if one was;
`none` when the caller is still waiting for a buffer. -/
def rpmsgSendOffchannelRaw (L : BufLayout) (c : SendCall) (env : SendEnv) :
    Option (Except Errno Unit × Option RpmsgMsg) :=
  match sendCheck L c with
  | some e => some (.error e, none)
  | none => (grabBuf c env).map fun
    | .error e => (.error e, none)
    | .ok () =>
      match env.add with
      | .error e => (.error e, none)
      | .ok () => (.ok (), some (sendMsg c))

/-- **A send that succeeds has put exactly its own message on the virtqueue**, and its arguments
passed the checks. -/
theorem rpmsgSendOffchannelRaw_eq_ok {L : BufLayout} {c : SendCall} {env : SendEnv}
    {queued : Option RpmsgMsg} (h : rpmsgSendOffchannelRaw L c env = some (.ok (), queued)) :
    queued = some (sendMsg c) ∧ sendCheck L c = none := by
  unfold rpmsgSendOffchannelRaw at h
  rcases hcheck : sendCheck L c with - | e
  · rw [hcheck] at h
    obtain ⟨r, -, hr⟩ := Option.map_eq_some_iff.1 h
    rcases r with e | ⟨⟩
    · simp at hr
    · rcases hadd : env.add with e | ⟨⟩
      · simp [hadd] at hr
      · simp only [hadd, Prod.mk.injEq, true_and] at hr
        exact ⟨hr.symm, rfl⟩
  · rw [hcheck] at h
    simp at h
