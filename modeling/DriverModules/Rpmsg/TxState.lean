import DriverModules.Lib.Transition
import DriverModules.Lib.Virtqueue
import DriverModules.Lib.Mutex
import DriverModules.Rpmsg.Send

/-!
# Concurrent senders

Any number of callers inside `rpmsg_send_offchannel_raw` on one remote processor, and the remote
that consumes what they post. A caller is a program counter and its arguments; its program is cut at
every point where another context can get in between:

* `get_a_tx_buf` takes `tx_lock`, reads `last_sbuf`, bumps it or recycles a used buffer, and gives
  the lock back. It is called from three places (`GetSite`): before the wait loop, by the first test
  of `wait_event_interruptible_timeout`, and by the tests inside its loop;
* `rpmsg_upref_sleepers` and `rpmsg_downref_sleepers` change the counter and then, if they moved it
  from or to zero, the callbacks of the TX virtqueue;
* the message is written into the buffer outside the lock, and added and kicked under it.

The step function is the source's control flow; what the source leaves open (a pending signal, why a
sleeper woke up, the result of `virtqueue_add_outbuf`, when the remote consumes) is in the event.
-/

open Transition

/-- Where `get_a_tx_buf` was called from. -/
inductive GetSite
  /-- `msg = get_a_tx_buf(vrp)`, before the loop. -/
  | first
  /-- The test of the wait before the caller is queued. -/
  | fast
  /-- A test of the wait's loop, with the pending signal `prepare_to_wait_event` reported and
  whether the time has run out. -/
  | looped (interrupted expired : Bool)
  deriving DecidableEq, Repr

/-- The next thing a sender does. -/
inductive TxPc
  | idle
  | getLock (site : GetSite)
  | getTest (site : GetSite)
  /-- The bump index was read as `n`. -/
  | getBump (site : GetSite) (n : ℕ)
  | getRecycle (site : GetSite)
  | getUnlock (site : GetSite) (ret : Option ℕ)
  | upLock
  | upInc
  | upEnable
  | upUnlock
  | prepare (expired : Bool)
  | asleep
  /-- The wait is over; `timedOut` is `err == 0`. -/
  | downLock (timedOut : Bool) (msg : Option ℕ)
  | downDec (timedOut : Bool) (msg : Option ℕ)
  | downDisable (timedOut : Bool) (msg : Option ℕ)
  | downUnlock (timedOut : Bool) (msg : Option ℕ)
  | fill (msg : ℕ)
  | addLock (msg : ℕ)
  | addOutbuf (msg : ℕ)
  | kick
  | addUnlock (err : Except Errno Unit)
  | returned (ret : Except Errno Unit)
  deriving DecidableEq, Repr

namespace TxPc

/-- The buffer the caller owns: from the moment `get_a_tx_buf` picked it until it is posted. -/
def held : TxPc → Option ℕ
  | getUnlock _ ret => ret
  | downLock _ msg | downDec _ msg | downDisable _ msg | downUnlock _ msg => msg
  | fill msg | addLock msg | addOutbuf msg => some msg
  | _ => none

/-- The caller is between `mutex_lock(&vrp->tx_lock)` and its unlock. -/
def inSection : TxPc → Bool
  | getTest _ | getBump .. | getRecycle _ | getUnlock .. | upInc | upEnable | upUnlock
  | downDec .. | downDisable .. | downUnlock .. | addOutbuf _ | kick | addUnlock _ => true
  | _ => false

/-- The caller may start a send. -/
def canCall : TxPc → Bool
  | idle | returned _ => true
  | _ => false

end TxPc

structure Sender where
  pc : TxPc
  call : SendCall

/-- The TX side of a remote processor and its callers. -/
structure TxState where
  lastSbuf : ℕ
  svq : Virtqueue ℕ Unit
  /-- The "tx-complete" callbacks of `svq` are enabled. -/
  cbEnabled : Bool
  sleepers : ℤ
  txLock : Option ℕ
  senders : ℕ → Sender
  /-- What the TX buffers contain. -/
  mem : ℕ → Option RpmsgMsg

inductive TxEvent
  /-- A caller enters `rpmsg_send_offchannel_raw`. -/
  | call (i : ℕ) (c : SendCall)
  /-- A caller takes a step whose outcome the state determines. -/
  | next (i : ℕ)
  /-- `prepare_to_wait_event` reports whether a signal is pending. -/
  | prepared (i : ℕ) (signal : Bool)
  /-- A sleeper leaves `schedule_timeout`: woken, or because the time ran out. -/
  | awake (i : ℕ) (expired : Bool)
  /-- `virtqueue_add_outbuf` answers. -/
  | added (i : ℕ) (ret : Except Errno Unit)
  /-- The remote consumes a posted buffer. -/
  | consume (b : ℕ)

namespace TxState

/-- Where caller `i` is. -/
def pc (s : TxState) (i : ℕ) : TxPc := (s.senders i).pc

/-- The buffer caller `i` owns. -/
def held (s : TxState) (i : ℕ) : Option ℕ := (s.pc i).held

/-- The state `rpmsg_probe` leaves behind: no buffer handed out, callbacks suppressed. -/
def probed (senders : ℕ → SendCall) : TxState where
  lastSbuf := 0
  svq := .empty
  cbEnabled := false
  sleepers := 0
  txLock := none
  senders i := { pc := .idle, call := senders i }
  mem _ := none

/-- Caller `i` goes on to `p`. -/
def goto (s : TxState) (i : ℕ) (p : TxPc) : TxState :=
  { s with senders := Function.update s.senders i { s.senders i with pc := p } }

/-- Caller `i` enters the function with arguments `c`. -/
def setCall (s : TxState) (i : ℕ) (c : SendCall) : TxState :=
  { s with senders := Function.update s.senders i { s.senders i with call := c } }

/-- `mutex_lock(&vrp->tx_lock)`: possible when the mutex is free. -/
def lock (s : TxState) (i : ℕ) (p : TxPc) : Option TxState :=
  if s.txLock = none then some { s.goto i p with txLock := some i } else none

/-- `mutex_unlock(&vrp->tx_lock)`. -/
def unlock (s : TxState) (i : ℕ) (p : TxPc) : TxState :=
  { s.goto i p with txLock := none }

/-- What the caller of `get_a_tx_buf` does with the result. The tests of the wait are those of
`wait_event_interruptible_timeout`: a buffer ends it, then an expired timeout, then a signal. -/
def afterGet (wait : Bool) : GetSite → Option ℕ → TxPc
  | .first, some b => .fill b
  | .first, none => if wait then .upLock else .returned (.error .ENOMEM)
  | .fast, some b => .downLock false (some b)
  | .fast, none => .prepare false
  | .looped _ _, some b => .downLock false (some b)
  | .looped interrupted expired, none =>
    if expired then .downLock true none
    else if interrupted then .downLock false none
    else .asleep

/-- What follows `rpmsg_downref_sleepers`: `if (!err) return -ERESTARTSYS`, and the loop goes on
while there is no buffer. -/
def afterWait (timedOut : Bool) (msg : Option ℕ) : TxPc :=
  if timedOut then .returned (.error .ERESTARTSYS)
  else match msg with
    | some b => .fill b
    | none => .upLock

/-- The steps of a caller that the state determines. -/
def next (L : BufLayout) (s : TxState) (i : ℕ) : Option TxState :=
  match s.pc i with
  | .getLock site => s.lock i (.getTest site)
  | .getTest site =>
    some (s.goto i
      (if s.lastSbuf < L.numBufs / 2 then .getBump site s.lastSbuf else .getRecycle site))
  | .getBump site n =>
    some { s.goto i (.getUnlock site (some (L.txBuf n))) with lastSbuf := n + 1 }
  | .getRecycle site =>
    match s.svq.getBuf with
    | none => some (s.goto i (.getUnlock site none))
    | some ((b, ()), svq) => some { s.goto i (.getUnlock site (some b)) with svq }
  | .getUnlock site ret => some (s.unlock i (afterGet (s.senders i).call.wait site ret))
  | .upLock => s.lock i .upInc
  | .upInc =>
    some { s.goto i (if s.sleepers + 1 = 1 then .upEnable else .upUnlock) with
           sleepers := s.sleepers + 1 }
  | .upEnable => some { s.goto i .upUnlock with cbEnabled := true }
  | .upUnlock => some (s.unlock i (.getLock .fast))
  | .downLock t msg => s.lock i (.downDec t msg)
  | .downDec t msg =>
    some { s.goto i (if s.sleepers - 1 = 0 then .downDisable t msg else .downUnlock t msg) with
           sleepers := s.sleepers - 1 }
  | .downDisable t msg => some { s.goto i (.downUnlock t msg) with cbEnabled := false }
  | .downUnlock t msg => some (s.unlock i (afterWait t msg))
  | .fill b =>
    some { s.goto i (.addLock b) with
           mem := Function.update s.mem b (some (sendMsg (s.senders i).call)) }
  | .addLock b => s.lock i (.addOutbuf b)
  | .kick => some (s.goto i (.addUnlock (.ok ())))
  | .addUnlock err => some (s.unlock i (.returned err))
  | .idle | .prepare _ | .asleep | .addOutbuf _ | .returned _ => none

/-- One step of the TX side; `vringNum` is the number of descriptors of `svq`. -/
def txStep (L : BufLayout) (vringNum : ℕ) (s : TxState) : TxEvent → Option TxState
  | .call i c =>
    if (s.pc i).canCall then
      match sendCheck L c with
      | some e => some ((s.setCall i c).goto i (.returned (.error e)))
      | none => some ((s.setCall i c).goto i (.getLock .first))
    else none
  | .next i => s.next L i
  | .prepared i signal =>
    match s.pc i with
    | .prepare expired => some (s.goto i (.getLock (.looped signal expired)))
    | _ => none
  | .awake i expired =>
    match s.pc i with
    | .asleep => some (s.goto i (.prepare expired))
    | _ => none
  | .added i ret =>
    match s.pc i, ret with
    | .addOutbuf _, .error e => some (s.goto i (.addUnlock (.error e)))
    | .addOutbuf b, .ok () =>
      -- an add succeeds only while a descriptor is free
      if s.svq.bufs.length < vringNum then some { s.goto i .kick with svq := s.svq.add b }
      else none
    | _, _ => none
  | .consume b => (s.svq.consume b ()).map fun svq ↦ { s with svq }

/-! ### Reading a state after a step -/

variable (s : TxState) (i j : ℕ) (p : TxPc)

@[simp] theorem pc_goto_self : (s.goto i p).pc i = p := by
  simp [pc, goto]

variable {i j} in
theorem pc_goto_of_ne (h : j ≠ i) : (s.goto i p).pc j = s.pc j := by
  simp [pc, goto, h]

theorem pc_goto : (s.goto i p).pc j = if j = i then p else s.pc j := by
  by_cases h : j = i
  · subst h; simp
  · simp [pc_goto_of_ne s p h, h]

@[simp] theorem pc_setCall (c : SendCall) : (s.setCall i c).pc j = s.pc j := by
  by_cases h : j = i
  · subst h; simp [pc, setCall]
  · simp [pc, setCall, h]

theorem pc_setCall_goto (c : SendCall) :
    ((s.setCall i c).goto i p).pc j = if j = i then p else s.pc j := by
  rw [pc_goto, pc_setCall]

@[simp] theorem lastSbuf_goto : (s.goto i p).lastSbuf = s.lastSbuf := rfl

@[simp] theorem svq_goto : (s.goto i p).svq = s.svq := rfl

@[simp] theorem txLock_goto : (s.goto i p).txLock = s.txLock := rfl

end TxState
