import DriverModules.Lib.Fifo
import DriverModules.Lib.Transition
import DriverModules.Rpmsg.Endpoint

/-!
# The queue of an endpoint device

`rpmsg_ept_cb` puts what arrives for an endpoint device into its queue, any number of readers take
it out again, and a close purges what is left. A context is one call of a file operation, and its
program is cut wherever another context can get in between. Three things make that matter:

* a reader that finds the queue empty gives `queue_lock` back, sleeps, and takes the lock again
  without testing the queue a second time;
* `skb_queue_purge` does not take `queue_lock` at all, so it gets between a test of the queue and
  the `skb_dequeue` behind it even where a reader holds the lock;
* `eptdev->ept` is read without a lock.

Taking a lock is one step with what the context does first under it, and giving it back one with
what it does last. The callback has a single access in between, so it is one step; it may come at
any time, since an endpoint device that was opened twice has endpoints beside `eptdev->ept`. Why a
sleeper leaves `schedule` is left open, and so is when.
-/

open Transition

/-- A `struct sk_buff`: which one it is, and its data. -/
structure Skb where
  id : ℕ
  data : List UInt8
  deriving DecidableEq, Repr

/-- The arguments of a read. -/
structure ReadCall where
  /-- `O_NONBLOCK`. -/
  nonblock : Bool
  /-- `iov_iter_count(to)`. -/
  count : ℕ
  /-- How many bytes of the user's buffer `copy_to_iter` can write. -/
  writable : ℕ
  deriving DecidableEq, Repr

/-- Where `wait_event_interruptible` tests its condition: before it queues the reader, or in its
loop, with the pending signal `prepare_to_wait_event` reported. -/
inductive WaitSite
  | fast
  | looped (interrupted : Bool)
  deriving DecidableEq, Repr

/-- The next thing a context does. -/
inductive ReadPc
  | idle
  | testEpt
  /-- `spin_lock_irqsave`, and the test of the queue. -/
  | lockTest
  /-- `!skb_queue_empty(&eptdev->queue)`, in the condition of the wait. -/
  | waitQueue (site : WaitSite)
  /-- `!eptdev->ept`, in the condition of the wait. -/
  | waitEpt (site : WaitSite)
  | prepare
  | asleep
  /-- `if (!eptdev->ept)` behind the wait. -/
  | testLost
  | relock
  /-- `skb_dequeue`, and the unlock behind it. -/
  | dequeue
  | copy (skb : Skb)
  /-- The read has returned; `user` is what it has written to the user's buffer. -/
  | returned (ret : Except Errno ℕ) (user : List UInt8)
  /-- In `rpmsg_eptdev_release`, under `ept_lock`. -/
  | closeEpt
  /-- The next round of `skb_queue_purge`. -/
  | purge
  | closed
  deriving DecidableEq

/-- Who took a message out of the queue. -/
inductive Taker
  | read (i : ℕ)
  | purge (i : ℕ)
  deriving DecidableEq, Repr

namespace Taker

def isRead : Taker → Bool
  | read _ => true
  | purge _ => false

end Taker

/-- An endpoint device and the calls on it. -/
structure ReadState where
  ept : Option EptId
  queue : List Skb
  queueLock : Option ℕ
  nextSkb : ℕ
  pcs : ℕ → ReadPc
  calls : ℕ → ReadCall
  /-- What `rpmsg_ept_cb` has queued so far, in order. -/
  accepted : List Skb
  /-- What was taken out of the queue so far, in order. -/
  taken : List (Skb × Taker)

inductive ReadEvent
  /-- A context enters `rpmsg_eptdev_read_iter`. -/
  | read (i : ℕ) (call : ReadCall)
  /-- A context enters `rpmsg_eptdev_release`. -/
  | close (i : ℕ)
  /-- A context takes a step the state determines. -/
  | next (i : ℕ)
  /-- `prepare_to_wait_event` reports whether a signal is pending. -/
  | prepared (i : ℕ) (signal : Bool)
  /-- A sleeper leaves `schedule`. -/
  | awake (i : ℕ)
  /-- A message arrives; `allocSkb` is whether there is memory for it. -/
  | rpmsgEptCb (buf : List UInt8) (allocSkb : Bool)
  /-- `rpmsg_eptdev_open` stores the endpoint it has created. -/
  | opened (e : EptId)
  /-- `rpmsg_eptdev_destroy` takes the endpoint away. -/
  | destroy

namespace ReadState

/-- An endpoint device that was just opened. -/
def opened (e : EptId) : ReadState where
  ept := some e
  queue := []
  queueLock := none
  nextSkb := 0
  pcs _ := .idle
  calls _ := { nonblock := false, count := 0, writable := 0 }
  accepted := []
  taken := []

def goto (s : ReadState) (i : ℕ) (p : ReadPc) : ReadState :=
  { s with pcs := Function.update s.pcs i p }

def setCall (s : ReadState) (i : ℕ) (call : ReadCall) : ReadState :=
  { s with calls := Function.update s.calls i call }

/-- What `rpmsg_eptdev_read_iter` does with the message it took: `copy_to_iter`, and its return
value. -/
def copyOut (call : ReadCall) (skb : Skb) : ReadPc :=
  let use := min call.count skb.data.length
  if use ≤ call.writable then .returned (.ok use) (skb.data.take use)
  else .returned (.error .EFAULT) (skb.data.take call.writable)

/-- The condition of the wait does not hold. -/
def goOnWaiting : WaitSite → ReadPc
  | .fast => .prepare
  | .looped interrupted => if interrupted then .returned (.error .ERESTARTSYS) [] else .asleep

/-- The steps the state determines. -/
def next (s : ReadState) (i : ℕ) : Option ReadState :=
  match s.pcs i with
  | .testEpt =>
    some (s.goto i (if s.ept.isNone then .returned (.error .EPIPE) [] else .lockTest))
  | .lockTest =>
    if s.queueLock.isSome then none
    else match s.queue with
      | [] =>
        some (s.goto i (if (s.calls i).nonblock then .returned (.error .EAGAIN) []
          else .waitQueue .fast))
      | _ :: _ => some { s.goto i .dequeue with queueLock := some i }
  | .waitQueue site => some (s.goto i (if s.queue.isEmpty then .waitEpt site else .testLost))
  | .waitEpt site => some (s.goto i (if s.ept.isNone then .testLost else goOnWaiting site))
  | .testLost =>
    some (s.goto i (if s.ept.isNone then .returned (.error .EPIPE) [] else .relock))
  | .relock =>
    if s.queueLock.isSome then none
    else some { s.goto i .dequeue with queueLock := some i }
  | .dequeue =>
    match s.queue with
    | [] => some { s.goto i (.returned (.error .EFAULT) []) with queueLock := none }
    | skb :: queue => some { s.goto i (.copy skb) with
        queueLock := none
        queue
        taken := s.taken ++ [(skb, .read i)] }
  | .copy skb => some (s.goto i (copyOut (s.calls i) skb))
  | .closeEpt => some { s.goto i .purge with ept := none }
  | .purge =>
    match s.queue with
    | [] => some (s.goto i .closed)
    | skb :: queue => some { s with queue, taken := s.taken ++ [(skb, .purge i)] }
  | .idle | .prepare | .asleep | .returned .. | .closed => none

/-- One step on the endpoint device. -/
def readStep (s : ReadState) : ReadEvent → Option ReadState
  | .read i call =>
    match s.pcs i with
    | .idle => some ((s.setCall i call).goto i .testEpt)
    | _ => none
  | .close i =>
    match s.pcs i with
    | .idle => some (s.goto i .closeEpt)
    | _ => none
  | .next i => s.next i
  | .prepared i signal =>
    match s.pcs i with
    | .prepare => some (s.goto i (.waitQueue (.looped signal)))
    | _ => none
  | .awake i =>
    match s.pcs i with
    | .asleep => some (s.goto i .prepare)
    | _ => none
  | .rpmsgEptCb buf allocSkb =>
    if allocSkb then
      if s.queueLock.isSome then none
      else
        let skb := { id := s.nextSkb, data := buf }
        some { s with
          nextSkb := s.nextSkb + 1
          queue := s.queue ++ [skb]
          accepted := s.accepted ++ [skb] }
    else some s
  | .opened e => some { s with ept := some e }
  | .destroy => some { s with ept := none }

/-! ### Reading a state after a step -/

variable {s s' : ReadState} {i j : ℕ} {p : ReadPc}

@[simp] theorem pcs_goto_self : (s.goto i p).pcs i = p := by
  simp [goto]

theorem pcs_goto_of_ne (h : j ≠ i) : (s.goto i p).pcs j = s.pcs j := by
  simp [goto, h]

/-- A buffer that can be written gets what fits into it. -/
theorem copyOut_of_writable {call : ReadCall} (skb : Skb) (hwritable : call.count ≤ call.writable) :
    copyOut call skb =
      .returned (.ok (min call.count skb.data.length))
        (skb.data.take (min call.count skb.data.length)) :=
  if_pos ((min_le_left _ _).trans hwritable)

end ReadState
