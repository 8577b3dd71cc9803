import DriverModules.Lib.Transition
import Mathlib.Data.Int.Notation
import Mathlib.Logic.Function.Basic

/-!
# The mailbox of HELLO_MODULE

`hello_write` and `hello_read` of the test module, called by any number of threads on its one
device. A writer copies its bytes in, wakes the queue and only then sets `enable_read`; a reader
waits for the flag with `wait_event_interruptible_timeout`, clears it, adds 2 to every byte and
copies the result out. Nothing is locked, so the threads interleave freely at every access to the
shared fields.

The wait is the kernel's: a first test of the condition, then a loop that queues the reader, tests
again, and only then sleeps. A wake-up reaches the readers that are queued at that moment, asleep or
about to be; whoever is woken tests again.
-/

open Transition

def DEV_BUFF_MAX : ℕ := 128

/-- The next thing a thread does in `hello_write` or `hello_read`. -/
inductive HelloPc
  | idle
  /-- `copy_from_user(myDev->pInputData, user, size)`. -/
  | writeCopy (user : List UInt8) (size : ℕ)
  /-- `wake_up_interruptible(&myDev->my_queue)`. -/
  | writeWake
  /-- `myDev->enable_read = 1`. -/
  | writeSet
  /-- What `hello_write` prints before it returns. -/
  | writeTail
  /-- The test of the condition before the wait. -/
  | readFast (size : ℕ)
  /-- `prepare_to_wait_event`, with whether the time has run out. -/
  | readPrepare (size : ℕ) (expired : Bool)
  /-- The test of the condition inside the wait, with the pending signal reported. -/
  | readTest (size : ℕ) (signal expired : Bool)
  | readSchedule (size : ℕ)
  /-- In `schedule_timeout`. -/
  | readAsleep (size : ℕ)
  /-- `myDev->enable_read = 0`. -/
  | readClear (size : ℕ)
  /-- `pOutputData[i] = pInputData[i] + 2`, for all `i < size`. -/
  | readTransform (size : ℕ)
  /-- `copy_to_user(user, myDev->pOutputData, size)`; `snap` is what `pInputData` was when this
  reader transformed it. -/
  | readCopy (size : ℕ) (snap : List UInt8)
  /-- The call has returned `ret`; `user` is what the reader was given. -/
  | returned (ret : ℤ) (user : List UInt8)
  deriving DecidableEq, Repr

namespace HelloPc

/-- No call is under way. -/
def canCall : HelloPc → Bool
  | idle | returned .. => true
  | _ => false

/-- A `hello_write` call is in progress. -/
def writing : HelloPc → Bool
  | writeCopy .. | writeWake | writeSet | writeTail => true
  | _ => false

/-- A `hello_write` call has its wake-up still ahead. -/
def wakeAhead : HelloPc → Bool
  | writeCopy .. | writeWake => true
  | _ => false

/-- A reader that has found the flag clear and sleeps, or is about to. -/
def committed : HelloPc → Bool
  | readSchedule _ | readAsleep _ => true
  | _ => false

/-- A reader in `schedule_timeout`. -/
def asleep : HelloPc → Bool
  | readAsleep _ => true
  | _ => false

end HelloPc

/-- `struct myDev`, as far as the two calls use it, and the threads. -/
structure HelloState where
  pOutputData : List UInt8
  pInputData : List UInt8
  enable_read : ℤ
  /-- The threads queued on `my_queue` in state `TASK_INTERRUPTIBLE`: a wake-up takes them off. -/
  myQueue : ℕ → Bool
  pc : ℕ → HelloPc
  /-- Some call has copied into `pInputData`. -/
  written : Bool
  /-- Some reader has transformed `pInputData` since it was last copied into. -/
  seen : Bool

inductive HelloEvent
  | write (t : ℕ) (user : List UInt8) (size : ℕ)
  | read (t : ℕ) (size : ℕ)
  /-- A thread takes a step; `copied` is how many bytes the copy moves, if it is one. -/
  | next (t : ℕ) (copied : ℕ)
  /-- `prepare_to_wait_event` reports whether a signal is pending. -/
  | prepared (t : ℕ) (signal : Bool)
  /-- `schedule_timeout` returns: the thread was woken, the time ran out or a signal came. -/
  | awake (t : ℕ) (expired : Bool)

/-- The thread an event moves. -/
def HelloEvent.thread : HelloEvent → ℕ
  | write t _ _ | read t _ | next t _ | prepared t _ | awake t _ => t

namespace HelloState

/-- What `InitMyDev` sets up. -/
def init : HelloState where
  pOutputData := .replicate DEV_BUFF_MAX 0
  pInputData := .replicate DEV_BUFF_MAX 0
  enable_read := 0
  myQueue _ := false
  pc _ := .idle
  written := false
  seen := false

/-- Thread `t` goes on to `p`. -/
def goto (s : HelloState) (t : ℕ) (p : HelloPc) : HelloState :=
  { s with pc := Function.update s.pc t p }

/-- `copy_from_user`: `copied` of the `size` bytes arrive, the others are cleared. -/
def copyFromUser (buf user : List UInt8) (size copied : ℕ) : List UInt8 :=
  let got := (user.take size).take copied
  got ++ .replicate (size - got.length) 0 ++ buf.drop size

/-- The step of a thread that the state determines. -/
def next (s : HelloState) (t : ℕ) (copied : ℕ) : Option HelloState :=
  match s.pc t with
  | .writeCopy user size =>
    some { s.goto t .writeWake with
           pInputData := copyFromUser s.pInputData user size copied
           written := true
           seen := false }
  | .writeWake => some { s.goto t .writeSet with myQueue := fun _ ↦ false }
  | .writeSet => some { s.goto t .writeTail with enable_read := 1 }
  | .writeTail => some (s.goto t (.returned 0 []))
  | .readFast size =>
    some (s.goto t (if s.enable_read ≠ 0 then .readClear size else .readPrepare size false))
  | .readTest size signal expired =>
    if s.enable_read ≠ 0 ∨ expired then
      -- `finish_wait`
      some { s.goto t (.readClear size) with myQueue := Function.update s.myQueue t false }
    else if signal then some (s.goto t (.readClear size))
    else some (s.goto t (.readSchedule size))
  | .readSchedule size => some (s.goto t (.readAsleep size))
  | .readClear size => some { s.goto t (.readTransform size) with enable_read := 0 }
  | .readTransform size =>
    some { s.goto t (.readCopy size s.pInputData) with
           pOutputData := (s.pInputData.take size).map (· + 2) ++ s.pOutputData.drop size
           seen := true }
  | .readCopy size _ => some (s.goto t (.returned 0 ((s.pOutputData.take size).take copied)))
  | .idle | .readPrepare .. | .readAsleep _ | .returned .. => none

/-- One step of the module. -/
def helloStep (s : HelloState) : HelloEvent → Option HelloState
  | .write t user size =>
    if (s.pc t).canCall then
      some (s.goto t (if DEV_BUFF_MAX < size then .returned (-1) [] else .writeCopy user size))
    else none
  | .read t size =>
    if (s.pc t).canCall then
      some (s.goto t (if DEV_BUFF_MAX < size then .returned (-1) [] else .readFast size))
    else none
  | .next t copied => s.next t copied
  | .prepared t signal =>
    match s.pc t with
    | .readPrepare size expired =>
      -- with a signal pending the reader is taken off the queue again
      some { s.goto t (.readTest size signal expired) with
             myQueue := Function.update s.myQueue t !signal }
    | _ => none
  | .awake t expired =>
    match s.pc t with
    | .readAsleep size =>
      some { s.goto t (.readPrepare size expired) with
             myQueue := Function.update s.myQueue t false }
    | _ => none

/-- Thread `t` is asleep on `my_queue`, waiting for a wake-up. -/
def waiting (s : HelloState) (t : ℕ) : Bool :=
  (s.pc t).asleep && s.myQueue t

/-- Thread `t` has found the flag clear and sleeps, or is about to, unless it is woken. -/
def missed (s : HelloState) (t : ℕ) : Bool :=
  (s.pc t).committed && s.myQueue t

/-! ### Reading a state after a step -/

variable (s : HelloState) {t u : ℕ} (p : HelloPc)

@[simp] theorem pc_goto_self : (s.goto t p).pc t = p := by
  simp [goto]

theorem pc_goto_of_ne (h : u ≠ t) : (s.goto t p).pc u = s.pc u := by
  simp [goto, h]

@[simp] theorem myQueue_goto : (s.goto t p).myQueue = s.myQueue := rfl

@[simp] theorem enable_read_goto : (s.goto t p).enable_read = s.enable_read := rfl

/-! ### A step moves one thread -/

variable {s} {s' : HelloState}

theorem next_pc_of_ne {copied : ℕ} (h : s.next t copied = some s') (hu : u ≠ t) :
    s'.pc u = s.pc u := by
  unfold next at h
  split at h
  case h_6 size signal expired hpc =>
    split at h
    · cases h
      exact pc_goto_of_ne s _ hu
    · split at h <;> cases h <;> exact pc_goto_of_ne s _ hu
  all_goals cases h
  all_goals exact pc_goto_of_ne s _ hu

theorem helloStep_pc_of_ne {ev : HelloEvent} (h : s.helloStep ev = some s') (hu : u ≠ ev.thread) :
    s'.pc u = s.pc u := by
  cases ev with
  | next t copied => exact next_pc_of_ne h hu
  | _ =>
    simp only [helloStep] at h
    split at h <;> cases h
    exact pc_goto_of_ne s _ hu

/-- A run moves only the threads of its events. -/
theorem run_pc_of_forall_ne {evs : List HelloEvent} (h : run helloStep s evs = some s')
    (hu : ∀ ev ∈ evs, u ≠ ev.thread) : s'.pc u = s.pc u := by
  induction evs generalizing s with
  | nil =>
    cases h
    rfl
  | cons ev evs ih =>
    obtain ⟨s₁, h₁, hrest⟩ := Option.bind_eq_some_iff.1 (run_cons ev evs ▸ h)
    rw [ih hrest fun ev' hev ↦ hu ev' (List.mem_cons_of_mem _ hev)]
    exact helloStep_pc_of_ne h₁ (hu ev List.mem_cons_self)

/-- Whoever is not moved by a run is idle after it as before. -/
theorem not_writing_of_run {evs : List HelloEvent} (h : run helloStep init evs = some s)
    (hidle : ∀ ev ∈ evs, (s.pc ev.thread).writing = false) (t : ℕ) :
    (s.pc t).writing = false := by
  by_cases ht : ∀ ev ∈ evs, t ≠ ev.thread
  · rw [run_pc_of_forall_ne h ht]
    rfl
  · obtain ⟨ev, hev, rfl⟩ : ∃ ev ∈ evs, t = ev.thread := by simpa using ht
    exact hidle ev hev

end HelloState
