import DriverModules.Lib.WaitQueue
import DriverModules.Rpmsg.ReadRules

/-!
# Waiting for an endpoint device

A reader sleeps on `readq` until there is a message or the endpoint is gone, and so does a caller of
`poll`. `rpmsg_ept_cb` and `rpmsg_eptdev_destroy` wake the whole queue after they have queued the
message or taken the endpoint away; `wakeups` are the calls of `wake_up_interruptible` they have
still ahead.

Both kinds of waiter queue themselves before they look for a message, and so no message is missed
(`dataHeard_of_reachable`). With the endpoint it is different. `rpmsg_eptdev_release` takes it away
and wakes nobody, and `rpmsg_eptdev_poll` looks at it before it queues the caller
(`eptHeard_iff`).

## Main results, and what each rests on

* `dataHeard_of_reachable`: whoever sleeps beside a message is about to be woken or has been. It
  rests on two facts about the code (`DevStep`): a message is queued before the wake-up that it owes
  is counted, and a waiter that has found the queue empty was on the wait queue when it looked. The
  rest is `WaitQueue.Heeds`, which is about any condition and any wait queue.
* `eptHeard_iff`: nobody sleeps through the loss of the endpoint exactly when neither of the two
  things happens that the code does not guard against (`EptWakes`). Here the invariant is the law
  itself, and one step breaks it exactly when it fails the guard (`eptHeard_step`).
-/

open Transition WaitQueue

def EPOLLIN : UInt32 := 0x1

def EPOLLERR : UInt32 := 0x8

def EPOLLRDNORM : UInt32 := 0x40

/-- `rpmsg_poll`: `virtio_endpoint_ops` has no `poll`. -/
def rpmsgPoll : UInt32 := 0

/-- The next thing a caller of `poll` does. The kernel calls `rpmsg_eptdev_poll` until there is an
event or the time has run out (`expired`), and sleeps in between; `registered` says that `poll_wait`
has nothing to do any more. -/
inductive PollPc
  | idle
  | testEpt (registered expired : Bool)
  | pollWait
  | testQueue (expired : Bool)
  | asleep
  | returned (mask : UInt32)
  deriving DecidableEq

namespace PollPc

/-- The caller is on `readq`. -/
def queued : PollPc → Bool
  | testEpt registered _ => registered
  | testQueue _ | asleep => true
  | idle | pollWait | returned _ => false

end PollPc

/-- An endpoint device, the calls of its operations, and the wake-ups. -/
structure WaitersState where
  dev : ReadState
  polls : ℕ → PollPc
  /-- The calls of `wake_up_interruptible` that are to come. -/
  wakeups : ℕ
  /-- The reader was woken since it queued itself. -/
  woken : ℕ → Bool
  /-- The caller of `poll` was woken since it last slept. -/
  triggered : ℕ → Bool

inductive WaitersEvent
  | dev (ev : ReadEvent)
  /-- A context calls `poll`; without a timeout it is not queued. -/
  | poll (k : ℕ) (nowait : Bool)
  /-- A caller of `poll` takes a step. -/
  | pollNext (k : ℕ)
  /-- A caller of `poll` leaves its sleep. -/
  | pollAwake (k : ℕ) (expired : Bool)
  /-- One of the calls of `wake_up_interruptible`. -/
  | wake

namespace WaitersState

def opened (e : EptId) : WaitersState where
  dev := .opened e
  polls _ := .idle
  wakeups := 0
  woken _ := true
  triggered _ := true

/-- The wake-ups an event is followed by. -/
def wakes : ReadEvent → ℕ
  | .rpmsgEptCb _ allocSkb => if allocSkb then 1 else 0
  | .destroy => 1
  | .read .. | .close _ | .next _ | .prepared .. | .awake _ | .opened _ => 0

/-- `prepare_to_wait_event` queues the reader, to be woken from then on. -/
def queue (s : WaitersState) : ReadEvent → ℕ → Bool
  | .prepared i _ => Function.update s.woken i false
  | .read .. | .close _ | .next _ | .awake _ | .rpmsgEptCb .. | .opened _ | .destroy => s.woken

/-- `rpmsg_eptdev_poll`, step by step, and what the kernel makes of its mask. -/
def pollNext (s : WaitersState) (k : ℕ) : Option PollPc :=
  match s.polls k with
  | .testEpt registered expired =>
    some (if s.dev.ept.isNone then .returned EPOLLERR
      else if registered then .testQueue expired else .pollWait)
  | .pollWait => some (.testQueue false)
  | .testQueue expired =>
    let mask := (if s.dev.queue.isEmpty then 0 else EPOLLIN ||| EPOLLRDNORM) ||| rpmsgPoll
    some (if mask ≠ 0 ∨ expired = true then .returned mask else .asleep)
  | .idle | .asleep | .returned _ => none

def step (s : WaitersState) : WaitersEvent → Option WaitersState
  | .dev ev => (s.dev.readStep ev).map fun dev ↦
    { s with dev, wakeups := s.wakeups + wakes ev, woken := s.queue ev }
  | .poll k nowait =>
    match s.polls k with
    | .idle | .returned _ => some { s with
        polls := Function.update s.polls k (.testEpt nowait nowait)
        triggered := Function.update s.triggered k false }
    | .testEpt .. | .pollWait | .testQueue _ | .asleep => none
  | .pollNext k => (s.pollNext k).map fun p ↦ { s with polls := Function.update s.polls k p }
  | .pollAwake k expired =>
    match s.polls k with
    | .asleep => some { s with
        polls := Function.update s.polls k (.testEpt true expired)
        triggered := Function.update s.triggered k false }
    | .idle | .testEpt .. | .pollWait | .testQueue _ | .returned _ => none
  | .wake =>
    if 0 < s.wakeups then some { s with
      wakeups := s.wakeups - 1
      woken := fun _ ↦ true
      triggered := fun k ↦ s.triggered k || (s.polls k).queued }
    else none

/-- Everybody who sleeps was woken. -/
def AllWoken (s : WaitersState) : Prop :=
  (∀ i, s.dev.pcs i = .asleep → s.woken i = true) ∧
    ∀ k, s.polls k = .asleep → s.triggered k = true

end WaitersState

/-- Nobody is left asleep beside a message. -/
def DataHeard (s : WaitersState) : Prop :=
  s.dev.queue ≠ [] → s.wakeups = 0 → s.AllWoken

/-- Nobody is left asleep without an endpoint. -/
def EptHeard (s : WaitersState) : Prop :=
  s.dev.ept = none → s.wakeups = 0 → s.AllWoken

/-! ### What a step does on the device -/

namespace ReadPc

/-- The reader is on `readq` and has seen the queue empty. -/
def committed : ReadPc → Bool
  | waitEpt (.looped _) | asleep => true
  | _ => false

end ReadPc

namespace ReadState

variable {s s' : ReadState} {i j : ℕ} {p : ReadPc} {ev : ReadEvent}

/-- What a step of context `i` does for those who wait: only a look at the empty queue commits a
reader, it falls asleep beside an endpoint, and only a close takes the endpoint away. -/
structure WaitStep (s : ReadState) (i : ℕ) (s' : ReadState) : Prop where
  others : ∀ j, j ≠ i → s'.pcs j = s.pcs j
  commit : (s'.pcs i).committed = true → (s.pcs i).committed = true ∨ s'.queue = []
  sleep : s'.pcs i = .asleep → s.pcs i = .asleep ∨ s'.ept ≠ none
  ept : s'.ept = s.ept ∨ s.pcs i = .closeEpt
  queue : s'.queue.length ≤ s.queue.length

/-- A context that goes somewhere else than to sleep. -/
theorem WaitStep.goto (hpcs : s'.pcs = (s.goto i p).pcs) (hept : s'.ept = s.ept)
    (hqueue : s'.queue.length ≤ s.queue.length) (hp : p.committed = false) : WaitStep s i s' := by
  have hself : s'.pcs i = p := by rw [hpcs, pcs_goto_self]
  refine ⟨fun j hj ↦ by rw [hpcs, pcs_goto_of_ne hj], fun hc ↦ ?_, fun hc ↦ ?_, .inl hept, hqueue⟩
  · rw [hself, hp] at hc
    cases hc
  · rw [hself] at hc
    rw [hc] at hp
    cases hp

theorem copyOut_not_committed (call : ReadCall) (skb : Skb) :
    (copyOut call skb).committed = false := by
  unfold copyOut
  dsimp only
  split <;> rfl

theorem waitStep_next (h : s.next i = some s') : WaitStep s i s' := by
  unfold next at h
  split at h
  case h_1 hpc | h_5 hpc =>
    obtain rfl := Option.some.inj h
    exact .goto rfl rfl le_rfl (by split <;> rfl)
  case h_2 hpc =>
    split at h
    · cases h
    · split at h <;> obtain rfl := Option.some.inj h
      · exact .goto rfl rfl le_rfl (by split <;> rfl)
      · exact .goto rfl rfl le_rfl rfl
  case h_3 site hpc =>
    obtain rfl := Option.some.inj h
    split
    · next hempty =>
      refine ⟨fun j hj ↦ pcs_goto_of_ne hj, fun _ ↦ .inr (List.isEmpty_iff.1 hempty), fun hc ↦ ?_,
        .inl rfl, le_rfl⟩
      rw [pcs_goto_self] at hc
      cases hc
    · exact .goto rfl rfl le_rfl rfl
  case h_4 site hpc =>
    obtain rfl := Option.some.inj h
    split
    · exact .goto rfl rfl le_rfl rfl
    · next hept =>
      rcases site with - | (- | -)
      · exact .goto rfl rfl le_rfl rfl
      · -- it has looked at the queue before, and looks at the endpoint now
        refine ⟨fun j hj ↦ pcs_goto_of_ne hj, fun _ ↦ .inl (by rw [hpc]; rfl), fun _ ↦ .inr ?_,
          .inl rfl, le_rfl⟩
        exact fun hnone ↦ hept (Option.isNone_iff_eq_none.2 hnone)
      · exact .goto rfl rfl le_rfl rfl
  case h_6 hpc =>
    obtain ⟨-, hs⟩ := Option.ite_none_left_eq_some.1 h
    obtain rfl := Option.some.inj hs
    exact .goto rfl rfl le_rfl rfl
  case h_7 hpc =>
    split at h <;> obtain rfl := Option.some.inj h
    · exact .goto rfl rfl le_rfl rfl
    · next skb queue hqueue =>
      exact .goto rfl rfl (by rw [hqueue]; exact Nat.le_succ _) rfl
  case h_8 skb hpc =>
    obtain rfl := Option.some.inj h
    exact .goto rfl rfl le_rfl (copyOut_not_committed _ skb)
  case h_9 hpc =>
    obtain rfl := Option.some.inj h
    have hself : (s.goto i .purge).pcs i = .purge := pcs_goto_self
    refine ⟨fun j hj ↦ pcs_goto_of_ne hj, fun hc ↦ ?_, fun hc ↦ ?_, .inr hpc, le_rfl⟩
    · rw [show ({ s.goto i .purge with ept := none } : ReadState).pcs i = .purge from hself] at hc
      cases hc
    · cases hself.symm.trans hc
  case h_10 hpc =>
    split at h <;> obtain rfl := Option.some.inj h
    · exact .goto rfl rfl le_rfl rfl
    · next skb queue hqueue =>
      exact ⟨fun _ _ ↦ rfl, .inl, .inl, .inl rfl, by rw [hqueue]; exact Nat.le_succ _⟩
  all_goals cases h

/-- What any step on the device does for those who wait. -/
structure DevStep (s : ReadState) (ev : ReadEvent) (s' : ReadState) : Prop where
  commit : ∀ j, (s'.pcs j).committed = true → (s.pcs j).committed = true ∨ s'.queue = []
  sleep : ∀ j, s'.pcs j = .asleep → s.pcs j = .asleep ∨ s'.ept ≠ none
  ept : s'.ept = none → s.ept = none ∨ 0 < WaitersState.wakes ev ∨
    ∃ i, ev = .next i ∧ s.pcs i = .closeEpt
  queue : s'.queue ≠ [] → s.queue ≠ [] ∨ 0 < WaitersState.wakes ev

theorem WaitStep.devStep (h : WaitStep s i s')
    (hept : s.pcs i = .closeEpt → ev = .next i) : DevStep s ev s' where
  commit j hj := by
    rcases eq_or_ne j i with rfl | hne
    · exact h.commit hj
    · rw [h.others j hne] at hj
      exact .inl hj
  sleep j hj := by
    rcases eq_or_ne j i with rfl | hne
    · exact h.sleep hj
    · rw [h.others j hne] at hj
      exact .inl hj
  ept hnone := by
    rcases h.ept with heq | hclose
    · exact .inl (heq.symm.trans hnone)
    · exact .inr (.inr ⟨i, hept hclose, hclose⟩)
  queue hne := by
    refine .inl fun hnil ↦ hne (List.eq_nil_of_length_eq_zero ?_)
    have := h.queue
    rw [hnil] at this
    exact Nat.le_zero.1 this

/-- **Every step**: a reader commits itself beside an empty queue and falls asleep beside an
endpoint, and who adds a message or destroys the endpoint has a wake-up ahead. -/
theorem devStep_of_readStep (h : s.readStep ev = some s') : DevStep s ev s' := by
  rcases ev with ⟨i, call⟩ | i | i | ⟨i, signal⟩ | i | ⟨buf, allocSkb⟩ | e | - <;>
    simp only [readStep] at h
  · split at h
    · next hpc =>
      obtain rfl := Option.some.inj h
      have hstep : WaitStep s i ((s.setCall i call).goto i .testEpt) :=
        .goto (p := .testEpt) rfl rfl le_rfl rfl
      exact hstep.devStep fun hclose ↦ by cases hpc.symm.trans hclose
    · cases h
  · split at h
    · next hpc =>
      obtain rfl := Option.some.inj h
      exact (WaitStep.goto (i := i) (p := .closeEpt) rfl rfl le_rfl rfl).devStep
        fun hclose ↦ by cases hpc.symm.trans hclose
    · cases h
  · exact (waitStep_next h).devStep fun _ ↦ rfl
  · split at h
    · next hpc =>
      obtain rfl := Option.some.inj h
      exact (WaitStep.goto (i := i) rfl rfl le_rfl rfl).devStep
        fun hclose ↦ by cases hpc.symm.trans hclose
    · cases h
  · split at h
    · next hpc =>
      obtain rfl := Option.some.inj h
      exact (WaitStep.goto (i := i) (p := .prepare) rfl rfl le_rfl rfl).devStep
        fun hclose ↦ by cases hpc.symm.trans hclose
    · cases h
  · rcases allocSkb with - | -
    · obtain rfl := Option.some.inj h
      exact ⟨fun _ ↦ .inl, fun _ ↦ .inl, .inl, .inl⟩
    · obtain ⟨-, hs⟩ := Option.ite_none_left_eq_some.1 h
      obtain rfl := Option.some.inj hs
      exact ⟨fun _ ↦ .inl, fun _ ↦ .inl, .inl, fun _ ↦ .inr Nat.one_pos⟩
  · obtain rfl := Option.some.inj h
    exact ⟨fun _ ↦ .inl, fun _ ↦ .inl, fun hnone ↦ absurd hnone (Option.some_ne_none e), .inl⟩
  · obtain rfl := Option.some.inj h
    exact ⟨fun _ ↦ .inl, fun _ ↦ .inl, fun _ ↦ .inr (.inl Nat.one_pos), .inl⟩

/-- A reader that was just queued has its tests ahead. -/
theorem committed_prepared {signal : Bool} (h : s.readStep (.prepared i signal) = some s') :
    (s'.pcs i).committed = false := by
  simp only [readStep] at h
  split at h
  · obtain rfl := Option.some.inj h
    rw [pcs_goto_self]
    rfl
  · cases h

end ReadState

/-! ### Messages -/

namespace WaitersState

variable {s s' : WaitersState} {ev : WaitersEvent}

/-- The readers and the callers of `poll` that have seen the queue empty and were not woken. -/
def Missed (s : WaitersState) : ℕ ⊕ ℕ → Prop
  | .inl i => (s.dev.pcs i).committed = true ∧ s.woken i = false
  | .inr k => s.polls k = .asleep ∧ s.triggered k = false

/-- No wake-up for a message is lost. -/
def DataInv (s : WaitersState) : Prop :=
  Heeds (s.dev.queue ≠ []) (0 < s.wakeups) s.Missed

/-- A reader that an event leaves unwoken was not woken before, or was just queued. -/
theorem woken_of_queue {i : ℕ} {ev : ReadEvent} (h : s.queue ev i = false)
    (hne : ∀ signal, ev ≠ .prepared i signal) : s.woken i = false := by
  rcases ev with ⟨j, call⟩ | j | j | ⟨j, signal⟩ | j | ⟨buf, allocSkb⟩ | e | -
  case prepared =>
    have hij : i ≠ j := fun hij ↦ hne signal (hij ▸ rfl)
    exact (Function.update_of_ne hij ..).symm.trans h
  all_goals exact h

theorem missed_dev {ev : ReadEvent} {dev : ReadState} (hs : s.dev.readStep ev = some dev)
    {i : ℕ} (hpc : (dev.pcs i).committed = true) (hwoken : s.queue ev i = false) :
    s.woken i = false := by
  refine woken_of_queue hwoken fun signal hev ↦ ?_
  subst hev
  rw [ReadState.committed_prepared hs] at hpc
  cases hpc

/-- A caller of `poll` sleeps after it has found nothing. -/
theorem pollNext_asleep {k : ℕ} (h : s.pollNext k = some .asleep) :
    s.polls k = .testQueue false ∧ s.dev.queue = [] := by
  unfold pollNext at h
  split at h
  · split at h
    · cases h
    · split at h <;> cases h
  · cases h
  · next expired hpc =>
    rcases hqueue : s.dev.queue with - | ⟨skb, queue⟩
    · rcases expired with - | -
      · exact ⟨hpc, rfl⟩
      · simp at h
    · -- then there is an event
      simp [hqueue, rpmsgPoll, EPOLLIN, EPOLLRDNORM] at h
  all_goals cases h

/-- A step of a caller of `poll`. -/
theorem DataInv.poll (h : DataInv s) {k : ℕ} {p : PollPc} {triggered : ℕ → Bool}
    (htriggered : ∀ j, j ≠ k → triggered j = s.triggered j) (hp : p = .asleep → s.dev.queue = []) :
    DataInv { s with polls := Function.update s.polls k p, triggered } := by
  by_cases hqueue : s.dev.queue = []
  · exact heeds_of_not (not_not.2 hqueue)
  · refine Heeds.mono h id id ?_
    rintro (i | j) ⟨hpc, hwoken⟩
    · exact ⟨hpc, hwoken⟩
    · rcases eq_or_ne j k with rfl | hne
      · exact absurd (hp ((Function.update_self ..).symm.trans hpc)) hqueue
      · exact ⟨(Function.update_of_ne hne ..).symm.trans hpc, (htriggered j hne).symm.trans hwoken⟩

theorem DataInv.step (h : DataInv s) (hs : s.step ev = some s') : DataInv s' := by
  rcases ev with ev | ⟨k, nowait⟩ | k | ⟨k, expired⟩ | -
  · obtain ⟨dev, hdev, rfl⟩ := Option.map_eq_some_iff.1 hs
    have hstep := ReadState.devStep_of_readStep hdev
    by_cases hwake : 0 < wakes ev
    · exact heeds_of_coming (Nat.add_pos_right _ hwake)
    by_cases hqueue : dev.queue = []
    · exact heeds_of_not (not_not.2 hqueue)
    · refine Heeds.mono h (fun hne ↦ (hstep.queue hne).resolve_right hwake)
        (fun hpos ↦ Nat.add_pos_left hpos _) ?_
      rintro (i | k) hm
      · exact ⟨(hstep.commit i hm.1).resolve_right hqueue, missed_dev hdev hm.1 hm.2⟩
      · exact hm
  · simp only [step] at hs
    split at hs <;> cases hs <;>
      exact h.poll (fun j hne ↦ Function.update_of_ne hne ..) nofun
  · obtain ⟨p, hp, rfl⟩ := Option.map_eq_some_iff.1 hs
    refine h.poll (fun _ _ ↦ rfl) fun hasleep ↦ ?_
    subst hasleep
    exact (pollNext_asleep hp).2
  · simp only [step] at hs
    split at hs <;> cases hs
    exact h.poll (fun j hne ↦ Function.update_of_ne hne ..) nofun
  · obtain ⟨hpos, hs⟩ := Option.ite_none_right_eq_some.1 hs
    obtain rfl := Option.some.inj hs
    refine heeds_of_none ?_
    rintro (i | k) hm
    · cases hm.2
    · have hpc : s.polls k = .asleep := hm.1
      have := hm.2
      simp [hpc, PollPc.queued] at this

theorem dataInv_opened (e : EptId) : (opened e).DataInv :=
  heeds_of_not fun h ↦ h rfl

/-- **No message is missed**: when there is one and no wake-up is to come, every reader and every
caller of `poll` that sleeps was woken, however the arrivals, the reads, the polls and the closes
interleave. -/
theorem dataHeard_of_reachable (e : EptId) (s : WaitersState)
    (h : Reachable step (opened e) s) : DataHeard s := by
  have hinv : s.DataInv := h.invariant (dataInv_opened e) fun _ hinv _ hs ↦ hinv.step hs
  intro hqueue hnone
  have hmissed : ∀ x, ¬ s.Missed x :=
    (hinv hqueue).resolve_left fun hpos ↦ hpos.ne' hnone
  refine ⟨fun i hpc ↦ Bool.of_not_eq_false ?_, fun k hpc ↦ Bool.of_not_eq_false ?_⟩
  · exact fun hwoken ↦ hmissed (.inl i) ⟨by rw [hpc]; rfl, hwoken⟩
  · exact fun hwoken ↦ hmissed (.inr k) ⟨hpc, hwoken⟩

/-- A reader and a caller of `poll` sleep; a message arrives, and both are woken. -/
def bothSleep : List WaitersEvent :=
  [.dev (.read 0 ⟨false, 2, 2⟩), .dev (.next 0), .dev (.next 0), .dev (.next 0), .dev (.next 0),
    .dev (.prepared 0 false), .dev (.next 0), .dev (.next 0), .poll 7 false, .pollNext 7,
    .pollNext 7, .pollNext 7]

theorem dataHeard_bothSleep :
    ∃ s, run step (opened 0) (bothSleep ++ [.dev (.rpmsgEptCb [1] true), .wake]) = some s ∧
      (s.dev.pcs 0 = .asleep ∧ s.woken 0 = true) ∧ (s.polls 7 = .asleep ∧ s.triggered 7 = true) ∧
      DataHeard s := by
  obtain ⟨s, hs, hread⟩ := Option.map_eq_some_iff.1 (show Option.map
    (fun s ↦ ((s.dev.pcs 0, s.woken 0), s.polls 7, s.triggered 7)) (run step (opened 0)
      (bothSleep ++ [.dev (.rpmsgEptCb [1] true), .wake])) =
    some ((.asleep, true), .asleep, true) by decide +kernel)
  simp only [Prod.mk.injEq] at hread
  exact ⟨s, hs, hread.1, hread.2, dataHeard_of_reachable 0 s (reachable_of_run hs)⟩

/-! ### The endpoint -/

/-- Who takes the endpoint away in `rpmsg_eptdev_release` leaves nobody asleep, and a caller of
`poll` goes to sleep beside an endpoint; unless a wake-up is to come. -/
def EptWakes (s : WaitersState) : WaitersEvent → Prop
  | .dev (.next i) => s.dev.pcs i = .closeEpt → s.wakeups = 0 → s.AllWoken
  | .pollNext k => s.polls k = .testQueue false → s.dev.queue = [] → s.dev.ept = none →
    s.wakeups = 0 → s.triggered k = true
  | _ => True

/-- A step on the device. -/
theorem eptHeard_dev {ev : ReadEvent} {dev : ReadState} (h : EptHeard s)
    (hdev : s.dev.readStep ev = some dev) :
    EptHeard { s with dev, wakeups := s.wakeups + wakes ev, woken := s.queue ev } ↔
      s.EptWakes (.dev ev) := by
  have hstep := ReadState.devStep_of_readStep hdev
  -- whoever sleeps without an endpoint slept before
  have hkeep : dev.ept = none → s.AllWoken →
      AllWoken { s with dev, wakeups := s.wakeups + wakes ev, woken := s.queue ev } := by
    intro hnone hall
    refine ⟨fun i hpc ↦ Bool.of_not_eq_false fun hwoken ↦ ?_, hall.2⟩
    have hold := (hstep.sleep i hpc).resolve_right (not_not.2 hnone)
    have := missed_dev hdev (by rw [hpc]; rfl) hwoken
    rw [hall.1 i hold] at this
    cases this
  by_cases hclose : ∃ i, ev = .next i ∧ s.dev.pcs i = .closeEpt
  · obtain ⟨i, rfl, hpc⟩ := hclose
    obtain rfl : { s.dev.goto i .purge with ept := none } = dev := by
      simpa [ReadState.readStep, ReadState.next, hpc] using hdev
    constructor
    · intro h' _ hnone
      obtain ⟨hreaders, hpolls⟩ := h' rfl hnone
      refine ⟨fun j hj ↦ hreaders j ?_, hpolls⟩
      have hji : j ≠ i := by
        rintro rfl
        cases hpc.symm.trans hj
      exact (ReadState.pcs_goto_of_ne hji).trans hj
    · exact fun hguard _ hnone ↦ hkeep rfl (hguard hpc hnone)
  · refine iff_of_true (fun hnone hwakeups ↦ ?_) ?_
    · obtain ⟨hzero, hwakes⟩ := Nat.add_eq_zero_iff.1 hwakeups
      rcases hstep.ept hnone with hold | hpos | hclose'
      · exact hkeep hnone (h hold hzero)
      · exact absurd hwakes hpos.ne'
      · exact absurd hclose' hclose
    · rcases ev with - | - | i | - | - | - | - | -
      case next => exact fun hpc ↦ absurd ⟨i, rfl, hpc⟩ hclose
      all_goals trivial

/-- A step of a caller of `poll`. -/
theorem eptHeard_poll (h : EptHeard s) {k : ℕ} {p : PollPc} {triggered : ℕ → Bool}
    (htriggered : ∀ j, j ≠ k → triggered j = s.triggered j) :
    EptHeard { s with polls := Function.update s.polls k p, triggered } ↔
      (p = .asleep → s.dev.ept = none → s.wakeups = 0 → triggered k = true) := by
  constructor
  · rintro h' rfl hnone hzero
    exact (h' hnone hzero).2 k (Function.update_self ..)
  · intro hp hnone hzero
    obtain ⟨hreaders, hpolls⟩ := h hnone hzero
    refine ⟨hreaders, fun j hpc ↦ ?_⟩
    rcases eq_or_ne j k with rfl | hne
    · exact hp ((Function.update_self ..).symm.trans hpc) hnone hzero
    · exact (htriggered j hne).trans (hpolls j ((Function.update_of_ne hne ..).symm.trans hpc))

/-- **A step leaves nobody asleep without an endpoint exactly under the guard.** -/
theorem eptHeard_step (h : EptHeard s) (hs : s.step ev = some s') :
    EptHeard s' ↔ s.EptWakes ev := by
  rcases ev with ev | ⟨k, nowait⟩ | k | ⟨k, expired⟩ | -
  · obtain ⟨dev, hdev, rfl⟩ := Option.map_eq_some_iff.1 hs
    exact eptHeard_dev h hdev
  · refine iff_of_true ?_ trivial
    simp only [step] at hs
    split at hs <;> cases hs <;>
      exact (eptHeard_poll h fun j hne ↦ Function.update_of_ne hne ..).2 nofun
  · obtain ⟨p, hp, rfl⟩ := Option.map_eq_some_iff.1 hs
    refine (eptHeard_poll h fun _ _ ↦ rfl).trans ⟨fun hguard hpc hqueue ↦ ?_, fun hguard hp' ↦ ?_⟩
    · refine hguard (Option.some.inj (hp.symm.trans ?_))
      simp [pollNext, hpc, hqueue, rpmsgPoll]
    · subst hp'
      obtain ⟨hpc, hqueue⟩ := pollNext_asleep hp
      exact hguard hpc hqueue
  · refine iff_of_true ?_ trivial
    simp only [step] at hs
    split at hs <;> cases hs
    exact (eptHeard_poll h fun j hne ↦ Function.update_of_ne hne ..).2 nofun
  · obtain ⟨hpos, hs⟩ := Option.ite_none_right_eq_some.1 hs
    obtain rfl := Option.some.inj hs
    refine iff_of_true (fun _ _ ↦ ⟨fun _ _ ↦ rfl, fun k hpc ↦ ?_⟩) trivial
    have hpc : s.polls k = .asleep := hpc
    simp [hpc, PollPc.queued]

/-- **Nobody is left asleep without an endpoint throughout a run exactly when** no
`rpmsg_eptdev_release` takes it away from a sleeper and no `rpmsg_eptdev_poll` looks at it too
early. -/
theorem eptHeard_iff (e : EptId) (evs : List WaitersEvent) (s : WaitersState)
    (h : run step (opened e) evs = some s) :
    Throughout step (fun _ ↦ EptHeard) (opened e) evs ↔ Meets step EptWakes (opened e) evs :=
  throughout_iff_meets (fun hnone ↦ by cases hnone) (fun _ _ hheard hs ↦ eptHeard_step hheard hs) h

/-- A test of the guard. -/
def eptWakes (s : WaitersState) : WaitersEvent → Bool
  | .dev (.next i) => s.dev.pcs i != .closeEpt
  | .pollNext k => s.polls k != .testQueue false || s.dev.ept.isSome
  | _ => true

theorem eptWakes_of_test (s : WaitersState) (ev : WaitersEvent) (h : s.eptWakes ev = true) :
    s.EptWakes ev := by
  rcases ev with ev | ⟨k, nowait⟩ | k | ⟨k, expired⟩ | -
  · rcases ev with ⟨i, call⟩ | i | i | ⟨i, signal⟩ | i | ⟨buf, allocSkb⟩ | e | -
    case next => exact fun hpc ↦ absurd hpc (bne_iff_ne.1 h)
    all_goals trivial
  · trivial
  · intro hpc _ hnone
    simp [eptWakes, hpc, hnone] at h
  · trivial
  · trivial

/-- A reader and a caller of `poll` sleep, and `rpmsg_eptdev_destroy` wakes both. -/
theorem eptHeard_bothSleep :
    Throughout step (fun _ ↦ EptHeard) (opened 0) (bothSleep ++ [.dev .destroy, .wake]) := by
  obtain ⟨s, hs, -⟩ := Option.map_eq_some_iff.1 (show Option.map (fun s ↦ s.dev.ept)
    (runIf step eptWakes (opened 0) (bothSleep ++ [.dev .destroy, .wake])) = some none
      by decide +kernel)
  exact (eptHeard_iff 0 _ s (run_of_runIf hs)).2 (meets_of_runIf eptWakes_of_test hs)

/-- The endpoint is destroyed after a caller of `poll` has looked at it, and the wake-up comes
before he is on `readq`. -/
example : Option.map (fun s ↦ (s.dev.ept, s.wakeups, s.polls 7, s.triggered 7))
    (run step (opened 0) [.poll 7 false, .pollNext 7, .dev .destroy, .wake, .pollNext 7,
      .pollNext 7]) = some (none, 0, .asleep, false) := by
  decide +kernel

end WaitersState
