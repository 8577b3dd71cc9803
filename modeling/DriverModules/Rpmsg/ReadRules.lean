import DriverModules.Rpmsg.ReadState

/-!
# What a step on an endpoint device can do

The step function of `ReadState` read once. For what becomes of the messages, all positions of a
reader before its `skb_dequeue` are alike, and so are the two locks and `eptdev->ept`: a context
moves on (`ReadMove`), a message comes, or one goes.

## Main results, and what each rests on

* `readStep_rule`: every step is one of the rules. A step without a message says only that the
  reader was empty-handed and still is, or has given up with one of three errors, so that what a
  reader has waited for is not to be had from here: `ReadWake` has rules of its own (`WaitStep`,
  `DevStep`).
* Taking a message and finding none are different rules, for it is the second that `ReadFaults` is
  about. Which message is taken stands in the rule with the rest of the queue.
-/

open Transition

/-- The context has no message and has not returned. -/
def ReadPc.emptyHanded : ReadPc → Bool
  | .copy _ | .returned .. => false
  | _ => true

/-- A context moves on without touching the queue. -/
inductive ReadMove (call : ReadCall) : ReadPc → ReadPc → Prop
  | onward {p p' : ReadPc} : p.emptyHanded = true → p'.emptyHanded = true → ReadMove call p p'
  | giveUp {p : ReadPc} {e : Errno} : p.emptyHanded = true →
    (e = .EPIPE ∨ e = .ERESTARTSYS ∨ e = .EAGAIN ∧ call.nonblock = true) →
    ReadMove call p (.returned (.error e) [])
  | copy (skb : Skb) : ReadMove call (.copy skb) (ReadState.copyOut call skb)

/-- The message that arrives with an event, if there is memory for one. -/
def ReadEvent.arrival : ReadEvent → List (List UInt8)
  | .rpmsgEptCb buf true => [buf]
  | _ => []

/-- The steps on an endpoint device. -/
inductive ReadRule (s : ReadState) : ReadEvent → ReadState → Prop
  | enter (i : ℕ) (call : ReadCall) : s.pcs i = .idle →
    ReadRule s (.read i call) ((s.setCall i call).goto i .testEpt)
  | move (ev : ReadEvent) (i : ℕ) (p : ReadPc) (ept : Option EptId) (queueLock : Option ℕ) :
    ev.arrival = [] → ReadMove (s.calls i) (s.pcs i) p →
    ReadRule s ev { s.goto i p with ept, queueLock }
  | setEpt (ev : ReadEvent) (ept : Option EptId) : ev.arrival = [] → ReadRule s ev { s with ept }
  | accept (buf : List UInt8) : ReadRule s (.rpmsgEptCb buf true) { s with
      nextSkb := s.nextSkb + 1
      queue := s.queue ++ [⟨s.nextSkb, buf⟩]
      accepted := s.accepted ++ [⟨s.nextSkb, buf⟩] }
  | take (i : ℕ) (skb : Skb) (queue : List Skb) : s.pcs i = .dequeue → s.queue = skb :: queue →
    ReadRule s (.next i) { s.goto i (.copy skb) with
      queueLock := none, queue, taken := s.taken ++ [(skb, .read i)] }
  | miss (i : ℕ) : s.pcs i = .dequeue → s.queue = [] →
    ReadRule s (.next i) { s.goto i (.returned (.error .EFAULT) []) with queueLock := none }
  | purge (i : ℕ) (skb : Skb) (queue : List Skb) : s.pcs i = .purge → s.queue = skb :: queue →
    ReadRule s (.next i) { s with queue, taken := s.taken ++ [(skb, .purge i)] }

namespace ReadState

variable {s s' : ReadState}

/-- A step of a context that has no message yet. -/
theorem rule_onward {ev : ReadEvent} (hev : ev.arrival = []) {i : ℕ} {p : ReadPc}
    (hp : (s.pcs i).emptyHanded = true) (hp' : p.emptyHanded = true) (ept : Option EptId)
    (queueLock : Option ℕ) : ReadRule s ev { s.goto i p with ept, queueLock } :=
  .move ev i p ept queueLock hev (.onward hp hp')

/-- The rules of a context's own steps. -/
theorem next_rule {i : ℕ} (h : s.next i = some s') : ReadRule s (.next i) s' := by
  have honward : ∀ {p}, (s.pcs i).emptyHanded = true → p.emptyHanded = true →
      ReadRule s (.next i) (s.goto i p) := fun hp hp' ↦ rule_onward rfl hp hp' s.ept s.queueLock
  have hgiveUp : ∀ {e}, (s.pcs i).emptyHanded = true →
      (e = .EPIPE ∨ e = .ERESTARTSYS ∨ e = .EAGAIN ∧ (s.calls i).nonblock = true) →
      ReadRule s (.next i) (s.goto i (.returned (.error e) [])) :=
    fun hp he ↦ .move _ i _ s.ept s.queueLock rfl (.giveUp hp he)
  unfold next at h
  split at h
  case h_1 hpc | h_5 hpc =>
    obtain rfl := Option.some.inj h
    split
    · exact hgiveUp (by rw [hpc]; rfl) (.inl rfl)
    · exact honward (by rw [hpc]; rfl) rfl
  case h_2 hpc =>
    split at h
    · cases h
    · split at h <;> obtain rfl := Option.some.inj h
      · split
        · next hnonblock => exact hgiveUp (by rw [hpc]; rfl) (.inr (.inr ⟨rfl, hnonblock⟩))
        · exact honward (by rw [hpc]; rfl) rfl
      · exact rule_onward rfl (by rw [hpc]; rfl) rfl s.ept (some i)
  case h_3 site hpc =>
    obtain rfl := Option.some.inj h
    split <;> exact honward (by rw [hpc]; rfl) rfl
  case h_4 site hpc =>
    obtain rfl := Option.some.inj h
    split
    · exact honward (by rw [hpc]; rfl) rfl
    · rcases site with - | (- | -)
      · exact honward (by rw [hpc]; rfl) rfl
      · exact honward (by rw [hpc]; rfl) rfl
      · exact hgiveUp (by rw [hpc]; rfl) (.inr (.inl rfl))
  case h_6 hpc =>
    obtain ⟨-, hs⟩ := Option.ite_none_left_eq_some.1 h
    obtain rfl := Option.some.inj hs
    exact rule_onward rfl (by rw [hpc]; rfl) rfl s.ept (some i)
  case h_7 hpc =>
    split at h <;> obtain rfl := Option.some.inj h
    · next hqueue => exact .miss i hpc hqueue
    · next skb queue hqueue => exact .take i skb queue hpc hqueue
  case h_8 skb hpc =>
    obtain rfl := Option.some.inj h
    exact .move _ i _ s.ept s.queueLock rfl (hpc ▸ .copy skb)
  case h_9 hpc =>
    obtain rfl := Option.some.inj h
    exact rule_onward rfl (by rw [hpc]; rfl) rfl none s.queueLock
  case h_10 hpc =>
    split at h <;> obtain rfl := Option.some.inj h
    · exact honward (by rw [hpc]; rfl) rfl
    · next skb queue hqueue => exact .purge i skb queue hpc hqueue
  all_goals cases h

/-- **Every step is one of the rules.** -/
theorem readStep_rule {ev : ReadEvent} (h : s.readStep ev = some s') :
    ReadRule s ev s' := by
  have honward : ∀ {i p}, ev.arrival = [] → (s.pcs i).emptyHanded = true →
      p.emptyHanded = true → ReadRule s ev (s.goto i p) :=
    fun hev hp hp' ↦ rule_onward hev hp hp' s.ept s.queueLock
  rcases ev with ⟨i, call⟩ | i | i | ⟨i, signal⟩ | i | ⟨buf, allocSkb⟩ | e | - <;>
    simp only [readStep] at h
  · split at h
    · next hpc =>
      obtain rfl := Option.some.inj h
      exact .enter i call hpc
    · cases h
  · split at h
    · next hpc =>
      obtain rfl := Option.some.inj h
      exact honward rfl (by rw [hpc]; rfl) rfl
    · cases h
  · exact next_rule h
  · split at h
    · next hpc =>
      obtain rfl := Option.some.inj h
      exact honward rfl (by rw [hpc]; rfl) rfl
    · cases h
  · split at h
    · next hpc =>
      obtain rfl := Option.some.inj h
      exact honward rfl (by rw [hpc]; rfl) rfl
    · cases h
  · rcases allocSkb with - | -
    · obtain rfl := Option.some.inj h
      exact .setEpt _ s.ept rfl
    · obtain ⟨-, hs⟩ := Option.ite_none_left_eq_some.1 h
      obtain rfl := Option.some.inj hs
      exact .accept buf
  · obtain rfl := Option.some.inj h
    exact .setEpt _ (some e) rfl
  · obtain rfl := Option.some.inj h
    exact .setEpt _ none rfl

end ReadState
