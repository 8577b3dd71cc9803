import DriverModules.Rpmsg.ReadRules

/-!
# Reads that find nothing

`-EFAULT` is for a user's buffer that cannot be written, but `rpmsg_eptdev_read_iter` also returns
it when `skb_dequeue` has found the queue empty. A blocking reader comes there after it has seen a
message, or has seen the endpoint gone and back; neither says that a message is there now. Several
readers wake up for one message, and a purge does not wait for `queue_lock`.

## Main results, and what each rests on

* `readsWell_step_iff`: of a single step. All other errors of a blocking read into a good buffer are
  among those the law allows, which is read off the rules (`returned_of_move`).
* `readsWell_iff`: no blocking read fails for want of a message in a run exactly when each finds one
  at its `skb_dequeue`. `readsWell_one_message` is the run in which two readers wake for one
  message.
-/

open Transition

/-- A blocking read into a buffer that can be written has returned a message, the loss of the
endpoint or a signal. -/
def ReadsWell (s : ReadState) : Prop :=
  ∀ i ret user, s.pcs i = .returned ret user → (s.calls i).nonblock = false →
    (s.calls i).count ≤ (s.calls i).writable →
    (∃ n, ret = .ok n) ∨ ret = .error .EPIPE ∨ ret = .error .ERESTARTSYS

namespace ReadState

variable {s s' : ReadState}

/-- Where such a read calls `skb_dequeue`, the queue holds a message. -/
def FindsMessage (s : ReadState) : ReadEvent → Prop
  | .next i => s.pcs i = .dequeue → (s.calls i).nonblock = false →
    (s.calls i).count ≤ (s.calls i).writable → s.queue ≠ []
  | _ => True

instance (s : ReadState) (ev : ReadEvent) : Decidable (s.FindsMessage ev) :=
  match ev with
  | .next _ => inferInstanceAs (Decidable (_ → _ → _ → _))
  | .read .. | .close _ | .prepared .. | .awake _ | .rpmsgEptCb .. | .opened _ | .destroy =>
    .isTrue trivial

/-- What a context may return without having looked for a message. -/
theorem returned_of_move {call : ReadCall} {p : ReadPc} {ret : Except Errno ℕ} {user : List UInt8}
    (hm : ReadMove call p (.returned ret user)) (hblock : call.nonblock = false)
    (hwritable : call.count ≤ call.writable) :
    (∃ n, ret = .ok n) ∨ ret = .error .EPIPE ∨ ret = .error .ERESTARTSYS := by
  generalize hp' : ReadPc.returned ret user = p' at hm
  rcases hm with ⟨-, hempty⟩ | ⟨-, he⟩ | skb
  · rw [← hp'] at hempty
    cases hempty
  · obtain ⟨rfl, rfl⟩ := ReadPc.returned.inj hp'
    rcases he with rfl | rfl | ⟨rfl, hnonblock⟩
    · exact .inr (.inl rfl)
    · exact .inr (.inr rfl)
    · exact nomatch hblock.symm.trans hnonblock
  · rw [copyOut_of_writable skb hwritable] at hp'
    obtain ⟨rfl, -⟩ := ReadPc.returned.inj hp'
    exact .inl ⟨_, rfl⟩

/-- The calls that have returned, when call `i` goes on to `p`. -/
theorem readsWell_goto (h : ReadsWell s) {i : ℕ} {p : ReadPc} {calls : ℕ → ReadCall}
    (hcalls : ∀ j, j ≠ i → calls j = s.calls j)
    (hp : ∀ ret user, p = .returned ret user → (calls i).nonblock = false →
      (calls i).count ≤ (calls i).writable →
      (∃ n, ret = .ok n) ∨ ret = .error .EPIPE ∨ ret = .error .ERESTARTSYS) :
    ReadsWell { s.goto i p with calls } := by
  intro j ret user hpc hblock hwritable
  rcases eq_or_ne j i with rfl | hne
  · exact hp ret user ((pcs_goto_self (s := s)).symm.trans hpc) hblock hwritable
  · have hcall : calls j = s.calls j := hcalls j hne
    have hpc' : s.pcs j = .returned ret user := (pcs_goto_of_ne hne).symm.trans hpc
    exact h j ret user hpc' (hcall ▸ hblock) (hcall ▸ hwritable)

/-- **One step.** -/
theorem readsWell_step_iff {ev : ReadEvent} (h : ReadsWell s) (hstep : s.readStep ev = some s') :
    ReadsWell s' ↔ s.FindsMessage ev := by
  constructor
  · intro hwell
    rcases ev with - | - | i | - | - | - | - | - <;> try trivial
    intro hpc hblock hwritable hempty
    have hmiss : s' = { s.goto i (.returned (.error .EFAULT) []) with queueLock := none } := by
      simp only [readStep, next, hpc, hempty, Option.some.injEq] at hstep
      exact hstep.symm
    have hret : s'.pcs i = .returned (.error .EFAULT) [] := by rw [hmiss]; exact pcs_goto_self
    have hcalls : s'.calls = s.calls := by rw [hmiss]; rfl
    rcases hwell i _ _ hret (hcalls ▸ hblock) (hcalls ▸ hwritable) with ⟨n, hn⟩ | hn | hn <;>
      cases hn
  · intro hfinds
    rcases readStep_rule hstep with ⟨i, call, hpc⟩ | ⟨_, i, p, ept, queueLock, -, hm⟩ | - | buf |
      ⟨i, skb, queue, hpc, hqueue⟩ | ⟨i, hpc, hqueue⟩ | ⟨i, skb, queue, hpc, hqueue⟩
    · exact readsWell_goto h (fun j hne ↦ Function.update_of_ne hne ..) (by rintro _ _ ⟨⟩)
    · refine readsWell_goto h (fun _ _ ↦ rfl) ?_
      rintro ret user rfl
      exact returned_of_move hm
    · exact h
    · exact h
    · exact readsWell_goto h (fun _ _ ↦ rfl) (by rintro _ _ ⟨⟩)
    · exact readsWell_goto h (fun _ _ ↦ rfl)
        fun _ _ _ hblock hwritable ↦ absurd hqueue (hfinds hpc hblock hwritable)
    · exact h

/-- **No blocking read fails for want of a message exactly when each finds one at its
`skb_dequeue`.** -/
theorem readsWell_iff (e : EptId) (evs : List ReadEvent) (s : ReadState)
    (h : run readStep (opened e) evs = some s) :
    Throughout readStep (fun _ ↦ ReadsWell) (opened e) evs ↔
      Meets readStep FindsMessage (opened e) evs :=
  throughout_iff_meets (fun _ _ _ hpc ↦ by cases hpc)
    (fun _ _ hwell hstep ↦ readsWell_step_iff hwell hstep) h

/-- Two sleeping readers and two messages, the second one just in time. -/
theorem readsWell_two_messages :
    ∃ s, run readStep (opened 0)
        [.read 0 ⟨false, 8, 8⟩, .next 0, .next 0, .next 0, .next 0, .prepared 0 false, .next 0,
          .next 0, .read 1 ⟨false, 8, 8⟩, .next 1, .next 1, .next 1, .next 1, .prepared 1 false,
          .next 1, .next 1, .rpmsgEptCb [1, 2, 3] true, .awake 0, .awake 1, .prepared 0 false,
          .prepared 1 false, .next 0, .next 1, .next 0, .next 1, .next 0, .next 0, .next 0,
          .rpmsgEptCb [4] true, .next 1, .next 1, .next 1] = some s ∧
      s.pcs 0 = .returned (.ok 3) [1, 2, 3] ∧ s.pcs 1 = .returned (.ok 1) [4] ∧
      Throughout readStep (fun _ ↦ ReadsWell) (opened 0)
        [.read 0 ⟨false, 8, 8⟩, .next 0, .next 0, .next 0, .next 0, .prepared 0 false, .next 0,
          .next 0, .read 1 ⟨false, 8, 8⟩, .next 1, .next 1, .next 1, .next 1, .prepared 1 false,
          .next 1, .next 1, .rpmsgEptCb [1, 2, 3] true, .awake 0, .awake 1, .prepared 0 false,
          .prepared 1 false, .next 0, .next 1, .next 0, .next 1, .next 0, .next 0, .next 0,
          .rpmsgEptCb [4] true, .next 1, .next 1, .next 1] := by
  obtain ⟨s, hs, hread⟩ := Option.map_eq_some_iff.1 (show Option.map
    (fun s ↦ (s.pcs 0, s.pcs 1)) (runIf readStep (fun s ev ↦ decide (s.FindsMessage ev)) (opened 0)
      [.read 0 ⟨false, 8, 8⟩, .next 0, .next 0, .next 0, .next 0, .prepared 0 false, .next 0,
        .next 0, .read 1 ⟨false, 8, 8⟩, .next 1, .next 1, .next 1, .next 1, .prepared 1 false,
        .next 1, .next 1, .rpmsgEptCb [1, 2, 3] true, .awake 0, .awake 1, .prepared 0 false,
        .prepared 1 false, .next 0, .next 1, .next 0, .next 1, .next 0, .next 0, .next 0,
        .rpmsgEptCb [4] true, .next 1, .next 1, .next 1]) =
    some (.returned (.ok 3) [1, 2, 3], .returned (.ok 1) [4]) by decide +kernel)
  obtain ⟨hfirst, hsecond⟩ := Prod.mk.inj hread
  have hrun := run_of_runIf hs
  exact ⟨s, hrun, hfirst, hsecond, (readsWell_iff 0 _ s hrun).2
    (meets_of_runIf (fun _ _ hfinds ↦ of_decide_eq_true hfinds) hs)⟩

/-- Two sleeping readers and one message: both wake up and see it, and the second to dequeue gets
`-EFAULT`. -/
theorem readsWell_one_message :
    ∃ s, run readStep (opened 0)
        [.read 0 ⟨false, 8, 8⟩, .next 0, .next 0, .next 0, .next 0, .prepared 0 false, .next 0,
          .next 0, .read 1 ⟨false, 8, 8⟩, .next 1, .next 1, .next 1, .next 1, .prepared 1 false,
          .next 1, .next 1, .rpmsgEptCb [1, 2, 3] true, .awake 0, .awake 1, .prepared 0 false,
          .prepared 1 false, .next 0, .next 1, .next 0, .next 1, .next 0, .next 0, .next 0,
          .next 1, .next 1] = some s ∧
      s.pcs 0 = .returned (.ok 3) [1, 2, 3] ∧ s.pcs 1 = .returned (.error .EFAULT) [] ∧
      ¬ ReadsWell s := by
  obtain ⟨s, hs, hread⟩ := Option.map_eq_some_iff.1 (show Option.map
    (fun s ↦ (s.pcs 0, s.pcs 1, s.calls 1)) (run readStep (opened 0)
      [.read 0 ⟨false, 8, 8⟩, .next 0, .next 0, .next 0, .next 0, .prepared 0 false, .next 0,
        .next 0, .read 1 ⟨false, 8, 8⟩, .next 1, .next 1, .next 1, .next 1, .prepared 1 false,
        .next 1, .next 1, .rpmsgEptCb [1, 2, 3] true, .awake 0, .awake 1, .prepared 0 false,
        .prepared 1 false, .next 0, .next 1, .next 0, .next 1, .next 0, .next 0, .next 0,
        .next 1, .next 1]) =
    some (.returned (.ok 3) [1, 2, 3], .returned (.error .EFAULT) [], ⟨false, 8, 8⟩)
    by decide +kernel)
  obtain ⟨hfirst, hread⟩ := Prod.mk.inj hread
  obtain ⟨hsecond, hcall⟩ := Prod.mk.inj hread
  refine ⟨s, hs, hfirst, hsecond, fun hwell ↦ ?_⟩
  rcases hwell 1 _ _ hsecond (by rw [hcall]) (by rw [hcall]) with ⟨n, hn⟩ | hn | hn <;> cases hn

end ReadState
