import DriverModules.Rpmsg.ReadRules
import Mathlib.Data.Set.Subsingleton

/-!
# Messages in order, and each to one reader

Whatever the readers, the arrivals and the closes do in between, the queue of an endpoint device
only ever grows at its back and shrinks at its front, one message at a time: `skb_dequeue` and
`skb_queue_purge` both take the first. So its history is that of a first-in first-out queue, and
what is left is that a reader returns the message it took.

## Main results, and what each rests on

* `FifoInv.step`: one step. The account of what was accepted, taken and queued (`Fifo.Account`) is
  of queues in general; what a call has taken and what it has returned go together (`Reported`),
  which is the part that is about readers.
* `readFifo_of_run`: order, at most once, no skip but by a purge, and one message for one call. That
  no message goes to two calls rests on the accepted messages being distinct, and they are because
  each has its own id and not because of what they contain.
-/

open Transition Fifo

/-- The readers take the messages in the order of arrival, each message goes to one call, one that
was passed over was purged, and a read that succeeds has delivered as much of its message as
fits. -/
structure ReadFifo (s : ReadState) : Prop where
  distinct : s.accepted.Nodup
  order : List.Sublist (takenBy Taker.isRead s.taken) s.accepted
  once : ∀ skb i j, (skb, Taker.read i) ∈ s.taken → (skb, Taker.read j) ∈ s.taken → i = j
  oneEach : ∀ skb skb' i, (skb, Taker.read i) ∈ s.taken → (skb', Taker.read i) ∈ s.taken →
    skb = skb'
  noSkip : ∀ first skb i rest, s.taken = first ++ (skb, Taker.read i) :: rest →
    ∀ skb', List.Sublist [skb', skb] s.accepted →
      (∃ j, (skb', Taker.read j) ∈ first) ∨ ∃ j, (skb', Taker.purge j) ∈ first
  report : ∀ i n user, s.pcs i = .returned (.ok n) user →
    ∃ skb, (skb, Taker.read i) ∈ s.taken ∧ n = min (s.calls i).count skb.data.length ∧
      user = skb.data.take n

/-- What a call has taken and what it has returned go together. -/
def Reported (call : ReadCall) (took : Set Skb) : ReadPc → Prop
  | .copy skb => took = {skb}
  | .returned (.ok n) user =>
    ∃ skb, took = {skb} ∧ n = min call.count skb.data.length ∧ user = skb.data.take n
  | .returned (.error _) _ => took.Subsingleton
  | _ => took = ∅

theorem reported_of_emptyHanded {call : ReadCall} {took : Set Skb} {p : ReadPc}
    (hp : p.emptyHanded = true) : Reported call took p ↔ took = ∅ := by
  cases p <;> first | rfl | cases hp

theorem reported_copyOut (call : ReadCall) (skb : Skb) :
    Reported call {skb} (ReadState.copyOut call skb) := by
  unfold ReadState.copyOut
  dsimp only
  split
  · exact ⟨skb, rfl, rfl, rfl⟩
  · exact Set.subsingleton_singleton

/-- A call takes one message at most. -/
theorem Reported.subsingleton {call : ReadCall} {took : Set Skb} {p : ReadPc}
    (h : Reported call took p) : took.Subsingleton := by
  match p, h with
  | .copy _, h => exact (show took = _ from h) ▸ Set.subsingleton_singleton
  | .returned (.ok _) _, ⟨_, htook, _⟩ => exact htook ▸ Set.subsingleton_singleton
  | .returned (.error _) _, h => exact h
  | .idle, h | .testEpt, h | .lockTest, h | .waitQueue _, h | .waitEpt _, h | .prepare, h
  | .asleep, h | .testLost, h | .relock, h | .dequeue, h | .closeEpt, h | .purge, h
  | .closed, h => exact (show took = ∅ from h) ▸ Set.subsingleton_empty

/-- A context moves on. -/
theorem ReadMove.reported {call : ReadCall} {took : Set Skb} {p p' : ReadPc}
    (hm : ReadMove call p p') (h : Reported call took p) : Reported call took p' := by
  rcases hm with ⟨hp, hp'⟩ | ⟨hp, -⟩ | skb
  · exact (reported_of_emptyHanded hp').2 ((reported_of_emptyHanded hp).1 h)
  · obtain rfl := (reported_of_emptyHanded hp).1 h
    exact Set.subsingleton_empty
  · obtain rfl : took = {skb} := h
    exact reported_copyOut call skb

theorem ReadRule.accepted {s s' : ReadState} {ev : ReadEvent} (h : ReadRule s ev s') :
    s'.accepted.map Skb.data = s.accepted.map Skb.data ++ ev.arrival := by
  rcases h with - | ⟨_, _, _, _, _, hev, -⟩ | ⟨_, _, hev⟩ | buf
  case accept => exact List.map_append
  case move | setEpt =>
    rw [hev]
    exact (List.append_nil _).symm
  all_goals exact (List.append_nil _).symm

namespace ReadState

variable {s s' : ReadState} {i : ℕ}

/-- The messages call `i` has taken. -/
def took (s : ReadState) (i : ℕ) : Set Skb :=
  {skb | (skb, Taker.read i) ∈ s.taken}

/-- The queue and its history agree, and so do the readers. -/
structure FifoInv (s : ReadState) : Prop where
  account : Account s.accepted s.taken s.queue
  fresh : ∀ skb ∈ s.accepted, skb.id < s.nextSkb
  distinct : s.accepted.Nodup
  reported : ∀ i, Reported (s.calls i) (s.took i) (s.pcs i)

theorem fifoInv_opened (e : EptId) : (opened e).FifoInv where
  account := account_empty
  fresh _ h := by cases h
  distinct := List.nodup_nil
  reported _ := Set.eq_empty_iff_forall_notMem.2 fun _ h ↦ by cases h

theorem FifoInv.fifo (h : s.FifoInv) : ReadFifo s where
  distinct := h.distinct
  order := h.account.takenBy_sublist _
  once skb i j hi hj := Taker.read.inj (h.account.taker_unique h.distinct hi hj)
  oneEach skb skb' i hskb hskb' := (h.reported i).subsingleton hskb hskb'
  noSkip first skb i rest htaken skb' hbefore := by
    obtain ⟨j | j, hmem⟩ := h.account.taken_before h.distinct htaken hbefore
    · exact .inl ⟨j, hmem⟩
    · exact .inr ⟨j, hmem⟩
  report i n user hpc := by
    have hrep := h.reported i
    rw [hpc] at hrep
    obtain ⟨skb, htook, hn, huser⟩ := hrep
    have hmem : skb ∈ s.took i := by rw [htook]; exact rfl
    exact ⟨skb, hmem, hn, huser⟩

/-- A step that touches neither the queue nor its history. -/
theorem FifoInv.quiet (h : s.FifoInv) (haccepted : s'.accepted = s.accepted)
    (htaken : s'.taken = s.taken) (hqueue : s'.queue = s.queue) (hnext : s'.nextSkb = s.nextSkb)
    (hrep : ∀ i, Reported (s'.calls i) (s.took i) (s'.pcs i)) : s'.FifoInv where
  account := by
    rw [haccepted, htaken, hqueue]
    exact h.account
  fresh := by
    rw [haccepted, hnext]
    exact h.fresh
  distinct := haccepted ▸ h.distinct
  reported i := by
    have htook : s'.took i = s.took i := by rw [took, htaken]; rfl
    rw [htook]
    exact hrep i

theorem took_append_self (skb : Skb) (hempty : s.took i = ∅)
    (htaken : s'.taken = s.taken ++ [(skb, .read i)]) : s'.took i = {skb} := by
  ext skb'
  have hnot : (skb', Taker.read i) ∉ s.taken := fun hmem ↦
    Set.notMem_empty skb' (hempty ▸ (show skb' ∈ s.took i from hmem))
  simp only [took, htaken, Set.mem_ofPred_eq, List.mem_append, hnot, false_or, List.mem_singleton,
    Prod.mk.injEq, and_true, Set.mem_singleton_iff]

theorem took_append_of_ne (skb : Skb) {t : Taker} (hne : t ≠ .read i)
    (htaken : s'.taken = s.taken ++ [(skb, t)]) : s'.took i = s.took i := by
  ext skb'
  simp [took, htaken, hne.symm]

/-- What the other calls have is as it was when call `i` goes on to `p`. -/
theorem FifoInv.reported_goto (h : s.FifoInv) {p : ReadPc} {took : ℕ → Set Skb}
    (hothers : ∀ j, j ≠ i → took j = s.took j) (hself : Reported (s.calls i) (took i) p) (j : ℕ) :
    Reported (s.calls j) (took j) ((s.goto i p).pcs j) := by
  rcases eq_or_ne j i with rfl | hne
  · rw [pcs_goto_self]
    exact hself
  · rw [pcs_goto_of_ne hne, hothers j hne]
    exact h.reported j

/-- **Every step keeps the history that of a first-in first-out queue.** -/
theorem FifoInv.step {ev : ReadEvent} (h : s.FifoInv) (hstep : s.readStep ev = some s') :
    s'.FifoInv := by
  rcases readStep_rule hstep with ⟨i, call, hpc⟩ | ⟨_, i, p, ept, queueLock, -, hm⟩ | - | buf |
    ⟨i, skb, queue, hpc, hqueue⟩ | ⟨i, hpc, hqueue⟩ | ⟨i, skb, queue, hpc, hqueue⟩
  · -- the arguments of an idle context change
    have hidle : s.took i = ∅ := (reported_of_emptyHanded (by rw [hpc]; rfl)).1 (h.reported i)
    refine h.quiet rfl rfl rfl rfl fun j ↦ ?_
    rcases eq_or_ne j i with rfl | hne
    · rw [pcs_goto_self]
      exact hidle
    · rw [pcs_goto_of_ne hne]
      have hcall : ((s.setCall i call).goto i .testEpt).calls j = s.calls j :=
        Function.update_of_ne hne ..
      rw [hcall]
      exact h.reported j
  · exact h.quiet rfl rfl rfl rfl (h.reported_goto (fun _ _ ↦ rfl) (hm.reported (h.reported i)))
  · exact h.quiet rfl rfl rfl rfl h.reported
  · have hnew : (⟨s.nextSkb, buf⟩ : Skb) ∉ s.accepted := fun hmem ↦ lt_irrefl _ (h.fresh _ hmem)
    refine ⟨h.account.accept _, fun skb hmem ↦ ?_, ?_, h.reported⟩
    · rcases List.mem_append.1 hmem with hmem | hmem
      · exact (h.fresh skb hmem).trans (Nat.lt_succ_self _)
      · rw [List.mem_singleton.1 hmem]
        exact Nat.lt_succ_self _
    · exact List.nodup_append_comm.1 (List.nodup_cons.2 ⟨hnew, h.distinct⟩)
  · have hempty : s.took i = ∅ := (reported_of_emptyHanded (by rw [hpc]; rfl)).1 (h.reported i)
    refine ⟨(hqueue ▸ h.account).take _, h.fresh, h.distinct, h.reported_goto (fun j hne ↦ ?_) ?_⟩
    · exact took_append_of_ne skb (fun heq ↦ hne (Taker.read.inj heq).symm) rfl
    · exact took_append_self skb hempty rfl
  · have hempty : s.took i = ∅ := (reported_of_emptyHanded (by rw [hpc]; rfl)).1 (h.reported i)
    exact h.quiet rfl rfl rfl rfl
      (h.reported_goto (fun _ _ ↦ rfl) (hempty ▸ Set.subsingleton_empty))
  · refine ⟨(hqueue ▸ h.account).take _, h.fresh, h.distinct, fun j ↦ ?_⟩
    have htook : took { s with queue, taken := s.taken ++ [(skb, .purge i)] } j = s.took j :=
      took_append_of_ne skb (t := .purge i) nofun rfl
    rw [htook]
    exact h.reported j

/-- **First in, first out, and to one reader only**; and what was accepted is what arrived while
there was memory for it. -/
theorem readFifo_of_run (e : EptId) (evs : List ReadEvent) (s : ReadState)
    (h : run readStep (opened e) evs = some s) :
    ReadFifo s ∧ s.accepted.map Skb.data = evs.flatMap ReadEvent.arrival := by
  constructor
  · exact ((reachable_of_run h).invariant (fifoInv_opened e)
      fun _ hinv _ hstep ↦ hinv.step hstep).fifo
  · induction evs using List.reverseRecOn generalizing s with
    | nil =>
      obtain rfl := Option.some.inj h
      rfl
    | append_singleton evs ev ih =>
      obtain ⟨s₁, hs₁, hstep⟩ := run_concat h
      rw [(readStep_rule hstep).accepted, ih s₁ hs₁, List.flatMap_append, List.flatMap_singleton]

/-- A reader that slept takes the first of three messages, as far as its buffer reaches; a close
purges the second between the test and the `skb_dequeue` of another reader, which gets the third. -/
theorem readFifo_purged :
    ∃ s, run readStep (opened 0)
        [.read 0 ⟨false, 2, 2⟩, .next 0, .next 0, .next 0, .next 0, .prepared 0 false, .next 0,
          .next 0, .rpmsgEptCb [1, 2, 3] true, .rpmsgEptCb [4, 5] true, .rpmsgEptCb [6] true,
          .awake 0, .prepared 0 false, .next 0, .next 0, .next 0, .next 0, .next 0,
          .read 1 ⟨true, 10, 10⟩, .next 1, .next 1, .close 2, .next 2, .next 2, .next 1,
          .next 1] = some s ∧
      s.pcs 0 = .returned (.ok 2) [1, 2] ∧ s.pcs 1 = .returned (.ok 1) [6] ∧
      s.taken = [(⟨0, [1, 2, 3]⟩, .read 0), (⟨1, [4, 5]⟩, .purge 2), (⟨2, [6]⟩, .read 1)] ∧
      ReadFifo s := by
  obtain ⟨s, hs, hread⟩ := Option.map_eq_some_iff.1 (show Option.map
    (fun s ↦ (s.pcs 0, s.pcs 1, s.taken)) (run readStep (opened 0)
      [.read 0 ⟨false, 2, 2⟩, .next 0, .next 0, .next 0, .next 0, .prepared 0 false, .next 0,
        .next 0, .rpmsgEptCb [1, 2, 3] true, .rpmsgEptCb [4, 5] true, .rpmsgEptCb [6] true,
        .awake 0, .prepared 0 false, .next 0, .next 0, .next 0, .next 0, .next 0,
        .read 1 ⟨true, 10, 10⟩, .next 1, .next 1, .close 2, .next 2, .next 2, .next 1, .next 1]) =
    some (.returned (.ok 2) [1, 2], .returned (.ok 1) [6],
      [(⟨0, [1, 2, 3]⟩, .read 0), (⟨1, [4, 5]⟩, .purge 2), (⟨2, [6]⟩, .read 1)])
    by decide +kernel)
  obtain ⟨hfirst, hread⟩ := Prod.mk.inj hread
  obtain ⟨hsecond, htaken⟩ := Prod.mk.inj hread
  exact ⟨s, hs, hfirst, hsecond, htaken, (readFifo_of_run 0 _ s hs).1⟩

end ReadState
