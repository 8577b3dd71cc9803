import DriverModules.Lib.WaitQueue
import DriverModules.Rpmsg.TxFailures
import DriverModules.Rpmsg.TxSleepers

/-!
# A sender that sleeps

A sender that finds no TX buffer queues itself on `sendq`, tests once more, and sleeps.
`rpmsg_xmit_done`, the callback of the TX virtqueue, wakes the whole queue; it runs when the remote
has reported a buffer back while the callbacks were enabled. `WakeState` is the TX side with that
interrupt and the wake-ups.

The wake-up is not lost: a sender that sleeps and was not woken has a reason (`sleepsRight_of_run`).
Either the interrupt is pending, or every TX buffer is with the remote, in the hands of another
sender, or lost by an add that failed.

## Main results, and what each rests on

* `WakeInv.tx_step`: one step of the senders. Whoever is on `sendq` without a buffer has turned the
  callbacks on before it looked (`SleepersInv`), so a buffer that comes back raises the interrupt.
  Fresh buffers come first: a caller looks for a used one only when they have run out
  (`RecyclesLate`), and then they do not come again.
* `sleepsRight_of_run`: the reasons. The first rests on `Heeds`, as for the readers in `ReadWake`;
  the second is the account of `TxFailures` with nothing fresh and nothing used in it.
-/

open Transition Counting WaitQueue

/-- The TX side, the interrupt of its virtqueue, and who was woken since he queued himself. -/
structure WakeState where
  tx : TxState
  /-- The callback is to run. -/
  irq : Bool
  woken : ℕ → Bool

inductive WakeEvent
  | tx (ev : TxEvent)
  | rpmsgXmitDone

namespace WakeState

def probed (calls : ℕ → SendCall) : WakeState where
  tx := .probed calls
  irq := false
  woken _ := true

/-- The remote interrupts when it reports a buffer back and the callbacks are enabled. -/
def raise (w : WakeState) : TxEvent → Bool
  | .consume _ => w.irq || w.tx.cbEnabled
  | .call .. | .next _ | .prepared .. | .awake .. | .added .. => w.irq

/-- `prepare_to_wait_event` queues the caller, to be woken from then on. -/
def queue (w : WakeState) : TxEvent → ℕ → Bool
  | .prepared i _ => Function.update w.woken i false
  | .call .. | .next _ | .awake .. | .added .. | .consume _ => w.woken

def step (L : BufLayout) (vringNum : ℕ) (w : WakeState) : WakeEvent → Option WakeState
  | .tx ev => (w.tx.txStep L vringNum ev).map fun tx ↦
    { tx, irq := w.raise ev, woken := w.queue ev }
  | .rpmsgXmitDone => if w.irq then some { w with irq := false, woken := fun _ ↦ true } else none

end WakeState

namespace TxPc

/-- The caller is on `sendq` and has found no buffer. -/
def committed : TxPc → Bool
  | getUnlock (.looped _ _) none | asleep => true
  | _ => false

end TxPc

/-- There is a buffer for the next caller: one that was never used, or one to recycle. -/
def BufReady (L : BufLayout) (s : TxState) : Prop :=
  s.lastSbuf < L.numBufs / 2 ∨ s.svq.used ≠ []

/-- Caller `i` has found no buffer and was not woken. -/
def WakeState.Missed (w : WakeState) (i : ℕ) : Prop :=
  (w.tx.pc i).committed = true ∧ w.woken i = false

variable {n va vringNum : ℕ} {L : BufLayout} {s s' : TxState} {w w' : WakeState}

/-! ### Which steps matter -/

theorem TxPc.counted_of_committed {p : TxPc} (h : p.committed = true) :
    p.counted = true ∧ p ≠ .upEnable := by
  rcases p with - | site | site | ⟨site, k⟩ | site | ⟨site, ret⟩ | - | - | - | - | expired | - |
    ⟨t, msg⟩ | ⟨t, msg⟩ | ⟨t, msg⟩ | ⟨t, msg⟩ | msg | msg | msg | - | err | ret
  case getUnlock =>
    rcases site with - | - | ⟨interrupted, expired⟩
    · cases h
    · cases h
    · exact ⟨rfl, by simp⟩
  case asleep => exact ⟨rfl, by simp⟩
  all_goals cases h

theorem LockMove.committed {p p' : TxPc} (h : LockMove p p') : p'.committed = false := by
  cases h <;> rfl

theorem WaitMove.committed {t : Bool} {msg : Option ℕ} {p : TxPc} (h : WaitMove t msg p) :
    p.committed = false := by
  cases h <;> rfl

/-- A caller goes to sleep only after it has found no buffer. -/
theorem GetMove.committed {site : GetSite} {ret : Option ℕ} {p : TxPc} (h : GetMove site ret p)
    (hp : p.committed = true) : (TxPc.getUnlock site ret).committed = true := by
  cases h <;> first | rfl | cases hp

theorem UnlockMove.committed {wait : Bool} {p p' : TxPc} (h : UnlockMove wait p p')
    (hp : p'.committed = true) : p.committed = true := by
  cases h with
  | get site ret => exact (getMove wait site ret).committed hp
  | up => cases hp
  | down t msg =>
    rw [(waitMove t msg).committed] at hp
    cases hp
  | add r => cases hp

/-- Nothing is there when a caller finds no buffer. -/
theorem LocalMove.committed {p p' : TxPc} (h : LocalMove L s p p') (hp : p'.committed = true) :
    (∃ site, p = .getRecycle site) ∧ s.svq.used = [] := by
  cases h with
  | noneUsed site hnone => exact ⟨⟨site, rfl⟩, Virtqueue.getBuf_eq_none.1 hnone⟩
  | _ => cases hp

/-- A caller recycles only after the fresh buffers have run out. -/
def RecyclesLate (L : BufLayout) (s : TxState) : Prop :=
  ∀ i site, s.pc i = .getRecycle site → ¬ s.lastSbuf < L.numBufs / 2

theorem LockMove.ne_getRecycle {p p' : TxPc} (h : LockMove p p') (site : GetSite) :
    p' ≠ .getRecycle site := by
  cases h <;> simp

theorem UnlockMove.ne_getRecycle {wait : Bool} {p p' : TxPc} (h : UnlockMove wait p p')
    (site : GetSite) : p' ≠ .getRecycle site := by
  rintro rfl
  cases h.inSection.2

/-- A step that moves caller `i` somewhere else than to the recycling. -/
theorem RecyclesLate.goto (h : RecyclesLate L s) {i : ℕ} {p : TxPc}
    (hpc : ∀ j, s'.pc j = if j = i then p else s.pc j) (hlast : s.lastSbuf ≤ s'.lastSbuf)
    (hp : ∀ site, p = .getRecycle site → ¬ s.lastSbuf < L.numBufs / 2) : RecyclesLate L s' := by
  intro j site hj
  rw [hpc j] at hj
  split at hj
  · have := hp site hj
    omega
  · have := h j site hj
    omega

theorem RecyclesLate.step (h : RecyclesLate L s) (hinv : TxInv L s)
    (hr : TxRule L vringNum s s') : RecyclesLate L s' := by
  have hgoto : ∀ i p j, (s.goto i p).pc j = if j = i then p else s.pc j :=
    fun i p j ↦ s.pc_goto i j p
  cases hr with
  | call i c p hcan hp =>
    refine h.goto (s.pc_setCall_goto i · p c) le_rfl fun site hsite ↦ ?_
    rcases hp with rfl | ⟨e, rfl⟩ <;> cases hsite
  | lock i p hm hfree =>
    exact h.goto (hgoto i p) le_rfl fun site hsite ↦ absurd hsite (hm.ne_getRecycle site)
  | unlock i p hm =>
    exact h.goto (hgoto i p) le_rfl fun site hsite ↦ absurd hsite (hm.ne_getRecycle site)
  | goto i p hm =>
    refine h.goto (hgoto i p) le_rfl fun site hsite ↦ ?_
    subst hsite
    cases hpc : s.pc i <;> rw [hpc] at hm <;> cases hm
    assumption
  | bump i site k hpc =>
    obtain ⟨rfl, -⟩ := hinv.bump i site k hpc
    exact h.goto (hgoto i _) (Nat.le_succ _) nofun
  | recycle i site b svq hpc hget => exact h.goto (hgoto i _) le_rfl nofun
  | upInc i p hpc hp =>
    refine h.goto (hgoto i p) le_rfl fun site hsite ↦ ?_
    rw [hsite] at hp
    split at hp <;> cases hp
  | upEnable i hpc => exact h.goto (hgoto i _) le_rfl nofun
  | downDec i t msg p hpc hp =>
    refine h.goto (hgoto i p) le_rfl fun site hsite ↦ ?_
    rw [hsite] at hp
    split at hp <;> cases hp
  | downDisable i t msg hpc => exact h.goto (hgoto i _) le_rfl nofun
  | fill i b hpc => exact h.goto (hgoto i _) le_rfl nofun
  | post i b hpc hfree => exact h.goto (hgoto i _) le_rfl nofun
  | consume b svq hsvq => exact h

/-- **A caller that goes on to sleep has found no buffer before, or there is none.** -/
theorem committed_step (hr : TxRule L vringNum s s') (hlate : RecyclesLate L s) {j : ℕ}
    (hj : (s'.pc j).committed = true) : (s.pc j).committed = true ∨ ¬ BufReady L s' := by
  have hmove : ∀ i p, (∀ j, s'.pc j = if j = i then p else s.pc j) →
      (p.committed = true → (s.pc i).committed = true ∨ ¬ BufReady L s') →
      (s.pc j).committed = true ∨ ¬ BufReady L s' := by
    intro i p hpc hp
    rw [hpc j] at hj
    split at hj
    · next hji => exact hji ▸ hp hj
    · exact .inl hj
  have hgoto : ∀ i p j, (s.goto i p).pc j = if j = i then p else s.pc j :=
    fun i p j ↦ s.pc_goto i j p
  cases hr with
  | call i c p hcan hp =>
    refine hmove i p (s.pc_setCall_goto i · p c) fun hp' ↦ ?_
    rcases hp with rfl | ⟨e, rfl⟩ <;> cases hp'
  | lock i p hm hfree =>
    refine hmove i p (hgoto i p) fun hp ↦ ?_
    rw [hm.committed] at hp
    cases hp
  | unlock i p hm => exact hmove i p (hgoto i p) fun hp ↦ .inl (hm.committed hp)
  | goto i p hm =>
    refine hmove i p (hgoto i p) fun hp ↦ .inr ?_
    obtain ⟨⟨site, hpc⟩, hused⟩ := hm.committed hp
    exact not_or.2 ⟨hlate i site hpc, not_not.2 hused⟩
  | bump i site k hpc => exact hmove i _ (hgoto i _) fun hp ↦ by cases site <;> cases hp
  | recycle i site b svq hpc hget =>
    exact hmove i _ (hgoto i _) fun hp ↦ by cases site <;> cases hp
  | upInc i p hpc hp =>
    refine hmove i p (hgoto i p) fun hp' ↦ ?_
    rw [hp] at hp'
    split at hp' <;> cases hp'
  | upEnable i hpc => exact hmove i _ (hgoto i _) fun hp ↦ by cases hp
  | downDec i t msg p hpc hp =>
    refine hmove i p (hgoto i p) fun hp' ↦ ?_
    rw [hp] at hp'
    split at hp' <;> cases hp'
  | downDisable i t msg hpc => exact hmove i _ (hgoto i _) fun hp ↦ by cases hp
  | fill i b hpc => exact hmove i _ (hgoto i _) fun hp ↦ by cases hp
  | post i b hpc hfree => exact hmove i _ (hgoto i _) fun hp ↦ by cases hp
  | consume b svq hsvq => exact .inl hj

/-- **Only the remote makes buffers ready.** -/
theorem bufReady_step (hr : TxRule L vringNum s s') (hinv : TxInv L s)
    (hused : s'.svq.used.length ≤ s.svq.used.length) (h : BufReady L s') : BufReady L s := by
  have hlen : s'.svq.used ≠ [] → s.svq.used ≠ [] := by
    intro hne heq
    rw [heq] at hused
    exact hne (List.eq_nil_of_length_eq_zero (Nat.le_zero.1 hused))
  refine h.imp (fun hlt ↦ ?_) hlen
  cases hr with
  | bump i site k hpc =>
    obtain ⟨rfl, hlt'⟩ := hinv.bump i site k hpc
    exact hlt'
  | _ => exact hlt

theorem TxState.used_next {i : ℕ} (h : s.next L i = some s') :
    s'.svq.used.length ≤ s.svq.used.length := by
  have hlock : ∀ {p}, s.lock i p = some s' → s'.svq.used.length ≤ s.svq.used.length := by
    intro p hl
    obtain ⟨-, rfl⟩ := TxState.lock_eq_some hl
    exact le_rfl
  unfold TxState.next at h
  split at h
  case h_4 =>
    split at h
    · obtain rfl := Option.some.inj h
      exact le_rfl
    · next b svq hget =>
      obtain rfl := Option.some.inj h
      show svq.used.length ≤ _
      rw [(Virtqueue.getBuf_eq_some.1 hget).1, List.length_cons]
      exact Nat.le_succ _
  all_goals
    first
    | exact hlock h
    | (obtain rfl := Option.some.inj h; exact le_rfl)
    | cases h

theorem TxState.used_txStep {ev : TxEvent} (h : s.txStep L vringNum ev = some s')
    (hne : ∀ b, ev ≠ .consume b) : s'.svq.used.length ≤ s.svq.used.length := by
  obtain ⟨j, c, p, rfl, -, rfl, -⟩ | ⟨j, rfl, hs⟩ | ⟨j, signal, expired, rfl, -, rfl⟩ |
    ⟨j, expired, rfl, -, rfl⟩ | ⟨j, b, e, rfl, -, rfl⟩ | ⟨j, b, rfl, -, -, rfl⟩ |
    ⟨b, svq, rfl, -⟩ := TxState.txStep_cases h
  case inr.inl => exact TxState.used_next hs
  case inr.inr.inr.inr.inr.inr => exact absurd rfl (hne b)
  all_goals exact le_rfl

/-- A caller that was just queued has its test ahead. -/
theorem TxState.pc_prepared {i : ℕ} {signal : Bool}
    (h : s.txStep L vringNum (.prepared i signal) = some s') :
    ∃ expired, s'.pc i = .getLock (.looped signal expired) := by
  simp only [TxState.txStep] at h
  split at h
  · next expired _ =>
    obtain rfl := Option.some.inj h
    exact ⟨expired, s.pc_goto_self i _⟩
  · cases h

/-! ### Every run -/

/-- No wake-up is lost. -/
structure WakeInv (L : BufLayout) (w : WakeState) : Prop where
  late : RecyclesLate L w.tx
  heeds : Heeds (BufReady L w.tx) (w.irq = true) w.Missed

theorem wakeInv_probed (calls : ℕ → SendCall) : WakeInv L (.probed calls) where
  late i site h := by cases h
  heeds := heeds_of_none fun i h ↦ by cases h.1

/-- A step among the senders. -/
theorem WakeInv.tx_step (h : WakeInv L w) (hinv : TxInv L w.tx) (hsleepers : SleepersInv w.tx)
    {ev : TxEvent} (hs : w.tx.txStep L vringNum ev = some s') :
    WakeInv L { tx := s', irq := w.raise ev, woken := w.queue ev } := by
  have hrule := txStep_rule hs
  refine ⟨h.late.step hinv hrule, ?_⟩
  by_cases hconsume : ∃ b, ev = .consume b
  · obtain ⟨b, rfl⟩ := hconsume
    obtain ⟨svq, -, rfl⟩ := Option.map_eq_some_iff.1 hs
    rcases hcb : w.tx.cbEnabled with - | -
    · -- nobody waits
      refine heeds_of_none fun i hi ↦ ?_
      obtain ⟨hcounted, hne⟩ := TxPc.counted_of_committed hi.1
      exact absurd ((hsleepers.cbEnabled_of_counted hcounted hne).symm.trans hcb) (by decide)
    · exact heeds_of_coming (by simp [WakeState.raise, hcb])
  · have hne : ∀ b, ev ≠ .consume b := fun b hb ↦ hconsume ⟨b, hb⟩
    by_cases hready : BufReady L s'
    · refine h.heeds.mono (bufReady_step hrule hinv (TxState.used_txStep hs hne)) ?_ fun i hi ↦ ?_
      · rcases ev with - | - | - | - | - | b
        case consume => exact absurd rfl (hne b)
        all_goals exact id
      · obtain ⟨hpc, hwoken⟩ := hi
        rcases committed_step hrule h.late hpc with hold | hnot
        · refine ⟨hold, ?_⟩
          rcases ev with ⟨j, c⟩ | j | ⟨j, signal⟩ | ⟨j, expired⟩ | ⟨j, ret⟩ | b
          case prepared =>
            rcases eq_or_ne i j with rfl | hij
            · -- it has yet to test
              obtain ⟨expired, hlock⟩ := TxState.pc_prepared hs
              rw [hlock] at hpc
              cases hpc
            · exact (Function.update_of_ne hij ..).symm.trans hwoken
          all_goals exact hwoken
        · exact absurd hready hnot
    · exact heeds_of_not hready

theorem WakeState.reachable_tx {C : WakeState → WakeEvent → Prop} {calls : ℕ → SendCall}
    (h : Reaches (WakeState.step L vringNum) C (.probed calls) w) :
    Reachable (TxState.txStep L vringNum) (.probed calls) w.tx := by
  refine h.project WakeState.tx fun {w w' ev} _ hs ↦ ?_
  rcases ev with ev | -
  · obtain ⟨tx, htx, rfl⟩ := Option.map_eq_some_iff.1 hs
    exact .inr ⟨ev, trivial, htx⟩
  · obtain ⟨-, hs⟩ := Option.ite_none_right_eq_some.1 hs
    obtain rfl := Option.some.inj hs
    exact .inl rfl

theorem wakeInv_of_reachable {calls : ℕ → SendCall}
    (h : Reachable (WakeState.step L vringNum) (.probed calls) w) : WakeInv L w := by
  refine h.invariant (wakeInv_probed calls) fun {w w' ev} hreach hinv _ hs ↦ ?_
  have htx := WakeState.reachable_tx hreach
  rcases ev with ev | -
  · obtain ⟨tx, hev, rfl⟩ := Option.map_eq_some_iff.1 hs
    exact hinv.tx_step (txInv_of_reachable htx) (sleepersInv_of_reachable htx) hev
  · obtain ⟨-, hs⟩ := Option.ite_none_right_eq_some.1 hs
    obtain rfl := Option.some.inj hs
    exact ⟨hinv.late, heeds_of_none fun i hi ↦ by cases hi.2⟩

/-- The events among the senders. -/
def WakeEvent.sender : WakeEvent → List TxEvent
  | tx ev => [ev]
  | rpmsgXmitDone => []

theorem WakeState.run_tx {calls : ℕ → SendCall} {evs : List WakeEvent}
    (h : run (WakeState.step L vringNum) (.probed calls) evs = some w) :
    run (TxState.txStep L vringNum) (.probed calls) (evs.flatMap WakeEvent.sender) =
      some w.tx := by
  induction evs using List.reverseRecOn generalizing w with
  | nil =>
    obtain rfl := Option.some.inj h
    rfl
  | append_singleton evs ev ih =>
    obtain ⟨w₁, hw₁, hstep⟩ := run_concat h
    rw [List.flatMap_append, List.flatMap_singleton, run_append, ih hw₁, Option.bind_some]
    rcases ev with ev | -
    · obtain ⟨tx, htx, rfl⟩ := Option.map_eq_some_iff.1 hstep
      simp [WakeEvent.sender, htx]
    · obtain ⟨-, hs⟩ := Option.ite_none_right_eq_some.1 hstep
      obtain rfl := Option.some.inj hs
      rfl

/-- **A sender sleeps for a reason.** One that sleeps and was not woken is about to be, or no buffer
is to be had: all the TX buffers are with the remote, with `held` other senders, or lost by the adds
that have failed. -/
theorem sleepsRight_of_run (L : BufLayout) (vringNum : ℕ) (calls : ℕ → SendCall)
    (evs : List WakeEvent) (w : WakeState)
    (h : run (WakeState.step L vringNum) (.probed calls) evs = some w) (i : ℕ)
    (hpc : w.tx.pc i = .asleep) (hwoken : w.woken i = false) :
    w.irq = true ∨ ∃ held, Counts (fun j ↦ (w.tx.held j).isSome = true) held ∧
      w.tx.svq.avail.length + held + (evs.flatMap WakeEvent.sender).countP TxEvent.addFails =
        L.numBufs / 2 := by
  have hinv := wakeInv_of_reachable (reachable_of_run h)
  by_cases hready : BufReady L w.tx
  · exact .inl (hinv.heeds.coming_of_missed ⟨by rw [hpc]; rfl, hwoken⟩ hready)
  · obtain ⟨hlast, hused⟩ := not_or.1 hready
    have haccount := txAccount_run (WakeState.run_tx h)
    obtain ⟨held, hheld, hsum⟩ := haccount.sum
    have hbump := haccount.bump
    refine .inr ⟨held, hheld, ?_⟩
    rw [Virtqueue.bufs, not_not.1 hused, List.map_nil, List.append_nil] at hsum
    omega

/-- The only buffer is posted, and a second sender goes to sleep. -/
def secondSleeps : List WakeEvent :=
  [.tx (.call 0 ⟨1024, 61, [7], 1, true⟩)] ++ List.replicate 6 (.tx (.next 0)) ++
    [.tx (.added 0 (.ok ())), .tx (.next 0), .tx (.next 0),
      .tx (.call 1 ⟨1025, 61, [8], 1, true⟩)] ++
    List.replicate 12 (.tx (.next 1)) ++ [.tx (.prepared 1 false)] ++
    List.replicate 4 (.tx (.next 1))

/-- The buffer is with the remote. -/
theorem sleepsRight_secondSleeps :
    ∃ w, run (WakeState.step (.ofProbe 1 0x1000) 1) (.probed fun _ ↦ ⟨1024, 61, [7], 1, true⟩)
        secondSleeps = some w ∧
      w.tx.pc 1 = .asleep ∧ ∃ held, Counts (fun j ↦ (w.tx.held j).isSome = true) held ∧
        w.tx.svq.avail.length + held + (secondSleeps.flatMap WakeEvent.sender).countP
          TxEvent.addFails = (BufLayout.ofProbe 1 0x1000).numBufs / 2 := by
  obtain ⟨w, hw, hread⟩ := Option.map_eq_some_iff.1 (show Option.map
    (fun w ↦ (w.tx.pc 1, w.woken 1, w.irq))
    (run (WakeState.step (.ofProbe 1 0x1000) 1) (.probed fun _ ↦ ⟨1024, 61, [7], 1, true⟩)
      secondSleeps) = some (.asleep, false, false) by decide +kernel)
  obtain ⟨hpc, hread⟩ := Prod.mk.inj hread
  obtain ⟨hwoken, hirq⟩ := Prod.mk.inj hread
  refine ⟨w, hw, hpc, (sleepsRight_of_run _ 1 _ secondSleeps w hw 1 hpc hwoken).resolve_left ?_⟩
  rw [hirq]
  exact Bool.false_ne_true
