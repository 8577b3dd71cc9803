import DriverModules.Lib.Counting
import DriverModules.Rpmsg.TxBufs

/-!
# What a failed send costs

A send can fail before it has a buffer, while it waits for one, and after. The pool has no operation
that gives a buffer back, so a buffer is saved only by being posted, and the question is on which
ways out of `rpmsg_send_offchannel_raw` one is dropped.

The answer is an exact account (`TxAccount`): the buffers not yet handed out, those in `svq`, those
in the hands of a running sender and those lost always make up the TX half, and the lost ones are as
many as `virtqueue_add_outbuf` has failed. Each rule of a sender is one entry in it.

## Main results, and what each rests on

* `txAccount_run`: the account along a run. It rests on the mutex for the bump index (`TxInv`), and
  on a fact about the wait loop: a wait that ends by its timeout ends without a buffer
  (`WaitsEndRight`), since a buffer found at the last look makes the result of the wait positive.
* `txObtainable_iff`: no buffer is lost exactly when no `virtqueue_add_outbuf` has failed. The lost
  buffers are counted, and so this is the account with the count at zero.
* `TxAccount.starved`: when as many adds have failed as there are buffers, no send ever gets one.
-/

open Transition Counting

variable {vringNum : ℕ} {L : BufLayout} {s s' : TxState}

namespace TxEvent

/-- `virtqueue_add_outbuf` reports an error. -/
def addFails : TxEvent → Bool
  | added _ (.error _) => true
  | _ => false

/-- The caller whose step it is. -/
def caller : TxEvent → Option ℕ
  | call i _ | next i | prepared i _ | awake i _ | added i _ => some i
  | consume _ => none

end TxEvent

/-! ### A wait that timed out has no buffer -/

namespace TxPc

/-- The caller is on its way out of an expired wait and has a buffer all the same. -/
def expiredHolding : TxPc → Bool
  | downLock true (some _) | downDec true (some _) | downDisable true (some _)
  | downUnlock true (some _) => true
  | _ => false

end TxPc

theorem LockMove.expiredHolding {p p' : TxPc} (h : LockMove p p') :
    p'.expiredHolding = p.expiredHolding := by
  cases h with
  | down t msg => cases t <;> cases msg <;> rfl
  | _ => rfl

/-- `wait_event_interruptible_timeout` returns zero only when its last test failed. -/
theorem GetMove.expiredHolding {site : GetSite} {ret : Option ℕ} {p : TxPc}
    (h : GetMove site ret p) : p.expiredHolding = false := by
  cases h <;> rfl

theorem WaitMove.expiredHolding {t : Bool} {msg : Option ℕ} {p : TxPc} (h : WaitMove t msg p) :
    p.expiredHolding = false := by
  cases h <;> rfl

theorem UnlockMove.expiredHolding {wait : Bool} {p p' : TxPc} (h : UnlockMove wait p p') :
    p'.expiredHolding = false := by
  cases h with
  | get site ret => exact (getMove wait site ret).expiredHolding
  | up => rfl
  | down t msg => exact (waitMove t msg).expiredHolding
  | add r => rfl

theorem LocalMove.expiredHolding {p p' : TxPc} (h : LocalMove L s p p') :
    p'.expiredHolding = false := by
  cases h <;> rfl

/-- Nobody leaves an expired wait with a buffer. -/
def WaitsEndRight (s : TxState) : Prop :=
  ∀ i, (s.pc i).expiredHolding = false

theorem WaitsEndRight.goto (h : WaitsEndRight s) {i : ℕ} {p : TxPc}
    (hpc : ∀ j, s'.pc j = if j = i then p else s.pc j) (hp : p.expiredHolding = false) :
    WaitsEndRight s' := by
  intro j
  rw [hpc j]
  split
  · exact hp
  · exact h j

theorem WaitsEndRight.step (h : WaitsEndRight s) (hr : TxRule L vringNum s s') :
    WaitsEndRight s' := by
  have hgoto : ∀ i p j, (s.goto i p).pc j = if j = i then p else s.pc j :=
    fun i p j ↦ s.pc_goto i j p
  cases hr with
  | call i c p hcan hp =>
    refine h.goto (s.pc_setCall_goto i · p c) ?_
    rcases hp with rfl | ⟨e, rfl⟩ <;> rfl
  | lock i p hm hfree => exact h.goto (hgoto i p) (hm.expiredHolding.trans (h i))
  | unlock i p hm => exact h.goto (hgoto i p) hm.expiredHolding
  | goto i p hm => exact h.goto (hgoto i p) hm.expiredHolding
  | bump i site n hpc => exact h.goto (hgoto i _) rfl
  | recycle i site b svq hpc hget => exact h.goto (hgoto i _) rfl
  | upInc i p hpc hp =>
    refine h.goto (hgoto i p) ?_
    rw [hp]
    split <;> rfl
  | upEnable i hpc => exact h.goto (hgoto i _) rfl
  | downDec i t msg p hpc hp =>
    refine h.goto (hgoto i p) ?_
    have hi := h i
    rw [hpc] at hi
    rw [hp, ← hi]
    split <;> cases t <;> cases msg <;> rfl
  | downDisable i t msg hpc =>
    refine h.goto (hgoto i _) ?_
    have hi := h i
    rw [hpc] at hi
    rw [← hi]
    cases t <;> cases msg <;> rfl
  | fill i b hpc => exact h.goto (hgoto i _) rfl
  | post i b hpc hfree => exact h.goto (hgoto i _) rfl
  | consume b svq hsvq => exact h

/-! ### The account -/

/-- The TX half is made up of the buffers not handed out, those in `svq`, those a sender holds and
`lost` others. -/
structure TxAccount (L : BufLayout) (s : TxState) (lost : ℕ) : Prop where
  bump : s.lastSbuf ≤ L.numBufs / 2
  sum : ∃ n, Counts (fun i ↦ (s.held i).isSome = true) n ∧
    (L.numBufs / 2 - s.lastSbuf) + s.svq.bufs.length + n + lost = L.numBufs / 2

variable {lost : ℕ}

/-- A step in which caller `i` has as much as before. -/
theorem TxAccount.goto (h : TxAccount L s lost) {i : ℕ} {x : Option ℕ}
    (hheld : ∀ j, s'.held j = if j = i then x else s.held j) (hx : x.isSome = (s.held i).isSome)
    (hlast : s'.lastSbuf = s.lastSbuf) (hbufs : s'.svq.bufs.length = s.svq.bufs.length) :
    TxAccount L s' lost := by
  obtain ⟨n, hn, hsum⟩ := h.sum
  refine ⟨hlast ▸ h.bump, n, hn.congr fun j ↦ ?_, by rw [hlast, hbufs]; exact hsum⟩
  rw [hheld j]
  split
  · next hj => rw [hj, hx]
  · rfl

/-- Caller `i` has nothing and gets a buffer. -/
theorem TxAccount.counts_take {i b n : ℕ} (hn : Counts (fun i ↦ (s.held i).isSome = true) n)
    (hheld : ∀ j, s'.held j = if j = i then some b else s.held j) (hi : s.held i = none) :
    Counts (fun i ↦ (s'.held i).isSome = true) (n + 1) := by
  refine hn.insert (i := i) (by simp [hi]) fun j ↦ ?_
  rw [hheld j]
  rcases eq_or_ne j i with rfl | hj
  · simp
  · simp [hj]

/-- Caller `i` has a buffer and then none. -/
theorem TxAccount.counts_drop {i b n : ℕ} (hn : Counts (fun i ↦ (s.held i).isSome = true) n)
    (hheld : ∀ j, s'.held j = if j = i then none else s.held j) (hi : s.held i = some b) :
    0 < n ∧ Counts (fun i ↦ (s'.held i).isSome = true) (n - 1) := by
  refine ⟨hn.pos (i := i) (by simp [hi]), hn.erase (i := i) (by simp [hi]) fun j ↦ ?_⟩
  rw [hheld j]
  rcases eq_or_ne j i with rfl | hj
  · simp
  · simp [hj]

/-- A caller that gives the mutex back keeps its buffer. -/
theorem UnlockMove.held_eq {wait : Bool} {p p' : TxPc} (h : UnlockMove wait p p')
    (hexp : p.expiredHolding = false) : p'.held = p.held := by
  cases h with
  | get site ret => exact (getMove wait site ret).held
  | up => rfl
  | down t msg =>
    rcases (waitMove t msg).held with heq | ⟨hnone, rfl⟩
    · exact heq
    · -- the time has run out, so there was none
      rcases msg with - | b
      · exact hnone
      · cases hexp
  | add r => rfl

/-- So does one that moves on, unless its add has failed. -/
theorem LocalMove.held_eq {p p' : TxPc} (h : LocalMove L s p p')
    (hadd : ∀ b e, p = .addOutbuf b → p' ≠ .addUnlock (.error e)) : p'.held = p.held := by
  cases h with
  | addFailed b e => exact absurd rfl (hadd b e rfl)
  | _ => rfl

/-- **Every step but a failed add keeps the account**, with the same number of buffers lost. -/
theorem TxAccount.step (h : TxAccount L s lost) (hinv : TxInv L s) (hwait : WaitsEndRight s)
    (hr : TxRule L vringNum s s')
    (hadd : ∀ i b e, s.pc i = .addOutbuf b → s'.pc i ≠ .addUnlock (.error e)) :
    TxAccount L s' lost := by
  have hgoto : ∀ i p j, (s.goto i p).held j = if j = i then p.held else s.held j :=
    fun i p j ↦ TxState.held_goto i p j
  cases hr with
  | call i c p hcan hp =>
    refine h.goto (TxState.held_setCall_goto i c p) ?_ rfl rfl
    rw [TxState.held, TxPc.held_of_canCall hcan]
    rcases hp with rfl | ⟨e, rfl⟩ <;> rfl
  | lock i p hm hfree => exact h.goto (hgoto i p) (congrArg Option.isSome hm.held) rfl rfl
  | unlock i p hm =>
    exact h.goto (hgoto i p) (congrArg Option.isSome (hm.held_eq (hwait i))) rfl rfl
  | goto i p hm =>
    refine h.goto (hgoto i p) (congrArg Option.isSome (hm.held_eq fun b e hpc hp ↦ ?_)) rfl rfl
    exact hadd i b e hpc (by rw [TxState.pc_goto_self, hp])
  | bump i site k hpc =>
    obtain ⟨n, hn, hsum⟩ := h.sum
    obtain ⟨rfl, hlt⟩ := hinv.bump i site k hpc
    have hi : s.held i = none := by rw [TxState.held, hpc]; rfl
    refine ⟨hlt, n + 1, TxAccount.counts_take hn (hgoto i _) hi, ?_⟩
    change L.numBufs / 2 - (s.lastSbuf + 1) + s.svq.bufs.length + (n + 1) + lost = _
    omega
  | recycle i site b svq hpc hget =>
    obtain ⟨n, hn, hsum⟩ := h.sum
    have hi : s.held i = none := by rw [TxState.held, hpc]; rfl
    have hlen : s.svq.bufs.length = svq.bufs.length + 1 := by
      simpa using (Virtqueue.bufs_getBuf hget).length_eq
    refine ⟨h.bump, n + 1, TxAccount.counts_take hn (hgoto i _) hi, ?_⟩
    change L.numBufs / 2 - s.lastSbuf + svq.bufs.length + (n + 1) + lost = _
    omega
  | upInc i p hpc hp =>
    refine h.goto (hgoto i p) ?_ rfl rfl
    rw [hp, TxState.held, hpc]
    split <;> rfl
  | upEnable i hpc => exact h.goto (hgoto i _) (by rw [TxState.held, hpc]; rfl) rfl rfl
  | downDec i t msg p hpc hp =>
    refine h.goto (hgoto i p) ?_ rfl rfl
    rw [hp, TxState.held, hpc]
    split <;> rfl
  | downDisable i t msg hpc => exact h.goto (hgoto i _) (by rw [TxState.held, hpc]; rfl) rfl rfl
  | fill i b hpc => exact h.goto (hgoto i _) (by rw [TxState.held, hpc]; rfl) rfl rfl
  | post i b hpc hfree =>
    obtain ⟨n, hn, hsum⟩ := h.sum
    have hi : s.held i = some b := by rw [TxState.held, hpc]; rfl
    obtain ⟨hpos, hn'⟩ := TxAccount.counts_drop hn (hgoto i .kick) hi
    have hlen : (s.svq.add b).bufs.length = s.svq.bufs.length + 1 := by
      simpa using (s.svq.bufs_add b).length_eq
    refine ⟨h.bump, n - 1, hn', ?_⟩
    change L.numBufs / 2 - s.lastSbuf + (s.svq.add b).bufs.length + (n - 1) + lost = _
    omega
  | consume b svq hsvq =>
    obtain ⟨n, hn, hsum⟩ := h.sum
    refine ⟨h.bump, n, hn, ?_⟩
    change L.numBufs / 2 - s.lastSbuf + svq.bufs.length + n + lost = _
    rw [(Virtqueue.bufs_consume hsvq).length_eq]
    exact hsum

/-- **A failed add loses the buffer.** -/
theorem TxAccount.addFailed (h : TxAccount L s lost) {i b : ℕ} (e : Errno)
    (hpc : s.pc i = .addOutbuf b) : TxAccount L (s.goto i (.addUnlock (.error e))) (lost + 1) := by
  obtain ⟨n, hn, hsum⟩ := h.sum
  have hi : s.held i = some b := by rw [TxState.held, hpc]; rfl
  obtain ⟨hpos, hn'⟩ :=
    TxAccount.counts_drop hn (TxState.held_goto i (.addUnlock (.error e))) hi
  refine ⟨h.bump, n - 1, hn', ?_⟩
  change L.numBufs / 2 - s.lastSbuf + s.svq.bufs.length + (n - 1) + (lost + 1) = _
  omega

/-! ### Which step is a failed add -/

theorem TxState.pc_lock {i j : ℕ} {p : TxPc} (h : s.lock i p = some s') (hj : j ≠ i) :
    s'.pc j = s.pc j := by
  obtain ⟨-, rfl⟩ := TxState.lock_eq_some h
  exact TxState.pc_goto_of_ne s p hj

/-- A caller's own step leaves the others where they are. -/
theorem TxState.pc_next {i j : ℕ} (h : s.next L i = some s') (hj : j ≠ i) : s'.pc j = s.pc j := by
  unfold TxState.next at h
  split at h
  case h_4 =>
    split at h <;> obtain rfl := Option.some.inj h <;> exact TxState.pc_goto_of_ne s _ hj
  all_goals
    first
    | exact TxState.pc_lock h hj
    | (obtain rfl := Option.some.inj h; exact TxState.pc_goto_of_ne s _ hj)
    | cases h

/-- **A step moves nobody but its caller.** -/
theorem TxState.pc_txStep {ev : TxEvent} {i : ℕ} (h : s.txStep L vringNum ev = some s')
    (hne : ev.caller ≠ some i) : s'.pc i = s.pc i := by
  have hother : ∀ {j}, ev.caller = some j → i ≠ j := by
    rintro j hj rfl
    exact hne hj
  obtain ⟨j, c, p, rfl, -, rfl, -⟩ | ⟨j, rfl, hs⟩ | ⟨j, signal, expired, rfl, -, rfl⟩ |
    ⟨j, expired, rfl, -, rfl⟩ | ⟨j, b, e, rfl, -, rfl⟩ | ⟨j, b, rfl, -, -, rfl⟩ |
    ⟨b, svq, rfl, -, rfl⟩ := TxState.txStep_cases h
  · rw [TxState.pc_goto_of_ne _ _ (hother rfl), TxState.pc_setCall]
  · exact TxState.pc_next hs (hother rfl)
  · exact TxState.pc_goto_of_ne s _ (hother rfl)
  · exact TxState.pc_goto_of_ne s _ (hother rfl)
  · exact TxState.pc_goto_of_ne s _ (hother rfl)
  · exact TxState.pc_goto_of_ne s _ (hother rfl)
  · rfl

/-- No other event brings a caller from the add to its error. -/
theorem ne_addUnlock_of_step {ev : TxEvent} (h : s.txStep L vringNum ev = some s')
    (hev : ev.addFails = false) {i b : ℕ} (hpc : s.pc i = .addOutbuf b) (e : Errno) :
    s'.pc i ≠ .addUnlock (.error e) := by
  rcases eq_or_ne ev.caller (some i) with hcaller | hne
  · -- there is nothing else the caller could do than post
    obtain ⟨j, c, p, rfl, hcan, -, -⟩ | ⟨j, rfl, hs⟩ | ⟨j, signal, expired, rfl, hpc', -⟩ |
      ⟨j, expired, rfl, hpc', -⟩ | ⟨j, b', e', rfl, -, -⟩ | ⟨j, b', rfl, -, -, rfl⟩ |
      ⟨b', svq, rfl, -, -⟩ := TxState.txStep_cases h
    · obtain rfl := Option.some.inj hcaller
      simp [hpc, TxPc.canCall] at hcan
    · obtain rfl := Option.some.inj hcaller
      simp [TxState.next, hpc] at hs
    · obtain rfl := Option.some.inj hcaller
      cases hpc.symm.trans hpc'
    · obtain rfl := Option.some.inj hcaller
      cases hpc.symm.trans hpc'
    · cases hev
    · obtain rfl := Option.some.inj hcaller
      change (s.goto j .kick).pc j ≠ _
      simp
    · cases hcaller
  · rw [TxState.pc_txStep h hne, hpc]
    simp

/-- The entry of one event. -/
theorem TxAccount.event (h : TxAccount L s lost) (hinv : TxInv L s) (hwait : WaitsEndRight s)
    {ev : TxEvent} (hstep : s.txStep L vringNum ev = some s') :
    TxAccount L s' (lost + if ev.addFails then 1 else 0) := by
  rcases hev : ev.addFails
  · exact h.step hinv hwait (txStep_rule hstep) fun i b e hpc ↦
      ne_addUnlock_of_step hstep hev hpc e
  · obtain ⟨_, _, _, rfl, -⟩ | ⟨_, rfl, -⟩ | ⟨_, _, _, rfl, -⟩ | ⟨_, _, rfl, -⟩ |
      ⟨i, b, e, rfl, hpc, rfl⟩ | ⟨_, _, rfl, -⟩ | ⟨_, _, rfl, -⟩ := TxState.txStep_cases hstep
    case inr.inr.inr.inr.inl => exact h.addFailed e hpc
    all_goals cases hev

/-! ### The account of a run -/

theorem waitsEndRight_probed (calls : ℕ → SendCall) : WaitsEndRight (.probed calls) :=
  fun _ ↦ rfl

theorem waitsEndRight_of_reachable {calls : ℕ → SendCall}
    (h : Reachable (TxState.txStep L vringNum) (.probed calls) s) : WaitsEndRight s :=
  h.invariant (waitsEndRight_probed calls) fun _ hinv _ hstep ↦ hinv.step (txStep_rule hstep)

theorem txAccount_probed (calls : ℕ → SendCall) : TxAccount L (.probed calls) 0 where
  bump := Nat.zero_le _
  sum := ⟨0, counts_zero fun i ↦ by simp [TxState.held, TxState.pc, TxState.probed, TxPc.held],
    rfl⟩

/-- **The account of a run:** exactly the buffers whose add has failed are lost. -/
theorem txAccount_run {calls : ℕ → SendCall} {evs : List TxEvent}
    (h : run (TxState.txStep L vringNum) (.probed calls) evs = some s) :
    TxAccount L s (evs.countP TxEvent.addFails) := by
  induction evs using List.reverseRecOn generalizing s with
  | nil =>
    obtain rfl := Option.some.inj h
    exact txAccount_probed calls
  | append_singleton evs ev ih =>
    obtain ⟨s₁, hrun, hstep⟩ := run_concat h
    have hreach := reachable_of_run hrun
    have := (ih hrun).event (txInv_of_reachable hreach) (waitsEndRight_of_reachable hreach) hstep
    rwa [List.countP_append, List.countP_singleton]

/-- Once as many adds have failed as there are TX buffers, nobody gets a buffer any more. -/
theorem TxAccount.starved (h : TxAccount L s (L.numBufs / 2)) :
    s.lastSbuf = L.numBufs / 2 ∧ s.svq.getBuf = none ∧ ∀ i, s.held i = none := by
  obtain ⟨n, hn, hsum⟩ := h.sum
  have hbump := h.bump
  have hbufs : s.svq.bufs = [] := List.eq_nil_of_length_eq_zero (by omega)
  refine ⟨by omega, ?_, fun i ↦ ?_⟩
  · rw [Virtqueue.getBuf_eq_none]
    simpa using (List.append_eq_nil_iff.1 hbufs).2
  · obtain rfl : n = 0 := by omega
    simpa using hn.not_of_zero i

/-- The buffers that can still be obtained, not handed out, queued in `svq` or held by a running
sender, are the whole TX half. -/
def TxObtainable (L : BufLayout) (s : TxState) : Prop :=
  ∃ n, Counts (fun i ↦ (s.held i).isSome = true) n ∧
    (L.numBufs / 2 - s.lastSbuf) + s.svq.bufs.length + n = L.numBufs / 2

/-- While nothing is lost and no sender is under way, a buffer is fresh or in `svq`: the next send
gets one as soon as the remote has consumed what was posted. -/
theorem TxObtainable.available (h : TxObtainable L s) (hL : 0 < L.numBufs / 2)
    (hidle : ∀ i, s.held i = none) : s.lastSbuf < L.numBufs / 2 ∨ s.svq.bufs ≠ [] := by
  obtain ⟨n, hn, hsum⟩ := h
  obtain rfl : n = 0 := hn.unique (counts_zero fun i ↦ by simp [hidle i])
  rcases hbufs : s.svq.bufs with - | ⟨b, bs⟩
  · left
    rw [hbufs, List.length_nil] at hsum
    omega
  · right
    simp

/-- **No buffer is lost exactly when no `virtqueue_add_outbuf` has failed**, whatever the other
failures of the run were: a send refused for its arguments, a `-ENOMEM` of a non-blocking one, a
timeout, a signal. -/
theorem txObtainable_iff (L : BufLayout) (vringNum : ℕ) (calls : ℕ → SendCall)
    (evs : List TxEvent) (s : TxState)
    (h : run (TxState.txStep L vringNum) (.probed calls) evs = some s) :
    TxObtainable L s ↔ ∀ ev ∈ evs, ev.addFails = false := by
  obtain ⟨n, hn, hsum⟩ := (txAccount_run h).sum
  have hlost : evs.countP TxEvent.addFails = 0 ↔ ∀ ev ∈ evs, ev.addFails = false := by
    rw [List.countP_eq_zero]
    simp
  rw [← hlost]
  constructor
  · rintro ⟨m, hm, hsum'⟩
    obtain rfl := hn.unique hm
    omega
  · intro hzero
    exact ⟨n, hn, by omega⟩

/-- The second sender has waited for the only buffer until its time ran out; nothing is lost. -/
theorem txObtainable_timeout :
    ∃ s, run (TxState.txStep (.ofProbe 1 0x1000) 1) (.probed fun _ ↦ ⟨1024, 61, [7], 1, true⟩)
        [.call 0 ⟨1024, 61, [7], 1, true⟩, .next 0, .next 0, .next 0, .next 0, .next 0, .next 0,
          .added 0 (.ok ()), .next 0, .next 0,
          .call 1 ⟨1025, 61, [8], 1, true⟩, .next 1, .next 1, .next 1, .next 1, .next 1, .next 1,
          .next 1, .next 1, .next 1, .next 1, .next 1, .next 1, .prepared 1 false, .next 1,
          .next 1, .next 1, .next 1, .awake 1 true, .prepared 1 false, .next 1, .next 1, .next 1,
          .next 1, .next 1, .next 1, .next 1, .next 1] = some s ∧
      s.pc 1 = .returned (.error .ERESTARTSYS) ∧ TxObtainable (.ofProbe 1 0x1000) s := by
  obtain ⟨s, hs, hpc⟩ := Option.map_eq_some_iff.1 (show Option.map (fun s ↦ s.pc 1)
    (run (TxState.txStep (.ofProbe 1 0x1000) 1) (.probed fun _ ↦ ⟨1024, 61, [7], 1, true⟩)
      [.call 0 ⟨1024, 61, [7], 1, true⟩, .next 0, .next 0, .next 0, .next 0, .next 0, .next 0,
        .added 0 (.ok ()), .next 0, .next 0,
        .call 1 ⟨1025, 61, [8], 1, true⟩, .next 1, .next 1, .next 1, .next 1, .next 1, .next 1,
        .next 1, .next 1, .next 1, .next 1, .next 1, .next 1, .prepared 1 false, .next 1,
        .next 1, .next 1, .next 1, .awake 1 true, .prepared 1 false, .next 1, .next 1, .next 1,
        .next 1, .next 1, .next 1, .next 1, .next 1]) = some (.returned (.error .ERESTARTSYS))
    by decide +kernel)
  refine ⟨s, hs, hpc, (txObtainable_iff _ 1 _ _ s hs).2 ?_⟩
  decide

/-- A failed add of the only buffer: the send has returned its error, and neither is a fresh buffer
left nor will one ever be used. -/
theorem txObtainable_lost :
    ∃ s, run (TxState.txStep (.ofProbe 1 0x1000) 1) (.probed fun _ ↦ ⟨1024, 61, [7], 1, true⟩)
        [.call 0 ⟨1024, 61, [7], 1, true⟩, .next 0, .next 0, .next 0, .next 0, .next 0, .next 0,
          .added 0 (.error .ENOMEM), .next 0] = some s ∧
      s.pc 0 = .returned (.error .ENOMEM) ∧ s.lastSbuf = (BufLayout.ofProbe 1 0x1000).numBufs / 2 ∧
      s.svq.bufs = [] ∧ ¬ TxObtainable (.ofProbe 1 0x1000) s := by
  obtain ⟨s, hs, hread⟩ := Option.map_eq_some_iff.1 (show Option.map
    (fun s ↦ (s.pc 0, s.lastSbuf, s.svq.bufs))
    (run (TxState.txStep (.ofProbe 1 0x1000) 1) (.probed fun _ ↦ ⟨1024, 61, [7], 1, true⟩)
      [.call 0 ⟨1024, 61, [7], 1, true⟩, .next 0, .next 0, .next 0, .next 0, .next 0, .next 0,
        .added 0 (.error .ENOMEM), .next 0]) = some (.returned (.error .ENOMEM), 1, [])
    by decide +kernel)
  obtain ⟨hpc, hlast, hbufs⟩ : s.pc 0 = _ ∧ s.lastSbuf = 1 ∧ s.svq.bufs = [] := by
    simpa only [Prod.mk.injEq] using hread
  have hnum : (BufLayout.ofProbe 1 0x1000).numBufs / 2 = 1 := rfl
  obtain ⟨n, hn, hsum⟩ := (txAccount_run hs).sum
  refine ⟨s, hs, hpc, hlast, hbufs, ?_⟩
  rintro ⟨m, hm, hsum'⟩
  obtain rfl := hn.unique hm
  have hlost : [TxEvent.call 0 ⟨1024, 61, [7], 1, true⟩, .next 0, .next 0, .next 0, .next 0,
    .next 0, .next 0, .added 0 (.error .ENOMEM), .next 0].countP TxEvent.addFails = 1 := rfl
  omega
