import DriverModules.Lib.Counting
import DriverModules.Rpmsg.TxBufs

/-!
# The sleepers counter and the TX callbacks

The remote only tells when it has consumed a buffer while the "tx-complete" callbacks of `svq` are
enabled, and they are enabled only while somebody waits. `rpmsg_upref_sleepers` and
`rpmsg_downref_sleepers` keep a counter for that and turn the callbacks on or off when it leaves or
reaches zero.

Counter and switch move in two steps of one critical section, so the invariant `SleepersInv` has
three cases: between increment and enable the counter is one and the callbacks are off, between
decrement and disable it is zero and they are on, and everywhere else they are on exactly when it is
positive. Every way out of the wait (a buffer, the timeout, a signal, another round) passes through
the decrement, which is what `SleepersInv.step` checks rule by rule.
-/

open Transition Counting

variable {vringNum : ℕ} {L : BufLayout} {s s' : TxState}

namespace GetSite

/-- The call of `get_a_tx_buf` is a test of the wait. -/
def waiting : GetSite → Bool
  | first => false
  | fast | looped .. => true

end GetSite

namespace TxPc

/-- The caller is between the increment of `rpmsg_upref_sleepers` and the decrement of
`rpmsg_downref_sleepers`. -/
def counted : TxPc → Bool
  | upEnable | upUnlock | prepare _ | asleep | downLock .. | downDec .. => true
  | getLock site | getTest site | getBump site _ | getRecycle site | getUnlock site _ =>
    site.waiting
  | _ => false

/-- The caller has moved the counter from or to zero and not yet moved the callbacks. -/
def switching : TxPc → Bool
  | upEnable | downDisable .. => true
  | _ => false

theorem switching_eq_true {p : TxPc} :
    p.switching = true ↔ p = .upEnable ∨ ∃ t msg, p = .downDisable t msg := by
  cases p <;> simp [switching]

theorem inSection_of_switching {p : TxPc} (h : p.switching = true) : p.inSection = true := by
  cases p <;> first | rfl | cases h

theorem counted_of_canCall {p : TxPc} (h : p.canCall = true) : p.counted = false := by
  cases p <;> first | rfl | cases h

theorem switching_of_canCall {p : TxPc} (h : p.canCall = true) : p.switching = false := by
  cases p <;> first | rfl | cases h

end TxPc

/-- The counter counts the waiters, and the callbacks follow it. -/
structure SleepersInv (s : TxState) : Prop where
  count : ∃ n : ℕ, Counts (fun i ↦ (s.pc i).counted = true) n ∧ s.sleepers = n
  enabling : ∀ i, s.pc i = .upEnable → s.sleepers = 1 ∧ s.cbEnabled = false
  disabling : ∀ i t msg, s.pc i = .downDisable t msg → s.sleepers = 0 ∧ s.cbEnabled = true
  settled : (∀ i, (s.pc i).switching = false) → (s.cbEnabled = true ↔ 0 < s.sleepers)

/-! ### The moves of a program counter -/

theorem LockMove.counted {p p' : TxPc} (h : LockMove p p') : p'.counted = p.counted := by
  cases h <;> rfl

theorem LockMove.switching {p p' : TxPc} (h : LockMove p p') :
    p.switching = false ∧ p'.switching = false := by
  cases h <;> exact ⟨rfl, rfl⟩

/-- What follows a test of the wait is still the wait, or its end before the decrement. -/
theorem GetMove.counted {site : GetSite} {ret : Option ℕ} {p : TxPc} (h : GetMove site ret p) :
    p.counted = site.waiting := by
  cases h <;> rfl

theorem GetMove.switching {site : GetSite} {ret : Option ℕ} {p : TxPc} (h : GetMove site ret p) :
    p.switching = false := by
  cases h <;> rfl

/-- After the decrement a caller waits no more. -/
theorem WaitMove.counted {t : Bool} {msg : Option ℕ} {p : TxPc} (h : WaitMove t msg p) :
    p.counted = false := by
  cases h <;> rfl

theorem WaitMove.switching {t : Bool} {msg : Option ℕ} {p : TxPc} (h : WaitMove t msg p) :
    p.switching = false := by
  cases h <;> rfl

theorem UnlockMove.counted {wait : Bool} {p p' : TxPc} (h : UnlockMove wait p p') :
    p'.counted = p.counted := by
  cases h with
  | get site ret => exact (getMove wait site ret).counted
  | up => rfl
  | down t msg => exact (waitMove t msg).counted
  | add r => rfl

theorem UnlockMove.switching {wait : Bool} {p p' : TxPc} (h : UnlockMove wait p p') :
    p.switching = false ∧ p'.switching = false := by
  cases h with
  | get site ret => exact ⟨rfl, (getMove wait site ret).switching⟩
  | up => exact ⟨rfl, rfl⟩
  | down t msg => exact ⟨rfl, (waitMove t msg).switching⟩
  | add r => exact ⟨rfl, rfl⟩

theorem LocalMove.counted {p p' : TxPc} (h : LocalMove L s p p') : p'.counted = p.counted := by
  cases h <;> rfl

theorem LocalMove.switching {p p' : TxPc} (h : LocalMove L s p p') :
    p.switching = false ∧ p'.switching = false := by
  cases h <;> exact ⟨rfl, rfl⟩

/-! ### The invariant over a step -/

/-- A step of caller `i` that stays on its side of the counter and moves neither counter nor
callbacks. -/
theorem SleepersInv.goto (h : SleepersInv s) {i : ℕ} {p : TxPc}
    (hpc : ∀ j, s'.pc j = if j = i then p else s.pc j) (hcount : p.counted = (s.pc i).counted)
    (hswitch : (s.pc i).switching = false ∧ p.switching = false)
    (hsleepers : s'.sleepers = s.sleepers) (hcb : s'.cbEnabled = s.cbEnabled) :
    SleepersInv s' := by
  obtain ⟨hold, hnew⟩ := hswitch
  have hback : ∀ {j}, (s'.pc j).switching = true → s'.pc j = s.pc j := by
    intro j hj
    rw [hpc j] at hj ⊢
    split at hj
    · exact absurd (hnew.symm.trans hj) (by simp)
    · next hne => exact if_neg hne
  constructor
  · obtain ⟨n, hn, hs⟩ := h.count
    refine ⟨n, hn.congr fun j ↦ ?_, hsleepers.trans hs⟩
    rw [hpc j]
    split
    · next hj => rw [hj, hcount]
    · rfl
  · intro j hj
    rw [hsleepers, hcb]
    exact h.enabling j ((hback (by rw [hj]; rfl)).symm.trans hj)
  · intro j t msg hj
    rw [hsleepers, hcb]
    exact h.disabling j t msg ((hback (by rw [hj]; rfl)).symm.trans hj)
  · intro hnone
    rw [hsleepers, hcb]
    refine h.settled fun j ↦ ?_
    rcases eq_or_ne j i with rfl | hj
    · exact hold
    · have := hnone j
      rwa [hpc j, if_neg hj] at this

/-- While a caller that is not switching is in its critical section, nobody else is switching. -/
theorem SleepersInv.settled_of_inSection (h : SleepersInv s) (hlock : TxInv L s) {i : ℕ}
    (hin : (s.pc i).inSection = true) (hi : (s.pc i).switching = false) :
    s.cbEnabled = true ↔ 0 < s.sleepers := by
  refine h.settled fun j ↦ Bool.eq_false_iff.2 fun hj ↦ ?_
  obtain rfl := hlock.lock.unique (TxPc.inSection_of_switching hj) hin
  exact absurd (hi.symm.trans hj) (by simp)

/-- The caller in its critical section is the only one that can be switching afterwards. -/
theorem TxInv.eq_of_switching (hlock : TxInv L s) {i j : ℕ} {p : TxPc}
    (hin : (s.pc i).inSection = true) (hj : ((s.goto i p).pc j).switching = true) : j = i := by
  rcases eq_or_ne j i with hji | hne
  · exact hji
  · rw [TxState.pc_goto_of_ne s p hne] at hj
    exact hlock.lock.unique (TxPc.inSection_of_switching hj) hin

/-- `atomic_inc_return(&vrp->sleepers)`: one waiter more. -/
theorem SleepersInv.upInc (h : SleepersInv s) (hlock : TxInv L s) {i : ℕ} {p : TxPc}
    (hpc : s.pc i = .upInc) (hp : p = if s.sleepers + 1 = 1 then .upEnable else .upUnlock) :
    SleepersInv { s.goto i p with sleepers := s.sleepers + 1 } := by
  obtain ⟨n, hn, hs⟩ := h.count
  have hin : (s.pc i).inSection = true := by rw [hpc]; rfl
  have hcb := h.settled_of_inSection hlock hin (by rw [hpc]; rfl)
  have hcounted : p.counted = true := by rw [hp]; split <;> rfl
  have hself : (s.goto i p).pc i = p := s.pc_goto_self i p
  constructor
  · refine ⟨n + 1, hn.insert (i := i) (by simp [hpc, TxPc.counted]) fun j ↦ ?_, ?_⟩
    · change ((s.goto i p).pc j).counted = true ↔ _
      rcases eq_or_ne j i with rfl | hj
      · simp [hself, hcounted]
      · simp [TxState.pc_goto_of_ne s p hj, hj]
    · push_cast
      rw [hs]
  · intro j hj
    change (s.goto i p).pc j = _ at hj
    obtain rfl := hlock.eq_of_switching hin (by rw [hj]; rfl)
    rw [hself, hp] at hj
    split at hj
    · next hone =>
      refine ⟨hone, Bool.eq_false_iff.2 fun hon ↦ ?_⟩
      have := hcb.1 hon
      omega
    · cases hj
  · intro j t msg hj
    change (s.goto i p).pc j = _ at hj
    obtain rfl := hlock.eq_of_switching hin (by rw [hj]; rfl)
    rw [hself, hp] at hj
    split at hj <;> cases hj
  · intro hnone
    have hi : ((s.goto i p).pc i).switching = false := hnone i
    rw [hself, hp] at hi
    split at hi
    · cases hi
    · next hne =>
      exact hcb.trans (show 0 < s.sleepers ↔ 0 < s.sleepers + 1 by omega)

/-- `atomic_dec_and_test(&vrp->sleepers)`: one waiter less. -/
theorem SleepersInv.downDec (h : SleepersInv s) (hlock : TxInv L s) {i : ℕ} {t : Bool}
    {msg : Option ℕ} {p : TxPc} (hpc : s.pc i = .downDec t msg)
    (hp : p = if s.sleepers - 1 = 0 then .downDisable t msg else .downUnlock t msg) :
    SleepersInv { s.goto i p with sleepers := s.sleepers - 1 } := by
  obtain ⟨n, hn, hs⟩ := h.count
  have hin : (s.pc i).inSection = true := by rw [hpc]; rfl
  have hcb := h.settled_of_inSection hlock hin (by rw [hpc]; rfl)
  have hwaiting : (s.pc i).counted = true := by rw [hpc]; rfl
  have hpos : 0 < n := hn.pos (i := i) hwaiting
  have hcounted : p.counted = false := by rw [hp]; split <;> rfl
  have hself : (s.goto i p).pc i = p := s.pc_goto_self i p
  constructor
  · refine ⟨n - 1, hn.erase (i := i) hwaiting fun j ↦ ?_, ?_⟩
    · change ((s.goto i p).pc j).counted = true ↔ _
      rcases eq_or_ne j i with rfl | hj
      · simp [hself, hcounted]
      · simp [TxState.pc_goto_of_ne s p hj, hj]
    · change s.sleepers - 1 = _
      omega
  · intro j hj
    change (s.goto i p).pc j = _ at hj
    obtain rfl := hlock.eq_of_switching hin (by rw [hj]; rfl)
    rw [hself, hp] at hj
    split at hj <;> cases hj
  · intro j t' msg' hj
    change (s.goto i p).pc j = _ at hj
    obtain rfl := hlock.eq_of_switching hin (by rw [hj]; rfl)
    rw [hself, hp] at hj
    split at hj
    · next hzero => exact ⟨hzero, hcb.2 (by omega)⟩
    · cases hj
  · intro hnone
    have hi : ((s.goto i p).pc i).switching = false := hnone i
    rw [hself, hp] at hi
    split at hi
    · cases hi
    · next hne =>
      exact hcb.trans (show 0 < s.sleepers ↔ 0 < s.sleepers - 1 by omega)

/-- The caller that switches brings the callbacks in line with the counter, and the counter does
not move. -/
theorem SleepersInv.switch (h : SleepersInv s) (hlock : TxInv L s) {i : ℕ} {p : TxPc} {on : Bool}
    (hold : (s.pc i).switching = true) (hcount : p.counted = (s.pc i).counted)
    (hnew : p.switching = false) (hon : on = true ↔ 0 < s.sleepers) :
    SleepersInv { s.goto i p with cbEnabled := on } := by
  have hin := TxPc.inSection_of_switching hold
  have hnone : ∀ j, ((s.goto i p).pc j).switching = false := by
    refine fun j ↦ Bool.eq_false_iff.2 fun hj ↦ ?_
    obtain rfl := hlock.eq_of_switching hin hj
    rw [TxState.pc_goto_self] at hj
    exact absurd (hnew.symm.trans hj) (by simp)
  constructor
  · obtain ⟨n, hn, hs⟩ := h.count
    refine ⟨n, hn.congr fun j ↦ ?_, hs⟩
    change ((s.goto i p).pc j).counted = true ↔ _
    rw [TxState.pc_goto]
    split
    · next hj => rw [hj, hcount]
    · rfl
  · intro j hj
    have := hnone j
    rw [show (s.goto i p).pc j = .upEnable from hj] at this
    cases this
  · intro j t msg hj
    have := hnone j
    rw [show (s.goto i p).pc j = .downDisable t msg from hj] at this
    cases this
  · exact fun _ ↦ hon

theorem sleepersInv_probed (calls : ℕ → SendCall) : SleepersInv (.probed calls) where
  count := ⟨0, counts_zero fun i ↦ by simp [TxState.probed, TxState.pc, TxPc.counted], rfl⟩
  enabling i h := by simp [TxState.probed, TxState.pc] at h
  disabling i t msg h := by simp [TxState.probed, TxState.pc] at h
  settled _ := by simp [TxState.probed]

/-- **Every step keeps counter, waiters and callbacks together.** -/
theorem SleepersInv.step (h : SleepersInv s) (hlock : TxInv L s) (hr : TxRule L vringNum s s') :
    SleepersInv s' := by
  have hgoto : ∀ i p j, (s.goto i p).pc j = if j = i then p else s.pc j :=
    fun i p j ↦ s.pc_goto i j p
  cases hr with
  | call i c p hcan hp =>
    refine h.goto (s.pc_setCall_goto i · p c) ?_ ⟨TxPc.switching_of_canCall hcan, ?_⟩ rfl rfl
    · rw [TxPc.counted_of_canCall hcan]
      rcases hp with rfl | ⟨e, rfl⟩ <;> rfl
    · rcases hp with rfl | ⟨e, rfl⟩ <;> rfl
  | lock i p hm hfree => exact h.goto (hgoto i p) hm.counted hm.switching rfl rfl
  | unlock i p hm => exact h.goto (hgoto i p) hm.counted hm.switching rfl rfl
  | goto i p hm => exact h.goto (hgoto i p) hm.counted hm.switching rfl rfl
  | bump i site n hpc =>
    exact h.goto (hgoto i _) (by rw [hpc]; rfl) (by rw [hpc]; exact ⟨rfl, rfl⟩) rfl rfl
  | recycle i site b svq hpc hget =>
    exact h.goto (hgoto i _) (by rw [hpc]; rfl) (by rw [hpc]; exact ⟨rfl, rfl⟩) rfl rfl
  | upInc i p hpc hp => exact h.upInc hlock hpc hp
  | upEnable i hpc =>
    have hone := (h.enabling i hpc).1
    exact h.switch hlock (by rw [hpc]; rfl) (by rw [hpc]; rfl) rfl (by simp [hone])
  | downDec i t msg p hpc hp => exact h.downDec hlock hpc hp
  | downDisable i t msg hpc =>
    have hzero := (h.disabling i t msg hpc).1
    exact h.switch hlock (by rw [hpc]; rfl) (by rw [hpc]; rfl) rfl (by simp [hzero])
  | fill i b hpc =>
    exact h.goto (hgoto i _) (by rw [hpc]; rfl) (by rw [hpc]; exact ⟨rfl, rfl⟩) rfl rfl
  | post i b hpc hfree =>
    exact h.goto (hgoto i _) (by rw [hpc]; rfl) (by rw [hpc]; exact ⟨rfl, rfl⟩) rfl rfl
  | consume b svq hsvq => exact ⟨h.count, h.enabling, h.disabling, h.settled⟩

theorem sleepersInv_of_reachable {calls : ℕ → SendCall}
    (h : Reachable (TxState.txStep L vringNum) (.probed calls) s) : SleepersInv s :=
  h.invariant (sleepersInv_probed calls) fun hreach hinv _ hstep ↦
    hinv.step (txInv_of_reachable hreach) (txStep_rule hstep)

/-! ### What a waiter may rely on -/

/-- A caller that waits, and does not run `rpmsg_upref_sleepers` itself, finds the callbacks on. -/
theorem SleepersInv.cbEnabled_of_counted (h : SleepersInv s) {i : ℕ}
    (hi : (s.pc i).counted = true) (hne : s.pc i ≠ .upEnable) : s.cbEnabled = true := by
  obtain ⟨n, hn, hs⟩ := h.count
  have hpos : 0 < n := hn.pos (i := i) hi
  by_cases hsw : ∀ j, (s.pc j).switching = false
  · exact (h.settled hsw).2 (by omega)
  · obtain ⟨j, hj⟩ := not_forall.1 hsw
    rw [Bool.not_eq_false] at hj
    rcases TxPc.switching_eq_true.1 hj with hpcj | ⟨t, msg, hpcj⟩
    · -- the first waiter is about to enable them: then `i` would be a second one
      obtain ⟨hone, -⟩ := h.enabling j hpcj
      have hji : j ≠ i := fun hji ↦ hne (hji ▸ hpcj)
      have htwo := hn.erase (i := i) hi fun _ ↦ Iff.rfl
      have := htwo.pos (i := j) ⟨by rw [hpcj]; rfl, hji⟩
      omega
    · obtain ⟨hzero, -⟩ := h.disabling j t msg hpcj
      omega

/-- What holds of the counter and the callbacks, at any moment. -/
structure SleepersRight (s : TxState) : Prop where
  /-- The counter is the number of callers between increment and decrement; in particular it is
  not negative. -/
  count : ∃ n : ℕ, Counts (fun i ↦ (s.pc i).counted = true) n ∧ s.sleepers = n
  /-- Outside the critical sections the callbacks are on exactly when somebody waits. -/
  switch : s.txLock = none → (s.cbEnabled = true ↔ 0 < s.sleepers)
  /-- A caller on `sendq` can be woken. -/
  asleep : ∀ i, s.pc i = .asleep → s.cbEnabled = true
  /-- Once the last waiter has left its decrement's critical section, they are off. -/
  last : (∀ i, (s.pc i).counted = false) → (∀ i t msg, s.pc i ≠ .downDisable t msg) →
    s.cbEnabled = false

/-- **The callbacks are on when somebody sleeps and off when nobody waits**, however the senders,
the remote, the timeouts and the signals interleave. -/
theorem sleepersRight_of_reachable (L : BufLayout) (vringNum : ℕ) (calls : ℕ → SendCall)
    (s : TxState) (h : Reachable (TxState.txStep L vringNum) (.probed calls) s) :
    SleepersRight s := by
  have hinv := sleepersInv_of_reachable h
  have hlock := (txInv_of_reachable h).lock
  constructor
  · exact hinv.count
  · intro hfree
    refine hinv.settled fun i ↦ Bool.eq_false_iff.2 fun hi ↦ ?_
    have hheld : s.txLock = some i := (hlock i).1 (TxPc.inSection_of_switching hi)
    rw [hfree] at hheld
    cases hheld
  · intro i hi
    exact hinv.cbEnabled_of_counted (i := i) (by rw [hi]; rfl) (by rw [hi]; simp)
  · intro hnobody hdown
    obtain ⟨n, hn, hs⟩ := hinv.count
    have hzero : n = 0 := hn.unique (counts_zero fun i ↦ by simp [hnobody i])
    refine Bool.eq_false_iff.2 fun hon ↦ ?_
    have hpos := (hinv.settled fun i ↦ Bool.eq_false_iff.2 fun hi ↦ ?_).1 hon
    · omega
    · rcases TxPc.switching_eq_true.1 hi with hpc | ⟨t, msg, hpc⟩
      · have := hnobody i
        rw [hpc] at this
        cases this
      · exact hdown i t msg hpc

/-- The only buffer is posted and a second sender has gone to sleep, with the callbacks on. -/
theorem sleepersRight_asleep :
    ∃ s, run (TxState.txStep (.ofProbe 1 0x1000) 1) (.probed fun _ ↦ ⟨1024, 61, [7], 1, true⟩)
        [.call 0 ⟨1024, 61, [7], 1, true⟩, .next 0, .next 0, .next 0, .next 0, .next 0, .next 0,
          .added 0 (.ok ()), .next 0, .next 0,
          .call 1 ⟨1025, 61, [8], 1, true⟩, .next 1, .next 1, .next 1, .next 1, .next 1, .next 1,
          .next 1, .next 1, .next 1, .next 1, .next 1, .next 1, .prepared 1 false, .next 1,
          .next 1, .next 1, .next 1] = some s ∧
      s.pc 1 = .asleep ∧ SleepersRight s := by
  obtain ⟨s, hs, hpc⟩ := Option.map_eq_some_iff.1 (show Option.map (fun s ↦ s.pc 1)
    (run (TxState.txStep (.ofProbe 1 0x1000) 1) (.probed fun _ ↦ ⟨1024, 61, [7], 1, true⟩)
      [.call 0 ⟨1024, 61, [7], 1, true⟩, .next 0, .next 0, .next 0, .next 0, .next 0, .next 0,
        .added 0 (.ok ()), .next 0, .next 0,
        .call 1 ⟨1025, 61, [8], 1, true⟩, .next 1, .next 1, .next 1, .next 1, .next 1, .next 1,
        .next 1, .next 1, .next 1, .next 1, .next 1, .next 1, .prepared 1 false, .next 1,
        .next 1, .next 1, .next 1]) = some .asleep by decide +kernel)
  exact ⟨s, hs, hpc, sleepersRight_of_reachable _ 1 _ s (reachable_of_run hs)⟩
