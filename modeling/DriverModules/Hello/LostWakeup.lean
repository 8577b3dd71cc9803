import DriverModules.Hello.Mailbox

/-!
# Lost wake-ups

`hello_write` wakes the queue before it sets the flag. A reader that tests the flag between the two
finds it clear, sleeps, and nobody will wake it: `wakeup_lost` is such a schedule. What saves a
reader is that nobody has missed the flag when it is set, or that another writer is still to wake
the queue (`Heard`); in the runs in which every store of the flag is heard no reader is left asleep
(`noneLeftAsleep_of_heard`).

## Main results, and what each rests on

* `noneLeftAsleep_of_heard`: under `Heard` nobody is left asleep, over every schedule. It rests on
  the invariant `WakeComes`, which speaks about readers that have missed the flag and not about
  those asleep, since a reader is lost before it sleeps. A step of one thread keeps it by the frame
  lemma `WakeComes.frame`; the guard is used in one place, the store of the flag (`wakeComes_set`).
* `noneLeftAsleep_second_writer`: the condition lets through a run in which the flag is set beside a
  reader that has missed it, because a second writer is still to wake the queue. When that one has
  returned too, the reader has been woken.
* `wakeup_lost`: without the condition it is false, by a run of one reader and one writer.
-/

open Transition

namespace HelloState

variable {s s' : HelloState} {t u : ℕ} {p : HelloPc}

/-- No reader sleeps beside a set flag with nobody left to wake it. -/
def NoneLeftAsleep (s : HelloState) : Prop :=
  s.enable_read = 1 → (∀ t, (s.pc t).writing = false) → ∀ t, s.waiting t = false

/-- When a writer sets the flag, no reader has found it clear since it queued itself, or another
writer has its wake-up ahead. -/
def Heard (s : HelloState) : HelloEvent → Prop
  | .next t _ => s.pc t = .writeSet →
    (∀ r, s.missed r = false) ∨ ∃ w, (s.pc w).wakeAhead = true
  | _ => True

/-- Beside a set flag no reader has missed it, or a wake-up is to come. -/
def WakeComes (s : HelloState) : Prop :=
  s.enable_read ≠ 0 → (∀ r, s.missed r = false) ∨ ∃ w, (s.pc w).wakeAhead = true

/-- A step in which thread `t` moves, neither misses the flag nor gives up its wake-up. -/
theorem WakeComes.frame (h : WakeComes s) (hflag : s'.enable_read = s.enable_read)
    (hpc : ∀ u, u ≠ t → s'.pc u = s.pc u) (hqueue : ∀ u, u ≠ t → s'.myQueue u = s.myQueue u)
    (hmissed : s'.missed t = true → s.missed t = true)
    (hwake : (s.pc t).wakeAhead = true → (s'.pc t).wakeAhead = true) : WakeComes s' := by
  intro hset
  rw [hflag] at hset
  rcases h hset with hnone | ⟨w, hw⟩
  · refine .inl fun r ↦ ?_
    by_cases hr : r = t
    · rw [hr]
      rcases hm : s'.missed t with - | -
      · rfl
      · exact absurd (hmissed hm) (by rw [hnone t]; exact Bool.false_ne_true)
    · rw [missed, hpc r hr, hqueue r hr]
      exact hnone r
  · refine .inr ⟨w, ?_⟩
    by_cases hwt : w = t
    · rw [hwt] at hw ⊢
      exact hwake hw
    · rwa [hpc w hwt]

/-- A thread that goes to a place where it has missed nothing. -/
theorem WakeComes.goto (h : WakeComes s) (hp : p.committed = false)
    (hwake : (s.pc t).wakeAhead = true → p.wakeAhead = true)
    (hflag : s'.enable_read = s.enable_read) (hpc : s'.pc = (s.goto t p).pc)
    (hqueue : ∀ u, u ≠ t → s'.myQueue u = s.myQueue u) : WakeComes s' := by
  refine h.frame (t := t) hflag (fun u hu ↦ ?_) hqueue (fun hm ↦ ?_) fun hw ↦ ?_
  · rw [hpc, pc_goto_of_ne s p hu]
  · rw [missed, hpc, pc_goto_self, hp] at hm
    cases hm
  · rw [hpc, pc_goto_self]
    exact hwake hw

theorem HelloPc.wakeAhead_of_canCall {p : HelloPc} (h : p.canCall = true) :
    p.wakeAhead = false := by
  cases p <;> first | rfl | cases h

/-- The store of the flag, when it is heard: nobody has missed it, or somebody else will wake the
queue. -/
theorem wakeComes_set (hheard : (∀ r, s.missed r = false) ∨ ∃ w, (s.pc w).wakeAhead = true)
    (hpc : s.pc t = .writeSet) : WakeComes { s.goto t .writeTail with enable_read := 1 } := by
  intro _
  rcases hheard with hnone | ⟨w, hw⟩
  · refine .inl fun r ↦ ?_
    show (((s.goto t .writeTail).pc r).committed && s.myQueue r) = false
    by_cases hr : r = t
    · rw [hr, pc_goto_self]
      rfl
    · rw [pc_goto_of_ne s _ hr]
      exact hnone r
  · have hwt : w ≠ t := by
      rintro rfl
      rw [hpc] at hw
      cases hw
    refine .inr ⟨w, ?_⟩
    show ((s.goto t .writeTail).pc w).wakeAhead = true
    rwa [pc_goto_of_ne s _ hwt]

theorem wakeComes_next {copied : ℕ} (h : WakeComes s) (hheard : Heard s (.next t copied))
    (hstep : s.next t copied = some s') : WakeComes s' := by
  unfold next at hstep
  split at hstep
  case h_1 user size hpc =>
    cases hstep
    exact h.goto (t := t) (p := .writeWake) rfl (fun _ ↦ rfl) rfl rfl fun _ _ ↦ rfl
  case h_2 hpc =>
    cases hstep
    exact fun _ ↦ .inl fun r ↦ Bool.and_false _
  case h_3 hpc =>
    cases hstep
    exact wakeComes_set (hheard hpc) hpc
  case h_4 hpc =>
    cases hstep
    exact h.goto (t := t) rfl (by rw [hpc]; exact Bool.noConfusion) rfl rfl fun _ _ ↦ rfl
  case h_5 size hpc =>
    cases hstep
    refine h.goto (t := t) ?_ (by rw [hpc]; exact Bool.noConfusion) rfl rfl fun _ _ ↦ rfl
    split <;> rfl
  case h_6 size signal expired hpc =>
    have hnot : ∀ {q : HelloPc}, (s.pc t).wakeAhead = true → q.wakeAhead = true := by
      rw [hpc]
      exact Bool.noConfusion
    split at hstep
    · cases hstep
      exact h.goto (t := t) (p := .readClear size) rfl hnot rfl rfl fun u hu ↦
        Function.update_of_ne hu _ _
    · next hclear =>
      split at hstep <;> cases hstep
      · exact h.goto (t := t) rfl hnot rfl rfl fun _ _ ↦ rfl
      · -- the flag is clear
        exact fun hset ↦ absurd (.inl hset) hclear
  case h_7 size hpc =>
    cases hstep
    refine h.frame (t := t) rfl (fun u hu ↦ pc_goto_of_ne s _ hu) (fun _ _ ↦ rfl) (fun hm ↦ ?_)
      (by rw [hpc]; exact Bool.noConfusion)
    rw [missed, pc_goto_self] at hm
    rw [missed, hpc]
    exact hm
  case h_8 size hpc =>
    cases hstep
    exact fun hset ↦ absurd rfl hset
  case h_9 size hpc =>
    cases hstep
    exact h.goto (t := t) (p := .readCopy size s.pInputData) rfl
      (by rw [hpc]; exact Bool.noConfusion) rfl rfl fun _ _ ↦ rfl
  case h_10 size snap hpc =>
    cases hstep
    exact h.goto (t := t) rfl (by rw [hpc]; exact Bool.noConfusion) rfl rfl fun _ _ ↦ rfl
  all_goals cases hstep

/-- **A heard step keeps a wake-up coming.** -/
theorem wakeComes_step {ev : HelloEvent} (h : WakeComes s) (hheard : Heard s ev)
    (hstep : s.helloStep ev = some s') : WakeComes s' := by
  have hcall : ∀ {t p}, (s.pc t).canCall = true → p.committed = false → WakeComes (s.goto t p) := by
    intro t p hcan hp
    refine h.goto (t := t) hp (fun hw ↦ ?_) rfl rfl fun _ _ ↦ rfl
    rw [HelloPc.wakeAhead_of_canCall hcan] at hw
    cases hw
  cases ev with
  | write t user size =>
    simp only [helloStep] at hstep
    split at hstep
    · next hcan =>
      cases hstep
      refine hcall hcan ?_
      split <;> rfl
    · cases hstep
  | read t size =>
    simp only [helloStep] at hstep
    split at hstep
    · next hcan =>
      cases hstep
      refine hcall hcan ?_
      split <;> rfl
    · cases hstep
  | next t copied => exact wakeComes_next h hheard hstep
  | prepared t signal =>
    simp only [helloStep] at hstep
    split at hstep
    · next size expired hpc =>
      cases hstep
      exact h.goto (t := t) (p := .readTest size signal expired) rfl
        (by rw [hpc]; exact Bool.noConfusion) rfl rfl fun u hu ↦ Function.update_of_ne hu _ _
    · cases hstep
  | awake t expired =>
    simp only [helloStep] at hstep
    split at hstep
    · next size hpc =>
      cases hstep
      exact h.goto (t := t) (p := .readPrepare size expired) rfl
        (by rw [hpc]; exact Bool.noConfusion) rfl rfl fun u hu ↦ Function.update_of_ne hu _ _
    · cases hstep

theorem HelloPc.writing_of_wakeAhead {p : HelloPc} (h : p.wakeAhead = true) : p.writing = true := by
  cases p <;> first | rfl | cases h

theorem WakeComes.noneLeftAsleep (h : WakeComes s) : NoneLeftAsleep s := by
  intro hset hidle t
  rcases h (by rw [hset]; decide) with hnone | ⟨w, hw⟩
  · have hm := hnone t
    unfold missed at hm
    unfold waiting
    rcases hp : s.pc t <;> rw [hp] at hm <;> first | rfl | exact hm
  · have := HelloPc.writing_of_wakeAhead hw
    rw [hidle w] at this
    cases this

/-- **No reader is left asleep in the runs in which every store of the flag is heard.** -/
theorem noneLeftAsleep_of_heard (s : HelloState) (h : Reaches helloStep Heard .init s) :
    NoneLeftAsleep s :=
  (h.invariant (fun hset ↦ absurd rfl hset) fun _ hs hheard hstep ↦
    wakeComes_step hs hheard hstep : WakeComes s).noneLeftAsleep

/-- Two writers: the first sets the flag under a sleeping reader, the second wakes it after that.
When both have returned the reader is not left asleep. -/
theorem noneLeftAsleep_second_writer :
    ∃ s : HelloState, s.enable_read = 1 ∧ s.pc 1 = .readAsleep 1 ∧
      (∀ t, (s.pc t).writing = false) ∧ s.waiting 1 = false := by
  let heard : HelloState → HelloEvent → Bool := fun s ev ↦
    match ev with
    | .next t _ => decide (s.pc t ≠ .writeSet) || (s.pc 2).wakeAhead
    | _ => true
  have hheard : ∀ s ev, heard s ev = true → Heard s ev := by
    rintro s (⟨t, user, size⟩ | ⟨t, size⟩ | ⟨t, copied⟩ | ⟨t, signal⟩ | ⟨t, expired⟩) h
    case next =>
      intro hpc
      rcases Bool.or_eq_true_iff.1 h with hne | hw
      · exact absurd hpc (of_decide_eq_true hne)
      · exact .inr ⟨2, hw⟩
    all_goals trivial
  let evs : List HelloEvent := [.write 0 [5] 1, .next 0 1, .next 0 0, .read 1 1, .next 1 0,
    .prepared 1 false, .next 1 0, .next 1 0, .write 2 [6] 1, .next 0 0, .next 0 0, .next 2 1]
  obtain ⟨s, hs, hstate⟩ := Option.map_eq_some_iff.1 (show Option.map
    (fun s : HelloState ↦ (s.pc 0, s.pc 1, s.pc 2)) (runIf helloStep heard .init evs) =
      some (.returned 0 [], .readAsleep 1, .writeWake) by decide +kernel)
  simp only [Prod.mk.injEq] at hstate
  obtain ⟨hpc₀, hpc₁, hpc₂⟩ := hstate
  -- the wake-up, the store of the flag and the return of the second writer
  let woken : HelloState := { s.goto 2 .writeSet with myQueue := fun _ ↦ false }
  let stored : HelloState := { woken.goto 2 .writeTail with enable_read := 1 }
  have hwake : helloStep s (.next 2 0) = some woken := by simp [helloStep, next, hpc₂, woken]
  have hstore : helloStep woken (.next 2 0) = some stored := by
    simp [helloStep, next, woken, stored, goto]
  have hreturn : helloStep stored (.next 2 0) = some (stored.goto 2 (.returned 0 [])) := by
    simp [helloStep, next, stored, goto]
  have hreach : Reaches helloStep Heard .init (stored.goto 2 (.returned 0 [])) := by
    have hheard₀ : Heard s (.next 2 0) := fun hpc ↦ by cases hpc₂.symm.trans hpc
    have hheard₁ : Heard woken (.next 2 0) := fun _ ↦ .inl fun r ↦ Bool.and_false _
    have hheard₂ : Heard stored (.next 2 0) := fun hpc ↦ by simp [stored, goto] at hpc
    exact (((reaches_of_runIf hheard hs).tail hheard₀ hwake).tail hheard₁ hstore).tail hheard₂
      hreturn
  have hrun : run helloStep .init (evs ++ [.next 2 0, .next 2 0, .next 2 0]) =
      some (stored.goto 2 (.returned 0 [])) := by
    rw [run_append, run_of_runIf hs]
    simp only [Option.bind_some, run_cons, hwake, hstore, hreturn, run_nil]
  have hidle := not_writing_of_run hrun
    (by simp [evs, HelloEvent.thread, stored, woken, goto, hpc₀, hpc₁, HelloPc.writing])
  have hpc : (stored.goto 2 (.returned 0 [])).pc 1 = .readAsleep 1 := by
    simp [stored, woken, goto, hpc₁]
  exact ⟨_, rfl, hpc, hidle, noneLeftAsleep_of_heard _ hreach rfl hidle 1⟩

/-- The reader tests the flag after the wake-up and before the store, and sleeps on when the writer
has returned. -/
theorem wakeup_lost : ¬ ∀ s, Reachable helloStep .init s → NoneLeftAsleep s := by
  intro h
  obtain ⟨s, hs, hbad⟩ := Option.map_eq_some_iff.1 (show Option.map
    (fun s : HelloState ↦ (s.enable_read, s.pc 0, s.pc 1, s.waiting 1)) (run helloStep .init
      [.write 0 [5] 1, .next 0 1, .next 0 0, .read 1 1, .next 1 0, .prepared 1 false, .next 1 0,
        .next 1 0, .next 0 0, .next 0 0]) = some (1, .returned 0 [], .readAsleep 1, true) by
    decide +kernel)
  simp only [Prod.mk.injEq] at hbad
  obtain ⟨hset, hpc₀, hpc₁, hasleep⟩ := hbad
  have hidle : ∀ t, (s.pc t).writing = false :=
    not_writing_of_run hs (by simp [HelloEvent.thread, hpc₀, hpc₁, HelloPc.writing])
  have := h s (reachable_of_run hs) hset hidle 1
  rw [hasleep] at this
  cases this

end HelloState
