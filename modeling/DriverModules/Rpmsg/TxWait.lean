import DriverModules.Rpmsg.TxFailures

/-!
# How often a sender waits

A blocking send waits for a buffer in a loop, and one turn of it is meant to be enough: the caller
is to be blocked until a TX buffer is available or 15 seconds have gone by, and to get an error
then. `wait_event_interruptible_timeout` has a third way to end, by a signal, and returns a negative
number then; the only test behind it is `if (!err)`, so the loop waits again, and as the signal is
still pending that wait ends at once.

`WaitState` is the TX side together with how the waits of each caller's current call ended.
`waitLaw_iff` says which runs keep what the function promises, and `run_interruptedTurns` that there
is no bound on the waits in the others.
-/

open Transition

namespace TxPc

/-- The caller has left the wait loop. -/
def pastLoop : TxPc → Bool
  | fill _ | addLock _ | addOutbuf _ | kick | addUnlock _ | returned _ => true
  | _ => false

/-- How the wait ended that the caller is about to leave, from `err == 0` and the buffer. -/
def waitEnd : TxPc → List WaitOutcome
  | downUnlock true _ => [.timeout]
  | downUnlock false (some _) => [.buffer]
  | downUnlock false none => [.interrupted]
  | _ => []

end TxPc

/-- The TX side, and for each caller the outcomes of the waits of the call it is in. -/
structure WaitState where
  tx : TxState
  waits : ℕ → List WaitOutcome

namespace WaitState

def probed (calls : ℕ → SendCall) : WaitState := ⟨.probed calls, fun _ ↦ []⟩

/-- The outcomes after an event: a call begins with none, and a wait that ends adds its own. -/
def log (w : WaitState) (ev : TxEvent) (i : ℕ) : List WaitOutcome :=
  match ev with
  | .call j _ => if i = j then [] else w.waits i
  | .next j => if i = j then w.waits i ++ (w.tx.pc i).waitEnd else w.waits i
  | .prepared _ _ | .awake _ _ | .added _ _ | .consume _ => w.waits i

def step (L : BufLayout) (vringNum : ℕ) (w : WaitState) (ev : TxEvent) : Option WaitState :=
  (w.tx.txStep L vringNum ev).map fun tx ↦ ⟨tx, w.log ev⟩

end WaitState

/-- What a blocking send promises of its waits, by where the caller is and how they ended. -/
structure WaitRight (pc : TxPc) (waits : List WaitOutcome) : Prop where
  /-- A call waits once at most. -/
  once : waits.length ≤ 1
  /-- When the wait is over the caller has left the loop. -/
  leaves : waits ≠ [] → pc.pastLoop = true
  /-- A wait that brought no buffer has ended the call with an error. -/
  fails : ∀ o ∈ waits, o ≠ .buffer → pc = .returned (.error .ERESTARTSYS)

/-- Every caller's waits are right. -/
def WaitLaw (w : WaitState) : Prop := ∀ i, WaitRight (w.tx.pc i) (w.waits i)

/-- The event is the end of a wait that was interrupted and brought no buffer. -/
def Interrupted (w : WaitState) : TxEvent → Prop
  | .next i => w.tx.pc i = .downUnlock false none
  | _ => False

instance (w : WaitState) (ev : TxEvent) : Decidable (Interrupted w ev) :=
  match ev with
  | .next _ => inferInstanceAs (Decidable (_ = _))
  | .call .. | .prepared .. | .awake .. | .added .. | .consume _ =>
    inferInstanceAs (Decidable False)

variable {L : BufLayout} {vringNum : ℕ} {w w' : WaitState} {s s' : TxState} {ev : TxEvent} {i : ℕ}
  {waits : List WaitOutcome}

/-! ### One step -/

/-- The outcomes of the others stay. -/
theorem WaitState.log_of_ne (hne : ev.caller ≠ some i) : w.log ev i = w.waits i := by
  rcases ev with ⟨j, c⟩ | j | ⟨j, signal⟩ | ⟨j, expired⟩ | ⟨j, ret⟩ | b
  · exact if_neg fun h ↦ hne (congrArg some h.symm)
  · exact if_neg fun h ↦ hne (congrArg some h.symm)
  all_goals rfl

/-- A caller that has left the loop stays outside, and one that has returned does nothing. -/
theorem TxState.pastLoop_next (h : s.next L i = some s') (hpast : (s.pc i).pastLoop = true) :
    (s'.pc i).pastLoop = true ∧ ∀ r, s.pc i ≠ .returned r := by
  unfold TxState.next at h
  split at h
  case h_14 b hpc =>
    obtain rfl := Option.some.inj h
    exact ⟨congrArg TxPc.pastLoop (s.pc_goto_self i (.addLock b)), fun r hr ↦ by cases hpc ▸ hr⟩
  case h_15 b hpc =>
    obtain ⟨-, rfl⟩ := TxState.lock_eq_some h
    exact ⟨congrArg TxPc.pastLoop (s.pc_goto_self i (.addOutbuf b)), fun r hr ↦ by cases hpc ▸ hr⟩
  case h_16 hpc =>
    obtain rfl := Option.some.inj h
    exact ⟨congrArg TxPc.pastLoop (s.pc_goto_self i (.addUnlock (.ok ()))),
      fun r hr ↦ by cases hpc ▸ hr⟩
  case h_17 err hpc =>
    obtain rfl := Option.some.inj h
    exact ⟨congrArg TxPc.pastLoop (s.pc_goto_self i (.returned err)),
      fun r hr ↦ by cases hpc ▸ hr⟩
  all_goals
    first
    | (next hpc => rw [hpc] at hpast; exact absurd hpast Bool.false_ne_true)
    | cases h

theorem TxState.pastLoop_step (h : s.txStep L vringNum ev = some s') (hi : ev.caller = some i)
    (hcall : ∀ c, ev ≠ .call i c) (hpast : (s.pc i).pastLoop = true) :
    (s'.pc i).pastLoop = true ∧ ∀ r, s.pc i ≠ .returned r := by
  obtain ⟨j, c, p, rfl, -, -, -⟩ | ⟨j, rfl, hs⟩ | ⟨j, signal, expired, rfl, hpc, -⟩ |
    ⟨j, expired, rfl, hpc, -⟩ | ⟨j, b, e, rfl, hpc, rfl⟩ | ⟨j, b, rfl, hpc, -, rfl⟩ |
    ⟨b, svq, rfl, -, -⟩ := TxState.txStep_cases h
  case inr.inr.inr.inr.inr.inr => cases hi
  all_goals obtain rfl := Option.some.inj hi
  · exact absurd rfl (hcall c)
  · exact TxState.pastLoop_next hs hpast
  · rw [hpc] at hpast
    exact absurd hpast Bool.false_ne_true
  · rw [hpc] at hpast
    exact absurd hpast Bool.false_ne_true
  · exact ⟨congrArg TxPc.pastLoop (s.pc_goto_self j _), fun r hr ↦ by cases hpc ▸ hr⟩
  · exact ⟨congrArg TxPc.pastLoop (s.pc_goto_self j .kick), fun r hr ↦ by cases hpc ▸ hr⟩

theorem WaitRight.nil {p : TxPc} : WaitRight p [] :=
  ⟨Nat.zero_le 1, fun h ↦ absurd rfl h, fun _ ho ↦ absurd ho List.not_mem_nil⟩

/-- What is right of a caller outside the loop stays right while it stays there; of one in the loop
nothing is logged. -/
theorem WaitRight.keep {p p' : TxPc} (h : WaitRight p waits)
    (hkeep : p.pastLoop = true → p'.pastLoop = true ∧ ∀ r, p ≠ .returned r) :
    WaitRight p' waits := by
  by_cases hpast : p.pastLoop = true
  · obtain ⟨hpast', hret⟩ := hkeep hpast
    exact ⟨h.once, fun _ ↦ hpast', fun o ho hne ↦ absurd (h.fails o ho hne) (hret _)⟩
  · obtain rfl : waits = [] := not_not.1 fun hne ↦ hpast (h.leaves hne)
    exact .nil

/-- The end of a wait. -/
theorem waitRight_afterWait (timedOut : Bool) (msg : Option ℕ) :
    WaitRight (TxState.afterWait timedOut msg) (TxPc.downUnlock timedOut msg).waitEnd ↔
      (timedOut, msg) ≠ (false, none) := by
  rcases timedOut with - | -
  · rcases msg with - | b
    · refine iff_of_false (fun h ↦ ?_) (not_not_intro rfl)
      cases h.leaves (List.cons_ne_nil _ _)
    · refine iff_of_true ⟨Nat.le_refl 1, fun _ ↦ rfl, fun o ho hne ↦ ?_⟩ (by simp)
      exact absurd (List.mem_singleton.1 ho) hne
  · exact iff_of_true ⟨Nat.le_refl 1, fun _ ↦ rfl, fun _ _ _ ↦ rfl⟩ (by simp)

/-- What follows the end of a wait. -/
theorem TxState.next_downUnlock {timedOut : Bool} {msg : Option ℕ} (h : s.next L i = some s')
    (hpc : s.pc i = .downUnlock timedOut msg) : s'.pc i = afterWait timedOut msg := by
  simp only [TxState.next, hpc, Option.some.injEq] at h
  rw [← h]
  exact s.pc_goto_self i _

/-- **A caller's own step** keeps its waits right unless it is the end of an interrupted wait. -/
theorem waitRight_next (h : WaitRight (s.pc i) waits) (hs : s.next L i = some s') :
    WaitRight (s'.pc i) (waits ++ (s.pc i).waitEnd) ↔ s.pc i ≠ .downUnlock false none := by
  by_cases hend : ∃ timedOut msg, s.pc i = .downUnlock timedOut msg
  · obtain ⟨timedOut, msg, hpc⟩ := hend
    have hin : ¬ (s.pc i).pastLoop = true := by
      rw [hpc]
      exact Bool.false_ne_true
    obtain rfl : waits = [] := not_not.1 fun hne ↦ hin (h.leaves hne)
    rw [TxState.next_downUnlock hs hpc, hpc, List.nil_append, waitRight_afterWait]
    simp
  · have hnil : (s.pc i).waitEnd = [] := by
      rcases hpc : s.pc i <;> first | rfl | exact absurd ⟨_, _, hpc⟩ hend
    rw [hnil, List.append_nil]
    exact iff_of_true (h.keep (TxState.pastLoop_next hs)) fun hpc ↦ hend ⟨_, _, hpc⟩

/-- **A step keeps the law exactly when it is not the end of an interrupted wait.** -/
theorem waitLaw_step (h : WaitLaw w) (hs : w.step L vringNum ev = some w') :
    WaitLaw w' ↔ ¬ Interrupted w ev := by
  obtain ⟨tx, htx, rfl⟩ := Option.map_eq_some_iff.1 hs
  have hothers : ∀ i, ev.caller ≠ some i → WaitRight (tx.pc i) (w.log ev i) := fun i hne ↦ by
    rw [TxState.pc_txStep htx hne, WaitState.log_of_ne hne]
    exact h i
  have hlaw : ∀ i, ev.caller = some i →
      (WaitLaw ⟨tx, w.log ev⟩ ↔ WaitRight (tx.pc i) (w.log ev i)) := by
    refine fun i hi ↦ ⟨fun h ↦ h i, fun hright j ↦ ?_⟩
    rcases eq_or_ne j i with rfl | hj
    · exact hright
    · exact hothers j fun hj' ↦ hj (Option.some.inj (hj'.symm.trans hi))
  rcases ev with ⟨i, c⟩ | i | ⟨i, signal⟩ | ⟨i, expired⟩ | ⟨i, ret⟩ | b
  · rw [hlaw i rfl, show w.log (.call i c) i = [] from if_pos rfl]
    exact iff_of_true .nil id
  · rw [hlaw i rfl, show w.log (.next i) i = w.waits i ++ (w.tx.pc i).waitEnd from if_pos rfl]
    exact waitRight_next (h i) htx
  · rw [hlaw i rfl]
    exact iff_of_true ((h i).keep (TxState.pastLoop_step htx rfl (by simp))) id
  · rw [hlaw i rfl]
    exact iff_of_true ((h i).keep (TxState.pastLoop_step htx rfl (by simp))) id
  · rw [hlaw i rfl]
    exact iff_of_true ((h i).keep (TxState.pastLoop_step htx rfl (by simp))) id
  · exact iff_of_true (fun i ↦ hothers i (Option.some_ne_none i).symm) id

/-! ### Every run -/

theorem waitLaw_probed (calls : ℕ → SendCall) : WaitLaw (.probed calls) := fun _ ↦ .nil

/-- **The waits of all callers are right throughout a run exactly when none of them was interrupted
without a buffer**, whatever the other senders and the remote do. -/
theorem waitLaw_iff (L : BufLayout) (vringNum : ℕ) (calls : ℕ → SendCall) (evs : List TxEvent)
    (w : WaitState) (h : run (WaitState.step L vringNum) (.probed calls) evs = some w) :
    Throughout (WaitState.step L vringNum) (fun _ ↦ WaitLaw) (.probed calls) evs ↔
      Meets (WaitState.step L vringNum) (fun w ev ↦ ¬ Interrupted w ev) (.probed calls) evs :=
  throughout_iff_meets (waitLaw_probed calls)
    (fun _ _ hlaw hs ↦ waitLaw_step hlaw hs) h

/-- The remote holds the only TX buffer, and caller `1` has found none and is to wait. -/
def ringExhausted : List TxEvent :=
  [.call 0 ⟨1024, 61, [7], 1, true⟩, .next 0, .next 0, .next 0, .next 0, .next 0, .next 0,
    .added 0 (.ok ()), .next 0, .next 0,
    .call 1 ⟨1025, 61, [8], 1, true⟩, .next 1, .next 1, .next 1, .next 1]

/-- A wait for the only buffer that ends because the time runs out. -/
theorem waitLaw_timeout :
    Throughout (WaitState.step (.ofProbe 1 0x1000) 1) (fun _ ↦ WaitLaw)
      (.probed fun _ ↦ ⟨1024, 61, [7], 1, true⟩)
      (ringExhausted ++ [.next 1, .next 1, .next 1, .next 1, .next 1, .next 1, .next 1, .next 1,
        .prepared 1 false, .next 1, .next 1, .next 1, .next 1, .awake 1 true, .prepared 1 false,
        .next 1, .next 1, .next 1, .next 1, .next 1, .next 1, .next 1, .next 1]) := by
  obtain ⟨w, hw, -⟩ := Option.map_eq_some_iff.1 (show Option.map (fun w ↦ w.waits 1)
    (runIf (WaitState.step (.ofProbe 1 0x1000) 1) (fun w ev ↦ decide (¬ Interrupted w ev))
      (.probed fun _ ↦ ⟨1024, 61, [7], 1, true⟩)
      (ringExhausted ++ [.next 1, .next 1, .next 1, .next 1, .next 1, .next 1, .next 1, .next 1,
        .prepared 1 false, .next 1, .next 1, .next 1, .next 1, .awake 1 true, .prepared 1 false,
        .next 1, .next 1, .next 1, .next 1, .next 1, .next 1, .next 1, .next 1])) =
          some [.timeout] by decide +kernel)
  exact (waitLaw_iff _ 1 _ _ w (run_of_runIf hw)).2
    (meets_of_runIf (fun _ _ ↦ of_decide_eq_true) hw)

/-! ### A signal and no buffer -/

/-- Caller `i` counts itself in, tests, finds its signal pending, tests again, and counts itself
out. -/
def interruptedTurn (i : ℕ) : List TxEvent :=
  let four := [.next i, .next i, .next i, .next i]
  four ++ (four ++ (.prepared i true :: four ++ four))

/-- Caller `i` is at `p` after `n` interrupted waits; nobody holds the mutex, and there is no buffer
to be had. -/
structure Exhausted (L : BufLayout) (i : ℕ) (p : TxPc) (sleepers : ℤ) (n : ℕ) (w : WaitState) :
    Prop where
  pc : w.tx.pc i = p
  free : w.tx.txLock = none
  sleepers : w.tx.sleepers = sleepers
  bumped : ¬ w.tx.lastSbuf < L.numBufs / 2
  unused : w.tx.svq.getBuf = none
  waits : w.waits i = .replicate n .interrupted

variable {n : ℕ}

theorem Exhausted.upref (vringNum : ℕ) (h : Exhausted L i .upLock 0 n w) :
    ∃ w', run (WaitState.step L vringNum) w [.next i, .next i, .next i, .next i] = some w' ∧
      Exhausted L i (.getLock .fast) 1 n w' := by
  obtain ⟨hpc, hfree, hsleepers, hbumped, hunused, hwaits⟩ := h
  simp only [TxState.pc] at hpc
  refine ⟨_, by simp [WaitState.step, TxState.txStep, TxState.next, TxState.lock, TxState.unlock,
    TxState.goto, TxState.pc, hpc, hfree, hsleepers]; rfl, ?_⟩
  constructor <;>
    simp [TxState.pc, WaitState.log, TxPc.waitEnd, hpc, hbumped, hunused, hwaits]

theorem Exhausted.fast (vringNum : ℕ) (h : Exhausted L i (.getLock .fast) 1 n w) :
    ∃ w', run (WaitState.step L vringNum) w [.next i, .next i, .next i, .next i] = some w' ∧
      Exhausted L i (.prepare false) 1 n w' := by
  obtain ⟨hpc, hfree, hsleepers, hbumped, hunused, hwaits⟩ := h
  simp only [TxState.pc] at hpc
  refine ⟨_, by simp [WaitState.step, TxState.txStep, TxState.next, TxState.lock, TxState.unlock,
    TxState.goto, TxState.pc, TxState.afterGet, hpc, hfree, hbumped, hunused]; rfl, ?_⟩
  constructor <;>
    simp [TxState.pc, WaitState.log, TxPc.waitEnd, hpc, hsleepers, hbumped, hunused, hwaits]

theorem Exhausted.signal (vringNum : ℕ) (h : Exhausted L i (.prepare false) 1 n w) :
    ∃ w', run (WaitState.step L vringNum) w
        [.prepared i true, .next i, .next i, .next i, .next i] = some w' ∧
      Exhausted L i (.downLock false none) 1 n w' := by
  obtain ⟨hpc, hfree, hsleepers, hbumped, hunused, hwaits⟩ := h
  simp only [TxState.pc] at hpc
  refine ⟨_, by simp [WaitState.step, TxState.txStep, TxState.next, TxState.lock, TxState.unlock,
    TxState.goto, TxState.pc, TxState.afterGet, hpc, hfree, hbumped, hunused]; rfl, ?_⟩
  constructor <;>
    simp [TxState.pc, WaitState.log, TxPc.waitEnd, hsleepers, hbumped, hunused, hwaits]

theorem Exhausted.downref (vringNum : ℕ) (h : Exhausted L i (.downLock false none) 1 n w) :
    ∃ w', run (WaitState.step L vringNum) w [.next i, .next i, .next i, .next i] = some w' ∧
      Exhausted L i .upLock 0 (n + 1) w' := by
  obtain ⟨hpc, hfree, hsleepers, hbumped, hunused, hwaits⟩ := h
  simp only [TxState.pc] at hpc
  refine ⟨_, by simp [WaitState.step, TxState.txStep, TxState.next, TxState.lock, TxState.unlock,
    TxState.goto, TxState.pc, TxState.afterWait, hpc, hfree, hsleepers]; rfl, ?_⟩
  constructor <;>
    simp [TxState.pc, WaitState.log, TxPc.waitEnd, hpc, hbumped, hunused, hwaits,
      List.replicate_succ']

/-- **Another turn**: the caller is where it was, and has waited once more. -/
theorem Exhausted.turn (vringNum : ℕ) (h : Exhausted L i .upLock 0 n w) :
    ∃ w', run (WaitState.step L vringNum) w (interruptedTurn i) = some w' ∧
      Exhausted L i .upLock 0 (n + 1) w' := by
  obtain ⟨w₁, h₁, hfast⟩ := h.upref vringNum
  obtain ⟨w₂, h₂, hprepare⟩ := hfast.fast vringNum
  obtain ⟨w₃, h₃, hdown⟩ := hprepare.signal vringNum
  obtain ⟨w₄, h₄, hup⟩ := hdown.downref vringNum
  refine ⟨w₄, ?_, hup⟩
  rw [interruptedTurn, run_append, h₁, Option.bind_some, run_append, h₂, Option.bind_some,
    run_append, h₃, Option.bind_some, h₄]

/-- **There is no bound on the waits of a call**: as long as the signal is pending and the ring
exhausted, it goes on. -/
theorem run_interruptedTurns (n : ℕ) :
    ∃ w, run (WaitState.step (.ofProbe 1 0x1000) 1) (.probed fun _ ↦ ⟨1024, 61, [7], 1, true⟩)
        (ringExhausted ++ (List.replicate n (interruptedTurn 1)).flatten) = some w ∧
      w.waits 1 = .replicate n .interrupted := by
  obtain ⟨w₀, hw₀, hread⟩ := Option.map_eq_some_iff.1 (show Option.map
    (fun w ↦ ((w.tx.pc 1, w.tx.txLock, w.tx.sleepers), w.tx.lastSbuf, w.tx.svq.getBuf.isNone,
      w.waits 1))
    (run (WaitState.step (.ofProbe 1 0x1000) 1) (.probed fun _ ↦ ⟨1024, 61, [7], 1, true⟩)
      ringExhausted) = some ((.upLock, none, 0), 1, true, []) by decide +kernel)
  simp only [Prod.mk.injEq] at hread
  obtain ⟨⟨hpc, hfree, hsleepers⟩, hlast, hunused, hwaits⟩ := hread
  have h₀ : Exhausted (.ofProbe 1 0x1000) 1 .upLock 0 0 w₀ :=
    ⟨hpc, hfree, hsleepers, by rw [hlast]; decide, Option.isNone_iff_eq_none.1 hunused, hwaits⟩
  suffices hturns : ∃ w, run (WaitState.step (.ofProbe 1 0x1000) 1) w₀
      (List.replicate n (interruptedTurn 1)).flatten = some w ∧
      Exhausted (.ofProbe 1 0x1000) 1 .upLock 0 n w by
    obtain ⟨w, hw, hn⟩ := hturns
    exact ⟨w, by rw [run_append, hw₀, Option.bind_some, hw], hn.waits⟩
  induction n with
  | zero => exact ⟨w₀, rfl, h₀⟩
  | succ n ih =>
    obtain ⟨w, hw, hn⟩ := ih
    obtain ⟨w', hw', hn'⟩ := hn.turn 1
    refine ⟨w', ?_, hn'⟩
    rw [List.replicate_succ', List.flatten_append, run_append, hw, Option.bind_some,
      List.flatten_singleton, hw']

/-- A call whose signal stays pending waits a second time. -/
theorem waitLaw_interrupted :
    ¬ ∀ (L : BufLayout) (vringNum : ℕ) (calls : ℕ → SendCall) (evs : List TxEvent) (w : WaitState),
      run (WaitState.step L vringNum) (.probed calls) evs = some w →
      Throughout (WaitState.step L vringNum) (fun _ ↦ WaitLaw) (.probed calls) evs := by
  intro h
  obtain ⟨w, hw, hwaits⟩ := run_interruptedTurns 2
  have honce := (h _ 1 _ _ w hw _ List.prefix_rfl w hw 1).once
  rw [hwaits] at honce
  exact absurd honce (by decide)
