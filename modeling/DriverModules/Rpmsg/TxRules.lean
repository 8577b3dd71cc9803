import DriverModules.Rpmsg.TxState

/-!
# What a step of a sender can do

The step function of `TxState` read once. Nothing that is proved about the senders unfolds it again.

## The kinds of steps

Most steps only move a caller's program counter: they take the mutex (`LockMove`), give it back
(`UnlockMove`) or do neither (`LocalMove`). The others change one shared thing each and have a rule
of their own: `last_sbuf`, the ring, the count of the sleepers, the interrupt, the contents of a
buffer. In this way an invariant that does not speak about the shared things sees three cases.

`GetMove` and `WaitMove` say where a call of `get_a_tx_buf` and the end of a wait lead to. The macro
`wait_event_interruptible_timeout` has two more calls of it than the code shows, and `NULL` means
something else at each: a caller that does not wait gives up, one that waits queues itself, and one
that is queued sleeps, unless the time is up or a signal is pending.

## Main results, and what each rests on

* `txStep_rule`: every step is one of the rules. The rules forget which event it was, so it serves
  the invariants of the state.
* `TxState.txStep_cases`: the same by event, for what is proved about the log of a run. The steps a
  caller makes by itself are one case there, which `next_rule` takes apart.
-/

open Transition

/-- What a call of `get_a_tx_buf` leads to, by its site and what it returned. -/
inductive GetMove : GetSite → Option ℕ → TxPc → Prop
  | got (b : ℕ) : GetMove .first (some b) (.fill b)
  | block : GetMove .first none .upLock
  | refuse : GetMove .first none (.returned (.error .ENOMEM))
  | gotFast (b : ℕ) : GetMove .fast (some b) (.downLock false (some b))
  | enqueue : GetMove .fast none (.prepare false)
  | gotLooped (b : ℕ) (interrupted expired : Bool) :
    GetMove (.looped interrupted expired) (some b) (.downLock false (some b))
  | expire (interrupted : Bool) : GetMove (.looped interrupted true) none (.downLock true none)
  | interrupt : GetMove (.looped true false) none (.downLock false none)
  | sleep : GetMove (.looped false false) none .asleep

/-- What the end of a wait leads to, by its outcome. -/
inductive WaitMove : Bool → Option ℕ → TxPc → Prop
  | timedOut (msg : Option ℕ) : WaitMove true msg (.returned (.error .ERESTARTSYS))
  | got (b : ℕ) : WaitMove false (some b) (.fill b)
  | again : WaitMove false none .upLock

theorem getMove (wait : Bool) (site : GetSite) (ret : Option ℕ) :
    GetMove site ret (TxState.afterGet wait site ret) := by
  rcases site with - | - | ⟨interrupted, expired⟩ <;> rcases ret with - | b
  · rcases wait with - | -
    · exact .refuse
    · exact .block
  · exact .got b
  · exact .enqueue
  · exact .gotFast b
  · rcases expired with - | -
    · rcases interrupted with - | -
      · exact .sleep
      · exact .interrupt
    · exact .expire interrupted
  · exact .gotLooped b interrupted expired

theorem waitMove (timedOut : Bool) (msg : Option ℕ) :
    WaitMove timedOut msg (TxState.afterWait timedOut msg) := by
  rcases timedOut with - | -
  · rcases msg with - | b
    · exact .again
    · exact .got b
  · exact .timedOut msg

/-- A caller takes `tx_lock`. -/
inductive LockMove : TxPc → TxPc → Prop
  | get (site : GetSite) : LockMove (.getLock site) (.getTest site)
  | up : LockMove .upLock .upInc
  | down (t : Bool) (msg : Option ℕ) : LockMove (.downLock t msg) (.downDec t msg)
  | add (b : ℕ) : LockMove (.addLock b) (.addOutbuf b)

/-- A caller gives `tx_lock` back. -/
inductive UnlockMove (wait : Bool) : TxPc → TxPc → Prop
  | get (site : GetSite) (ret : Option ℕ) :
    UnlockMove wait (.getUnlock site ret) (TxState.afterGet wait site ret)
  | up : UnlockMove wait .upUnlock (.getLock .fast)
  | down (t : Bool) (msg : Option ℕ) :
    UnlockMove wait (.downUnlock t msg) (TxState.afterWait t msg)
  | add (r : Except Errno Unit) : UnlockMove wait (.addUnlock r) (.returned r)

/-- A caller moves on, inside or outside the critical section, and changes nothing shared. -/
inductive LocalMove (L : BufLayout) (s : TxState) : TxPc → TxPc → Prop
  | bump (site : GetSite) : s.lastSbuf < L.numBufs / 2 →
    LocalMove L s (.getTest site) (.getBump site s.lastSbuf)
  | recycle (site : GetSite) : ¬ s.lastSbuf < L.numBufs / 2 →
    LocalMove L s (.getTest site) (.getRecycle site)
  | noneUsed (site : GetSite) : s.svq.getBuf = none →
    LocalMove L s (.getRecycle site) (.getUnlock site none)
  | prepared (expired signal : Bool) :
    LocalMove L s (.prepare expired) (.getLock (.looped signal expired))
  | awake (expired : Bool) : LocalMove L s .asleep (.prepare expired)
  | kicked : LocalMove L s .kick (.addUnlock (.ok ()))
  | addFailed (b : ℕ) (e : Errno) : LocalMove L s (.addOutbuf b) (.addUnlock (.error e))

/-- The steps of the TX side. -/
inductive TxRule (L : BufLayout) (vringNum : ℕ) (s : TxState) : TxState → Prop
  | call (i : ℕ) (c : SendCall) (p : TxPc) : (s.pc i).canCall = true →
    p = .getLock .first ∨ (∃ e, p = .returned (.error e)) →
    TxRule L vringNum s ((s.setCall i c).goto i p)
  | lock (i : ℕ) (p : TxPc) : LockMove (s.pc i) p → s.txLock = none →
    TxRule L vringNum s { s.goto i p with txLock := some i }
  | unlock (i : ℕ) (p : TxPc) : UnlockMove (s.senders i).call.wait (s.pc i) p →
    TxRule L vringNum s { s.goto i p with txLock := none }
  | goto (i : ℕ) (p : TxPc) : LocalMove L s (s.pc i) p → TxRule L vringNum s (s.goto i p)
  | bump (i : ℕ) (site : GetSite) (n : ℕ) : s.pc i = .getBump site n →
    TxRule L vringNum s { s.goto i (.getUnlock site (some (L.txBuf n))) with lastSbuf := n + 1 }
  | recycle (i : ℕ) (site : GetSite) (b : ℕ) (svq : Virtqueue ℕ Unit) :
    s.pc i = .getRecycle site → s.svq.getBuf = some ((b, ()), svq) →
    TxRule L vringNum s { s.goto i (.getUnlock site (some b)) with svq }
  | upInc (i : ℕ) (p : TxPc) : s.pc i = .upInc →
    p = (if s.sleepers + 1 = 1 then .upEnable else .upUnlock) →
    TxRule L vringNum s { s.goto i p with sleepers := s.sleepers + 1 }
  | upEnable (i : ℕ) : s.pc i = .upEnable →
    TxRule L vringNum s { s.goto i .upUnlock with cbEnabled := true }
  | downDec (i : ℕ) (t : Bool) (msg : Option ℕ) (p : TxPc) : s.pc i = .downDec t msg →
    p = (if s.sleepers - 1 = 0 then .downDisable t msg else .downUnlock t msg) →
    TxRule L vringNum s { s.goto i p with sleepers := s.sleepers - 1 }
  | downDisable (i : ℕ) (t : Bool) (msg : Option ℕ) : s.pc i = .downDisable t msg →
    TxRule L vringNum s { s.goto i (.downUnlock t msg) with cbEnabled := false }
  | fill (i b : ℕ) : s.pc i = .fill b →
    TxRule L vringNum s { s.goto i (.addLock b) with
      mem := Function.update s.mem b (some (sendMsg (s.senders i).call)) }
  | post (i b : ℕ) : s.pc i = .addOutbuf b → s.svq.bufs.length < vringNum →
    TxRule L vringNum s { s.goto i .kick with svq := s.svq.add b }
  | consume (b : ℕ) (svq : Virtqueue ℕ Unit) : s.svq.consume b () = some svq →
    TxRule L vringNum s { s with svq }

variable {L : BufLayout} {vringNum : ℕ} {s s' : TxState}

theorem TxState.lock_eq_some {i : ℕ} {p : TxPc} (h : s.lock i p = some s') :
    s.txLock = none ∧ s' = { s.goto i p with txLock := some i } := by
  unfold TxState.lock at h
  split at h
  · next hfree => exact ⟨hfree, (Option.some.inj h).symm⟩
  · cases h

/-- The rules of a caller's own steps. -/
theorem next_rule {i : ℕ} (h : s.next L i = some s') : TxRule L vringNum s s' := by
  have hlock : ∀ {p}, LockMove (s.pc i) p → s.lock i p = some s' → TxRule L vringNum s s' := by
    intro p hm hl
    obtain ⟨hfree, rfl⟩ := TxState.lock_eq_some hl
    exact .lock i p hm hfree
  have hunlock : ∀ {p}, UnlockMove (s.senders i).call.wait (s.pc i) p →
      some (s.unlock i p) = some s' → TxRule L vringNum s s' := by
    intro p hm hu
    obtain rfl := Option.some.inj hu
    exact .unlock i p hm
  unfold TxState.next at h
  split at h
  case h_1 site hpc => exact hlock (hpc ▸ .get site) h
  case h_2 site hpc =>
    obtain rfl := Option.some.inj h
    refine .goto i _ ?_
    rw [hpc]
    split
    · next hlt => exact .bump site hlt
    · next hge => exact .recycle site hge
  case h_3 site n hpc => obtain rfl := Option.some.inj h; exact .bump i site n hpc
  case h_4 site hpc =>
    split at h
    · next hnone =>
      obtain rfl := Option.some.inj h
      exact .goto i _ (hpc ▸ .noneUsed site hnone)
    · next b svq hsome =>
      obtain rfl := Option.some.inj h
      exact .recycle i site b svq hpc hsome
  case h_5 site ret hpc => exact hunlock (hpc ▸ .get site ret) h
  case h_6 hpc => exact hlock (hpc ▸ .up) h
  case h_7 hpc => obtain rfl := Option.some.inj h; exact .upInc i _ hpc rfl
  case h_8 hpc => obtain rfl := Option.some.inj h; exact .upEnable i hpc
  case h_9 hpc => exact hunlock (hpc ▸ .up) h
  case h_10 t msg hpc => exact hlock (hpc ▸ .down t msg) h
  case h_11 t msg hpc => obtain rfl := Option.some.inj h; exact .downDec i t msg _ hpc rfl
  case h_12 t msg hpc => obtain rfl := Option.some.inj h; exact .downDisable i t msg hpc
  case h_13 t msg hpc => exact hunlock (hpc ▸ .down t msg) h
  case h_14 b hpc => obtain rfl := Option.some.inj h; exact .fill i b hpc
  case h_15 b hpc => exact hlock (hpc ▸ .add b) h
  case h_16 hpc => obtain rfl := Option.some.inj h; exact .goto i _ (hpc ▸ .kicked)
  case h_17 err hpc => exact hunlock (hpc ▸ .add err) h
  all_goals cases h

/-- **What one event does.** -/
theorem TxState.txStep_cases {ev : TxEvent} (h : s.txStep L vringNum ev = some s') :
    (∃ i c p, ev = .call i c ∧ (s.pc i).canCall = true ∧ s' = (s.setCall i c).goto i p ∧
      (p = .getLock .first ∨ ∃ e, p = .returned (.error e))) ∨
    (∃ i, ev = .next i ∧ s.next L i = some s') ∨
    (∃ i signal expired, ev = .prepared i signal ∧ s.pc i = .prepare expired ∧
      s' = s.goto i (.getLock (.looped signal expired))) ∨
    (∃ i expired, ev = .awake i expired ∧ s.pc i = .asleep ∧ s' = s.goto i (.prepare expired)) ∨
    (∃ i b e, ev = .added i (.error e) ∧ s.pc i = .addOutbuf b ∧
      s' = s.goto i (.addUnlock (.error e))) ∨
    (∃ i b, ev = .added i (.ok ()) ∧ s.pc i = .addOutbuf b ∧ s.svq.bufs.length < vringNum ∧
      s' = { s.goto i .kick with svq := s.svq.add b }) ∨
    ∃ b svq, ev = .consume b ∧ s.svq.consume b () = some svq ∧ s' = { s with svq } := by
  cases ev with
  | call i c =>
    obtain ⟨hcan, hs⟩ := Option.ite_none_right_eq_some.1 h
    split at hs <;> obtain rfl := Option.some.inj hs
    · next e _ => exact .inl ⟨i, c, _, rfl, hcan, rfl, .inr ⟨e, rfl⟩⟩
    · exact .inl ⟨i, c, _, rfl, hcan, rfl, .inl rfl⟩
  | next i => exact .inr (.inl ⟨i, rfl, h⟩)
  | prepared i signal =>
    simp only [txStep] at h
    split at h
    · next expired hpc =>
      exact .inr (.inr (.inl ⟨i, signal, expired, rfl, hpc, (Option.some.inj h).symm⟩))
    · cases h
  | awake i expired =>
    simp only [txStep] at h
    split at h
    · next hpc =>
      exact .inr (.inr (.inr (.inl ⟨i, expired, rfl, hpc, (Option.some.inj h).symm⟩)))
    · cases h
  | added i ret =>
    simp only [txStep] at h
    split at h
    · next b e hpc =>
      exact .inr (.inr (.inr (.inr (.inl ⟨i, b, e, rfl, hpc, (Option.some.inj h).symm⟩))))
    · next b hpc =>
      obtain ⟨hfree, h⟩ := Option.ite_none_right_eq_some.1 h
      exact .inr (.inr (.inr (.inr (.inr (.inl
        ⟨i, b, rfl, hpc, hfree, (Option.some.inj h).symm⟩)))))
    · cases h
  | consume b =>
    obtain ⟨svq, hsvq, rfl⟩ := Option.map_eq_some_iff.1 h
    exact .inr (.inr (.inr (.inr (.inr (.inr ⟨b, svq, rfl, hsvq, rfl⟩)))))

/-- **Every step is one of the rules.** -/
theorem txStep_rule {ev : TxEvent} (h : s.txStep L vringNum ev = some s') :
    TxRule L vringNum s s' := by
  obtain ⟨i, c, p, -, hcan, rfl, hp⟩ | ⟨i, -, hs⟩ | ⟨i, signal, expired, -, hpc, rfl⟩ |
    ⟨i, expired, -, hpc, rfl⟩ | ⟨i, b, e, -, hpc, rfl⟩ | ⟨i, b, -, hpc, hfree, rfl⟩ |
    ⟨b, svq, -, hsvq, rfl⟩ := TxState.txStep_cases h
  · exact .call i c p hcan hp
  · exact next_rule hs
  · exact .goto i _ (hpc ▸ .prepared expired signal)
  · exact .goto i _ (hpc ▸ .awake expired)
  · exact .goto i _ (hpc ▸ .addFailed b e)
  · exact .post i b hpc hfree
  · exact .consume b svq hsvq
