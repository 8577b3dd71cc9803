import DriverModules.Lib.Delivery
import DriverModules.Rpmsg.TxFailures

/-!
# What the remote reads

The TX side as the remote sees it. `WireState` keeps, beside the senders and their ring, which calls
each caller has made and what they have returned, which calls have put their message on the ring,
and what the remote has read out of the buffers it consumed. The questions are those of any channel:
whether a message is lost, doubled or changed on the way, and whether the return value tells the
caller what became of it.

What a buffer contains is written outside `tx_lock`, after other senders have had the buffer, and
read at some time after it was posted. So the argument rests on the pool behind the buffers: a
buffer on the ring has no holder, and only a holder writes.
-/

open Transition

namespace TxPc

/-- The caller is inside `rpmsg_send_offchannel_raw`. -/
def running (p : TxPc) : Bool :=
  !p.canCall

/-- The message is on the ring. -/
def posted : TxPc → Bool
  | kick | addUnlock (.ok ()) => true
  | _ => false

/-- The buffer the message has been written into. -/
def filled : TxPc → Option ℕ
  | addLock msg | addOutbuf msg => some msg
  | _ => none

end TxPc

/-- The TX side and its history. -/
structure WireState where
  tx : TxState
  /-- The calls of each caller, in order. -/
  calls : ℕ → List SendCall
  /-- The return values of those that have returned. -/
  results : ℕ → List (Except Errno Unit)
  /-- The calls whose message was put on the ring, in that order: the caller, and how many calls he
  had made before. -/
  posted : List (ℕ × ℕ)
  /-- What the remote has read out of the buffers, in that order. -/
  read : List (Option RpmsgMsg)

namespace WireState

def probed (calls : ℕ → SendCall) : WireState where
  tx := .probed calls
  calls _ := []
  results _ := []
  posted := []
  read := []

/-- The message of a call. -/
def message (w : WireState) (p : ℕ × ℕ) : Option RpmsgMsg :=
  (w.calls p.1)[p.2]?.map sendMsg

/-- The messages put on the ring, in that order. -/
def sent (w : WireState) : List (Option RpmsgMsg) :=
  w.posted.map w.message

def logCalls (w : WireState) : TxEvent → ℕ → List SendCall
  | .call i c => Function.update w.calls i (w.calls i ++ [c])
  | .next _ | .prepared _ _ | .awake _ _ | .added _ _ | .consume _ => w.calls

/-- The step of `ev` leads to `tx`: a caller that it brings to its return has a result more. -/
def logResults (w : WireState) (ev : TxEvent) (tx : TxState) (i : ℕ) : List (Except Errno Unit) :=
  if ev.caller = some i then
    match tx.pc i with
    | .returned r => w.results i ++ [r]
    | _ => w.results i
  else w.results i

def logPosted (w : WireState) : TxEvent → List (ℕ × ℕ)
  | .added i (.ok ()) => w.posted ++ [(i, (w.calls i).length - 1)]
  | .added _ (.error _) | .call _ _ | .next _ | .prepared _ _ | .awake _ _ | .consume _ => w.posted

def logRead (w : WireState) : TxEvent → List (Option RpmsgMsg)
  | .consume b => w.read ++ [w.tx.mem b]
  | .call _ _ | .next _ | .prepared _ _ | .awake _ _ | .added _ _ => w.read

def step (L : BufLayout) (vringNum : ℕ) (w : WireState) (ev : TxEvent) : Option WireState :=
  (w.tx.txStep L vringNum ev).map fun tx ↦
    { tx
      calls := w.logCalls ev
      results := w.logResults ev tx
      posted := w.logPosted ev
      read := w.logRead ev }

end WireState

/-- What holds of the messages and the return values, at any moment. -/
structure WireRight (w : WireState) : Prop where
  /-- What is put on the ring is the message of a call. -/
  made : ∀ p ∈ w.posted, p.2 < (w.calls p.1).length
  /-- No call puts its message there twice. -/
  once : w.posted.Nodup
  /-- The calls of one caller get there in their order. -/
  ordered : w.posted.Pairwise fun p q ↦ p.1 = q.1 → p.2 < q.2
  /-- A call has put its message there exactly when it returns zero. -/
  answered : ∀ i k r, (w.results i)[k]? = some r → (r = .ok () ↔ (i, k) ∈ w.posted)
  /-- What the remote has read, and what it will find in the buffers it has not consumed, are the
  messages of these calls. -/
  intact : w.tx.svq.Carries w.tx.mem w.sent w.read

variable {n va vringNum : ℕ} {L : BufLayout} {s s' : TxState} {w w' : WireState} {ev : TxEvent}

/-! ### What a step does to the call under way -/

/-- A call under way goes on, or it returns, and the result tells whether its message is on the
ring. -/
inductive CallMove : TxPc → TxPc → Prop
  | onward {p p' : TxPc} : p.running = true → p'.running = true → p'.posted = p.posted →
    CallMove p p'
  | ret {p : TxPc} {r : Except Errno Unit} : p.running = true →
    (r = .ok () ↔ p.posted = true) → CallMove p (.returned r)

theorem CallMove.running {p p' : TxPc} (h : CallMove p p') : p.running = true := by
  cases h <;> assumption

theorem LockMove.callMove {p p' : TxPc} (h : LockMove p p') : CallMove p p' := by
  cases h <;> exact .onward rfl rfl rfl

theorem LocalMove.callMove {p p' : TxPc} (h : LocalMove L s p p') : CallMove p p' := by
  cases h <;> exact .onward rfl rfl rfl

theorem GetMove.callMove {site : GetSite} {ret : Option ℕ} {p : TxPc} (h : GetMove site ret p) :
    CallMove (.getUnlock site ret) p := by
  cases h with
  | refuse => exact .ret rfl (by simp [TxPc.posted])
  | _ => exact .onward rfl rfl rfl

theorem WaitMove.callMove {t : Bool} {msg : Option ℕ} {p : TxPc} (h : WaitMove t msg p) :
    CallMove (.downUnlock t msg) p := by
  cases h with
  | timedOut => exact .ret rfl (by simp [TxPc.posted])
  | got | again => exact .onward rfl rfl rfl

theorem UnlockMove.callMove {wait : Bool} {p p' : TxPc} (h : UnlockMove wait p p') :
    CallMove p p' := by
  cases h with
  | get site ret => exact (getMove wait site ret).callMove
  | up => exact .onward rfl rfl rfl
  | down t msg => exact (waitMove t msg).callMove
  | add r =>
    rcases r with e | -
    · exact .ret rfl (by simp [TxPc.posted])
    · exact .ret rfl (by simp [TxPc.posted])

theorem LockMove.filled {p p' : TxPc} (h : LockMove p p') : p'.filled = p.filled := by
  cases h <;> rfl

theorem GetMove.filled {site : GetSite} {ret : Option ℕ} {p : TxPc} (h : GetMove site ret p) :
    p.filled = none := by
  cases h <;> rfl

theorem WaitMove.filled {t : Bool} {msg : Option ℕ} {p : TxPc} (h : WaitMove t msg p) :
    p.filled = none := by
  cases h <;> rfl

theorem UnlockMove.filled {wait : Bool} {p p' : TxPc} (h : UnlockMove wait p p') :
    p'.filled = none := by
  cases h with
  | get site ret => exact (getMove wait site ret).filled
  | up => rfl
  | down t msg => exact (waitMove t msg).filled
  | add r => rfl

theorem LocalMove.filled {p p' : TxPc} (h : LocalMove L s p p') : p'.filled = none := by
  cases h <;> rfl

/-- Who has filled a buffer holds it. -/
theorem TxPc.held_of_filled {p : TxPc} {b : ℕ} (h : p.filled = some b) : p.held = some b := by
  cases p <;> first | exact h | cases h

/-- What a caller's step within a call does, apart from the add: nobody else is concerned, the
buffers on the ring stay, and only the buffer the caller is to fill changes. -/
structure OwnStep (s : TxState) (i : ℕ) (s' : TxState) : Prop where
  move : CallMove (s.pc i) (s'.pc i)
  call : ∀ j, (s'.senders j).call = (s.senders j).call
  avail : s'.svq.avail = s.svq.avail
  mem : (s'.mem = s.mem ∧ ∀ b, (s'.pc i).filled = some b → (s.pc i).filled = some b) ∨
    ∃ b, s.pc i = .fill b ∧ s'.pc i = .addLock b ∧
      s'.mem = Function.update s.mem b (some (sendMsg (s.senders i).call))

theorem TxState.call_goto (i j : ℕ) (p : TxPc) :
    ((s.goto i p).senders j).call = (s.senders j).call := by
  rcases eq_or_ne j i with rfl | hj
  · simp [goto]
  · simp [goto, hj]

/-- A step that moves caller `i` to `p` and writes no buffer. -/
theorem OwnStep.goto {i : ℕ} {p : TxPc} (hsenders : s'.senders = (s.goto i p).senders)
    (havail : s'.svq.avail = s.svq.avail) (hmem : s'.mem = s.mem) (hmove : CallMove (s.pc i) p)
    (hfilled : p.filled = (s.pc i).filled ∨ p.filled = none) : OwnStep s i s' := by
  have hpc : s'.pc i = p := by
    rw [TxState.pc, hsenders]
    exact s.pc_goto_self i p
  refine ⟨hpc ▸ hmove, fun j ↦ ?_, havail, .inl ⟨hmem, fun b hb ↦ ?_⟩⟩
  · rw [hsenders, TxState.call_goto]
  · rw [hpc] at hb
    rcases hfilled with hf | hf
    · rw [← hf, hb]
    · rw [hf] at hb
      cases hb

theorem TxState.ownStep_lock {i : ℕ} {p : TxPc} (hm : LockMove (s.pc i) p)
    (h : s.lock i p = some s') : OwnStep s i s' := by
  obtain ⟨-, rfl⟩ := TxState.lock_eq_some h
  exact .goto rfl rfl rfl hm.callMove (.inl hm.filled)

/-- A caller's own step, where the state determines it. -/
theorem TxState.ownStep_next {i : ℕ} (h : s.next L i = some s') : OwnStep s i s' := by
  unfold TxState.next at h
  split at h
  case h_1 site hpc => exact ownStep_lock (hpc ▸ .get site) h
  case h_2 site hpc =>
    obtain rfl := Option.some.inj h
    refine .goto rfl rfl rfl ?_ (.inr (by split <;> rfl))
    rw [hpc]
    split <;> exact .onward rfl rfl rfl
  case h_3 site n hpc =>
    obtain rfl := Option.some.inj h
    exact .goto rfl rfl rfl (hpc ▸ .onward rfl rfl rfl) (.inr rfl)
  case h_4 site hpc =>
    split at h
    · obtain rfl := Option.some.inj h
      exact .goto rfl rfl rfl (hpc ▸ .onward rfl rfl rfl) (.inr rfl)
    · next b svq hsome =>
      obtain rfl := Option.some.inj h
      exact .goto rfl (Virtqueue.getBuf_eq_some.1 hsome).2 rfl (hpc ▸ .onward rfl rfl rfl)
        (.inr rfl)
  case h_5 site ret hpc =>
    obtain rfl := Option.some.inj h
    have hm := getMove (s.senders i).call.wait site ret
    exact .goto rfl rfl rfl (hpc ▸ hm.callMove) (.inr hm.filled)
  case h_6 hpc => exact ownStep_lock (hpc ▸ .up) h
  case h_7 hpc =>
    obtain rfl := Option.some.inj h
    refine .goto rfl rfl rfl ?_ (.inr (by split <;> rfl))
    rw [hpc]
    split <;> exact .onward rfl rfl rfl
  case h_8 hpc =>
    obtain rfl := Option.some.inj h
    exact .goto rfl rfl rfl (hpc ▸ .onward rfl rfl rfl) (.inr rfl)
  case h_9 hpc =>
    obtain rfl := Option.some.inj h
    exact .goto rfl rfl rfl (hpc ▸ .onward rfl rfl rfl) (.inr rfl)
  case h_10 t msg hpc => exact ownStep_lock (hpc ▸ .down t msg) h
  case h_11 t msg hpc =>
    obtain rfl := Option.some.inj h
    refine .goto rfl rfl rfl ?_ (.inr (by split <;> rfl))
    rw [hpc]
    split <;> exact .onward rfl rfl rfl
  case h_12 t msg hpc =>
    obtain rfl := Option.some.inj h
    exact .goto rfl rfl rfl (hpc ▸ .onward rfl rfl rfl) (.inr rfl)
  case h_13 t msg hpc =>
    obtain rfl := Option.some.inj h
    have hm := waitMove t msg
    exact .goto rfl rfl rfl (hpc ▸ hm.callMove) (.inr hm.filled)
  case h_14 b hpc =>
    obtain rfl := Option.some.inj h
    have hpc' : (s.goto i (.addLock b)).pc i = .addLock b := s.pc_goto_self i _
    refine ⟨?_, fun j ↦ s.call_goto i j _, rfl, .inr ⟨b, hpc, hpc', rfl⟩⟩
    show CallMove (s.pc i) ((s.goto i (.addLock b)).pc i)
    rw [hpc, hpc']
    exact .onward rfl rfl rfl
  case h_15 b hpc => exact ownStep_lock (hpc ▸ .add b) h
  case h_16 hpc =>
    obtain rfl := Option.some.inj h
    exact .goto rfl rfl rfl (hpc ▸ .onward rfl rfl rfl) (.inr rfl)
  case h_17 err hpc =>
    obtain rfl := Option.some.inj h
    have hm : UnlockMove (s.senders i).call.wait (.addUnlock err) (.returned err) := .add err
    exact .goto rfl rfl rfl (hpc ▸ hm.callMove) (.inr rfl)
  all_goals cases h

/-- **The steps of a caller within a call**, apart from an add that succeeds. -/
theorem TxState.ownStep_txStep {i : ℕ} (h : s.txStep L vringNum ev = some s')
    (hi : ev.caller = some i) (hcall : ∀ c, ev ≠ .call i c) (hadd : ev ≠ .added i (.ok ())) :
    OwnStep s i s' := by
  obtain ⟨j, c, p, rfl, -⟩ | ⟨j, rfl, hs⟩ | ⟨j, signal, expired, rfl, hpc, rfl⟩ |
    ⟨j, expired, rfl, hpc, rfl⟩ | ⟨j, b, e, rfl, hpc, rfl⟩ | ⟨j, b, rfl, -⟩ | ⟨b, svq, rfl, -⟩ :=
    TxState.txStep_cases h
  case inr.inr.inr.inr.inr.inr => cases hi
  all_goals obtain rfl := Option.some.inj hi
  · exact absurd rfl (hcall c)
  · exact TxState.ownStep_next hs
  · exact .goto rfl rfl rfl (hpc ▸ .onward rfl rfl rfl) (.inr rfl)
  · exact .goto rfl rfl rfl (hpc ▸ .onward rfl rfl rfl) (.inr rfl)
  · exact .goto rfl rfl rfl (hpc ▸ .onward rfl rfl rfl) (.inr rfl)
  · exact absurd rfl hadd

/-- An add that succeeds. -/
theorem TxState.txStep_added {i : ℕ} (h : s.txStep L vringNum (.added i (.ok ())) = some s') :
    ∃ b, s.pc i = .addOutbuf b ∧ s.svq.bufs.length < vringNum ∧
      s' = { s.goto i .kick with svq := s.svq.add b } := by
  obtain ⟨_, _, _, hev, -⟩ | ⟨_, hev, -⟩ | ⟨_, _, _, hev, -⟩ | ⟨_, _, hev, -⟩ | ⟨_, _, _, hev, -⟩ |
    ⟨j, b, hev, hpc, hfree, rfl⟩ | ⟨_, _, hev, -⟩ := TxState.txStep_cases h <;> cases hev
  exact ⟨b, hpc, hfree, rfl⟩

/-- **Only a holder writes a buffer.** -/
theorem TxState.mem_txStep (h : s.txStep L vringNum ev = some s') :
    s'.mem = s.mem ∨ ∃ i b, s.pc i = .fill b ∧
      s'.mem = Function.update s.mem b (some (sendMsg (s.senders i).call)) := by
  rcases txStep_rule h with - | - | - | - | - | - | - | - | - | - | ⟨i, b, hpc⟩ | - | -
  case fill => exact .inr ⟨i, b, hpc, rfl⟩
  all_goals exact .inl rfl

/-- Nothing but an add and a consumption changes which buffers the remote may read. -/
theorem TxState.avail_txStep (h : s.txStep L vringNum ev = some s')
    (hadd : ∀ i, ev ≠ .added i (.ok ())) (hconsume : ∀ b, ev ≠ .consume b) :
    s'.svq.avail = s.svq.avail := by
  obtain ⟨j, c, p, rfl, -, rfl, -⟩ | ⟨j, rfl, hs⟩ | ⟨j, signal, expired, rfl, -, rfl⟩ |
    ⟨j, expired, rfl, -, rfl⟩ | ⟨j, b, e, rfl, -, rfl⟩ | ⟨j, b, rfl, -⟩ | ⟨b, svq, rfl, -⟩ :=
    TxState.txStep_cases h
  · rfl
  · exact (TxState.ownStep_next hs).avail
  · rfl
  · rfl
  · rfl
  · exact absurd rfl (hadd j)
  · exact absurd rfl (hconsume b)

/-! ### The calls of one caller -/

/-- The calls of a caller, their results, and which of them have put their message on the ring go
together; `p` is where the caller is, and `c` the arguments he is there with. -/
structure CallLog (p : TxPc) (c : SendCall) (calls : List SendCall)
    (results : List (Except Errno Unit)) (sent : ℕ → Prop) : Prop where
  made : ∀ k, sent k → k < calls.length
  answered : ∀ k r, results[k]? = some r → (r = .ok () ↔ sent k)
  under : p.running = true → calls.length = results.length + 1 ∧ calls.getLast? = some c ∧
    (sent results.length ↔ p.posted = true)
  done : p.running = false → calls.length = results.length

variable {p p' : TxPc} {c : SendCall} {calls : List SendCall} {results : List (Except Errno Unit)}
  {sent : ℕ → Prop}

/-- A new call. -/
theorem CallLog.call (h : CallLog p c calls results sent) (hp : p.running = false)
    (c' : SendCall) : CallLog (.getLock .first) c' (calls ++ [c']) results sent where
  made k hk := (h.made k hk).trans (by simp)
  answered := h.answered
  under _ := by
    refine ⟨by simp [h.done hp], by simp, iff_of_false (fun hk ↦ ?_) Bool.false_ne_true⟩
    have := h.made _ hk
    rw [h.done hp] at this
    exact lt_irrefl _ this
  done hp := by cases hp

/-- A call returns. -/
theorem CallLog.ret (h : CallLog p c calls results sent) (hp : p.running = true)
    {r : Except Errno Unit} (hr : r = .ok () ↔ p.posted = true) :
    CallLog (.returned r) c calls (results ++ [r]) sent where
  made := h.made
  answered k r' hk := by
    rcases lt_or_ge k results.length with hlt | hge
    · rw [List.getElem?_append_left hlt] at hk
      exact h.answered k r' hk
    · obtain ⟨rfl, rfl⟩ : k = results.length ∧ r' = r := by
        rw [List.getElem?_append_right hge, List.getElem?_singleton] at hk
        obtain ⟨hk, hr'⟩ := Option.ite_none_right_eq_some.1 hk
        exact ⟨by omega, (Option.some.inj hr').symm⟩
      rw [hr, (h.under hp).2.2]
  under hp := by cases hp
  done _ := by simp [(h.under hp).1]

/-- A call goes on. -/
theorem CallLog.onward (h : CallLog p c calls results sent) (hp : p.running = true)
    (hp' : p'.running = true) (hpost : p'.posted = p.posted) :
    CallLog p' c calls results sent where
  made := h.made
  answered := h.answered
  under _ := by rw [hpost]; exact h.under hp
  done h := by rw [hp'] at h; cases h

/-- A call puts its message on the ring. -/
theorem CallLog.post (h : CallLog p c calls results sent) (hp : p.running = true) :
    CallLog .kick c calls results (fun k ↦ sent k ∨ k = calls.length - 1) where
  made k hk := by
    have := (h.under hp).1
    rcases hk with hk | rfl
    · exact h.made k hk
    · omega
  answered k r hk := by
    have := (h.under hp).1
    have hlt := (List.getElem?_eq_some_iff.1 hk).1
    rw [h.answered k r hk, or_iff_left (by omega)]
  under _ := by
    obtain ⟨hlen, hlast, -⟩ := h.under hp
    exact ⟨hlen, hlast, iff_of_true (.inr (by omega)) rfl⟩
  done hp := by cases hp

theorem CallLog.congr {sent' : ℕ → Prop} (h : CallLog p c calls results sent)
    (hsent : ∀ k, sent' k ↔ sent k) : CallLog p c calls results sent' := by
  rwa [show sent' = sent from funext fun k ↦ propext (hsent k)]

/-! ### Every run -/

/-- The logs are right, and what is written into a buffer is still there when it is posted. -/
structure WireInv (w : WireState) : Prop where
  log : ∀ i, CallLog (w.tx.pc i) (w.tx.senders i).call (w.calls i) (w.results i)
    fun k ↦ (i, k) ∈ w.posted
  filled : ∀ i b, (w.tx.pc i).filled = some b →
    w.tx.mem b = some (sendMsg (w.tx.senders i).call)
  ordered : w.posted.Pairwise fun p q ↦ p.1 = q.1 → p.2 < q.2

theorem wireInv_probed (calls : ℕ → SendCall) : WireInv (.probed calls) where
  log i :=
    { made := fun k hk ↦ absurd hk List.not_mem_nil
      answered := fun k r hk ↦ by simp [WireState.probed] at hk
      under := fun hp ↦ by cases hp
      done := fun _ ↦ rfl }
  filled i b h := by cases h
  ordered := .nil

/-- The part of the TX side alone. -/
theorem WireState.reachable_tx {C : WireState → TxEvent → Prop} {calls : ℕ → SendCall}
    (h : Reaches (WireState.step L vringNum) C (.probed calls) w) :
    Reachable (TxState.txStep L vringNum) (.probed calls) w.tx := by
  refine h.project WireState.tx fun {_ _ ev} _ hs ↦ .inr ⟨ev, trivial, ?_⟩
  obtain ⟨tx, htx, rfl⟩ := Option.map_eq_some_iff.1 hs
  exact htx

theorem WireState.logResults_of_ne {tx : TxState} {i : ℕ} (hne : ev.caller ≠ some i) :
    w.logResults ev tx i = w.results i :=
  if_neg hne

theorem WireState.logResults_running {tx : TxState} {i : ℕ} (hp : (tx.pc i).running = true) :
    w.logResults ev tx i = w.results i := by
  unfold logResults
  split
  · split
    · next r hr =>
      rw [hr] at hp
      cases hp
    · rfl
  · rfl

theorem WireState.logResults_returned {tx : TxState} {i : ℕ} {r : Except Errno Unit}
    (hi : ev.caller = some i) (hr : tx.pc i = .returned r) :
    w.logResults ev tx i = w.results i ++ [r] := by
  rw [logResults, if_pos hi, hr]

/-- Nobody else's arguments change. -/
theorem TxState.call_txStep {i : ℕ} (h : s.txStep L vringNum ev = some s')
    (hne : ev.caller ≠ some i) : (s'.senders i).call = (s.senders i).call := by
  have hother : ∀ {j}, ev.caller = some j → i ≠ j := by
    rintro j hj rfl
    exact hne hj
  obtain ⟨j, c, p, rfl, -, rfl, -⟩ | ⟨j, rfl, hs⟩ | ⟨j, signal, expired, rfl, -, rfl⟩ |
    ⟨j, expired, rfl, -, rfl⟩ | ⟨j, b, e, rfl, -, rfl⟩ | ⟨j, b, rfl, -, -, rfl⟩ |
    ⟨b, svq, rfl, -, rfl⟩ := TxState.txStep_cases h
  · rw [TxState.call_goto]
    simp [TxState.setCall, Function.update_of_ne (hother rfl)]
  · exact (TxState.ownStep_next hs).call i
  · exact s.call_goto j i _
  · exact s.call_goto j i _
  · exact s.call_goto j i _
  · exact s.call_goto j i _
  · rfl

/-- The calls of the others stay as they are. -/
theorem WireInv.log_of_ne (h : WireInv w) (hs : w.step L vringNum ev = some w') {i : ℕ}
    (hne : ev.caller ≠ some i) :
    CallLog (w'.tx.pc i) (w'.tx.senders i).call (w'.calls i) (w'.results i)
      fun k ↦ (i, k) ∈ w'.posted := by
  obtain ⟨tx, htx, rfl⟩ := Option.map_eq_some_iff.1 hs
  have hcalls : w.logCalls ev i = w.calls i := by
    rcases ev with ⟨j, c⟩ | j | ⟨j, signal⟩ | ⟨j, expired⟩ | ⟨j, ret⟩ | b
    · exact Function.update_of_ne (fun hij ↦ hne (congrArg some hij.symm)) ..
    all_goals rfl
  have hposted : ∀ k, (i, k) ∈ w.logPosted ev ↔ (i, k) ∈ w.posted := by
    intro k
    rcases ev with ⟨j, c⟩ | j | ⟨j, signal⟩ | ⟨j, expired⟩ | ⟨j, e | ⟨⟩⟩ | b
    case added.ok =>
      have hij : i ≠ j := fun hij ↦ hne (congrArg some hij.symm)
      simp [WireState.logPosted, hij]
    all_goals exact Iff.rfl
  show CallLog _ _ (w.logCalls ev i) (w.logResults ev tx i) fun k ↦ (i, k) ∈ w.logPosted ev
  rw [TxState.pc_txStep htx hne, TxState.call_txStep htx hne, hcalls,
    WireState.logResults_of_ne hne]
  exact (h.log i).congr hposted

/-- A caller's step within a call. -/
theorem CallLog.own {results' : List (Except Errno Unit)} (h : CallLog p c calls results sent)
    (hm : CallMove p p') (hrun : p'.running = true → results' = results)
    (hret : ∀ r, p' = .returned r → results' = results ++ [r]) :
    CallLog p' c calls results' sent := by
  rcases hm with ⟨hp, hp', hpost⟩ | ⟨hp, hr⟩
  · rw [hrun hp']
    exact h.onward hp hp' hpost
  · rw [hret _ rfl]
    exact h.ret hp hr

/-- The calls of the caller whose step it is. -/
theorem WireInv.log_self (h : WireInv w) (hs : w.step L vringNum ev = some w') {i : ℕ}
    (hi : ev.caller = some i) :
    CallLog (w'.tx.pc i) (w'.tx.senders i).call (w'.calls i) (w'.results i)
      fun k ↦ (i, k) ∈ w'.posted := by
  obtain ⟨tx, htx, rfl⟩ := Option.map_eq_some_iff.1 hs
  show CallLog _ _ (w.logCalls ev i) (w.logResults ev tx i) fun k ↦ (i, k) ∈ w.logPosted ev
  by_cases hcall : ∃ c, ev = .call i c
  · obtain ⟨c, rfl⟩ := hcall
    have hcalls : w.logCalls (.call i c) i = w.calls i ++ [c] := Function.update_self ..
    obtain ⟨hcan, hs⟩ := Option.ite_none_right_eq_some.1 htx
    have hnew := (h.log i).call (by rw [TxPc.running, hcan]; rfl) c
    rw [hcalls]
    split at hs <;> obtain rfl := Option.some.inj hs
    · -- refused by the checks: the call returns at once
      next e _ _ =>
      have hpc : ((w.tx.setCall i c).goto i (.returned (.error e))).pc i = .returned (.error e) :=
        TxState.pc_goto_self _ i _
      rw [WireState.logResults_returned rfl hpc, hpc, TxState.call_goto]
      rw [show ((w.tx.setCall i c).senders i).call = c by simp [TxState.setCall]]
      exact hnew.ret rfl (by simp [TxPc.posted])
    · have hpc : ((w.tx.setCall i c).goto i (.getLock .first)).pc i = .getLock .first :=
        TxState.pc_goto_self _ i _
      rw [WireState.logResults_running (by rw [hpc]; rfl), hpc, TxState.call_goto]
      rw [show ((w.tx.setCall i c).senders i).call = c by simp [TxState.setCall]]
      exact hnew
  by_cases hadd : ev = .added i (.ok ())
  · subst hadd
    obtain ⟨b, hpc, -, rfl⟩ := TxState.txStep_added htx
    have hpc' : (w.tx.goto i .kick).pc i = .kick := TxState.pc_goto_self _ i _
    rw [WireState.logResults_running (by exact congrArg TxPc.running hpc')]
    have hlog := (h.log i).post (by rw [hpc]; rfl)
    show CallLog ((w.tx.goto i .kick).pc i) ((w.tx.goto i .kick).senders i).call _ _ _
    rw [hpc', TxState.call_goto]
    refine hlog.congr fun k ↦ ?_
    simp [WireState.logPosted]
  · have hown := TxState.ownStep_txStep htx hi (fun c hc ↦ hcall ⟨c, hc⟩) hadd
    have hcalls : w.logCalls ev i = w.calls i := by
      rcases ev with ⟨j, c⟩ | j | ⟨j, signal⟩ | ⟨j, expired⟩ | ⟨j, ret⟩ | b
      · obtain rfl := Option.some.inj hi
        exact absurd ⟨c, rfl⟩ hcall
      all_goals rfl
    have hposted : w.logPosted ev = w.posted := by
      rcases ev with ⟨j, c⟩ | j | ⟨j, signal⟩ | ⟨j, expired⟩ | ⟨j, e | ⟨⟩⟩ | b
      case added.ok =>
        obtain rfl := Option.some.inj hi
        exact absurd rfl hadd
      all_goals rfl
    rw [hcalls, hposted, hown.call]
    exact (h.log i).own hown.move WireState.logResults_running
      fun r hr ↦ WireState.logResults_returned hi hr

/-- **What a sender has written is there until it is posted**: only a holder writes, and a buffer
has one holder. -/
theorem WireInv.filled_step (h : WireInv w) (hx : TxExclusive n va vringNum w.tx)
    (hs : w.tx.txStep (.ofProbe n va) vringNum ev = some s') {i b : ℕ}
    (hb : (s'.pc i).filled = some b) : s'.mem b = some (sendMsg (s'.senders i).call) := by
  by_cases hi : ev.caller = some i
  · by_cases hcall : ∃ c, ev = .call i c
    · obtain ⟨c, rfl⟩ := hcall
      obtain ⟨-, hs⟩ := Option.ite_none_right_eq_some.1 hs
      split at hs <;> obtain rfl := Option.some.inj hs <;> rw [TxState.pc_goto_self] at hb <;>
        cases hb
    by_cases hadd : ev = .added i (.ok ())
    · subst hadd
      obtain ⟨b', -, -, rfl⟩ := TxState.txStep_added hs
      change ((w.tx.goto i .kick).pc i).filled = some b at hb
      rw [TxState.pc_goto_self] at hb
      cases hb
    · have hown := TxState.ownStep_txStep hs hi (fun c hc ↦ hcall ⟨c, hc⟩) hadd
      rw [hown.call]
      rcases hown.mem with ⟨hmem, hback⟩ | ⟨b', hpc, hpc', hmem⟩
      · rw [hmem]
        exact h.filled i b (hback b hb)
      · rw [hpc'] at hb
        obtain rfl : b' = b := Option.some.inj hb
        rw [hmem, Function.update_self]
  · rw [TxState.pc_txStep hs hi] at hb
    rw [TxState.call_txStep hs hi, ← h.filled i b hb]
    rcases TxState.mem_txStep hs with hmem | ⟨j, b', hpc, hmem⟩
    · rw [hmem]
    · have hne : b ≠ b' := by
        rintro rfl
        have hj : w.tx.held j = some b := by rw [TxState.held, hpc]; rfl
        obtain rfl := hx.holder i j b (TxPc.held_of_filled hb) hj
        rw [hpc] at hb
        cases hb
      rw [hmem, Function.update_of_ne hne]

/-- The message of a call does not change any more. -/
theorem WireInv.message_step (h : WireInv w) (hs : w.step L vringNum ev = some w') {x : ℕ × ℕ}
    (hx : x ∈ w.posted) : w'.message x = w.message x := by
  obtain ⟨tx, -, rfl⟩ := Option.map_eq_some_iff.1 hs
  have hlt := (h.log x.1).made x.2 hx
  show (w.logCalls ev x.1)[x.2]?.map sendMsg = _
  rcases ev with ⟨i, c⟩ | i | ⟨i, signal⟩ | ⟨i, expired⟩ | ⟨i, ret⟩ | b
  case call =>
    rcases eq_or_ne x.1 i with rfl | hne
    · rw [WireState.logCalls, Function.update_self, List.getElem?_append_left hlt]
      rfl
    · rw [WireState.logCalls, Function.update_of_ne hne]
      rfl
  all_goals rfl

theorem WireInv.sent_step (h : WireInv w) (hs : w.step L vringNum ev = some w')
    {new : List (ℕ × ℕ)} (hposted : w'.posted = w.posted ++ new) :
    w'.sent = w.sent ++ new.map w'.message := by
  rw [WireState.sent, hposted, List.map_append]
  exact congrArg (· ++ _) (List.map_congr_left fun x hx ↦ h.message_step hs hx)

/-- The message of the call under way. -/
theorem WireInv.message_under (h : WireInv w) {i : ℕ} (hp : (w.tx.pc i).running = true) :
    w.message (i, (w.calls i).length - 1) = some (sendMsg (w.tx.senders i).call) := by
  rw [WireState.message, ← List.getLast?_eq_getElem?, ((h.log i).under hp).2.1]
  rfl

/-- **What a step does on the ring**: a message is put there as it was written, the remote reads a
buffer, or the buffers it may read stay as they are. -/
theorem WireInv.ring_step (h : WireInv w) (hx : TxExclusive n va vringNum w.tx)
    (hs : w.step (.ofProbe n va) vringNum ev = some w') :
    (∃ b, w'.tx.svq = w.tx.svq.add b ∧ w'.tx.mem = w.tx.mem ∧
      w'.sent = w.sent ++ [w.tx.mem b] ∧ w'.read = w.read) ∨
    (∃ b, ev = .consume b ∧ w.tx.svq.consume b () = some w'.tx.svq ∧ w'.tx.mem = w.tx.mem ∧
      w'.sent = w.sent ∧ w'.read = w.read ++ [w.tx.mem b]) ∨
    (w'.tx.svq.avail = w.tx.svq.avail ∧ (∀ b ∈ w.tx.svq.avail, w'.tx.mem b = w.tx.mem b) ∧
      w'.sent = w.sent ∧ w'.read = w.read) := by
  have hquiet : ∀ {new}, w'.posted = w.posted ++ new → new = [] → w'.sent = w.sent := by
    rintro new hposted rfl
    rw [h.sent_step hs hposted]
    exact List.append_nil _
  obtain ⟨tx, htx, rfl⟩ := Option.map_eq_some_iff.1 hs
  by_cases hadd : ∃ i, ev = .added i (.ok ())
  · obtain ⟨i, rfl⟩ := hadd
    obtain ⟨b, hpc, -, rfl⟩ := TxState.txStep_added htx
    refine .inl ⟨b, rfl, rfl, ?_, rfl⟩
    rw [h.sent_step hs rfl, h.filled i b (by rw [hpc]; rfl)]
    exact congrArg (w.sent ++ [·]) (h.message_under (by rw [hpc]; rfl))
  by_cases hconsume : ∃ b, ev = .consume b
  · obtain ⟨b, rfl⟩ := hconsume
    obtain ⟨svq, hsvq, rfl⟩ := Option.map_eq_some_iff.1 htx
    exact .inr (.inl ⟨b, rfl, hsvq, rfl, hquiet (List.append_nil _).symm rfl, rfl⟩)
  · have hadd' : ∀ i, ev ≠ .added i (.ok ()) := fun i hi ↦ hadd ⟨i, hi⟩
    have hconsume' : ∀ b, ev ≠ .consume b := fun b hb ↦ hconsume ⟨b, hb⟩
    have hlog : w.logPosted ev = w.posted ∧ w.logRead ev = w.read := by
      rcases ev with ⟨i, c⟩ | i | ⟨i, signal⟩ | ⟨i, expired⟩ | ⟨i, e | ⟨⟩⟩ | b
      case added.ok => exact absurd rfl (hadd' i)
      case consume => exact absurd rfl (hconsume' b)
      all_goals exact ⟨rfl, rfl⟩
    refine .inr (.inr ⟨TxState.avail_txStep htx hadd' hconsume', fun b hb ↦ ?_,
      hquiet (hlog.1.trans (List.append_nil _).symm) rfl, hlog.2⟩)
    rcases TxState.mem_txStep htx with hmem | ⟨j, b', hpc, hmem⟩
    · exact congrFun hmem b
    · -- the buffer that is written has a holder, so it is not on the ring
      have hj : w.tx.held j = some b' := by rw [TxState.held, hpc]; rfl
      have hne : b ≠ b' := by
        rintro rfl
        exact hx.unqueued j b hj (List.mem_append_left _ hb)
      exact (congrFun hmem b).trans (Function.update_of_ne hne ..)

theorem WireInv.ordered_step (h : WireInv w) (hs : w.step L vringNum ev = some w') :
    w'.posted.Pairwise fun p q ↦ p.1 = q.1 → p.2 < q.2 := by
  obtain ⟨tx, htx, rfl⟩ := Option.map_eq_some_iff.1 hs
  show (w.logPosted ev).Pairwise _
  rcases ev with ⟨i, c⟩ | i | ⟨i, signal⟩ | ⟨i, expired⟩ | ⟨i, e | ⟨⟩⟩ | b
  case added.ok =>
    obtain ⟨b, hpc, -, -⟩ := TxState.txStep_added htx
    obtain ⟨hlen, -, hsent⟩ := (h.log i).under (by rw [hpc]; rfl)
    refine List.pairwise_append.2 ⟨h.ordered, List.pairwise_singleton .., fun x hx y hy ↦ ?_⟩
    rintro hxi
    obtain rfl := List.mem_singleton.1 hy
    rcases x with ⟨j, k⟩
    obtain rfl : j = i := hxi
    -- the call under way has not put its message there yet
    have hnot : (j, (w.results j).length) ∉ w.posted := by
      rw [hsent, hpc]
      exact Bool.false_ne_true
    have hlt := (h.log j).made k hx
    have hne : k ≠ (w.results j).length := fun hk ↦ hnot (hk ▸ hx)
    show k < (w.calls j).length - 1
    omega
  all_goals exact h.ordered

/-- **Every step keeps the logs right.** -/
theorem WireInv.step (h : WireInv w) (hx : TxExclusive n va vringNum w.tx)
    (hs : w.step (.ofProbe n va) vringNum ev = some w') : WireInv w' := by
  refine ⟨fun i ↦ ?_, fun i b hb ↦ ?_, h.ordered_step hs⟩
  · by_cases hi : ev.caller = some i
    · exact h.log_self hs hi
    · exact h.log_of_ne hs hi
  · obtain ⟨tx, htx, rfl⟩ := Option.map_eq_some_iff.1 hs
    exact h.filled_step hx htx hb

variable {calls : ℕ → SendCall}

theorem txExclusive_of_wire {C : WireState → TxEvent → Prop}
    (h : Reaches (WireState.step (.ofProbe n va) vringNum) C (.probed calls) w) :
    TxExclusive n va vringNum w.tx :=
  txExclusive_of_reachable n va vringNum calls w.tx (WireState.reachable_tx h)

theorem wireInv_of_reaches {C : WireState → TxEvent → Prop}
    (h : Reaches (WireState.step (.ofProbe n va) vringNum) C (.probed calls) w) : WireInv w :=
  h.invariant (wireInv_probed calls) fun hreach hinv _ hs ↦
    hinv.step (txExclusive_of_wire hreach) hs

/-- **Every message that a send reports as sent is read once and as it was sent**, and nothing else
is: whatever the other senders do, and in whatever order the remote consumes the buffers. -/
theorem wireRight_of_reachable (n va vringNum : ℕ) (calls : ℕ → SendCall) (w : WireState)
    (h : Reachable (WireState.step (.ofProbe n va) vringNum) (.probed calls) w) : WireRight w := by
  have hinv := wireInv_of_reaches h
  refine ⟨fun x hx ↦ (hinv.log x.1).made x.2 hx, ?_, hinv.ordered,
    fun i k r hk ↦ (hinv.log i).answered k r hk, ?_⟩
  · refine List.Pairwise.imp (fun {x y} hlt (heq : x = y) ↦ ?_) hinv.ordered
    subst heq
    exact lt_irrefl _ (hlt rfl)
  · refine h.invariant (P := fun w ↦ w.tx.svq.Carries w.tx.mem w.sent w.read)
      Virtqueue.carries_empty ?_
    intro w w' ev hreach hc _ hs
    rcases (wireInv_of_reaches hreach).ring_step (txExclusive_of_wire hreach) hs with
      ⟨b, hsvq, hmem, hsent, hread⟩ | ⟨b, -, hsvq, hmem, hsent, hread⟩ |
      ⟨havail, hmem, hsent, hread⟩
    · rw [hsvq, hmem, hsent, hread]
      exact hc.add b
    · rw [hmem, hsent, hread]
      exact hc.consume hsvq
    · rw [hsent, hread]
      exact hc.congr havail hmem

/-- Two messages, of which the remote reads the second first. -/
theorem wireRight_overtaken :
    ∃ w, run (WireState.step (.ofProbe 2 0x1000) 2) (.probed fun _ ↦ ⟨1024, 61, [7], 1, true⟩)
        ([.call 0 ⟨1024, 61, [7], 1, true⟩, .call 1 ⟨1025, 61, [8], 1, true⟩] ++
          List.replicate 5 (.next 1) ++ List.replicate 6 (.next 0) ++
          [.added 0 (.ok ()), .next 0, .next 0, .next 1, .added 1 (.ok ()), .next 1, .next 1,
            .consume 0x1400, .call 0 ⟨1024, 61, [9], 1, true⟩]) = some w ∧
      w.posted = [(0, 0), (1, 0)] ∧ w.read = [some ⟨⟨1025, 61, 0, 1, 0⟩, [8]⟩] ∧ WireRight w := by
  obtain ⟨w, hw, hread⟩ := Option.map_eq_some_iff.1 (show Option.map (fun w ↦ (w.posted, w.read))
    (run (WireState.step (.ofProbe 2 0x1000) 2) (.probed fun _ ↦ ⟨1024, 61, [7], 1, true⟩)
      ([.call 0 ⟨1024, 61, [7], 1, true⟩, .call 1 ⟨1025, 61, [8], 1, true⟩] ++
        List.replicate 5 (.next 1) ++ List.replicate 6 (.next 0) ++
        [.added 0 (.ok ()), .next 0, .next 0, .next 1, .added 1 (.ok ()), .next 1, .next 1,
          .consume 0x1400, .call 0 ⟨1024, 61, [9], 1, true⟩])) =
      some ([(0, 0), (1, 0)], [some ⟨⟨1025, 61, 0, 1, 0⟩, [8]⟩]) by decide +kernel)
  obtain ⟨hposted, hread⟩ := Prod.mk.inj hread
  exact ⟨w, hw, hposted, hread, wireRight_of_reachable 2 0x1000 2 _ w (reachable_of_run hw)⟩

/-! ### A remote that keeps the order -/

/-- The remote consumes the oldest buffer first, as the ring offers them. -/
def OldestFirst (w : WireState) : TxEvent → Prop
  | .consume b => w.tx.svq.avail.head? = some b
  | _ => True

instance (w : WireState) (ev : TxEvent) : Decidable (OldestFirst w ev) :=
  match ev with
  | .consume _ => inferInstanceAs (Decidable (_ = _))
  | .call .. | .next _ | .prepared .. | .awake .. | .added .. => inferInstanceAs (Decidable True)

theorem carriesInOrder_of_reaches (n va vringNum : ℕ) (calls : ℕ → SendCall) (w : WireState)
    (h : Reaches (WireState.step (.ofProbe n va) vringNum) OldestFirst (.probed calls) w) :
    w.tx.svq.CarriesInOrder w.tx.mem w.sent w.read := by
  refine h.invariant (P := fun w ↦ w.tx.svq.CarriesInOrder w.tx.mem w.sent w.read)
    Virtqueue.carriesInOrder_empty ?_
  intro w w' ev hreach hc hfirst hs
  rcases (wireInv_of_reaches hreach).ring_step (txExclusive_of_wire hreach) hs with
    ⟨b, hsvq, hmem, hsent, hread⟩ | ⟨b, rfl, hsvq, hmem, hsent, hread⟩ |
    ⟨havail, hmem, hsent, hread⟩
  · rw [hsvq, hmem, hsent, hread]
    exact hc.add b
  · rw [hmem, hsent, hread]
    exact hc.consume hsvq hfirst
  · rw [hsent, hread]
    exact hc.congr havail hmem
