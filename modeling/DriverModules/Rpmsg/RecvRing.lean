import DriverModules.Lib.Transition
import DriverModules.Lib.Virtqueue
import DriverModules.Rpmsg.Recv

/-!
# The receive ring

`rpmsg_recv_done` against a remote that keeps filling buffers. The handler is a small program: take
a used buffer, digest it with `rpmsg_recv_single`, take the next one, and kick the remote at the end
if its count of messages is not zero. The count is an `unsigned int`, so `2 ^ 32` messages in one go
count as none. The remote may fill buffers at any moment, also between two iterations, and the
interrupt may come for any number of messages, or for none.

`recvStep` is the whole system, one event at a time. The endpoint table a digestion sees is part of
the event: other contexts create and destroy endpoints between messages.

What the handler did since the last interrupt is recorded in `RecvLog`; the record is read by the
statements only, no step looks at it.

## Main results, and what each rests on

* `owned_of_run`: a run has all its buffers exactly when it digested no message that the length
  check rejects, and one such message costs a buffer for good (`owned_recvStep_reject`). Nothing
  adds a buffer to the ring but the handler, so what is lost does not come back.
* `recvConserved_iff`: with the record of the handler, the law for whole runs. The kick is where the
  `unsigned int` comes in: `2 ^ 32` messages in one go look like none (`CountShows`).
-/

open Transition

/-- Where the interrupt handler is. -/
inductive RecvPc
  | idle
  /-- A buffer was taken and is about to be digested. -/
  | digest (buf : ℕ) (msg : RpmsgHdr) (len msgsReceived : UInt32)
  /-- The next used buffer is about to be taken. -/
  | fetch (msgsReceived : UInt32)
  /-- The loop was left. -/
  | kick (msgsReceived : UInt32)
  deriving DecidableEq, Repr

/-- What one run of the handler did. -/
structure RecvLog where
  /-- The used ring at the interrupt. -/
  atIrq : List ℕ := []
  /-- The buffers taken from the ring. -/
  taken : List ℕ := []
  /-- The buffers handed to `rpmsg_recv_single`. -/
  digested : List ℕ := []
  /-- The buffers added back. -/
  readded : List ℕ := []
  /-- The remote was told about them. -/
  kicked : Bool := false
  deriving DecidableEq, Repr

structure RecvState where
  /-- The RX virtqueue; a used buffer comes back with its header and its used length. -/
  rvq : Virtqueue ℕ (RpmsgHdr × UInt32)
  pc : RecvPc
  log : RecvLog

inductive RecvEvent
  /-- The remote fills an available buffer. -/
  | fill (buf : ℕ) (msg : RpmsgHdr) (len : UInt32)
  /-- The receive interrupt. -/
  | irq
  /-- The handler's next step, with the endpoint table it sees. -/
  | next (endpoints : Idr EptId) (epts : EptId → Option RpmsgEndpoint)

namespace RecvState

/-- The state `rpmsg_probe` leaves behind: every RX buffer is available to the remote. -/
def probed (L : BufLayout) : RecvState :=
  { rvq := ⟨(List.range (L.numBufs / 2)).map L.rxBuf, []⟩, pc := .idle, log := {} }

/-- The handler takes a used buffer, or leaves the loop. -/
def getNext (s : RecvState) (msgsReceived : UInt32) (onEmpty : RecvPc) : RecvState :=
  match s.rvq.getBuf with
  | none => { s with pc := onEmpty }
  | some ((buf, msg, len), rvq) =>
    { rvq, pc := .digest buf msg len msgsReceived,
      log := { s.log with taken := s.log.taken ++ [buf] } }

/-- The handler's next step. `virtqueue_add_inbuf` is taken to succeed. -/
def handle (L : BufLayout) (s : RecvState) (endpoints : Idr EptId)
    (epts : EptId → Option RpmsgEndpoint) : Option RecvState :=
  match s.pc with
  | .idle => none
  | .digest buf msg len n =>
    let r := rpmsgRecvSingle L endpoints epts msg len (.ok ())
    let log := { s.log with digested := s.log.digested ++ [buf] }
    match r.ret with
    | .ok () =>
      some { rvq := s.rvq.add buf, pc := .fetch (n + 1),
             log := { log with readded := log.readded ++ [buf] } }
    -- `break`: the buffer was not added back
    | .error _ => some { s with pc := .kick n, log }
  | .fetch n => some (s.getNext n (.kick n))
  | .kick n => some { s with pc := .idle, log := { s.log with kicked := decide (n ≠ 0) } }

/-- One step of the receive side. -/
def recvStep (L : BufLayout) (s : RecvState) : RecvEvent → Option RecvState
  | .fill buf msg len => (s.rvq.consume buf (msg, len)).map fun rvq ↦ { s with rvq }
  | .irq =>
    if s.pc = .idle then
      some ({ s with log := { atIrq := s.rvq.used.map Prod.fst } }.getNext 0 .idle)
    else none
  | .next endpoints epts => s.handle L endpoints epts

end RecvState

open RecvState

variable {L : BufLayout} {s s' : RecvState}

/-- The message this event digests passes the length check. -/
def Digestible (L : BufLayout) (s : RecvState) : RecvEvent → Prop
  | .next _ _ => ∀ buf msg len n, s.pc = .digest buf msg len n → recvTooBig L msg len = false
  | _ => True

/-- One buffer is in the handler's hands while it is digested. -/
def RecvState.inHand (s : RecvState) : ℕ :=
  match s.pc with
  | .digest .. => 1
  | _ => 0

/-! ### What a step does -/

theorem getNext_cases (s : RecvState) (n : UInt32) (pc : RecvPc) :
    (s.rvq.used = [] ∧ s.getNext n pc = { s with pc }) ∨
      ∃ buf msg len rvq, s.rvq.getBuf = some ((buf, msg, len), rvq) ∧
        s.getNext n pc = { rvq, pc := .digest buf msg len n,
                           log := { s.log with taken := s.log.taken ++ [buf] } } := by
  rcases h : s.rvq.getBuf with - | ⟨⟨buf, msg, len⟩, rvq⟩
  · exact .inl ⟨Virtqueue.getBuf_eq_none.1 h, by simp [getNext, h]⟩
  · exact .inr ⟨buf, msg, len, rvq, rfl, by simp [getNext, h]⟩

/-- **Every step of the receive side that digests no rejected message**, with what it changes. -/
theorem recvStep_cases {ev : RecvEvent} (hd : Digestible L s ev) (h : recvStep L s ev = some s') :
    (∃ buf msg len rvq, s.rvq.consume buf (msg, len) = some rvq ∧ s' = { s with rvq }) ∨
    (s.pc = .idle ∧
      s' = { s with log := { atIrq := s.rvq.used.map Prod.fst } }.getNext 0 .idle) ∨
    (∃ buf msg len n, s.pc = .digest buf msg len n ∧
      s' = { rvq := s.rvq.add buf, pc := .fetch (n + 1),
             log := { s.log with digested := s.log.digested ++ [buf],
                                 readded := s.log.readded ++ [buf] } }) ∨
    (∃ n, s.pc = .fetch n ∧ s' = s.getNext n (.kick n)) ∨
    (∃ n, s.pc = .kick n ∧
      s' = { s with pc := .idle, log := { s.log with kicked := decide (n ≠ 0) } }) := by
  cases ev with
  | fill buf msg len =>
    obtain ⟨rvq, hrvq, rfl⟩ := Option.map_eq_some_iff.1 h
    exact .inl ⟨buf, msg, len, rvq, hrvq, rfl⟩
  | irq =>
    simp only [recvStep] at h
    split at h
    · next hidle => exact .inr (.inl ⟨hidle, (Option.some.inj h).symm⟩)
    · cases h
  | next endpoints epts =>
    refine .inr (.inr ?_)
    rcases hpc : s.pc with - | ⟨buf, msg, len, n⟩ | n | n
    · simp [recvStep, handle, hpc] at h
    · refine .inl ⟨buf, msg, len, n, rfl, ?_⟩
      simpa [recvStep, handle, hpc, rpmsgRecvSingle_of_not_tooBig (hd buf msg len n hpc)]
        using h.symm
    · refine .inr (.inl ⟨n, rfl, ?_⟩)
      simpa [recvStep, handle, hpc] using h.symm
    · refine .inr (.inr ⟨n, rfl, ?_⟩)
      simpa [recvStep, handle, hpc] using h.symm

/-- **The rejecting step**: the handler leaves its loop and the buffer stays in its hands. -/
theorem recvStep_reject {ev : RecvEvent} (hd : ¬ Digestible L s ev)
    (h : recvStep L s ev = some s') :
    ∃ buf msg len n, s.pc = .digest buf msg len n ∧
      s' = { s with pc := .kick n,
                    log := { s.log with digested := s.log.digested ++ [buf] } } := by
  cases ev with
  | fill buf msg len => exact absurd trivial hd
  | irq => exact absurd trivial hd
  | next endpoints epts =>
    simp only [Digestible, not_forall] at hd
    obtain ⟨buf, msg, len, n, hpc, hbig⟩ := hd
    refine ⟨buf, msg, len, n, hpc, ?_⟩
    simpa [recvStep, handle, hpc, rpmsgRecvSingle_of_tooBig (Bool.of_not_eq_false hbig)]
      using h.symm

/-! ### Counting the buffers -/

/-- The buffers that are not lost: on the ring, or in the handler's hands. -/
def RecvState.owned (s : RecvState) : ℕ := s.rvq.bufs.length + s.inHand

theorem owned_getNext {n : UInt32} {pc : RecvPc} (hpc : ∀ rvq log, inHand ⟨rvq, pc, log⟩ = 0) :
    (s.getNext n pc).owned = s.rvq.bufs.length := by
  rcases getNext_cases s n pc with ⟨-, h⟩ | ⟨buf, msg, len, rvq, hget, h⟩
  · rw [h, owned, hpc, Nat.add_zero]
  · rw [h, owned, (Virtqueue.bufs_getBuf hget).length_eq]
    rfl

/-- A step that digests no rejected message keeps every buffer. -/
theorem owned_recvStep {ev : RecvEvent} (hd : Digestible L s ev) (h : recvStep L s ev = some s') :
    s'.owned = s.owned := by
  rcases recvStep_cases hd h with ⟨buf, msg, len, rvq, hcons, rfl⟩ | ⟨hpc, rfl⟩ |
    ⟨buf, msg, len, n, hpc, rfl⟩ | ⟨n, hpc, rfl⟩ | ⟨n, hpc, rfl⟩
  · rw [owned, owned, (Virtqueue.bufs_consume hcons).length_eq]
    rfl
  · rw [owned_getNext fun _ _ ↦ rfl, owned, inHand, hpc]
    rfl
  · rw [owned, owned, (Virtqueue.bufs_add _ _).length_eq, inHand, inHand, hpc]
    rfl
  · rw [owned_getNext fun _ _ ↦ rfl, owned, inHand, hpc]
    rfl
  · rw [owned, owned, inHand, inHand, hpc]

/-- **A rejected message costs its buffer.** -/
theorem owned_recvStep_reject {ev : RecvEvent} (hd : ¬ Digestible L s ev)
    (h : recvStep L s ev = some s') : s'.owned + 1 = s.owned := by
  obtain ⟨buf, msg, len, n, hpc, rfl⟩ := recvStep_reject hd h
  simp only [owned, inHand, hpc]

/-- **A run has all its buffers exactly when it digested no rejected message**; otherwise it has
fewer, for good. -/
theorem owned_of_run {evs : List RecvEvent} (h : run (recvStep L) (probed L) evs = some s) :
    (Meets (recvStep L) (Digestible L) (probed L) evs → s.owned = L.numBufs / 2) ∧
      (¬ Meets (recvStep L) (Digestible L) (probed L) evs → s.owned < L.numBufs / 2) := by
  induction evs using List.reverseRecOn generalizing s with
  | nil =>
    obtain rfl : probed L = s := by simpa using h
    refine ⟨fun _ ↦ ?_, fun hn ↦ absurd trivial hn⟩
    simp [probed, owned, inHand, Virtqueue.bufs]
  | append_singleton evs ev ih =>
    obtain ⟨s₁, hs₁, hstep⟩ := run_concat h
    obtain ⟨hall, hlost⟩ := ih hs₁
    have hmeets : Meets (recvStep L) (Digestible L) (probed L) (evs ++ [ev]) ↔
        Meets (recvStep L) (Digestible L) (probed L) evs ∧ Digestible L s₁ ev := by
      rw [meets_append hs₁]
      simp [Meets]
    rw [hmeets]
    by_cases hd : Digestible L s₁ ev
    · rw [owned_recvStep hd hstep]
      exact ⟨fun hm ↦ hall hm.1, fun hn ↦ hlost fun hm ↦ hn ⟨hm, hd⟩⟩
    · have hlose := owned_recvStep_reject hd hstep
      refine ⟨fun hm ↦ absurd hm.2 hd, fun _ ↦ ?_⟩
      by_cases hm : Meets (recvStep L) (Digestible L) (probed L) evs
      · have := hall hm
        omega
      · have := hlost hm
        omega

/-! ### What the handler did -/

/-- The record of the handler, relative to where it is. -/
def LogOk (s : RecvState) : Prop :=
  match s.pc with
  | .idle => s.log.digested = s.log.taken ∧ s.log.readded = s.log.taken ∧
      s.log.atIrq <+: s.log.taken ∧ s.log.kicked = decide (.ofNat s.log.taken.length ≠ (0 : UInt32))
  | .digest buf _ _ n => s.log.taken = s.log.readded ++ [buf] ∧ s.log.digested = s.log.readded ∧
      s.log.atIrq <+: s.log.taken ++ s.rvq.used.map Prod.fst ∧ n = .ofNat s.log.readded.length
  | .fetch n => s.log.taken = s.log.readded ∧ s.log.digested = s.log.readded ∧
      s.log.atIrq <+: s.log.taken ++ s.rvq.used.map Prod.fst ∧ n = .ofNat s.log.readded.length
  | .kick n => s.log.taken = s.log.readded ∧ s.log.digested = s.log.readded ∧
      s.log.atIrq <+: s.log.taken ∧ n = .ofNat s.log.readded.length

/-- The used ring only grows at its end while the handler does not take from it. -/
theorem logOk_consume {buf : ℕ} {r : RpmsgHdr × UInt32} {rvq : Virtqueue ℕ (RpmsgHdr × UInt32)}
    (hs : LogOk s) (h : s.rvq.consume buf r = some rvq) : LogOk { s with rvq } := by
  obtain ⟨-, -, hused⟩ := Virtqueue.consume_eq_some.1 h
  have hgrow : ∀ {l : List ℕ}, l <+: s.log.taken ++ s.rvq.used.map Prod.fst →
      l <+: s.log.taken ++ rvq.used.map Prod.fst := by
    intro l hl
    rw [hused, List.map_append, ← List.append_assoc]
    exact hl.trans (List.prefix_append _ _)
  rcases s with ⟨q, pc, log⟩
  cases pc with
  | idle => exact hs
  | digest b m l n => exact ⟨hs.1, hs.2.1, hgrow hs.2.2.1, hs.2.2.2⟩
  | fetch n => exact ⟨hs.1, hs.2.1, hgrow hs.2.2.1, hs.2.2.2⟩
  | kick n => exact hs

/-- Taking the next buffer from the loop's head. -/
theorem logOk_getNext {n : UInt32} (hpc : s.pc = .fetch n) (hs : LogOk s) :
    LogOk (s.getNext n (.kick n)) := by
  rw [LogOk, hpc] at hs
  obtain ⟨htaken, hdig, hpre, hn⟩ := hs
  rcases getNext_cases s n (.kick n) with ⟨hempty, h⟩ | ⟨buf, msg, len, rvq, hget, h⟩
  · rw [h]
    refine ⟨htaken, hdig, ?_, hn⟩
    simpa [hempty] using hpre
  · rw [h]
    have hused := (Virtqueue.getBuf_eq_some.1 hget).1
    refine ⟨by rw [htaken], hdig, ?_, hn⟩
    simpa [hused] using hpre

/-- The interrupt starts a new record. -/
theorem logOk_irq (s : RecvState) :
    LogOk ({ s with log := { atIrq := s.rvq.used.map Prod.fst } }.getNext 0 .idle) := by
  rcases getNext_cases { s with log := { atIrq := s.rvq.used.map Prod.fst } } 0 .idle with
    ⟨hempty, h⟩ | ⟨buf, msg, len, rvq, hget, h⟩
  · rw [h]
    simp [LogOk, show s.rvq.used = [] from hempty]
  · rw [h]
    have hused := (Virtqueue.getBuf_eq_some.1 hget).1
    simp [LogOk, show s.rvq.used = _ from hused]

theorem logOk_recvStep {ev : RecvEvent} (hs : LogOk s) (hd : Digestible L s ev)
    (h : recvStep L s ev = some s') : LogOk s' := by
  rcases recvStep_cases hd h with ⟨buf, msg, len, rvq, hcons, rfl⟩ | ⟨-, rfl⟩ |
    ⟨buf, msg, len, n, hpc, rfl⟩ | ⟨n, hpc, rfl⟩ | ⟨n, hpc, rfl⟩
  · exact logOk_consume hs hcons
  · exact logOk_irq s
  · rw [LogOk, hpc] at hs
    obtain ⟨htaken, hdig, hpre, hn⟩ := hs
    exact ⟨htaken, by rw [hdig], hpre, by simp [hn]⟩
  · exact logOk_getNext hpc hs
  · rw [LogOk, hpc] at hs
    obtain ⟨htaken, hdig, hpre, hn⟩ := hs
    refine ⟨by rw [htaken, hdig], htaken.symm, hpre, ?_⟩
    show decide (n ≠ 0) = _
    rw [hn, htaken]

/-! ### Conservation of the receive buffers -/

/-- No receive buffer is lost: every RX buffer is on the ring or being digested, and a handler that
has returned has added back what it took, has digested everything the interrupt found, and has
kicked the remote if it added anything. -/
structure RecvConserved (L : BufLayout) (s : RecvState) : Prop where
  count : s.rvq.avail.length + s.rvq.used.length + s.inHand = L.numBufs / 2
  returned : s.pc = .idle → s.log.readded = s.log.taken ∧ s.log.digested = s.log.taken ∧
    s.log.atIrq <+: s.log.digested ∧ (s.log.readded ≠ [] → s.log.kicked = true)

theorem owned_eq (s : RecvState) :
    s.owned = s.rvq.avail.length + s.rvq.used.length + s.inHand := by
  simp [owned, Virtqueue.bufs]

/-- The last interrupt was not for so many messages that their count came out as zero. -/
def CountShows (s : RecvState) : Prop :=
  s.pc = .idle → s.log.taken ≠ [] → ¬ 2 ^ 32 ∣ s.log.taken.length

theorem uint32_ofNat_ne_zero_iff (n : ℕ) : UInt32.ofNat n ≠ 0 ↔ ¬ 2 ^ 32 ∣ n := by
  rw [Ne, UInt32.ofNat_eq_iff_mod_eq_toNat, UInt32.toNat_zero, Nat.dvd_iff_mod_eq_zero]

/-- **No buffer is lost exactly in the runs that digest no message the length check rejects**, and
the remote is told about all of them unless the count of messages wraps around to zero. -/
theorem recvConserved_iff {evs : List RecvEvent}
    (h : run (recvStep L) (probed L) evs = some s) :
    RecvConserved L s ↔ Meets (recvStep L) (Digestible L) (probed L) evs ∧ CountShows s := by
  obtain ⟨hall, hlost⟩ := owned_of_run h
  have hlog : Meets (recvStep L) (Digestible L) (probed L) evs → LogOk s := fun hm ↦
    (reaches_iff_exists_run.2 ⟨evs, h, hm⟩).invariant (by simp [LogOk, probed])
      fun _ hs hd hstep ↦ logOk_recvStep hs hd hstep
  constructor
  · intro hc
    have hm : Meets (recvStep L) (Digestible L) (probed L) evs := by
      by_contra hm
      have hcount := hc.count
      have := hlost hm
      rw [owned_eq] at this
      omega
    refine ⟨hm, fun hidle htaken ↦ ?_⟩
    have hlog := hlog hm
    rw [LogOk, hidle] at hlog
    obtain ⟨-, hread, -, hkicked⟩ := hlog
    have hkick := (hc.returned hidle).2.2.2 (hread ▸ htaken)
    rw [hkicked, decide_eq_true_iff] at hkick
    exact (uint32_ofNat_ne_zero_iff _).1 hkick
  · rintro ⟨hm, hshows⟩
    refine ⟨by rw [← owned_eq]; exact hall hm, fun hidle ↦ ?_⟩
    have hlog := hlog hm
    rw [LogOk, hidle] at hlog
    obtain ⟨hdig, hread, hpre, hkicked⟩ := hlog
    refine ⟨hread, hdig, by rw [hdig]; exact hpre, fun hne ↦ ?_⟩
    rw [hkicked, decide_eq_true_iff]
    exact (uint32_ofNat_ne_zero_iff _).2 (hshows hidle (hread ▸ hne))

/-- One 4-byte message through a ring of one RX buffer: filled, digested, re-added, kicked. -/
theorem recvConserved_one_message :
    RecvConserved (.ofProbe 1 4096) ⟨⟨[4096], []⟩, .idle,
      { atIrq := [4096], taken := [4096], digested := [4096], readded := [4096],
        kicked := true }⟩ := by
  have hrun : run (recvStep (.ofProbe 1 4096)) (probed (.ofProbe 1 4096))
      [.fill 4096 { src := 7, dst := 1024, reserved := 0, len := 4, flags := 0 } 20, .irq,
        .next .empty fun _ ↦ none, .next .empty fun _ ↦ none, .next .empty fun _ ↦ none] =
      some ⟨⟨[4096], []⟩, .idle,
        { atIrq := [4096], taken := [4096], digested := [4096], readded := [4096],
          kicked := true }⟩ := rfl
  refine (recvConserved_iff hrun).2 ⟨?_, fun _ _ ↦ by decide⟩
  refine ⟨trivial, fun s₁ h₁ ↦ ⟨trivial, fun s₂ h₂ ↦ ?_⟩⟩
  cases h₁
  cases h₂
  refine ⟨by rintro buf msg len n ⟨⟩; decide, fun s₃ h₃ ↦ ?_⟩
  cases h₃
  refine ⟨by rintro buf msg len n ⟨⟩, fun s₄ h₄ ↦ ?_⟩
  cases h₄
  exact ⟨by rintro buf msg len n ⟨⟩, fun _ _ ↦ trivial⟩

/-- A remote with two RX buffers announces 500 bytes of payload in 20 received bytes: the handler
returns with the buffer neither re-added nor on the ring. -/
theorem recvConserved_lost_buffer :
    ¬ ∀ (L : BufLayout) (evs : List RecvEvent) (s : RecvState),
      run (recvStep L) (probed L) evs = some s → RecvConserved L s := by
  intro h
  have hc := h (.ofProbe 2 4096)
    [.fill 4096 { src := 7, dst := 1024, reserved := 0, len := 500, flags := 0 } 20, .irq,
      .next .empty fun _ ↦ none, .next .empty fun _ ↦ none]
    ⟨⟨[4608], []⟩, .idle,
      { atIrq := [4096], taken := [4096], digested := [4096], readded := [], kicked := false }⟩ rfl
  exact absurd hc.count (by decide)
