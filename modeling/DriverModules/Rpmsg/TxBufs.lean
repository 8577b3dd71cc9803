import DriverModules.Lib.Slots
import DriverModules.Rpmsg.TxRules

/-!
# The TX buffers are never used twice

`get_a_tx_buf` hands out fresh buffers by a bump index and then recycles used ones, a sender fills
its buffer outside `tx_lock`, and any number of senders are under way. That no buffer has two users
is shown by refinement: every state the senders reach is a state of a pool of slots (`Refines`), in
which a slot is in one place by construction, and every step is a step of that pool
(`TxRefines.step`).

Two facts about the program counters carry the refinement: the code between lock and unlock of
`tx_lock` runs in one sender at a time, and a sender that has read the bump index still finds it
unchanged (`TxInv`).
-/

open Transition Slots

variable {n va vringNum : ℕ} {L : BufLayout} {s s' : TxState}

/-! ### The critical sections -/

/-- The mutex works, and the bump index a sender has read is still the index. -/
structure TxInv (L : BufLayout) (s : TxState) : Prop where
  lock : Mutex.Guards s.txLock fun i ↦ (s.pc i).inSection = true
  bump : ∀ i site k, s.pc i = .getBump site k → k = s.lastSbuf ∧ k < L.numBufs / 2

theorem LockMove.inSection {p p' : TxPc} (h : LockMove p p') :
    p.inSection = false ∧ p'.inSection = true := by
  cases h <;> exact ⟨rfl, rfl⟩

theorem GetMove.inSection {site : GetSite} {ret : Option ℕ} {p : TxPc} (h : GetMove site ret p) :
    p.inSection = false := by
  cases h <;> rfl

theorem WaitMove.inSection {t : Bool} {msg : Option ℕ} {p : TxPc} (h : WaitMove t msg p) :
    p.inSection = false := by
  cases h <;> rfl

theorem UnlockMove.inSection {wait : Bool} {p p' : TxPc} (h : UnlockMove wait p p') :
    p.inSection = true ∧ p'.inSection = false := by
  cases h with
  | get site ret => exact ⟨rfl, (getMove wait site ret).inSection⟩
  | up => exact ⟨rfl, rfl⟩
  | down t msg => exact ⟨rfl, (waitMove t msg).inSection⟩
  | add r => exact ⟨rfl, rfl⟩

theorem LocalMove.inSection {p p' : TxPc} (h : LocalMove L s p p') :
    p'.inSection = p.inSection := by
  cases h <;> rfl

theorem LockMove.ne_getBump {p p' : TxPc} (h : LockMove p p') (site : GetSite) (k : ℕ) :
    p' ≠ .getBump site k := by
  cases h <;> simp

/-- The bump index a sender goes on with is the current one. -/
theorem LocalMove.getBump {p : TxPc} {site : GetSite} {k : ℕ}
    (h : LocalMove L s p (.getBump site k)) : k = s.lastSbuf ∧ k < L.numBufs / 2 := by
  cases h with
  | bump _ hlt => exact ⟨rfl, hlt⟩

theorem TxPc.inSection_of_canCall {p : TxPc} (h : p.canCall = true) : p.inSection = false := by
  cases p <;> first | rfl | cases h

/-- A step that moves caller `i`, neither into nor out of a critical section, and leaves the bump
index alone. -/
theorem TxInv.goto (h : TxInv L s) {i : ℕ} {p : TxPc}
    (hpc : ∀ j, s'.pc j = if j = i then p else s.pc j) (hlock : s'.txLock = s.txLock)
    (hlast : s'.lastSbuf = s.lastSbuf) (hsec : p.inSection = (s.pc i).inSection)
    (hbump : ∀ site k, p = .getBump site k → k = s.lastSbuf ∧ k < L.numBufs / 2) :
    TxInv L s' := by
  constructor
  · rw [hlock]
    refine h.lock.congr fun j ↦ ?_
    rw [hpc j]
    split
    · next hj => rw [hj, hsec]
    · exact Iff.rfl
  · intro j site k hj
    rw [hpc j] at hj
    rw [hlast]
    split at hj
    · exact hbump site k hj
    · exact h.bump j site k hj

/-- A caller that goes somewhere other than to the bump of the index. -/
theorem TxInv.goto_of_ne_bump (h : TxInv L s) {i : ℕ} {p : TxPc}
    (hpc : ∀ j, s'.pc j = if j = i then p else s.pc j) (hlock : s'.txLock = s.txLock)
    (hlast : s'.lastSbuf = s.lastSbuf) (hsec : p.inSection = (s.pc i).inSection)
    (hp : ∀ site k, p ≠ .getBump site k) : TxInv L s' :=
  h.goto hpc hlock hlast hsec fun site k hk ↦ absurd hk (hp site k)

theorem txInv_probed (calls : ℕ → SendCall) : TxInv L (.probed calls) where
  lock := Mutex.guards_none fun i ↦ by simp [TxState.probed, TxState.pc, TxPc.inSection]
  bump i site k h := by simp [TxState.probed, TxState.pc] at h

theorem TxInv.step (h : TxInv L s) (hr : TxRule L vringNum s s') : TxInv L s' := by
  have hgoto : ∀ i p j, (s.goto i p).pc j = if j = i then p else s.pc j :=
    fun i p j ↦ s.pc_goto i j p
  cases hr with
  | call i c p hcan hp =>
    have hsec := TxPc.inSection_of_canCall hcan
    refine h.goto_of_ne_bump (s.pc_setCall_goto i · p c) rfl rfl ?_ ?_
    · rw [hsec]
      rcases hp with rfl | ⟨e, rfl⟩ <;> rfl
    · rcases hp with rfl | ⟨e, rfl⟩ <;> simp
  | lock i p hm hfree =>
    obtain ⟨hout, hin⟩ := hm.inSection
    constructor
    · refine (hfree ▸ h.lock).acquire ?_ fun j hj ↦ ?_
      · simpa [TxState.pc, TxState.goto] using hin
      · simp [TxState.pc, TxState.goto, hj]
    · intro j site k hj
      have hj' : (if j = i then p else s.pc j) = .getBump site k := (hgoto i p j).symm.trans hj
      split at hj'
      · exact absurd hj' (hm.ne_getBump site k)
      · exact h.bump j site k hj'
  | unlock i p hm =>
    obtain ⟨hin, hout⟩ := hm.inSection
    constructor
    · refine h.lock.release (i := i) hin ?_ fun j hj ↦ ?_
      · simp [TxState.pc, TxState.goto, hout]
      · simp [TxState.pc, TxState.goto, hj]
    · intro j site k hj
      have hj' : (if j = i then p else s.pc j) = .getBump site k := (hgoto i p j).symm.trans hj
      split at hj'
      · rw [hj'] at hout
        cases hout
      · exact h.bump j site k hj'
  | goto i p hm =>
    refine h.goto (hgoto i p) rfl rfl hm.inSection fun site k hk ↦ ?_
    subst hk
    exact hm.getBump
  | bump i site k hpc =>
    constructor
    · refine h.lock.congr fun j ↦ ?_
      by_cases hj : j = i
      · subst hj
        simp [TxState.pc, TxState.goto, show (s.senders j).pc = _ from hpc, TxPc.inSection]
      · simp [TxState.pc, TxState.goto, hj]
    · intro j site' k' hj
      have hj' := (hgoto i (.getUnlock site (some (L.txBuf k))) j).symm.trans hj
      split at hj'
      · cases hj'
      · -- both would be inside: `i` bumps, `j` has read the index
        next hne =>
        exact absurd (h.lock.unique (by simp [hj', TxPc.inSection]) (by simp [hpc, TxPc.inSection]))
          hne
  | recycle i site b svq hpc hget =>
    exact h.goto_of_ne_bump (hgoto i _) rfl rfl (by simp [hpc, TxPc.inSection]) (by simp)
  | upInc i p hpc hp =>
    refine h.goto_of_ne_bump (hgoto i p) rfl rfl ?_ ?_ <;> subst hp <;> split <;>
      simp [hpc, TxPc.inSection]
  | upEnable i hpc =>
    exact h.goto_of_ne_bump (hgoto i _) rfl rfl (by simp [hpc, TxPc.inSection]) (by simp)
  | downDec i t msg p hpc hp =>
    refine h.goto_of_ne_bump (hgoto i p) rfl rfl ?_ ?_ <;> subst hp <;> split <;>
      simp [hpc, TxPc.inSection]
  | downDisable i t msg hpc =>
    exact h.goto_of_ne_bump (hgoto i _) rfl rfl (by simp [hpc, TxPc.inSection]) (by simp)
  | fill i b hpc =>
    exact h.goto_of_ne_bump (hgoto i _) rfl rfl (by simp [hpc, TxPc.inSection]) (by simp)
  | post i b hpc hfree =>
    exact h.goto_of_ne_bump (hgoto i _) rfl rfl (by simp [hpc, TxPc.inSection]) (by simp)
  | consume b svq hsvq => exact ⟨h.lock, h.bump⟩

/-- The invariant of the critical sections holds along every run. -/
theorem txInv_of_reachable {calls : ℕ → SendCall}
    (h : Reachable (TxState.txStep L vringNum) (.probed calls) s) : TxInv L s :=
  h.invariant (txInv_probed calls) fun _ hinv _ hstep ↦ hinv.step (txStep_rule hstep)

/-! ### The pool behind the buffers -/

/-- The state refines the pool `o`: slot `k` is the TX buffer `sbufs + k * buf_size`. -/
def TxRefines (L : BufLayout) (s : TxState) (o : Pool ℕ) : Prop :=
  Refines (L.numBufs / 2) L.txBuf s.lastSbuf s.held s.svq.bufs o

theorem LockMove.held {p p' : TxPc} (h : LockMove p p') : p'.held = p.held := by
  cases h <;> rfl

theorem GetMove.held {site : GetSite} {ret : Option ℕ} {p : TxPc} (h : GetMove site ret p) :
    p.held = ret := by
  cases h <;> rfl

/-- A wait keeps what it has got, unless its time has run out. -/
theorem WaitMove.held {t : Bool} {msg : Option ℕ} {p : TxPc} (h : WaitMove t msg p) :
    p.held = msg ∨ p.held = none ∧ t = true := by
  cases h with
  | timedOut => exact .inr ⟨rfl, rfl⟩
  | got | again => exact .inl rfl

/-- Leaving a critical section, a caller keeps its buffer or has none any more. -/
theorem UnlockMove.held {wait : Bool} {p p' : TxPc} (h : UnlockMove wait p p') :
    p'.held = p.held ∨ p'.held = none := by
  cases h with
  | get site ret => exact .inl (getMove wait site ret).held
  | up => exact .inl rfl
  | down t msg => exact (waitMove t msg).held.imp_right And.left
  | add r => exact .inl rfl

theorem LocalMove.held {p p' : TxPc} (h : LocalMove L s p p') :
    p'.held = p.held ∨ p'.held = none := by
  cases h <;> first | exact .inl rfl | exact .inr rfl

theorem TxPc.held_of_canCall {p : TxPc} (h : p.canCall = true) : p.held = none := by
  cases p <;> first | rfl | cases h

theorem TxState.held_goto (i : ℕ) (p : TxPc) (j : ℕ) :
    (s.goto i p).held j = if j = i then p.held else s.held j := by
  rw [TxState.held, TxState.pc_goto]
  split <;> rfl

theorem TxState.held_setCall_goto (i : ℕ) (c : SendCall) (p : TxPc) (j : ℕ) :
    ((s.setCall i c).goto i p).held j = if j = i then p.held else s.held j := by
  rw [TxState.held_goto, TxState.held, TxState.pc_setCall, TxState.held]

variable {o : Pool ℕ}

/-- A step in which caller `i` keeps what it holds and the ring keeps its buffers. -/
theorem TxRefines.goto (hr : TxRefines L s o) {i : ℕ} {x : Option ℕ}
    (hheld : ∀ j, s'.held j = if j = i then x else s.held j) (hx : x = s.held i)
    (hlast : s'.lastSbuf = s.lastSbuf) (hbufs : s'.svq.bufs.Perm s.svq.bufs) :
    TxRefines L s' o := by
  rw [TxRefines, hlast]
  refine Refines.congr hr (fun j ↦ ?_) hbufs
  rw [hheld j]
  split
  · next hj => rw [hx, hj]
  · rfl

/-- A step in which caller `i` keeps what it holds, or drops it. -/
theorem TxRefines.goto_or_drop (hname : Function.Injective L.txBuf) (hr : TxRefines L s o) {i : ℕ}
    {x : Option ℕ} (hheld : ∀ j, s'.held j = if j = i then x else s.held j)
    (hx : x = s.held i ∨ x = none) (hlast : s'.lastSbuf = s.lastSbuf)
    (hsvq : s'.svq = s.svq) : ∃ o', Slots.Step o o' ∧ TxRefines L s' o' := by
  rcases hi : s.held i with - | b
  · refine ⟨o, .stay, hr.goto hheld ?_ hlast (hsvq ▸ .refl _)⟩
    rcases hx with hx | hx <;> rw [hx]
    exact hi.symm
  · rcases hx with hx | hx
    · exact ⟨o, .stay, hr.goto hheld hx hlast (hsvq ▸ .refl _)⟩
    · have hi' : s'.held i = none := by rw [hheld i, if_pos rfl, hx]
      have hne : ∀ j, j ≠ i → s'.held j = s.held j := fun j hj ↦ by rw [hheld j, if_neg hj]
      obtain ⟨k, hk, hr'⟩ := Refines.drop hname hr hi hi' hne
      have hm : Move (o k) .lost := hk ▸ .drop i
      refine ⟨_, .move k hm, ?_⟩
      rw [TxRefines, hlast, hsvq]
      exact hr'

/-- A step in which caller `i` keeps what it holds is one the pool does not see. -/
theorem TxRefines.stay (hr : TxRefines L s o) {i : ℕ} {p : TxPc}
    (hheld : ∀ j, s'.held j = if j = i then p.held else s.held j) (hp : p.held = (s.pc i).held)
    (hlast : s'.lastSbuf = s.lastSbuf) (hbufs : s'.svq.bufs.Perm s.svq.bufs) :
    ∃ o', Slots.Step o o' ∧ TxRefines L s' o' :=
  ⟨o, .stay, hr.goto hheld hp hlast hbufs⟩

/-- **Every step of the TX side is a step of the pool.** -/
theorem TxRefines.step (hname : Function.Injective L.txBuf) (hinv : TxInv L s)
    (hr : TxRefines L s o) (hrule : TxRule L vringNum s s') :
    ∃ o', Slots.Step o o' ∧ TxRefines L s' o' := by
  have hgoto : ∀ i p j, (s.goto i p).held j = if j = i then p.held else s.held j :=
    fun i p j ↦ TxState.held_goto i p j
  cases hrule with
  | call i c p hcan hp =>
    refine hr.stay (TxState.held_setCall_goto i c p) ?_ rfl (.refl _)
    rw [TxPc.held_of_canCall hcan]
    rcases hp with rfl | ⟨e, rfl⟩ <;> rfl
  | lock i p hm hfree => exact hr.stay (hgoto i p) hm.held rfl (.refl _)
  | unlock i p hm => exact hr.goto_or_drop hname (hgoto i p) hm.held rfl rfl
  | goto i p hm => exact hr.goto_or_drop hname (hgoto i p) hm.held rfl rfl
  | bump i site k hpc =>
    obtain ⟨rfl, hlt⟩ := hinv.bump i site k hpc
    have hi : s.held i = none := by rw [TxState.held, hpc]; rfl
    have hm : Move (o s.lastSbuf) (.held i) := (hr.fresh s.lastSbuf).2 le_rfl ▸ .take i
    refine ⟨_, .move s.lastSbuf hm, Refines.take hr hlt hi ?_ fun j hj ↦ ?_⟩
    · exact (hgoto i _ i).trans (if_pos rfl)
    · exact (hgoto i _ j).trans (if_neg hj)
  | recycle i site b svq hpc hget =>
    have hi : s.held i = none := by rw [TxState.held, hpc]; rfl
    have hself := (hgoto i (.getUnlock site (some b)) i).trans (if_pos rfl)
    have hne : ∀ j, j ≠ i → (s.goto i (.getUnlock site (some b))).held j = s.held j :=
      fun j hj ↦ (hgoto i _ j).trans (if_neg hj)
    obtain ⟨k, hk, hr'⟩ := Refines.recycle hname hr (Virtqueue.bufs_getBuf hget) hi hself hne
    have hm : Move (o k) (.held i) := hk ▸ .recycle i
    exact ⟨_, .move k hm, hr'⟩
  | upInc i p hpc hp =>
    refine hr.stay (hgoto i p) ?_ rfl (.refl _)
    rw [hp, hpc]
    split <;> rfl
  | upEnable i hpc => exact hr.stay (hgoto i _) (by rw [hpc]; rfl) rfl (.refl _)
  | downDec i t msg p hpc hp =>
    refine hr.stay (hgoto i p) ?_ rfl (.refl _)
    rw [hp, hpc]
    split <;> rfl
  | downDisable i t msg hpc => exact hr.stay (hgoto i _) (by rw [hpc]; rfl) rfl (.refl _)
  | fill i b hpc => exact hr.stay (hgoto i _) (by rw [hpc]; rfl) rfl (.refl _)
  | post i b hpc hfree =>
    have hi : s.held i = some b := by rw [TxState.held, hpc]; rfl
    have hself := (hgoto i .kick i).trans (if_pos rfl)
    have hne : ∀ j, j ≠ i → (s.goto i .kick).held j = s.held j :=
      fun j hj ↦ (hgoto i _ j).trans (if_neg hj)
    obtain ⟨k, hk, hr'⟩ := Refines.post hname hr (s.svq.bufs_add b) hi hself hne
    have hm : Move (o k) .queued := hk ▸ .post i
    exact ⟨_, .move k hm, hr'⟩
  | consume b svq hsvq =>
    exact ⟨o, .stay, Refines.congr hr (fun j ↦ rfl) (Virtqueue.bufs_consume hsvq)⟩

theorem txRefines_probed (calls : ℕ → SendCall) : TxRefines L (.probed calls) fun _ ↦ .fresh :=
  Refines.start fun _ ↦ rfl

/-- **The TX side refines the pool of its buffers:** every state it reaches has a pool behind it. -/
theorem txRefines_of_reachable {calls : ℕ → SendCall} (hname : Function.Injective L.txBuf)
    (h : Reachable (TxState.txStep L vringNum) (.probed calls) s) : ∃ o, TxRefines L s o := by
  induction h with
  | refl => exact ⟨_, txRefines_probed calls⟩
  | tail hreach _ hstep ih =>
    obtain ⟨o, hr⟩ := ih
    obtain ⟨o', -, hr'⟩ := hr.step hname (txInv_of_reachable hreach) (txStep_rule hstep)
    exact ⟨o', hr'⟩

/-! ### What a sender may rely on -/

/-- What holds of the buffers of a remote processor whose layout is `ofProbe n va`, at any
moment. -/
structure TxExclusive (n va vringNum : ℕ) (s : TxState) : Prop where
  /-- A buffer a sender got is one of the TX buffers. -/
  form : ∀ i b, s.held i = some b →
    ∃ k < (BufLayout.ofProbe n va).numBufs / 2,
      b = (BufLayout.ofProbe n va).sbufs + k * (BufLayout.ofProbe n va).bufSize
  /-- It lies inside the coherent area. -/
  inside : ∀ i b, s.held i = some b →
    va ≤ b ∧ b + (BufLayout.ofProbe n va).bufSize ≤ va + (BufLayout.ofProbe n va).totalBufSpace
  /-- It overlaps none of the RX buffers. -/
  apart : ∀ i b, s.held i = some b → ∀ k < (BufLayout.ofProbe n va).numBufs / 2,
    ∀ x, ¬ ((BufLayout.ofProbe n va).rxBuf k ≤ x ∧
        x < (BufLayout.ofProbe n va).rxBuf k + (BufLayout.ofProbe n va).bufSize ∧
        b ≤ x ∧ x < b + (BufLayout.ofProbe n va).bufSize)
  /-- It has one holder. -/
  holder : ∀ i j b, s.held i = some b → s.held j = some b → i = j
  /-- It is not queued meanwhile. -/
  unqueued : ∀ i b, s.held i = some b → b ∉ s.svq.bufs
  /-- The ring never has more buffers than the TX half. -/
  queued : s.svq.bufs.length ≤ (BufLayout.ofProbe n va).numBufs / 2
  /-- So a sender about to add a buffer finds a free descriptor. -/
  room : (BufLayout.ofProbe n va).numBufs / 2 ≤ vringNum →
    ∀ i b, s.pc i = .addOutbuf b → s.svq.bufs.length < vringNum

/-- **No TX buffer is ever used twice**, however the senders, the remote, the timeouts and the
signals interleave and whatever `virtqueue_add_outbuf` answers. -/
theorem txExclusive_of_reachable (n va vringNum : ℕ) (calls : ℕ → SendCall) (s : TxState)
    (h : Reachable (TxState.txStep (.ofProbe n va) vringNum) (.probed calls) s) :
    TxExclusive n va vringNum s := by
  have hname := BufLayout.txBuf_injective n va
  obtain ⟨o, hr⟩ := txRefines_of_reachable hname h
  have hk : ∀ i b, s.held i = some b →
      ∃ k < (BufLayout.ofProbe n va).numBufs / 2, (BufLayout.ofProbe n va).txBuf k = b :=
    fun i b hb ↦ Refines.exists_name_of_held hr hb
  constructor
  · intro i b hb
    obtain ⟨k, hlt, rfl⟩ := hk i b hb
    exact ⟨k, hlt, by rw [BufLayout.txBuf, Nat.mul_comm]⟩
  · intro i b hb
    obtain ⟨k, hlt, rfl⟩ := hk i b hb
    exact BufLayout.txBuf_mem_area n va hlt
  · intro i b hb j hj x hx
    obtain ⟨k, -, rfl⟩ := hk i b hb
    have := BufLayout.rxBuf_add_le_txBuf n va hj k
    omega
  · exact fun i j b hi hj ↦ Refines.held_inj hname hr hi hj
  · exact fun i b hi ↦ Refines.not_queued hname hr hi
  · exact Refines.length_queue_le hr
  · intro hring i b hpc
    have hi : s.held i = some b := by rw [TxState.held, hpc]; rfl
    exact lt_of_lt_of_le (Refines.length_queue_lt hname hr hi) hring

/-- The buffer the first sender posted, recycled by the second after the remote has consumed it. -/
theorem txExclusive_recycled :
    ∃ s, run (TxState.txStep (.ofProbe 1 0x1000) 1) (.probed fun _ ↦ ⟨1024, 61, [7], 1, true⟩)
        [.call 0 ⟨1024, 61, [7], 1, true⟩, .next 0, .next 0, .next 0, .next 0, .next 0, .next 0,
          .added 0 (.ok ()), .next 0, .next 0, .consume 0x1200,
          .call 1 ⟨1025, 61, [8], 1, false⟩, .next 1, .next 1, .next 1] = some s ∧
      s.held 1 = some 0x1200 ∧ TxExclusive 1 0x1000 1 s := by
  obtain ⟨s, hs, hheld⟩ := Option.map_eq_some_iff.1 (show Option.map (fun s ↦ s.held 1)
    (run (TxState.txStep (.ofProbe 1 0x1000) 1) (.probed fun _ ↦ ⟨1024, 61, [7], 1, true⟩)
      [.call 0 ⟨1024, 61, [7], 1, true⟩, .next 0, .next 0, .next 0, .next 0, .next 0, .next 0,
        .added 0 (.ok ()), .next 0, .next 0, .consume 0x1200,
        .call 1 ⟨1025, 61, [8], 1, false⟩, .next 1, .next 1, .next 1]) = some (some 0x1200)
    by decide +kernel)
  exact ⟨s, hs, hheld, txExclusive_of_reachable 1 0x1000 1 _ s (reachable_of_run hs)⟩
