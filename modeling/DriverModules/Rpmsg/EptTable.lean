import DriverModules.Lib.Mutex
import DriverModules.Lib.Pairing
import DriverModules.Rpmsg.EptRules

/-!
# Who works on an endpoint, and the endpoint table

The first half of the invariant of the endpoints; `EptSafe` has the second, about what is freed.

A step moves one thread and changes at most one endpoint, so each part is kept by a lemma about that
thread and that endpoint and a frame for all others.

## Two invariants, and why the first does not need the second

* `LifeOwners`: each lock has its holder, and an endpoint that is being created or destroyed has its
  thread. It says nothing of the table, and rests on how a step moves the one thread
  (`LifeRule.ownerMove`, `LifeRule.table`).
* `LifeTable`: the table and the bindings of the endpoints point at each other, and the position of
  every thread says what it may rely on (`PcBound`). Between `idr_alloc` and the store to
  `ept->addr` an endpoint has an entry but not yet its address, and that is the one exception in the
  field `addr`.

## Main results, and what each rests on

* `LifeOwners.step` and `LifeTable.step`: both are kept by every step, by any number of threads.
* `LifeOwners.alone`: a thread inside the table that creates or destroys an endpoint is alone with
  it. It rests on the mutex and on the stage of the endpoint, and it is what makes the three steps
  that change a binding (`bind`, `finish`, `remove`) harmless to what other threads rely on.
* The steps that bind nothing need no more than that the bindings are the same (`LifeTable.quiet`).
-/

open Mutex Pairing

namespace EptStage

/-- The thread creating the endpoint. -/
def creator : EptStage → Option ℕ
  | creating t => some t
  | _ => none

/-- The thread destroying the endpoint. -/
def destroyer : EptStage → Option ℕ
  | destroying t => some t
  | _ => none

end EptStage

namespace LifeState

variable {s s' : LifeState} {t u : ℕ} {e x : EptId} {p p' : LifePc} {c c' : EptCell}

/-! ### Who works on what -/

/-- The locks and the endpoints being created or destroyed, each with its thread. -/
structure LifeOwners (s : LifeState) : Prop where
  table : Guards s.endpointsLock fun t ↦ (s.pc t).inTable = true
  cb : Paired (fun t ↦ (s.pc t).inCb) fun e ↦ (s.epts e).cbLock
  creator : Paired (fun t ↦ (s.pc t).creates) fun e ↦ (s.epts e).stage.creator
  destroyer : Paired (fun t ↦ (s.pc t).destroys) fun e ↦ (s.epts e).stage.destroyer

/-- One thread moves and one endpoint changes, and each keeps track of the other. -/
structure OwnerMove (t : ℕ) (e : EptId) (p : LifePc) (c : EptCell) (p' : LifePc) (c' : EptCell) :
    Prop where
  cb : Move t e p.inCb c.cbLock p'.inCb c'.cbLock
  creator : Move t e p.creates c.stage.creator p'.creates c'.stage.creator
  destroyer : Move t e p.destroys c.stage.destroyer p'.destroys c'.stage.destroyer

/-- What a thread says it creates or destroys is in that stage. -/
theorem LifeOwners.creating (h : LifeOwners s) (hp : (s.pc t).creates = some e) :
    (s.epts e).stage = .creating t := by
  have hc := (h.creator t e).1 hp
  cases hst : (s.epts e).stage <;> simp_all [EptStage.creator]

theorem LifeOwners.destroying (h : LifeOwners s) (hp : (s.pc t).destroys = some e) :
    (s.epts e).stage = .destroying t := by
  have hc := (h.destroyer t e).1 hp
  cases hst : (s.epts e).stage <;> simp_all [EptStage.destroyer]

theorem CellMove.ownerMove (h : CellMove t e p c p' c')
    (hcr : p.creates = some e → c.stage = .creating t)
    (hde : p.destroys = some e → c.stage = .destroying t) : OwnerMove t e p c p' c' := by
  cases h with
  | recvCbLock dst b c hfree =>
    refine ⟨?_, .keep _ _, .keep _ _⟩
    rw [hfree]
    exact .join
  | destroyCbLock c hfree =>
    refine ⟨?_, .keep _ _, .keep _ _⟩
    rw [hfree]
    exact .join
  | recvCbUnlock c => exact ⟨.part _, .keep _ _, .keep _ _⟩
  | destroyCbUnlock c => exact ⟨.part _, .keep _ _, .keep _ _⟩
  | create args => exact ⟨.keep _ _, .join, .keep _ _⟩
  | fail c =>
    refine ⟨.keep _ _, .part _, ?_⟩
    rw [hcr rfl]
    exact .keep _ _
  | destroy c hstage =>
    refine ⟨.keep _ _, ?_, ?_⟩ <;> rw [hstage]
    · exact .keep _ _
    · exact .join
  | destroyPut c =>
    refine ⟨.keep _ _, ?_, .part _⟩
    rw [hde rfl]
    exact .keep _ _
  | get | recvPut | setAddr | clearCb => exact ⟨.keep _ _, .keep _ _, .keep _ _⟩

/-- Nobody's work changes hands. -/
theorem OwnerMove.of_eq (hcb : p'.inCb = p.inCb) (hcr : p'.creates = p.creates)
    (hde : p'.destroys = p.destroys) : OwnerMove t e p c p' c := by
  refine ⟨?_, ?_, ?_⟩
  · rw [hcb]
    exact .keep _ _
  · rw [hcr]
    exact .keep _ _
  · rw [hde]
    exact .keep _ _

theorem PcMove.ownerMove (h : PcMove s p p') : OwnerMove t e p c p' c := by
  cases h <;> exact .of_eq rfl rfl rfl

theorem TableLock.ownerMove (h : TableLock p p') : OwnerMove t e p c p' c := by
  cases h <;> exact .of_eq rfl rfl rfl

theorem TableUnlock.ownerMove (h : TableUnlock p p') : OwnerMove t e p c p' c := by
  cases h <;> exact .of_eq rfl rfl rfl

/-- **One thread and one endpoint a step**, and the thread's work and the endpoint's agree. -/
theorem LifeRule.ownerMove (hr : LifeRule s s') (ho : LifeOwners s) :
    ∃ t e, (∀ u, u ≠ t → s'.pc u = s.pc u) ∧ (∀ x, x ≠ e → s'.epts x = s.epts x) ∧
      OwnerMove t e (s.pc t) (s.epts e) (s'.pc t) (s'.epts e) := by
  cases hr with
  | stay => exact ⟨0, 0, fun _ _ ↦ rfl, fun _ _ ↦ rfl, .of_eq rfl rfl rfl⟩
  | move t p hm =>
    refine ⟨t, 0, fun u hu ↦ pc_goto_of_ne s p hu, fun _ _ ↦ rfl, ?_⟩
    rw [pc_goto_self]
    exact hm.ownerMove
  | lock t p hm hfree =>
    refine ⟨t, 0, fun u hu ↦ pc_goto_of_ne s p hu, fun _ _ ↦ rfl, ?_⟩
    show OwnerMove t 0 _ _ ((s.goto t p).pc t) _
    rw [pc_goto_self]
    exact hm.ownerMove
  | unlock t p hm =>
    refine ⟨t, 0, fun u hu ↦ pc_goto_of_ne s p hu, fun _ _ ↦ rfl, ?_⟩
    show OwnerMove t 0 _ _ ((s.goto t p).pc t) _
    rw [pc_goto_self]
    exact hm.ownerMove
  | cell t e p c hm =>
    refine ⟨t, e, fun u hu ↦ pc_goto_of_ne _ p hu, fun x hx ↦ epts_setEpt_of_ne s c hx, ?_⟩
    rw [pc_goto_self, epts_goto, epts_setEpt_self]
    exact hm.ownerMove (fun hp ↦ ho.creating hp) fun hp ↦ ho.destroying hp
  | bind t e addr id hpc hfree hle =>
    refine ⟨t, e, fun u hu ↦ pc_goto_of_ne _ _ hu, fun x hx ↦ epts_setEpt_of_ne s _ hx, ?_⟩
    show OwnerMove t e _ _ ((goto _ t _).pc t) ((s.setEpt e _).epts e)
    rw [pc_goto_self, epts_setEpt_self, hpc]
    exact ⟨.keep _ _, .keep _ _, .keep _ _⟩
  | created t e hpc =>
    have hstage := ho.creating (show (s.pc t).creates = some e by rw [hpc]; rfl)
    refine ⟨t, e, fun u hu ↦ pc_goto_of_ne _ _ hu, fun x hx ↦ epts_setEpt_of_ne s _ hx, ?_⟩
    show OwnerMove t e _ _ ((goto _ t _).pc t) ((s.setEpt e _).epts e)
    rw [pc_goto_self, epts_setEpt_self, hpc]
    refine ⟨.keep _ _, .part _, ?_⟩
    rw [hstage]
    exact .keep _ _
  | remove t e hpc =>
    refine ⟨t, e, fun u hu ↦ pc_goto_of_ne _ _ hu, fun x hx ↦ epts_setEpt_of_ne s _ hx, ?_⟩
    show OwnerMove t e _ _ ((goto _ t _).pc t) ((s.setEpt e _).epts e)
    rw [pc_goto_self, epts_setEpt_self, hpc]
    exact ⟨.keep _ _, .keep _ _, .keep _ _⟩

/-! #### The lock of the table -/

theorem CellMove.inTable (h : CellMove t e p c p' c') : p'.inTable = p.inTable := by
  cases h <;> rfl

theorem PcMove.inTable (h : PcMove s p p') : p'.inTable = p.inTable := by
  cases h <;> rfl

theorem TableLock.inTable (h : TableLock p p') : p'.inTable = true := by
  cases h <;> rfl

theorem TableUnlock.inTable (h : TableUnlock p p') : p.inTable = true ∧ p'.inTable = false := by
  cases h <;> exact ⟨rfl, rfl⟩

/-- A thread that moves on without taking or giving back `endpoints_lock`. -/
theorem guards_goto (h : Guards s.endpointsLock fun t ↦ (s.pc t).inTable = true)
    (hlock : s'.endpointsLock = s.endpointsLock) (hne : ∀ u, u ≠ t → s'.pc u = s.pc u)
    (ht : (s'.pc t).inTable = (s.pc t).inTable) :
    Guards s'.endpointsLock fun t ↦ (s'.pc t).inTable = true := by
  rw [hlock]
  refine h.congr fun u ↦ ?_
  rw [pc_congr LifePc.inTable hne ht u]

theorem LifeRule.table (hr : LifeRule s s')
    (h : Guards s.endpointsLock fun t ↦ (s.pc t).inTable = true) :
    Guards s'.endpointsLock fun t ↦ (s'.pc t).inTable = true := by
  cases hr with
  | stay => exact h
  | move t p hm =>
    refine guards_goto h rfl (fun u hu ↦ pc_goto_of_ne s p hu) ?_
    rw [pc_goto_self, hm.inTable]
  | lock t p hm hfree =>
    refine (hfree ▸ h).acquire ?_ fun u hu ↦ ?_
    · show ((s.goto t p).pc t).inTable = true
      rw [pc_goto_self, hm.inTable]
    · show ((s.goto t p).pc u).inTable = true ↔ _
      rw [pc_goto_of_ne s p hu]
  | unlock t p hm =>
    refine h.release (i := t) hm.inTable.1 ?_ fun u hu ↦ ?_
    · show ¬ ((s.goto t p).pc t).inTable = true
      rw [pc_goto_self, hm.inTable.2]
      exact Bool.false_ne_true
    · show ((s.goto t p).pc u).inTable = true ↔ _
      rw [pc_goto_of_ne s p hu]
  | cell t e p c hm =>
    refine guards_goto h rfl (fun u hu ↦ pc_goto_of_ne _ p hu) ?_
    rw [pc_goto_self, hm.inTable]
  | bind t e addr id hpc hfree hle =>
    refine guards_goto h rfl (fun u hu ↦ pc_goto_of_ne _ _ hu) ?_
    show ((goto _ t _).pc t).inTable = _
    rw [pc_goto_self, hpc]
    rfl
  | created t e hpc =>
    refine h.release (i := t) (by rw [hpc]; rfl) ?_ fun u hu ↦ ?_
    · show ¬ ((goto _ t _).pc t).inTable = true
      rw [pc_goto_self]
      exact Bool.false_ne_true
    · show ((goto _ t _).pc u).inTable = true ↔ _
      rw [pc_goto_of_ne _ _ hu]
      rfl
  | remove t e hpc =>
    refine guards_goto h rfl (fun u hu ↦ pc_goto_of_ne _ _ hu) ?_
    show ((goto _ t _).pc t).inTable = _
    rw [pc_goto_self, hpc]
    rfl

theorem LifeOwners.step (h : LifeOwners s) (hr : LifeRule s s') : LifeOwners s' := by
  obtain ⟨t, e, hpc, hepts, hm⟩ := hr.ownerMove h
  refine ⟨hr.table h.table, h.cb.move hm.cb ?_ ?_, h.creator.move hm.creator ?_ ?_,
    h.destroyer.move hm.destroyer ?_ ?_⟩
  all_goals
    intro j hj
    first
      | rw [hpc j hj]
      | rw [hepts j hj]

theorem lifeOwners_init : LifeOwners .init where
  table := guards_none fun _ ↦ Bool.false_ne_true
  cb := paired_none (fun _ ↦ rfl) fun _ ↦ rfl
  creator := paired_none (fun _ ↦ rfl) fun _ ↦ rfl
  destroyer := paired_none (fun _ ↦ rfl) fun _ ↦ rfl

/-! ### The table -/

/-- What the position of a thread says about the bindings. -/
def PcBound (bound : EptId → Option ℕ) : LifePc → Prop
  | .recvGet dst e b => bound e = some dst.toNat ∧ b = true
  | .recvUnlock _ (some (_, b)) | .recvCbLock _ _ b | .recvTestCb _ _ b
  | .recvCall _ _ b => b = true
  | .createAddr e id => bound e = some id ∧ id ≤ Idr.INT_MAX
  | .createUnlock e | .destroyLock e | .destroyRemove e => bound e ≠ none
  | .createLock e _ | .createAlloc e _ | .freeEptUnlock e | .freeEptPut e | .destroyUnlock e
  | .destroyCbLock e | .destroyCb e | .destroyCbUnlock e | .destroyPut e => bound e = none
  | _ => True

/-- The endpoint whose binding matters to a thread. -/
def boundOn : LifePc → Option EptId
  | .recvGet _ e _ => some e
  | p => p.creates.or p.destroys

theorem PcBound.congr {bound bound' : EptId → Option ℕ} (h : PcBound bound p)
    (hb : ∀ x, boundOn p = some x → bound' x = bound x) : PcBound bound' p := by
  cases p with
  | recvUnlock dst found => rcases found with - | ⟨e, b⟩ <;> exact h
  | idle | recvLock | recvFind | recvCbLock | recvTestCb | recvCall | recvCbUnlock | recvPut =>
    exact h
  | _ =>
    simp only [PcBound] at h ⊢
    rw [hb _ rfl]
    exact h

theorem inTable_or_of_boundOn (h : boundOn p = some e) :
    p.inTable = true ∨ p.creates = some e ∨ p.destroys = some e := by
  cases p with
  | recvGet dst x b => exact .inl rfl
  | createLock | createAlloc | createAddr | createUnlock | freeEptUnlock | freeEptPut =>
    exact .inr (.inl h)
  | destroyLock | destroyRemove | destroyUnlock | destroyCbLock | destroyCb | destroyCbUnlock
  | destroyPut => exact .inr (.inr h)
  | recvUnlock dst found => rcases found with - | ⟨x, b⟩ <;> cases h
  | _ => cases h

/-- The table holds exactly the bound endpoints, each under its address. -/
structure LifeTable (s : LifeState) : Prop where
  paired : Paired (fun e ↦ (s.epts e).bound) s.endpoints
  addr : ∀ e a, (s.epts e).bound = some a → (∀ t, s.pc t ≠ .createAddr e a) →
    (s.epts e).ept.addr.toNat = a
  owned : ∀ e, (s.epts e).bound ≠ none → (s.epts e).stage.owned = true
  created : ∀ e, (s.epts e).stage = .created → (s.epts e).bound ≠ none
  pcs : ∀ t, PcBound (fun e ↦ (s.epts e).bound) (s.pc t)

/-- While a thread that holds `endpoints_lock` creates or destroys an endpoint, its binding matters
to no other thread. -/
theorem LifeOwners.alone (ho : LifeOwners s) (ht : (s.pc t).inTable = true)
    (he : (s.pc t).creates = some e ∨ (s.pc t).destroys = some e) (hu : u ≠ t) :
    boundOn (s.pc u) ≠ some e := by
  have hstage : (s.epts e).stage = .creating t ∨ (s.epts e).stage = .destroying t :=
    he.imp ho.creating ho.destroying
  have hcr : (s.pc u).creates ≠ some e := fun hc ↦ by
    have := ho.creating hc
    rcases hstage with hs | hs <;> rw [hs] at this <;> cases this
    exact hu rfl
  have hde : (s.pc u).destroys ≠ some e := fun hc ↦ by
    have := ho.destroying hc
    rcases hstage with hs | hs <;> rw [hs] at this <;> cases this
    exact hu rfl
  intro hb
  rcases inTable_or_of_boundOn hb with hin | hc | hd
  · exact hu (ho.table.unique hin ht)
  · exact hcr hc
  · exact hde hd

/-! #### Steps that bind nothing -/

/-- A thread's move keeps what its position says about the bindings. -/
theorem PcMove.pcBound (ho : LifeOwners s) (h : LifeTable s) (hm : PcMove s (s.pc t) p) :
    PcBound (fun e ↦ (s.epts e).bound) p := by
  have hp := h.pcs t
  generalize hpc : s.pc t = q at hm hp
  cases hm with
  | deliver | notFound | noCall | called => trivial
  | found dst e b hsome hb =>
    have hbound := (h.paired e dst.toNat).2 hsome
    have haddr : (s.epts e).ept.addr = dst := by
      refine UInt32.toNat_inj.1 (h.addr e _ hbound fun u hu ↦ ?_)
      -- the creator would hold `endpoints_lock` as well
      have hut := ho.table.unique (show (s.pc u).inTable = true by rw [hu]; rfl)
        (show (s.pc t).inTable = true by rw [hpc]; rfl)
      rw [hut, hpc] at hu
      cases hu
    refine ⟨hbound, ?_⟩
    rw [hb]
    exact decide_eq_true ⟨hbound, haddr⟩
  | call dst e b hcb => exact hp
  | allocFailed e addr => exact hp

theorem TableLock.pcBound {bound : EptId → Option ℕ} (hm : TableLock p p') (h : PcBound bound p) :
    PcBound bound p' := by
  cases hm <;> exact h

theorem TableUnlock.pcBound {bound : EptId → Option ℕ} (hm : TableUnlock p p')
    (h : PcBound bound p) : PcBound bound p' := by
  cases hm <;> exact h

theorem CellMove.pcBound {bound : EptId → Option ℕ} (hm : CellMove t e p c p' c')
    (hc : bound e = c.bound) (hcr : c.stage = .created → c.bound ≠ none) (h : PcBound bound p) :
    PcBound bound p' := by
  cases hm with
  | get | recvCbLock | clearCb | destroyCbLock | destroyCbUnlock => first | exact h | exact h.2
  | create args => exact hc
  | setAddr id c =>
    show bound e ≠ none
    rw [h.1]
    exact Option.some_ne_none id
  | destroy c hstage =>
    show bound e ≠ none
    rw [hc]
    exact hcr hstage
  | recvCbUnlock | recvPut | fail | destroyPut => trivial

theorem CellMove.bound (hm : CellMove t e p c p' c') : c'.bound = c.bound := by
  cases hm <;> rfl

/-- What the table needs to know of an endpoint. -/
structure CellOk (c : EptCell) : Prop where
  owned : c.bound ≠ none → c.stage.owned = true
  created : c.stage = .created → c.bound ≠ none

theorem CellMove.cellOk {bound : EptId → Option ℕ} (hm : CellMove t e p c p' c')
    (hc : bound e = c.bound) (hp : PcBound bound p) (h : CellOk c) : CellOk c' := by
  cases hm with
  | get | recvCbLock | recvCbUnlock | recvPut | setAddr | destroyCbLock | clearCb
  | destroyCbUnlock => exact ⟨h.owned, h.created⟩
  | create args => exact ⟨fun _ ↦ rfl, fun hst ↦ by cases hst⟩
  | fail c => exact ⟨fun hb ↦ absurd (hc.symm.trans hp) hb, fun hst ↦ by cases hst⟩
  | destroy c hstage => exact ⟨fun _ ↦ rfl, fun hst ↦ by cases hst⟩
  | destroyPut c => exact ⟨fun hb ↦ absurd (hc.symm.trans hp) hb, fun hst ↦ by cases hst⟩

/-- The address field holds the binding, but for the moment in which its creator is about to write
it. -/
theorem CellMove.addr {bound : EptId → Option ℕ} {a : ℕ} (hm : CellMove t e p c p' c')
    (hc : bound e = c.bound) (hp : PcBound bound p) (ha : c'.bound = some a)
    (h : p ≠ .createAddr e a → c.ept.addr.toNat = a) : c'.ept.addr.toNat = a := by
  cases hm with
  | setAddr id c =>
    obtain ⟨hid, hle⟩ := hp
    obtain rfl : id = a := Option.some.inj (hid.symm.trans (hc.trans ha))
    show (UInt32.ofNat id).toNat = id
    rw [UInt32.toNat_ofNat']
    unfold Idr.INT_MAX at hle
    omega
  | create args => cases ha
  | _ => exact h (by simp)

theorem CellMove.ne_createAddr (hm : CellMove t e p c p' c') (hx : x ≠ e) (a : ℕ) :
    p ≠ .createAddr x a := by
  cases hm <;> simp [Ne.symm hx]

theorem PcMove.ne_createAddr (hm : PcMove s p p') (x : EptId) (a : ℕ) : p ≠ .createAddr x a := by
  cases hm <;> simp

theorem TableLock.ne_createAddr (hm : TableLock p p') (x : EptId) (a : ℕ) :
    p ≠ .createAddr x a := by
  cases hm <;> simp

theorem TableUnlock.ne_createAddr (hm : TableUnlock p p') (x : EptId) (a : ℕ) :
    p ≠ .createAddr x a := by
  cases hm <;> simp

/-- If nobody is about to write an address after a step of thread `t`, then nobody was before it,
where `t` was not. -/
theorem ne_createAddr_of_step {a : ℕ} (hpc : ∀ u, u ≠ t → s'.pc u = s.pc u)
    (ht : s.pc t ≠ .createAddr x a) (h : ∀ u, s'.pc u ≠ .createAddr x a) (u : ℕ) :
    s.pc u ≠ .createAddr x a := by
  by_cases hu : u = t
  · rwa [hu]
  · rw [← hpc u hu]
    exact h u

theorem LifeTable.cellOk (h : LifeTable s) (e : EptId) : CellOk (s.epts e) :=
  ⟨h.owned e, h.created e⟩

/-- A step of thread `t` that leaves the table and every binding alone. -/
theorem LifeTable.quiet (h : LifeTable s) (hend : s'.endpoints = s.endpoints)
    (hb : ∀ x, (s'.epts x).bound = (s.epts x).bound) (hpc : ∀ u, u ≠ t → s'.pc u = s.pc u)
    (hp : PcBound (fun e ↦ (s.epts e).bound) (s'.pc t))
    (haddr : ∀ x a, (s'.epts x).bound = some a → (∀ u, s'.pc u ≠ .createAddr x a) →
      (s'.epts x).ept.addr.toNat = a)
    (hok : ∀ x, CellOk (s'.epts x)) : LifeTable s' where
  paired := h.paired.congr hb fun a ↦ by rw [hend]
  addr := haddr
  owned x := (hok x).owned
  created x := (hok x).created
  pcs u := by
    by_cases hu : u = t
    · rw [hu]
      exact hp.congr fun x _ ↦ hb x
    · rw [hpc u hu]
      exact (h.pcs u).congr fun x _ ↦ hb x

/-- A step of thread `t` that touches no endpoint. -/
theorem LifeTable.thread (h : LifeTable s) (hend : s'.endpoints = s.endpoints)
    (hepts : s'.epts = s.epts) (hpc : ∀ u, u ≠ t → s'.pc u = s.pc u)
    (hp : PcBound (fun e ↦ (s.epts e).bound) (s'.pc t))
    (hne : ∀ x a, s.pc t ≠ .createAddr x a) : LifeTable s' := by
  refine h.quiet hend (fun x ↦ by rw [hepts]) hpc hp (fun x a ha hu ↦ ?_) fun x ↦ by
    rw [hepts]
    exact h.cellOk x
  rw [hepts] at ha ⊢
  exact h.addr x a ha (ne_createAddr_of_step hpc (hne x a) hu)

/-- A step of thread `t`, inside the critical section, that changes the binding of the endpoint it
creates or destroys. -/
theorem LifeTable.rebind (h : LifeTable s) (ho : LifeOwners s)
    (hpaired : Paired (fun e ↦ (s'.epts e).bound) s'.endpoints)
    (ht : (s.pc t).inTable = true)
    (he : (s.pc t).creates = some e ∨ (s.pc t).destroys = some e)
    (hpc : ∀ u, u ≠ t → s'.pc u = s.pc u) (hepts : ∀ x, x ≠ e → s'.epts x = s.epts x)
    (hp : PcBound (fun e ↦ (s'.epts e).bound) (s'.pc t))
    (haddr : ∀ a, (s'.epts e).bound = some a → s'.pc t = .createAddr e a)
    (hne : ∀ x a, s.pc t ≠ .createAddr x a) (hok : CellOk (s'.epts e)) : LifeTable s' := by
  have hok' : ∀ x, CellOk (s'.epts x) := by
    intro x
    by_cases hx : x = e
    · rw [hx]
      exact hok
    · rw [hepts x hx]
      exact h.cellOk x
  refine ⟨hpaired, fun x a ha hu ↦ ?_, fun x ↦ (hok' x).owned, fun x ↦ (hok' x).created,
    fun u ↦ ?_⟩
  · by_cases hx : x = e
    · subst hx
      exact absurd (haddr a ha) (hu t)
    · rw [hepts x hx] at ha ⊢
      exact h.addr x a ha (ne_createAddr_of_step hpc (hne x a) hu)
  · by_cases hut : u = t
    · rw [hut]
      exact hp
    · rw [hpc u hut]
      refine (h.pcs u).congr fun x hx ↦ ?_
      have hxe : x ≠ e := by
        rintro rfl
        exact ho.alone ht he hut hx
      show (s'.epts x).bound = _
      rw [hepts x hxe]

/-- A destroyer about to remove its endpoint finds it bound to the address in its field. -/
theorem LifeTable.bound_of_destroyRemove (h : LifeTable s) (ho : LifeOwners s)
    (hpc : s.pc t = .destroyRemove e) :
    (s.epts e).bound = some (s.epts e).ept.addr.toNat := by
  have hde : (s.pc t).destroys = some e := by rw [hpc]; rfl
  obtain ⟨a, ha⟩ : ∃ a, (s.epts e).bound = some a := by
    have := h.pcs t
    rw [hpc] at this
    exact Option.ne_none_iff_exists'.1 this
  rw [ha, h.addr e a ha fun u hu ↦ ?_]
  -- the endpoint would be under creation at the same time
  have hcr := ho.creating (show (s.pc u).creates = some e by rw [hu]; rfl)
  rw [ho.destroying hde] at hcr
  cases hcr

/-- A step on endpoint `e` that leaves its binding alone. -/
theorem LifeTable.cell (h : LifeTable s) (hm : CellMove t e (s.pc t) (s.epts e) p c) :
    LifeTable ((s.setEpt e c).goto t p) := by
  have hepts : ∀ x, x ≠ e → ((s.setEpt e c).goto t p).epts x = s.epts x :=
    fun x hx ↦ epts_setEpt_of_ne s c hx
  have hself : ((s.setEpt e c).goto t p).epts e = c := epts_setEpt_self s c
  have hpc : ∀ u, u ≠ t → ((s.setEpt e c).goto t p).pc u = s.pc u :=
    fun u hu ↦ pc_goto_of_ne _ p hu
  have hbound := epts_congr EptCell.bound hepts (by rw [hself, hm.bound])
  refine h.quiet rfl hbound hpc ?_ (fun x a ha hu ↦ ?_) fun x ↦ ?_
  · rw [pc_goto_self]
    exact hm.pcBound rfl (h.created e) (h.pcs t)
  · by_cases hx : x = e
    · subst hx
      rw [hself] at ha ⊢
      exact hm.addr rfl (h.pcs t) ha fun hne ↦
        h.addr x a (hm.bound ▸ ha) (ne_createAddr_of_step hpc hne hu)
    · rw [hepts x hx] at ha ⊢
      exact h.addr x a ha (ne_createAddr_of_step hpc (hm.ne_createAddr hx a) hu)
  · by_cases hx : x = e
    · rw [hx, hself]
      exact hm.cellOk rfl (h.pcs t) (h.cellOk e)
    · rw [hepts x hx]
      exact h.cellOk x

/-- A creator binds its endpoint to a free address. -/
theorem LifeTable.bind (h : LifeTable s) (ho : LifeOwners s) {addr : UInt32} {id : ℕ}
    (hpc : s.pc t = .createAlloc e addr) (hfree : s.endpoints id = none) (hle : id ≤ Idr.INT_MAX) :
    LifeTable { (s.setEpt e { s.epts e with bound := some id }).goto t (.createAddr e id) with
      endpoints := Function.update s.endpoints id (some e) } := by
  have hnone : (s.epts e).bound = none := by
    have := h.pcs t
    rwa [hpc] at this
  have hcr : (s.pc t).creates = some e := by rw [hpc]; rfl
  set c : EptCell := { s.epts e with bound := some id } with hc
  have hself : (s.setEpt e c).epts e = c := epts_setEpt_self s c
  refine h.rebind (t := t) (e := e) ho ?_ (by rw [hpc]; rfl) (.inl hcr)
    (fun u hu ↦ pc_goto_of_ne _ _ hu) (fun x hx ↦ epts_setEpt_of_ne s c hx) ?_ ?_
    (fun x a ↦ by rw [hpc]; simp) ?_
  · refine h.paired.move (i := e) (k := id) ?_ (fun x hx ↦ ?_) fun a ha ↦ ?_
    · show Move e id (s.epts e).bound (s.endpoints id) ((s.setEpt e c).epts e).bound
        (Function.update s.endpoints id (some e) id)
      rw [hnone, hfree, hself, Function.update_self]
      exact .join
    · show ((s.setEpt e c).epts x).bound = _
      rw [epts_setEpt_of_ne s c hx]
    · exact Function.update_of_ne ha _ _
  · show PcBound (fun e' ↦ ((s.setEpt e c).epts e').bound) ((goto _ t _).pc t)
    rw [pc_goto_self]
    refine ⟨?_, hle⟩
    show ((s.setEpt e c).epts e).bound = some id
    rw [hself]
  · intro a ha
    have ha' : ((s.setEpt e c).epts e).bound = some a := ha
    rw [hself] at ha'
    obtain rfl := Option.some.inj ha'
    exact pc_goto_self _ _
  · show CellOk ((s.setEpt e c).epts e)
    rw [hself]
    refine ⟨fun _ ↦ ?_, fun _ ↦ Option.some_ne_none id⟩
    show (s.epts e).stage.owned = true
    rw [ho.creating hcr]
    rfl

/-- A creator returns its endpoint. -/
theorem LifeTable.finish (h : LifeTable s) (hpc : s.pc t = .createUnlock e) :
    LifeTable { (s.setEpt e { s.epts e with stage := .created }).goto t .idle with
      endpointsLock := none } := by
  set c : EptCell := { s.epts e with stage := .created } with hc
  have hself : (s.setEpt e c).epts e = c := epts_setEpt_self s c
  have hbound : (s.epts e).bound ≠ none := by
    have := h.pcs t
    rwa [hpc] at this
  have hepts : ∀ x, x ≠ e → (s.setEpt e c).epts x = s.epts x :=
    fun x hx ↦ epts_setEpt_of_ne s c hx
  have hpcs : ∀ u, u ≠ t → ((s.setEpt e c).goto t .idle).pc u = s.pc u :=
    fun u hu ↦ pc_goto_of_ne _ _ hu
  have hb := epts_congr EptCell.bound hepts (by rw [hself])
  refine h.quiet (t := t) rfl hb hpcs ?_ (fun x a ha hu ↦ ?_) fun x ↦ ?_
  · show PcBound _ ((goto _ t _).pc t)
    rw [pc_goto_self]
    trivial
  · show ((s.setEpt e c).epts x).ept.addr.toNat = a
    rw [epts_congr EptCell.ept hepts (by rw [hself])]
    refine h.addr x a ((hb x).symm.trans ha) (ne_createAddr_of_step hpcs ?_ hu)
    rw [hpc]
    exact fun hp ↦ by cases hp
  · show CellOk ((s.setEpt e c).epts x)
    by_cases hx : x = e
    · rw [hx, hself]
      exact ⟨fun _ ↦ rfl, fun _ ↦ hbound⟩
    · rw [epts_setEpt_of_ne s c hx]
      exact h.cellOk x

/-- A destroyer removes its endpoint. -/
theorem LifeTable.remove (h : LifeTable s) (ho : LifeOwners s) (hpc : s.pc t = .destroyRemove e) :
    LifeTable { (s.setEpt e { s.epts e with bound := none }).goto t (.destroyUnlock e) with
      endpoints := s.endpoints.remove (s.epts e).ept.addr.toNat } := by
  have hde : (s.pc t).destroys = some e := by rw [hpc]; rfl
  obtain ⟨a, ha, haddr⟩ : ∃ a, (s.epts e).bound = some a ∧ (s.epts e).ept.addr.toNat = a :=
    ⟨_, h.bound_of_destroyRemove ho hpc, rfl⟩
  set c : EptCell := { s.epts e with bound := none } with hc
  have hself : (s.setEpt e c).epts e = c := epts_setEpt_self s c
  refine h.rebind (t := t) (e := e) ho ?_ (by rw [hpc]; rfl) (.inr hde)
    (fun u hu ↦ pc_goto_of_ne _ _ hu) (fun x hx ↦ epts_setEpt_of_ne s c hx) ?_ ?_
    (fun x a ↦ by rw [hpc]; simp) ?_
  · refine h.paired.move (i := e) (k := a) ?_ (fun x hx ↦ ?_) fun b hb ↦ ?_
    · show Move e a (s.epts e).bound (s.endpoints a) ((s.setEpt e c).epts e).bound
        (Function.update s.endpoints (s.epts e).ept.addr.toNat none a)
      rw [ha, hself, haddr, Function.update_self]
      exact .part _
    · show ((s.setEpt e c).epts x).bound = _
      rw [epts_setEpt_of_ne s c hx]
    · show Function.update s.endpoints (s.epts e).ept.addr.toNat none b = _
      rw [haddr]
      exact Function.update_of_ne hb _ _
  · show PcBound (fun e' ↦ ((s.setEpt e c).epts e').bound) ((goto _ t _).pc t)
    rw [pc_goto_self]
    show ((s.setEpt e c).epts e).bound = none
    rw [hself]
  · intro b hb
    have hb' : ((s.setEpt e c).epts e).bound = some b := hb
    rw [hself] at hb'
    cases hb'
  · show CellOk ((s.setEpt e c).epts e)
    rw [hself]
    refine ⟨fun hb ↦ absurd rfl hb, fun hst ↦ ?_⟩
    have hst' : (s.epts e).stage = .created := hst
    rw [ho.destroying hde] at hst'
    cases hst'

/-- **Every step keeps the table and the endpoints pointing at each other.** -/
theorem LifeTable.step (h : LifeTable s) (ho : LifeOwners s) (hr : LifeRule s s') :
    LifeTable s' := by
  cases hr with
  | stay => exact h
  | move t p hm =>
    refine h.thread rfl rfl (fun u hu ↦ pc_goto_of_ne s p hu) ?_ hm.ne_createAddr
    rw [pc_goto_self]
    exact hm.pcBound ho h
  | lock t p hm hfree =>
    refine h.thread rfl rfl (fun u hu ↦ pc_goto_of_ne s p hu) ?_ hm.ne_createAddr
    show PcBound _ ((s.goto t p).pc t)
    rw [pc_goto_self]
    exact hm.pcBound (h.pcs t)
  | unlock t p hm =>
    refine h.thread rfl rfl (fun u hu ↦ pc_goto_of_ne s p hu) ?_ hm.ne_createAddr
    show PcBound _ ((s.goto t p).pc t)
    rw [pc_goto_self]
    exact hm.pcBound (h.pcs t)
  | cell t e p c hm => exact h.cell hm
  | bind t e addr id hpc hfree hle => exact h.bind ho hpc hfree hle
  | created t e hpc => exact h.finish hpc
  | remove t e hpc => exact h.remove ho hpc

theorem lifeTable_init : LifeTable .init where
  paired := paired_none (fun _ ↦ rfl) fun _ ↦ rfl
  addr e a h := by cases h
  owned e h := absurd rfl h
  created e h := by cases h
  pcs t := trivial

end LifeState
