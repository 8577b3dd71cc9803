import DriverModules.Lib.Counting
import DriverModules.Rpmsg.EptTable

/-!
# Deliveries against destruction

The second half of the invariant, and what it is for. `LifeRefs`: the reference count of an endpoint
is the number of its holders, the creator's reference and the deliveries that have looked it up, and
an endpoint without holders has been freed once. `LifeCb`: a callback that runs has not been
cleared, and a destroyed endpoint has none.

A delivery may take its reference because the endpoint is in the table, where the creator's
reference is still there; `cb_lock` keeps the pointer it tested. `lifeSafe_of_reachable` puts the
parts together.

## Four invariants, one over the other

`LifeOwners` needs none of the others, `LifeTable` needs `LifeOwners`, and `LifeRefs` needs both,
for the one step that takes a reference: the endpoint was found in the table, so it is owned.
`LifeCb` needs `LifeOwners` for the lock and `LifeRefs` for the endpoint to be there. `LifeInv` is
their conjunction, and `LifeInv.step` puts them together in this order.

## Main results, and what each rests on

* `LifeInv.holders_of_uses`: what a thread is about to touch has a holder. This is where the
  positions of `LifePc` are gone through.
* `lifeSafe_of_reachable`: nothing is freed twice or used after it was freed, a destroyed endpoint
  stays quiet, and a callback gets messages for the address of its endpoint. Freed means that nobody
  holds it, so the first part is `LifeRefs`; that the callback is quiet is `LifeCb`, carried along
  the rest of the run (`destroyed_of_reachable`).
-/

open Transition Counting Mutex Pairing

namespace LifeState

variable {s s' : LifeState} {t u : ℕ} {e x : EptId} {p p' : LifePc} {c c' : EptCell}

/-! ### The references -/

/-- The holders of a reference to `e`: the creator's, until it is put, and the deliveries. -/
def holders (s : LifeState) (e : EptId) : Option ℕ → Prop
  | none => (s.epts e).stage.owned = true
  | some t => (s.pc t).holds = some e

/-- The count is the number of holders, and an endpoint has been freed once it has none. -/
structure LifeRefs (s : LifeState) : Prop where
  counts : ∀ e, Counts (s.holders e) (s.epts e).ept.refcount
  freed : ∀ e, (s.epts e).stage ≠ .unborn →
    (s.epts e).freed = if (s.epts e).ept.refcount = 0 then 1 else 0
  unborn : ∀ e, (s.epts e).stage = .unborn →
    (s.epts e).ept.refcount = 0 ∧ (s.epts e).freed = 0

theorem PcMove.holds (h : PcMove s p p') : p'.holds = p.holds := by
  cases h <;> rfl

theorem TableLock.holds (h : TableLock p p') : p'.holds = p.holds := by
  cases h <;> rfl

theorem TableUnlock.holds (h : TableUnlock p p') : p'.holds = p.holds := by
  cases h <;> rfl

theorem CellMove.holds_of_ne (h : CellMove t e p c p' c') (hx : x ≠ e) :
    p'.holds = some x ↔ p.holds = some x := by
  cases h <;> simp [LifePc.holds, Ne.symm hx]

/-- A step after which every endpoint has the holders and the count it had. -/
theorem LifeRefs.congr (h : LifeRefs s) (hpc : ∀ u, (s'.pc u).holds = (s.pc u).holds)
    (howned : ∀ x, (s'.epts x).stage.owned = (s.epts x).stage.owned)
    (href : ∀ x, (s'.epts x).ept.refcount = (s.epts x).ept.refcount)
    (hfreed : ∀ x, (s'.epts x).freed = (s.epts x).freed)
    (hunborn : ∀ x, (s'.epts x).stage = .unborn ↔ (s.epts x).stage = .unborn) : LifeRefs s' where
  counts x := by
    rw [href x]
    refine (h.counts x).congr fun i ↦ ?_
    rcases i with - | u
    · show (s'.epts x).stage.owned = true ↔ _
      rw [howned x]
      rfl
    · show (s'.pc u).holds = some x ↔ _
      rw [hpc u]
      rfl
  freed x hx := by
    rw [hfreed x, href x]
    exact h.freed x fun hu ↦ hx ((hunborn x).2 hu)
  unborn x hx := by
    rw [hfreed x, href x]
    exact h.unborn x ((hunborn x).1 hx)

/-- An endpoint with a holder is not freed. -/
theorem LifeRefs.live (h : LifeRefs s) {i : Option ℕ} (hi : s.holders e i) :
    0 < (s.epts e).ept.refcount ∧ (s.epts e).stage ≠ .unborn ∧ (s.epts e).freed = 0 := by
  have hpos := (h.counts e).pos hi
  have hstage : (s.epts e).stage ≠ .unborn := fun hu ↦ by
    have := (h.unborn e hu).1
    omega
  exact ⟨hpos, hstage, by rw [h.freed e hstage, if_neg (by omega)]⟩

/-- What is left after a put. -/
theorem EptCell.freed_put (hfreed : c.freed = 0) :
    c.put.freed = if c.put.ept.refcount = 0 then 1 else 0 := by
  show (if c.ept.refcount - 1 = 0 then c.freed + 1 else c.freed) = _
  rw [hfreed]
  rfl

/-! #### A step on one endpoint -/

theorem holders_cell_none :
    ((s.setEpt e c').goto t p').holders e none ↔ c'.stage.owned = true := by
  show ((s.setEpt e c').epts e).stage.owned = true ↔ _
  rw [epts_setEpt_self]

theorem holders_cell_self :
    ((s.setEpt e c').goto t p').holders e (some t) ↔ p'.holds = some e := by
  show (((s.setEpt e c').goto t p').pc t).holds = some e ↔ _
  rw [pc_goto_self]

theorem holders_cell_of_ne (hu : u ≠ t) (x : EptId) :
    ((s.setEpt e c').goto t p').holders x (some u) ↔ s.holders x (some u) := by
  show (((s.setEpt e c').goto t p').pc u).holds = some x ↔ _
  rw [pc_goto_of_ne _ p' hu]
  rfl

/-- Only endpoint `e` gains or loses holders. -/
theorem CellMove.holders_of_ne (hm : CellMove t e (s.pc t) c p' c') (hx : x ≠ e) (j : Option ℕ) :
    ((s.setEpt e c').goto t p').holders x j ↔ s.holders x j := by
  rcases j with - | u
  · show ((s.setEpt e c').epts x).stage.owned = true ↔ _
    rw [epts_setEpt_of_ne s c' hx]
    rfl
  · by_cases hu : u = t
    · subst hu
      show (((s.setEpt e c').goto u p').pc u).holds = some x ↔ _
      rw [pc_goto_self]
      exact hm.holds_of_ne hx
    · exact holders_cell_of_ne hu x

/-- Holder `i` of endpoint `e` joins: the creator's reference or thread `t`. -/
theorem holders_join {i : Option ℕ} (hi : i = none ∨ i = some t)
    (hn : c'.stage.owned = true ↔ none = i ∨ (s.epts e).stage.owned = true)
    (ht : p'.holds = some e ↔ some t = i ∨ (s.pc t).holds = some e) (j : Option ℕ) :
    ((s.setEpt e c').goto t p').holders e j ↔ j = i ∨ s.holders e j := by
  rcases j with - | u
  · exact holders_cell_none.trans hn
  · by_cases hu : u = t
    · subst hu
      exact holders_cell_self.trans ht
    · rw [holders_cell_of_ne hu]
      rcases hi with rfl | rfl <;> simp [hu]

/-- Holder `i` of endpoint `e` leaves. -/
theorem holders_leave {i : Option ℕ} (hi : i = none ∨ i = some t)
    (hn : c'.stage.owned = true ↔ (s.epts e).stage.owned = true ∧ none ≠ i)
    (ht : p'.holds = some e ↔ (s.pc t).holds = some e ∧ some t ≠ i) (j : Option ℕ) :
    ((s.setEpt e c').goto t p').holders e j ↔ s.holders e j ∧ j ≠ i := by
  rcases j with - | u
  · exact holders_cell_none.trans hn
  · by_cases hu : u = t
    · subst hu
      exact holders_cell_self.trans ht
    · rw [holders_cell_of_ne hu]
      rcases hi with rfl | rfl <;> simp [hu]

/-- A step of thread `t` on endpoint `e`: the counts of all others stay. -/
theorem LifeRefs.update (h : LifeRefs s) (hm : CellMove t e (s.pc t) (s.epts e) p' c')
    (hcounts : Counts (((s.setEpt e c').goto t p').holders e) c'.ept.refcount)
    (hstage : c'.stage ≠ .unborn)
    (hfreed : c'.freed = if c'.ept.refcount = 0 then 1 else 0) :
    LifeRefs ((s.setEpt e c').goto t p') := by
  have hself : ((s.setEpt e c').goto t p').epts e = c' := epts_setEpt_self s c'
  have hne : ∀ x, x ≠ e → ((s.setEpt e c').goto t p').epts x = s.epts x :=
    fun x hx ↦ epts_setEpt_of_ne s c' hx
  refine ⟨fun x ↦ ?_, fun x hx ↦ ?_, fun x hx ↦ ?_⟩ <;> by_cases hxe : x = e
  · rw [hxe, hself]
    exact hcounts
  · rw [hne x hxe]
    exact (h.counts x).congr (hm.holders_of_ne hxe)
  · rw [hxe, hself]
    exact hfreed
  · rw [hne x hxe] at hx ⊢
    exact h.freed x hx
  · rw [hxe, hself] at hx
    exact absurd hx hstage
  · rw [hne x hxe] at hx ⊢
    exact h.unborn x hx

/-- No holder comes or goes. -/
theorem LifeRefs.keep (h : LifeRefs s) (hpc : s'.pc = (s.goto t p').pc)
    (hepts : s'.epts = (s.setEpt e c').epts) (hholds : p'.holds = (s.pc t).holds)
    (howned : c'.stage.owned = (s.epts e).stage.owned)
    (href : c'.ept.refcount = (s.epts e).ept.refcount) (hfreed : c'.freed = (s.epts e).freed)
    (hunborn : c'.stage = .unborn ↔ (s.epts e).stage = .unborn) : LifeRefs s' := by
  have hself : s'.epts e = c' := by rw [hepts, epts_setEpt_self]
  have hne : ∀ x, x ≠ e → s'.epts x = s.epts x := fun x hx ↦ by
    rw [hepts, epts_setEpt_of_ne s c' hx]
  refine h.congr (pc_congr LifePc.holds (t := t) (fun u hu ↦ ?_) ?_)
    (epts_congr (fun c ↦ c.stage.owned) hne (hself ▸ howned))
    (epts_congr (fun c ↦ c.ept.refcount) hne (hself ▸ href))
    (epts_congr EptCell.freed hne (hself ▸ hfreed))
    fun x ↦ iff_of_eq (epts_congr (fun c ↦ c.stage = .unborn) hne (hself ▸ propext hunborn) x)
  · rw [hpc, pc_goto_of_ne s p' hu]
  · rw [hpc, pc_goto_self, hholds]

/-- A reference is put. -/
theorem LifeRefs.put (h : LifeRefs s) (hm : CellMove t e (s.pc t) (s.epts e) p' c') {i : Option ℕ}
    (hi : i = none ∨ i = some t) (hheld : s.holders e i)
    (hn : c'.stage.owned = true ↔ (s.epts e).stage.owned = true ∧ none ≠ i)
    (ht : p'.holds = some e ↔ (s.pc t).holds = some e ∧ some t ≠ i)
    (href : c'.ept.refcount = (s.epts e).put.ept.refcount)
    (hfreed : c'.freed = (s.epts e).put.freed) (hstage : c'.stage ≠ .unborn) :
    LifeRefs ((s.setEpt e c').goto t p') := by
  obtain ⟨-, -, hzero⟩ := h.live hheld
  have hcounts := (h.counts e).erase hheld (holders_leave hi hn ht)
  refine h.update hm (href ▸ hcounts) hstage ?_
  rw [href, hfreed]
  exact EptCell.freed_put hzero

/-- A reference is taken. -/
theorem LifeRefs.take (h : LifeRefs s) (hm : CellMove t e (s.pc t) (s.epts e) p' c')
    {i : Option ℕ} (hi : i = none ∨ i = some t) (hnot : ¬ s.holders e i)
    (hn : c'.stage.owned = true ↔ none = i ∨ (s.epts e).stage.owned = true)
    (ht : p'.holds = some e ↔ some t = i ∨ (s.pc t).holds = some e)
    (href : c'.ept.refcount = (s.epts e).ept.refcount + 1) (hfreed : c'.freed = 0)
    (hstage : c'.stage ≠ .unborn) : LifeRefs ((s.setEpt e c').goto t p') := by
  have hcounts := (h.counts e).insert hnot (holders_join hi hn ht)
  refine h.update hm (href ▸ hcounts) hstage ?_
  rw [hfreed, if_neg (href ▸ Nat.succ_ne_zero _)]

/-- The counts after a step on endpoint `e`. -/
theorem LifeRefs.cell (h : LifeRefs s) (ho : LifeOwners s) (htab : LifeTable s)
    (hm : CellMove t e (s.pc t) (s.epts e) p' c') : LifeRefs ((s.setEpt e c').goto t p') := by
  have hm₀ := hm
  generalize hp : s.pc t = p at hm
  generalize hc : s.epts e = c at hm
  cases hm with
  | recvCbLock | recvCbUnlock | setAddr | destroyCbLock | clearCb | destroyCbUnlock =>
    exact h.keep rfl rfl (by rw [hp]; rfl) (by rw [hc]) (by rw [hc]) (by rw [hc]) (by rw [hc])
  | destroy c hstage =>
    refine h.keep rfl rfl (by rw [hp]; rfl) ?_ (by rw [hc]) (by rw [hc]) ?_ <;> rw [hc, hstage]
    · rfl
    · exact iff_of_false EptStage.noConfusion EptStage.noConfusion
  | get dst b c =>
    -- the endpoint is in the table, so the creation reference is there
    have hbound : PcBound (fun e ↦ (s.epts e).bound) (.recvGet dst e b) := hp ▸ htab.pcs t
    have hne : (s.epts e).bound ≠ none := fun hn ↦ by
      have := hn.symm.trans hbound.1
      cases this
    obtain ⟨-, hstage, hfreed⟩ := h.live (show s.holders e none from htab.owned e hne)
    refine h.take hm₀ (.inr rfl) ?_ ?_ ?_ ?_ ?_ ?_
    · show (s.pc t).holds ≠ some e
      rw [hp]
      exact fun hh ↦ by cases hh
    · rw [hc]
      simp
    · simp [LifePc.holds]
    · rw [hc]
    · rwa [hc] at hfreed
    · rwa [hc] at hstage
  | create args =>
    refine h.take hm₀ (.inl rfl) ?_ ?_ ?_ ?_ rfl EptStage.noConfusion
    · show (s.epts e).stage.owned ≠ true
      rw [hc]
      exact Bool.false_ne_true
    · exact iff_of_true rfl (.inl rfl)
    · rw [hp]
      simp [LifePc.holds]
    · rw [hc]
      rfl
  | recvPut c =>
    have hheld : s.holders e (some t) := by
      show (s.pc t).holds = some e
      rw [hp]
      rfl
    obtain ⟨-, hstage, -⟩ := h.live hheld
    refine h.put hm₀ (.inr rfl) hheld ?_ ?_ (by rw [hc]) (by rw [hc]) ?_
    · rw [hc]
      simp [EptCell.put]
    · simp [LifePc.holds]
    · rwa [hc] at hstage
  | fail c =>
    have hst := ho.creating (show (s.pc t).creates = some e by rw [hp]; rfl)
    have hheld : s.holders e none := by
      show (s.epts e).stage.owned = true
      rw [hst]
      rfl
    refine h.put hm₀ (.inl rfl) hheld ?_ ?_ (by rw [hc]) (by rw [hc]) EptStage.noConfusion
    · simp [EptStage.owned]
    · simp [LifePc.holds, hp]
  | destroyPut c =>
    have hst := ho.destroying (show (s.pc t).destroys = some e by rw [hp]; rfl)
    have hheld : s.holders e none := by
      show (s.epts e).stage.owned = true
      rw [hst]
      rfl
    refine h.put hm₀ (.inl rfl) hheld ?_ ?_ (by rw [hc]) (by rw [hc]) EptStage.noConfusion
    · simp [EptStage.owned]
    · simp [LifePc.holds, hp]

theorem LifeRefs.step (h : LifeRefs s) (ho : LifeOwners s) (htab : LifeTable s)
    (hr : LifeRule s s') : LifeRefs s' := by
  -- a thread that moves on without an endpoint
  have hmove : ∀ {t p s₁}, p.holds = (s.pc t).holds → s₁.epts = s.epts →
      s₁.pc = (s.goto t p).pc → LifeRefs s₁ := by
    intro t p s₁ hholds hepts hpc
    refine h.congr (pc_congr LifePc.holds (t := t) (fun u hu ↦ ?_) ?_) (fun x ↦ by rw [hepts])
      (fun x ↦ by rw [hepts]) (fun x ↦ by rw [hepts]) fun x ↦ by rw [hepts]
    · rw [hpc, pc_goto_of_ne s p hu]
    · rw [hpc, pc_goto_self, hholds]
  cases hr with
  | stay => exact h
  | move t p hm => exact hmove hm.holds rfl rfl
  | lock t p hm hfree => exact hmove hm.holds rfl rfl
  | unlock t p hm => exact hmove hm.holds rfl rfl
  | cell t e p c hm => exact h.cell ho htab hm
  | bind t e addr id hpc hfree hle =>
    exact h.keep (t := t) rfl rfl (by rw [hpc]; rfl) rfl rfl rfl Iff.rfl
  | created t e hpc =>
    have hst := ho.creating (show (s.pc t).creates = some e by rw [hpc]; rfl)
    refine h.keep (t := t) rfl rfl (by rw [hpc]; rfl) ?_ rfl rfl ?_ <;> rw [hst]
    · rfl
    · exact iff_of_false EptStage.noConfusion EptStage.noConfusion
  | remove t e hpc => exact h.keep (t := t) rfl rfl (by rw [hpc]; rfl) rfl rfl rfl Iff.rfl

theorem lifeRefs_init : LifeRefs .init where
  counts e := by
    refine counts_zero fun i ↦ ?_
    rcases i with - | t
    · exact Bool.false_ne_true
    · exact fun h ↦ by cases h
  freed e h := absurd rfl h
  unborn e _ := ⟨rfl, rfl⟩

/-! ### The callbacks -/

/-- What the position of a thread says about the callback pointers. -/
def PcCb (cb : EptId → Option RxCb) : LifePc → Prop
  | .recvCall _ e _ => cb e ≠ none
  | .destroyCbUnlock e | .destroyPut e => cb e = none
  | _ => True

/-- The endpoint whose callback pointer matters to a thread. -/
def cbOn : LifePc → Option EptId
  | .recvCall _ e _ | .destroyCbUnlock e | .destroyPut e => some e
  | _ => none

theorem PcCb.congr {cb cb' : EptId → Option RxCb} (h : PcCb cb p)
    (hcb : ∀ x, cbOn p = some x → cb' x = cb x) : PcCb cb' p := by
  cases p with
  | recvCall | destroyCbUnlock | destroyPut =>
    simp only [PcCb] at h ⊢
    rw [hcb _ rfl]
    exact h
  | _ => trivial

/-- A running callback has not been cleared, and a destroyed endpoint has none. -/
structure LifeCb (s : LifeState) : Prop where
  pcs : ∀ t, PcCb (fun e ↦ (s.epts e).ept.cb) (s.pc t)
  destroyed : ∀ e, (s.epts e).stage = .destroyed → (s.epts e).ept.cb = none

theorem PcMove.pcCb (hm : PcMove s p p') : PcCb (fun e ↦ (s.epts e).ept.cb) p' := by
  cases hm with
  | call dst e b hcb => exact hcb
  | _ => trivial

theorem TableLock.pcCb {cb : EptId → Option RxCb} (hm : TableLock p p') : PcCb cb p' := by
  cases hm <;> trivial

theorem TableUnlock.pcCb {cb : EptId → Option RxCb} (hm : TableUnlock p p') : PcCb cb p' := by
  cases hm <;> trivial

/-- A thread to which the callback pointer of `e` matters keeps `e` from being unborn. -/
theorem LifeRefs.stage_of_cbOn (hrefs : LifeRefs s) (ho : LifeOwners s)
    (h : cbOn (s.pc u) = some e) : (s.epts e).stage ≠ .unborn := by
  generalize hp : s.pc u = p at h
  cases p with
  | recvCall dst x b =>
    obtain rfl := Option.some.inj h
    exact (hrefs.live (show s.holders x (some u) by
      show (s.pc u).holds = some x
      rw [hp]
      rfl)).2.1
  | destroyCbUnlock x | destroyPut x =>
    obtain rfl := Option.some.inj h
    rw [ho.destroying (show (s.pc u).destroys = some x by rw [hp]; rfl)]
    exact EptStage.noConfusion
  | _ => cases h

/-- While a thread clears a callback pointer it matters to no other. -/
theorem LifeOwners.eq_of_cbOn (ho : LifeOwners s) (ht : s.pc t = .destroyCb e)
    (h : cbOn (s.pc u) = some e) : u = t := by
  have hde : (s.pc t).destroys = some e := by rw [ht]; rfl
  generalize hp : s.pc u = p at h
  cases p with
  | recvCall dst x b =>
    obtain rfl := Option.some.inj h
    have hu : (s.pc u).inCb = some x := by rw [hp]; rfl
    exact ho.cb.unique hu (by rw [ht]; rfl)
  | destroyCbUnlock x | destroyPut x =>
    obtain rfl := Option.some.inj h
    have hu : (s.pc u).destroys = some x := by rw [hp]; rfl
    exact ho.destroyer.unique hu hde
  | _ => cases h

/-- A step in which thread `t` moves and no callback pointer that matters changes. -/
theorem LifeCb.update (h : LifeCb s) (hpc : ∀ u, u ≠ t → s'.pc u = s.pc u)
    (hepts : ∀ x, x ≠ e → s'.epts x = s.epts x)
    (hp : PcCb (fun x ↦ (s'.epts x).ept.cb) (s'.pc t))
    (he : ∀ u, u ≠ t → cbOn (s.pc u) = some e → PcCb (fun x ↦ (s'.epts x).ept.cb) (s.pc u))
    (hdestroyed : (s'.epts e).stage = .destroyed → (s'.epts e).ept.cb = none) : LifeCb s' := by
  refine ⟨fun u ↦ ?_, fun x hx ↦ ?_⟩
  · by_cases hu : u = t
    · rw [hu]
      exact hp
    · rw [hpc u hu]
      by_cases hon : cbOn (s.pc u) = some e
      · exact he u hu hon
      · refine (h.pcs u).congr fun x hx ↦ ?_
        have hxe : x ≠ e := by
          rintro rfl
          exact hon hx
        show (s'.epts x).ept.cb = _
        rw [hepts x hxe]
  · by_cases hxe : x = e
    · rw [hxe] at hx ⊢
      exact hdestroyed hx
    · rw [hepts x hxe] at hx ⊢
      exact h.destroyed x hx

/-- A step that leaves every callback pointer alone. -/
theorem LifeCb.keep (h : LifeCb s) (hpc : ∀ u, u ≠ t → s'.pc u = s.pc u)
    (hepts : ∀ x, x ≠ e → s'.epts x = s.epts x)
    (hcb : (s'.epts e).ept.cb = (s.epts e).ept.cb)
    (hp : PcCb (fun x ↦ (s.epts x).ept.cb) (s'.pc t))
    (hstage : (s'.epts e).stage = .destroyed → (s.epts e).ept.cb = none) : LifeCb s' := by
  have hall := epts_congr (fun c ↦ c.ept.cb) hepts hcb
  exact h.update hpc hepts (hp.congr fun x _ ↦ hall x)
    (fun u _ _ ↦ (h.pcs u).congr fun x _ ↦ hall x) fun hs ↦ hcb.trans (hstage hs)

theorem LifeCb.cell (h : LifeCb s) (ho : LifeOwners s) (hrefs : LifeRefs s)
    (hm : CellMove t e (s.pc t) (s.epts e) p' c') : LifeCb ((s.setEpt e c').goto t p') := by
  have hpc : ∀ u, u ≠ t → ((s.setEpt e c').goto t p').pc u = s.pc u :=
    fun u hu ↦ pc_goto_of_ne _ p' hu
  have hepts : ∀ x, x ≠ e → ((s.setEpt e c').goto t p').epts x = s.epts x :=
    fun x hx ↦ epts_setEpt_of_ne s c' hx
  have hpt : ((s.setEpt e c').goto t p').pc t = p' := pc_goto_self _ p'
  have hself : ((s.setEpt e c').goto t p').epts e = c' := epts_setEpt_self s c'
  -- the pointer stays
  have hkeep : c'.ept.cb = (s.epts e).ept.cb → PcCb (fun x ↦ (s.epts x).ept.cb) p' →
      (c'.stage = .destroyed → (s.epts e).ept.cb = none) →
      LifeCb ((s.setEpt e c').goto t p') := by
    intro hcb hp hstage
    exact h.keep hpc hepts (by rw [hself, hcb]) (by rwa [hpt]) (by rwa [hself])
  have hpcb := h.pcs t
  generalize hp : s.pc t = p at hm hpcb
  generalize hc : s.epts e = c at hm hkeep
  cases hm with
  | get | recvCbLock | recvCbUnlock | recvPut | setAddr | destroyCbLock =>
    exact hkeep rfl trivial fun hst ↦ hc ▸ h.destroyed e (hc ▸ hst)
  | fail c => exact hkeep rfl trivial EptStage.noConfusion
  | destroy c hstage => exact hkeep rfl trivial EptStage.noConfusion
  | destroyCbUnlock c => exact hkeep rfl hpcb fun _ ↦ hc ▸ hpcb
  | destroyPut c => exact hkeep rfl trivial fun _ ↦ hc ▸ hpcb
  | create args =>
    refine h.update hpc hepts (by rw [hpt]; trivial) (fun u _ hon ↦ ?_) (by
      rw [hself]
      exact EptStage.noConfusion)
    refine absurd ?_ (hrefs.stage_of_cbOn ho hon)
    rw [hc]
    rfl
  | clearCb c =>
    refine h.update hpc hepts ?_ (fun u hu hon ↦ ?_) fun _ ↦ ?_
    · rw [hpt]
      show (((s.setEpt e _).goto t _).epts e).ept.cb = none
      rw [hself]
    · exact absurd (ho.eq_of_cbOn hp hon) hu
    · rw [hself]

theorem LifeCb.step (h : LifeCb s) (ho : LifeOwners s) (hrefs : LifeRefs s)
    (hr : LifeRule s s') : LifeCb s' := by
  -- a thread that moves on without an endpoint
  have hmove : ∀ {t p s₁}, s₁.pc = (s.goto t p).pc → s₁.epts = s.epts →
      PcCb (fun x ↦ (s.epts x).ept.cb) p → LifeCb s₁ := by
    intro t p s₁ hpc hepts hp
    refine h.keep (t := t) (e := 0) (fun u hu ↦ ?_) (fun x _ ↦ by rw [hepts]) (by rw [hepts]) ?_ ?_
    · rw [hpc, pc_goto_of_ne s p hu]
    · rwa [hpc, pc_goto_self]
    · rw [hepts]
      exact h.destroyed 0
  -- the endpoint changes, but neither its callback pointer nor, unless it is created, its stage
  have hcell : ∀ {t e p c s₁}, s₁.pc = (s.goto t p).pc → s₁.epts = (s.setEpt e c).epts →
      c.ept.cb = (s.epts e).ept.cb → PcCb (fun x ↦ (s.epts x).ept.cb) p →
      (c.stage = .destroyed → (s.epts e).stage = .destroyed) → LifeCb s₁ := by
    intro t e p c s₁ hpc hepts hcb hp hstage
    refine h.keep (t := t) (e := e) (fun u hu ↦ ?_) (fun x hx ↦ ?_) ?_ ?_ ?_
    · rw [hpc, pc_goto_of_ne s p hu]
    · rw [hepts, epts_setEpt_of_ne s c hx]
    · rw [hepts, epts_setEpt_self, hcb]
    · rwa [hpc, pc_goto_self]
    · rw [hepts, epts_setEpt_self]
      exact fun hst ↦ h.destroyed e (hstage hst)
  cases hr with
  | stay => exact h
  | move t p hm => exact hmove rfl rfl hm.pcCb
  | lock t p hm hfree => exact hmove rfl rfl hm.pcCb
  | unlock t p hm => exact hmove rfl rfl hm.pcCb
  | cell t e p c hm => exact h.cell ho hrefs hm
  | bind t e addr id hpc hfree hle => exact hcell rfl rfl rfl trivial fun hst ↦ hst
  | created t e hpc => exact hcell rfl rfl rfl trivial EptStage.noConfusion
  | remove t e hpc => exact hcell rfl rfl rfl trivial fun hst ↦ hst

theorem lifeCb_init : LifeCb .init where
  pcs t := trivial
  destroyed e h := by cases h

/-! ### Every run -/

/-- The invariant of the endpoints. -/
structure LifeInv (s : LifeState) : Prop where
  owners : LifeOwners s
  tab : LifeTable s
  refs : LifeRefs s
  cbs : LifeCb s

theorem LifeInv.step (h : LifeInv s) (hr : LifeRule s s') : LifeInv s' :=
  ⟨h.owners.step hr, h.tab.step h.owners hr, h.refs.step h.owners h.tab hr,
    h.cbs.step h.owners h.refs hr⟩

theorem lifeInv_of_reachable (h : Reachable lifeStep .init s) : LifeInv s :=
  h.invariant ⟨lifeOwners_init, lifeTable_init, lifeRefs_init, lifeCb_init⟩
    fun _ hinv _ hstep ↦ hinv.step (lifeStep_rule hstep)

theorem CellMove.destroyed (hm : CellMove t e p c p' c')
    (hcr : p.creates = some e → c.stage = .creating t) (h : c.stage = .destroyed) :
    c'.stage = .destroyed := by
  cases hm with
  | get | recvCbLock | recvCbUnlock | recvPut | setAddr | destroyCbLock | clearCb
  | destroyCbUnlock => exact h
  | destroyPut c => rfl
  | create args => cases h
  | fail c => cases h.symm.trans (hcr rfl)
  | destroy c hstage => cases h.symm.trans hstage

/-- A destroyed endpoint stays destroyed. -/
theorem LifeRule.destroyed (hr : LifeRule s s') (ho : LifeOwners s)
    (h : (s.epts e).stage = .destroyed) : (s'.epts e).stage = .destroyed := by
  have hcell : ∀ {x : EptId} {c : EptCell} {s₁ : LifeState}, s₁.epts = (s.setEpt x c).epts →
      ((s.epts x).stage = .destroyed → c.stage = .destroyed) → (s₁.epts e).stage = .destroyed := by
    intro x c s₁ hepts hx
    rw [hepts]
    by_cases he : e = x
    · subst he
      rw [epts_setEpt_self]
      exact hx h
    · rwa [epts_setEpt_of_ne s c he]
  cases hr with
  | stay | move | lock | unlock => exact h
  | cell t x p c hm => exact hcell rfl (hm.destroyed ho.creating)
  | bind t x addr id hpc hfree hle => exact hcell rfl fun hst ↦ hst
  | created t x hpc =>
    have hst := ho.creating (show (s.pc t).creates = some x by rw [hpc]; rfl)
    exact hcell rfl fun hst' ↦ by cases hst'.symm.trans hst
  | remove t x hpc => exact hcell rfl fun hst ↦ hst

theorem destroyed_of_reachable (hinv : LifeInv s) (hdes : (s.epts e).stage = .destroyed)
    (h : Reachable lifeStep s s') : LifeInv s' ∧ (s'.epts e).stage = .destroyed := by
  induction h with
  | refl => exact ⟨hinv, hdes⟩
  | tail _ _ hstep ih =>
    exact ⟨ih.1.step (lifeStep_rule hstep), (lifeStep_rule hstep).destroyed ih.1.owners ih.2⟩

/-- The callback of a destroyed endpoint is not running. -/
theorem LifeInv.not_recvCall (h : LifeInv s) (hdes : (s.epts e).stage = .destroyed) (t : ℕ)
    (dst : UInt32) (b : Bool) : s.pc t ≠ .recvCall dst e b := by
  intro hpc
  have hcb : PcCb (fun x ↦ (s.epts x).ept.cb) (.recvCall dst e b) := hpc ▸ h.cbs.pcs t
  exact hcb (h.cbs.destroyed e hdes)

/-- What a thread is about to touch has a holder. -/
theorem LifeInv.holders_of_uses (h : LifeInv s) (hu : (s.pc t).uses = some e) :
    ∃ i, s.holders e i := by
  have howned : (s.epts e).stage.owned = true → ∃ i, s.holders e i := fun ho ↦ ⟨none, ho⟩
  have hcr : (s.pc t).creates = some e → ∃ i, s.holders e i := fun hc ↦
    howned (by rw [h.owners.creating hc]; rfl)
  have hde : (s.pc t).destroys = some e → ∃ i, s.holders e i := fun hd ↦
    howned (by rw [h.owners.destroying hd]; rfl)
  have hho : (s.pc t).holds = some e → ∃ i, s.holders e i := fun hh ↦ ⟨some t, hh⟩
  have hpc := h.tab.pcs t
  generalize s.pc t = p at hu hcr hde hho hpc
  cases p with
  | recvGet dst x b =>
    obtain rfl := Option.some.inj hu
    refine howned (h.tab.owned x fun hn ↦ ?_)
    cases hn.symm.trans hpc.1
  | recvUnlock dst found =>
    rcases found with - | ⟨x, b⟩
    · cases hu
    · exact hho hu
  | recvCbLock | recvTestCb | recvCall | recvCbUnlock | recvPut => exact hho hu
  | createLock | createAlloc | createAddr | createUnlock | freeEptUnlock | freeEptPut =>
    exact hcr hu
  | destroyLock | destroyRemove | destroyUnlock | destroyCbLock | destroyCb | destroyCbUnlock
  | destroyPut => exact hde hu
  | idle | recvLock | recvFind => cases hu

/-- What holds of the endpoints at any moment. -/
structure LifeSafe (s : LifeState) : Prop where
  /-- A delivery that has taken a reference keeps its endpoint. -/
  held : ∀ t e, (s.pc t).holds = some e → (s.epts e).freed = 0
  /-- And no thread at all is about to touch a freed one. -/
  used : ∀ t e, (s.pc t).uses = some e → (s.epts e).freed = 0
  /-- An endpoint is freed at most once, and not while its creation reference is there. -/
  once : ∀ e, (s.epts e).freed ≤ 1
  owned : ∀ e, (s.epts e).stage.owned = true → (s.epts e).freed = 0
  /-- It has been freed when its destruction, or its failed creation, has returned and no delivery
  holds it. -/
  freed : ∀ e, (s.epts e).stage = .destroyed ∨ (s.epts e).stage = .failed →
    (∀ t, (s.pc t).holds ≠ some e) → (s.epts e).freed = 1
  /-- From the moment its destruction has returned its callback neither starts nor runs. -/
  quiet : ∀ e, (s.epts e).stage = .destroyed → ∀ s', Reachable lifeStep s s' →
    ∀ t dst b, s'.pc t ≠ .recvCall dst e b
  /-- A callback gets messages for the address its endpoint was bound to when they were looked
  up. -/
  bound : ∀ t dst e b, s.pc t = .recvCall dst e b → b = true

/-- **Deliveries, destructions and creations never get in each other's way**, whatever the schedule
and however addresses are reused. -/
theorem lifeSafe_of_reachable (s : LifeState) (h : Reachable lifeStep .init s) : LifeSafe s := by
  have hinv := lifeInv_of_reachable h
  have hlive : ∀ {e i}, s.holders e i → (s.epts e).freed = 0 :=
    fun hi ↦ (hinv.refs.live hi).2.2
  refine ⟨fun t e ht ↦ hlive (show s.holders e (some t) from ht), fun t e ht ↦ ?_, fun e ↦ ?_,
    fun e he ↦ hlive (show s.holders e none from he), fun e he hnot ↦ ?_,
    fun e hdes s' hs' t dst b ↦ ?_, fun t dst e b hpc ↦ ?_⟩
  · obtain ⟨i, hi⟩ := hinv.holders_of_uses ht
    exact hlive hi
  · by_cases hst : (s.epts e).stage = .unborn
    · rw [(hinv.refs.unborn e hst).2]
      exact Nat.zero_le 1
    · rw [hinv.refs.freed e hst]
      split
      · exact le_rfl
      · exact Nat.zero_le 1
  · have hst : (s.epts e).stage ≠ .unborn := by
      rcases he with he | he <;> rw [he] <;> exact EptStage.noConfusion
    have hzero : Counts (s.holders e) 0 := counts_zero fun i hi ↦ by
      rcases i with - | t
      · have hi' : (s.epts e).stage.owned = true := hi
        rcases he with he | he <;> rw [he] at hi' <;> cases hi'
      · exact hnot t hi
    rw [hinv.refs.freed e hst, (hinv.refs.counts e).unique hzero]
    rfl
  · obtain ⟨hinv', hdes'⟩ := destroyed_of_reachable hinv hdes hs'
    exact hinv'.not_recvCall hdes' t dst b
  · have := hinv.tab.pcs t
    rw [hpc] at this
    exact this

/-- A destruction that overtakes a delivery: the delivery still holds the endpoint when
`__rpmsg_destroy_ept` has returned. -/
theorem lifeSafe_overtaken :
    ∃ s, run lifeStep .init
        [.create 0 ⟨none, some .rpmsgNsCb, .vrp 0, RPMSG_NS_ADDR⟩ (some 0), .next 0 false,
          .next 0 false, .next 0 false, .next 0 false, .deliver 1 RPMSG_NS_ADDR, .next 1 false,
          .next 1 false, .next 1 false, .next 1 false, .destroy 0 0, .next 0 false, .next 0 false,
          .next 0 false, .next 0 false, .next 0 false, .next 0 false, .next 0 false] = some s ∧
      ((s.epts 0).stage, (s.pc 1).holds) = (.destroyed, some 0) ∧ LifeSafe s := by
  obtain ⟨s, hs, hstage⟩ := Option.map_eq_some_iff.1 (show Option.map
    (fun s : LifeState ↦ ((s.epts 0).stage, (s.pc 1).holds)) (run lifeStep .init
      [.create 0 ⟨none, some .rpmsgNsCb, .vrp 0, RPMSG_NS_ADDR⟩ (some 0), .next 0 false,
        .next 0 false, .next 0 false, .next 0 false, .deliver 1 RPMSG_NS_ADDR, .next 1 false,
        .next 1 false, .next 1 false, .next 1 false, .destroy 0 0, .next 0 false, .next 0 false,
        .next 0 false, .next 0 false, .next 0 false, .next 0 false, .next 0 false]) =
      some (.destroyed, some 0) by decide +kernel)
  exact ⟨s, hs, hstage, lifeSafe_of_reachable s (reachable_of_run hs)⟩

end LifeState
