import DriverModules.Rpmsg.EptLife

/-!
# What a step on an endpoint can do

The step function of `EptLife` read once, as rules: a thread moves on alone (`PcMove`), takes or
gives back `endpoints_lock` (`TableLock`, `TableUnlock`), changes one endpoint (`CellMove`), or does
one of the three things that involve an endpoint and the table or its lock. `lifeStep_rule` says
these are all the steps.

## Main results, and what each rests on

* `lifeStep_rule`: every step is one of the rules. A rule says what was there before the step as far
  as the code has looked, so that what an invariant may use of the old state stands in the rule.
* A rule for one endpoint (`CellMove`) speaks about the position of the thread and the cell, before
  and after, and not about the state: the invariants are about threads and endpoints one by one, and
  a lemma about a rule of this kind needs no `Function.update`.
-/

open Transition

namespace LifeState

/-- What thread `t`, being at the first position, can do to endpoint `e`. -/
inductive CellMove (t : ℕ) (e : EptId) : LifePc → EptCell → LifePc → EptCell → Prop
  | get (dst : UInt32) (b : Bool) (c : EptCell) :
    CellMove t e (.recvGet dst e b) c (.recvUnlock dst (some (e, b)))
      { c with ept := { c.ept with refcount := c.ept.refcount + 1 } }
  | recvCbLock (dst : UInt32) (b : Bool) (c : EptCell) : c.cbLock = none →
    CellMove t e (.recvCbLock dst e b) c (.recvTestCb dst e b) { c with cbLock := some t }
  | recvCbUnlock (c : EptCell) :
    CellMove t e (.recvCbUnlock e) c (.recvPut e) { c with cbLock := none }
  | recvPut (c : EptCell) : CellMove t e (.recvPut e) c .idle c.put
  | create (args : EptArgs) : CellMove t e .idle .unborn (.createLock e args.addr) (.init t args)
  | setAddr (id : ℕ) (c : EptCell) :
    CellMove t e (.createAddr e id) c (.createUnlock e)
      { c with ept := { c.ept with addr := .ofNat id } }
  | fail (c : EptCell) :
    CellMove t e (.freeEptPut e) c .idle { c.put with stage := .failed }
  | destroy (c : EptCell) : c.stage = .created →
    CellMove t e .idle c (.destroyLock e) { c with stage := .destroying t }
  | destroyCbLock (c : EptCell) : c.cbLock = none →
    CellMove t e (.destroyCbLock e) c (.destroyCb e) { c with cbLock := some t }
  | clearCb (c : EptCell) :
    CellMove t e (.destroyCb e) c (.destroyCbUnlock e) { c with ept := { c.ept with cb := none } }
  | destroyCbUnlock (c : EptCell) :
    CellMove t e (.destroyCbUnlock e) c (.destroyPut e) { c with cbLock := none }
  | destroyPut (c : EptCell) :
    CellMove t e (.destroyPut e) c .idle { c.put with stage := .destroyed }

/-- A thread moves on and changes nothing but the endpoint table's lock. -/
inductive PcMove (s : LifeState) : LifePc → LifePc → Prop
  | deliver (dst : UInt32) : PcMove s .idle (.recvLock dst)
  | notFound (dst : UInt32) : s.endpoints dst.toNat = none →
    PcMove s (.recvFind dst) (.recvUnlock dst none)
  | found (dst : UInt32) (e : EptId) (b : Bool) : s.endpoints dst.toNat = some e →
    b = decide ((s.epts e).bound = some dst.toNat ∧ (s.epts e).ept.addr = dst) →
    PcMove s (.recvFind dst) (.recvGet dst e b)
  | call (dst : UInt32) (e : EptId) (b : Bool) : (s.epts e).ept.cb ≠ none →
    PcMove s (.recvTestCb dst e b) (.recvCall dst e b)
  | noCall (dst : UInt32) (e : EptId) (b : Bool) : (s.epts e).ept.cb = none →
    PcMove s (.recvTestCb dst e b) (.recvCbUnlock e)
  | called (dst : UInt32) (e : EptId) (b : Bool) : PcMove s (.recvCall dst e b) (.recvCbUnlock e)
  | allocFailed (e : EptId) (addr : UInt32) : PcMove s (.createAlloc e addr) (.freeEptUnlock e)

/-- A thread takes `endpoints_lock`. -/
inductive TableLock : LifePc → LifePc → Prop
  | recv (dst : UInt32) : TableLock (.recvLock dst) (.recvFind dst)
  | create (e : EptId) (addr : UInt32) : TableLock (.createLock e addr) (.createAlloc e addr)
  | destroy (e : EptId) : TableLock (.destroyLock e) (.destroyRemove e)

/-- A thread gives `endpoints_lock` back. -/
inductive TableUnlock : LifePc → LifePc → Prop
  | nobody (dst : UInt32) : TableUnlock (.recvUnlock dst none) .idle
  | recv (dst : UInt32) (e : EptId) (b : Bool) :
    TableUnlock (.recvUnlock dst (some (e, b))) (.recvCbLock dst e b)
  | freeEpt (e : EptId) : TableUnlock (.freeEptUnlock e) (.freeEptPut e)
  | destroy (e : EptId) : TableUnlock (.destroyUnlock e) (.destroyCbLock e)

/-- The steps of the endpoints. -/
inductive LifeRule (s : LifeState) : LifeState → Prop
  | stay : LifeRule s s
  | move (t : ℕ) (p : LifePc) : PcMove s (s.pc t) p → LifeRule s (s.goto t p)
  | lock (t : ℕ) (p : LifePc) : TableLock (s.pc t) p → s.endpointsLock = none →
    LifeRule s { s.goto t p with endpointsLock := some t }
  | unlock (t : ℕ) (p : LifePc) : TableUnlock (s.pc t) p →
    LifeRule s { s.goto t p with endpointsLock := none }
  | cell (t : ℕ) (e : EptId) (p : LifePc) (c : EptCell) : CellMove t e (s.pc t) (s.epts e) p c →
    LifeRule s ((s.setEpt e c).goto t p)
  | bind (t : ℕ) (e : EptId) (addr : UInt32) (id : ℕ) : s.pc t = .createAlloc e addr →
    s.endpoints id = none → id ≤ Idr.INT_MAX →
    LifeRule s { (s.setEpt e { s.epts e with bound := some id }).goto t (.createAddr e id) with
      endpoints := Function.update s.endpoints id (some e) }
  | created (t : ℕ) (e : EptId) : s.pc t = .createUnlock e →
    LifeRule s { (s.setEpt e { s.epts e with stage := .created }).goto t .idle with
      endpointsLock := none }
  | remove (t : ℕ) (e : EptId) : s.pc t = .destroyRemove e →
    LifeRule s { (s.setEpt e { s.epts e with bound := none }).goto t (.destroyUnlock e) with
      endpoints := s.endpoints.remove (s.epts e).ept.addr.toNat }

variable {s s' : LifeState}

theorem next_rule {t : ℕ} {nomem : Bool} (h : s.next t nomem = some s') : LifeRule s s' := by
  have hcell : ∀ {e p c}, CellMove t e (s.pc t) (s.epts e) p c →
      some ((s.setEpt e c).goto t p) = some s' → LifeRule s s' := by
    rintro e p c hm ⟨⟩
    exact .cell t e p c hm
  have hlock : ∀ {p}, TableLock (s.pc t) p →
      (if s.endpointsLock = none then some { s.goto t p with endpointsLock := some t } else none) =
        some s' → LifeRule s s' := by
    intro p hm hl
    split at hl
    · next hfree => cases hl; exact .lock t p hm hfree
    · cases hl
  have hunlock : ∀ {p}, TableUnlock (s.pc t) p →
      some { s.goto t p with endpointsLock := none } = some s' → LifeRule s s' := by
    rintro p hm ⟨⟩
    exact .unlock t p hm
  have hmove : ∀ {p}, PcMove s (s.pc t) p → some (s.goto t p) = some s' → LifeRule s s' := by
    rintro p hm ⟨⟩
    exact .move t p hm
  unfold LifeState.next at h
  split at h
  case h_1 => cases h
  case h_2 dst hpc => exact hlock (hpc ▸ .recv dst) h
  case h_3 dst hpc =>
    split at h
    · next hnone => exact hmove (hpc ▸ .notFound dst hnone) h
    · next e hsome => exact hmove (hpc ▸ .found dst e _ hsome rfl) h
  case h_4 dst e b hpc => exact hcell (hpc ▸ .get dst b _) h
  case h_5 dst hpc => exact hunlock (hpc ▸ .nobody dst) h
  case h_6 dst e b hpc => exact hunlock (hpc ▸ .recv dst e b) h
  case h_7 dst e b hpc =>
    split at h
    · next hfree => exact hcell (hpc ▸ .recvCbLock dst b _ hfree) h
    · cases h
  case h_8 dst e b hpc =>
    refine hmove ?_ h
    rw [hpc]
    split
    · next hnull => exact .noCall dst e b hnull
    · next hcb => exact .call dst e b hcb
  case h_9 dst e b hpc => exact hmove (hpc ▸ .called dst e b) h
  case h_10 e hpc => exact hcell (hpc ▸ .recvCbUnlock _) h
  case h_11 e hpc => exact hcell (hpc ▸ .recvPut _) h
  case h_12 e addr hpc => exact hlock (hpc ▸ .create e addr) h
  case h_13 e addr hpc =>
    split at h
    · exact hmove (hpc ▸ .allocFailed e addr) h
    · next id endpoints halloc =>
      obtain ⟨-, hfree, -, hle, rfl⟩ := Idr.alloc_eq_ok halloc
      cases h
      exact .bind t e addr id hpc hfree (hle.trans (idMax_le addr))
  case h_14 e id hpc => exact hcell (hpc ▸ .setAddr id _) h
  case h_15 e hpc => cases h; exact .created t e hpc
  case h_16 e hpc => exact hunlock (hpc ▸ .freeEpt e) h
  case h_17 e hpc => exact hcell (hpc ▸ .fail _) h
  case h_18 e hpc => exact hlock (hpc ▸ .destroy e) h
  case h_19 e hpc => cases h; exact .remove t e hpc
  case h_20 e hpc => exact hunlock (hpc ▸ .destroy e) h
  case h_21 e hpc =>
    split at h
    · next hfree => exact hcell (hpc ▸ .destroyCbLock _ hfree) h
    · cases h
  case h_22 e hpc => exact hcell (hpc ▸ .clearCb _) h
  case h_23 e hpc => exact hcell (hpc ▸ .destroyCbUnlock _) h
  case h_24 e hpc => exact hcell (hpc ▸ .destroyPut _) h

/-- **Every step is one of the rules.** -/
theorem lifeStep_rule {ev : LifeEvent} (h : s.lifeStep ev = some s') : LifeRule s s' := by
  cases ev with
  | deliver t dst =>
    simp only [lifeStep] at h
    split at h
    · next hpc => cases h; exact .move t _ (hpc ▸ .deliver dst)
    · cases h
  | create t args ept =>
    rcases ept with - | e <;> simp only [lifeStep] at h <;> split at h
    · cases h; exact .stay
    · cases h
    · next hpc => cases h; exact .cell t e _ _ (hpc.1 ▸ hpc.2 ▸ .create args)
    · cases h
  | destroy t e =>
    simp only [lifeStep] at h
    split at h
    · next hpc => cases h; exact .cell t e _ _ (hpc.1 ▸ .destroy _ hpc.2)
    · cases h
  | next t nomem => exact next_rule h

end LifeState
