import DriverModules.Rpmsg.EptSafe

/-!
# Which address an endpoint gets

`__rpmsg_create_ept` asks `idr_alloc` for the range `[id_min, id_max)`, computed in `int` from a
`u32` address, and a range whose end is not positive has no end. The question is whether a creation
still binds what it was asked for, over every sequence of creations and destructions by any number
of threads.

The table changes in two places only, at the `idr_alloc` of a creator and at the `idr_remove` of a
destroyer (`TableStep`), and the range of an explicit address never holds a second one
(`addrFor_of_alloc`). What a creation was asked for is not kept in the endpoint, so the invariant
`AskedInv` is about the events of the run as well as about the state it ends in.

## Main results

* `addrFor_of_alloc`: one allocation binds the address that was asked for, or a dynamic one.
* `LifeState.eptAddrs_of_run`: so do all of them. The events are those of `lifeStep`: an endpoint is
  destroyed by one caller, and after its creation has returned. A second `rpmsg_destroy_ept` of the
  same endpoint is a use of freed memory, and `DevBind` is about the caller that makes one.
-/

open Transition

/-- The ids `__rpmsg_create_ept` may bind when it is asked for `addr`. -/
def AddrFor (addr : UInt32) (id : ℕ) : Prop :=
  if addr = RPMSG_ADDR_ANY then RPMSG_RESERVED_ADDRESSES ≤ id ∧ id ≤ Idr.INT_MAX
  else id = addr.toNat

/-- **The ranges are right**: an explicit address is bound exactly or not at all, also where
`addr + 1` wraps around, and `RPMSG_ADDR_ANY` stays out of the reserved range. -/
theorem addrFor_of_alloc {α : Type*} {endpoints endpoints' : Idr α} {x : α} {addr : UInt32}
    {id : ℕ} {nomem : Bool}
    (h : endpoints.alloc x (idMin addr) (idMax addr) nomem = .ok (id, endpoints')) :
    AddrFor addr id := by
  obtain ⟨hstart, -, hmin, hmax, -⟩ := Idr.alloc_eq_ok h
  rcases eq_or_ne addr RPMSG_ADDR_ANY with rfl | hne
  · rw [AddrFor, if_pos rfl]
    exact ⟨by simpa [idMin] using hmin, hmax.trans (idMax_le _)⟩
  · rw [AddrFor, if_neg hne]
    exact eq_of_mem_range hne hstart hmin hmax

namespace LifeState

variable {s s' : LifeState} {t u : ℕ} {e x : EptId} {evs : List LifeEvent}

/-! ### Where the table changes -/

/-- What a step does to the table of endpoints. -/
inductive TableStep (s s' : LifeState) : Prop
  | same : s'.endpoints = s.endpoints → TableStep s s'
  /-- A creator binds its endpoint to a free address, one of those it was asked for. -/
  | bind (t : ℕ) (e : EptId) (addr : UInt32) (id : ℕ) : s.pc t = .createAlloc e addr →
    s'.pc t = .createAddr e id → s.endpoints id = none → AddrFor addr id →
    s'.endpoints = Function.update s.endpoints id (some e) → TableStep s s'
  /-- A destroyer removes its own endpoint. -/
  | remove (t : ℕ) (e : EptId) (id : ℕ) : s.pc t = .destroyRemove e →
    s.endpoints id = some e → s'.endpoints = Function.update s.endpoints id none → TableStep s s'

/-- A thread's step leaves the others where they are. -/
theorem pc_next {nomem : Bool} (h : s.next t nomem = some s') (hu : u ≠ t) :
    s'.pc u = s.pc u := by
  unfold next at h
  split at h
  all_goals
    first
    | (cases h; exact pc_goto_of_ne _ _ hu)
    | (split at h <;> cases h <;> exact pc_goto_of_ne _ _ hu)
    | cases h

/-- The step of a creator that holds `endpoints_lock`: it binds its endpoint, or goes on to return
`NULL` and has not touched the table. -/
theorem next_createAlloc {nomem : Bool} {addr : UInt32} (hpc : s.pc t = .createAlloc e addr)
    (h : s.next t nomem = some s') :
    (∃ id, s.endpoints id = none ∧ AddrFor addr id ∧
      s' = { (s.setEpt e { s.epts e with bound := some id }).goto t (.createAddr e id) with
             endpoints := Function.update s.endpoints id (some e) }) ∨
      s' = s.goto t (.freeEptUnlock e) := by
  simp only [next, hpc] at h
  split at h
  · exact .inr (Option.some.inj h).symm
  · next id endpoints halloc =>
    obtain ⟨-, hfree, -, -, rfl⟩ := Idr.alloc_eq_ok halloc
    exact .inl ⟨id, hfree, addrFor_of_alloc halloc, (Option.some.inj h).symm⟩

/-- Only its own steps move a thread that is inside a function. -/
theorem pc_lifeStep {ev : LifeEvent} (h : s.lifeStep ev = some s') (hidle : s.pc u ≠ .idle)
    (hev : ∀ nomem, ev ≠ .next u nomem) : s'.pc u = s.pc u := by
  have hgoto : ∀ {t e p c}, s.pc t = .idle → ((s.setEpt e c).goto t p).pc u = s.pc u := by
    intro t e p c ht
    refine pc_goto_of_ne _ p ?_
    rintro rfl
    exact hidle ht
  cases ev with
  | deliver t dst =>
    simp only [lifeStep] at h
    split at h <;> cases h
    next ht =>
    refine pc_goto_of_ne s _ ?_
    rintro rfl
    exact hidle ht
  | create t args ept =>
    rcases ept with - | e <;> simp only [lifeStep] at h <;> split at h <;> cases h
    · rfl
    · next ht => exact hgoto ht.1
  | destroy t e =>
    simp only [lifeStep] at h
    split at h <;> cases h
    next ht => exact hgoto ht.1
  | next t nomem =>
    refine pc_next h ?_
    rintro rfl
    exact hev nomem rfl

/-- A creator that has just bound its endpoint has bound it to an address it was asked for. -/
theorem addrFor_of_lifeStep {ev : LifeEvent} {addr : UInt32} {id : ℕ}
    (h : s.lifeStep ev = some s') (hpc : s.pc t = .createAlloc e addr)
    (hpc' : s'.pc t = .createAddr e id) : AddrFor addr id := by
  by_cases hev : ∃ nomem, ev = .next t nomem
  · obtain ⟨nomem, rfl⟩ := hev
    rcases next_createAlloc hpc h with ⟨id', -, haddr, rfl⟩ | rfl
    · have hid : LifePc.createAddr e id' = .createAddr e id := (pc_goto_self _ _).symm.trans hpc'
      cases hid
      exact haddr
    · rw [pc_goto_self] at hpc'
      cases hpc'
  · have hsame := pc_lifeStep (u := t) h (by rw [hpc]; simp) fun nomem hn ↦ hev ⟨nomem, hn⟩
    rw [hsame, hpc] at hpc'
    cases hpc'

/-- **The table changes at an allocation and at a removal, and nowhere else.** -/
theorem tableStep_of_lifeStep {ev : LifeEvent} (hinv : LifeInv s) (h : s.lifeStep ev = some s') :
    TableStep s s' := by
  have hr := lifeStep_rule h
  cases hr with
  | stay | move | lock | unlock | cell | created => exact .same rfl
  | bind t e addr id hpc hfree hle =>
    have hpc' := pc_goto_self (s.setEpt e { s.epts e with bound := some id }) (t := t)
      (.createAddr e id)
    exact .bind t e addr id hpc hpc' hfree (addrFor_of_lifeStep h hpc hpc') rfl
  | remove t e hpc =>
    have hb := hinv.tab.bound_of_destroyRemove hinv.owners hpc
    exact .remove t e _ hpc ((hinv.tab.paired e _).1 hb) rfl

/-! ### What the creations of a run were asked for -/

/-- The run asks for endpoint `e` at address `addr`. -/
def Asked (evs : List LifeEvent) (e : EptId) (addr : UInt32) : Prop :=
  ∃ t args, LifeEvent.create t args (some e) ∈ evs ∧ args.addr = addr

theorem asked_concat {ev : LifeEvent} {addr : UInt32} :
    Asked (evs ++ [ev]) e addr ↔
      Asked evs e addr ∨ ∃ t args, ev = .create t args (some e) ∧ args.addr = addr := by
  simp only [Asked, List.mem_append, List.mem_singleton]
  constructor
  · rintro ⟨t, args, hmem | rfl, haddr⟩
    · exact .inl ⟨t, args, hmem, haddr⟩
    · exact .inr ⟨t, args, rfl, haddr⟩
  · rintro (⟨t, args, hmem, haddr⟩ | ⟨t, args, rfl, haddr⟩)
    · exact ⟨t, args, .inl hmem, haddr⟩
    · exact ⟨t, args, .inr rfl, haddr⟩

/-- The endpoint and the address a creator has not passed to `idr_alloc` yet. -/
def asking : LifePc → Option (EptId × UInt32)
  | .createLock e addr | .createAlloc e addr => some (e, addr)
  | _ => none

theorem creates_of_asking {p : LifePc} {addr : UInt32} (h : asking p = some (e, addr)) :
    p.creates = some e := by
  cases p <;> cases h <;> rfl

/-- Creators and bindings keep to what the run has asked for. -/
structure AskedInv (evs : List LifeEvent) (s : LifeState) : Prop where
  born : ∀ e addr, Asked evs e addr → (s.epts e).stage ≠ .unborn
  asking : ∀ t e addr addr', asking (s.pc t) = some (e, addr') → Asked evs e addr → addr' = addr
  bound : ∀ e addr id, Asked evs e addr → (s.epts e).bound = some id → AddrFor addr id

/-- Memory that was used for an endpoint is not unborn again. -/
theorem LifeRule.stage_ne_unborn (hr : LifeRule s s') (h : (s.epts e).stage ≠ .unborn) :
    (s'.epts e).stage ≠ .unborn := by
  have hset : ∀ {x c}, (e = x → c.stage ≠ .unborn) → ((s.setEpt x c).epts e).stage ≠ .unborn := by
    intro x c hc
    rcases eq_or_ne e x with rfl | hne
    · rw [epts_setEpt_self]
      exact hc rfl
    · rwa [epts_setEpt_of_ne s c hne]
  cases hr with
  | stay | move | lock | unlock => exact h
  | cell t x p c hm =>
    refine hset fun hx ↦ ?_
    subst hx
    generalize s.epts e = c₀, s.pc t = q at hm h
    cases hm <;> first | exact h | simp [EptCell.init]
  | bind t x addr id hpc hfree hle => exact hset fun hx ↦ hx ▸ h
  | created t x hpc => exact hset fun _ ↦ by simp
  | remove t x hpc => exact hset fun hx ↦ hx ▸ h

/-- A creator on its way to `idr_alloc` was there before, or its endpoint is a new one. -/
theorem LifeRule.asking_or (hr : LifeRule s s') {a : EptId × UInt32}
    (h : asking (s'.pc t) = some a) :
    asking (s.pc t) = some a ∨ (s.epts a.1).stage = .unborn := by
  have hgoto : ∀ {r : LifeState} {u p}, r.pc = s.pc → asking ((r.goto u p).pc t) = some a →
      (asking p = some a → asking (s.pc u) = some a ∨ (s.epts a.1).stage = .unborn) →
      asking (s.pc t) = some a ∨ (s.epts a.1).stage = .unborn := by
    intro r u p hr hp hmove
    rcases eq_or_ne t u with rfl | hne
    · rw [pc_goto_self] at hp
      exact hmove hp
    · rw [pc_goto_of_ne r p hne, hr] at hp
      exact .inl hp
  cases hr with
  | stay => exact .inl h
  | move u p hm =>
    refine hgoto rfl h fun hp ↦ ?_
    generalize s.pc u = q at hm
    cases hm <;> cases hp
  | lock u p hm hfree =>
    refine hgoto rfl h fun hp ↦ .inl ?_
    generalize s.pc u = q at hm ⊢
    cases hm <;> exact hp
  | unlock u p hm =>
    refine hgoto rfl h fun hp ↦ ?_
    generalize s.pc u = q at hm
    cases hm <;> cases hp
  | cell u x p c hm =>
    refine hgoto rfl h fun hp ↦ ?_
    generalize s.pc u = q, hc : s.epts x = c₀ at hm
    cases hm <;> cases hp
    right
    rw [hc]
    rfl
  | bind u x addr id hpc hfree hle => exact hgoto rfl h fun hp ↦ by cases hp
  | created u x hpc => exact hgoto rfl h fun hp ↦ by cases hp
  | remove u x hpc => exact hgoto rfl h fun hp ↦ by cases hp

/-- A bound endpoint was bound before, or its creator binds it now. -/
theorem bound_of_lifeStep {ev : LifeEvent} {id : ℕ} (h : s.lifeStep ev = some s')
    (hb : (s'.epts e).bound = some id) :
    (s.epts e).bound = some id ∨
      ∃ t addr, asking (s.pc t) = some (e, addr) ∧ AddrFor addr id := by
  have hset : ∀ {x c}, ((s.setEpt x c).epts e).bound = some id →
      (e = x ∧ c.bound = some id) ∨ (s.epts e).bound = some id := by
    intro x c hc
    rcases eq_or_ne e x with rfl | hne
    · rw [epts_setEpt_self] at hc
      exact .inl ⟨rfl, hc⟩
    · rw [epts_setEpt_of_ne s c hne] at hc
      exact .inr hc
  have hr := lifeStep_rule h
  cases hr with
  | stay | move | lock | unlock => exact .inl hb
  | cell t x p c hm =>
    rcases hset hb with ⟨rfl, hc⟩ | hold
    · exact .inl (hm.bound ▸ hc)
    · exact .inl hold
  | bind t x addr id' hpc hfree hle =>
    rcases hset hb with ⟨rfl, hc⟩ | hold
    · obtain rfl := Option.some.inj hc
      refine .inr ⟨t, addr, by rw [hpc]; rfl, addrFor_of_lifeStep h hpc ?_⟩
      exact pc_goto_self (s.setEpt e { s.epts e with bound := some id' }) _
    · exact .inl hold
  | created t x hpc =>
    rcases hset hb with ⟨rfl, hc⟩ | hold
    · exact .inl hc
    · exact .inl hold
  | remove t x hpc =>
    rcases hset hb with ⟨rfl, hc⟩ | hold
    · cases hc
    · exact .inl hold

theorem askedInv_init : AskedInv [] .init where
  born e addr h := by simp [Asked] at h
  asking t e addr addr' h := by cases h
  bound e addr id h := by simp [Asked] at h

/-- A creation asks for an endpoint in memory nobody has asked for. -/
theorem AskedInv.create (h : AskedInv evs s) (ho : LifeOwners s) {args : EptArgs}
    (hunborn : s.epts e = .unborn) :
    AskedInv (evs ++ [.create t args (some e)])
      ((s.setEpt e (.init t args)).goto t (.createLock e args.addr)) := by
  have hself := epts_setEpt_self s (e := e) (.init t args)
  have hnew : ∀ addr, ¬ Asked evs e addr := fun addr ha ↦ h.born e addr ha (by rw [hunborn]; rfl)
  have hasked : ∀ {x addr}, Asked (evs ++ [.create t args (some e)]) x addr →
      x ≠ e ∧ Asked evs x addr ∨ x = e ∧ args.addr = addr := by
    intro x addr hx
    rcases asked_concat.1 hx with hold | ⟨t', args', heq, haddr⟩
    · refine .inl ⟨?_, hold⟩
      rintro rfl
      exact hnew addr hold
    · cases heq
      exact .inr ⟨rfl, haddr⟩
  constructor
  · intro x addr hx
    rcases hasked hx with ⟨hne, hold⟩ | ⟨rfl, -⟩
    · rw [epts_goto, epts_setEpt_of_ne s _ hne]
      exact h.born x addr hold
    · rw [epts_goto, hself]
      simp [EptCell.init]
  · intro u x addr addr' hu hx
    rcases eq_or_ne u t with rfl | hne
    · rw [pc_goto_self] at hu
      cases hu
      rcases hasked hx with ⟨hne, -⟩ | ⟨-, haddr⟩
      · exact absurd rfl hne
      · exact haddr
    · rw [pc_goto_of_ne _ _ hne] at hu
      rcases hasked hx with ⟨-, hold⟩ | ⟨rfl, -⟩
      · exact h.asking u x addr addr' hu hold
      · -- a second creator of an endpoint that was unborn
        have hcr := ho.creating (creates_of_asking hu)
        rw [hunborn] at hcr
        cases hcr
  · intro x addr id hx hb
    rcases hasked hx with ⟨hne, hold⟩ | ⟨rfl, -⟩
    · rw [epts_goto, epts_setEpt_of_ne s _ hne] at hb
      exact h.bound x addr id hold hb
    · rw [epts_goto, hself] at hb
      cases hb

/-- **Every step keeps creators and bindings to what was asked.** -/
theorem AskedInv.step {ev : LifeEvent} (h : AskedInv evs s) (ho : LifeOwners s)
    (hstep : s.lifeStep ev = some s') : AskedInv (evs ++ [ev]) s' := by
  by_cases hnew : ∃ t args e, ev = .create t args (some e)
  · obtain ⟨t, args, e, rfl⟩ := hnew
    obtain ⟨⟨-, hunborn⟩, hs⟩ := Option.ite_none_right_eq_some.1 hstep
    obtain rfl := Option.some.inj hs
    exact h.create ho hunborn
  · have hr := lifeStep_rule hstep
    have hold : ∀ {x addr}, Asked (evs ++ [ev]) x addr → Asked evs x addr := by
      intro x addr hx
      rcases asked_concat.1 hx with hx | ⟨t, args, heq, -⟩
      · exact hx
      · exact absurd ⟨t, args, x, heq⟩ hnew
    constructor
    · exact fun x addr hx ↦ hr.stage_ne_unborn (h.born x addr (hold hx))
    · intro t x addr addr' ht hx
      rcases hr.asking_or ht with hask | hun
      · exact h.asking t x addr addr' hask (hold hx)
      · exact absurd hun (h.born x addr (hold hx))
    · intro x addr id hx hb
      rcases bound_of_lifeStep hstep hb with hb | ⟨t, addr', hask, haddr⟩
      · exact h.bound x addr id (hold hx) hb
      · exact h.asking t x addr addr' hask (hold hx) ▸ haddr

theorem askedInv_run (h : run lifeStep .init evs = some s) : AskedInv evs s := by
  induction evs using List.reverseRecOn generalizing s with
  | nil =>
    obtain rfl := Option.some.inj h
    exact askedInv_init
  | append_singleton evs ev ih =>
    obtain ⟨s₁, hrun, hstep⟩ := run_concat h
    exact (ih hrun).step (lifeInv_of_reachable (reachable_of_run hrun)).owners hstep

/-! ### What a caller may rely on -/

/-- The endpoint is in the table and its `addr` is written: what every thread but the creator, which
holds `endpoints_lock`, sees of an endpoint in the table. -/
def Listed (s : LifeState) (e : EptId) : Prop :=
  ∃ k, s.endpoints k = some e ∧ ∀ t, s.pc t ≠ .createAddr e k

/-- What holds of the table and the addresses after the events `evs`, at any moment. -/
structure EptAddrs (evs : List LifeEvent) (s : LifeState) : Prop where
  /-- An entry is a live endpoint: its creation reference is there and it has not been freed. -/
  live : ∀ k e, s.endpoints k = some e →
    (s.epts e).stage.owned = true ∧ 0 < (s.epts e).ept.refcount ∧ (s.epts e).freed = 0
  /-- Its address is its key, unless its creator is between `idr_alloc` and the assignment in the
  critical section. -/
  addr : ∀ k e, s.endpoints k = some e →
    (s.epts e).ept.addr.toNat = k ∨ ∃ t, s.pc t = .createAddr e k ∧ s.endpointsLock = some t
  /-- An endpoint that `__rpmsg_create_ept` has returned and nobody destroys is in the table. -/
  listed : ∀ e, (s.epts e).stage = .created → s.Listed e
  /-- Two endpoints in the table have different addresses. -/
  distinct : ∀ e e', s.Listed e → s.Listed e' → e ≠ e' →
    (s.epts e).ept.addr ≠ (s.epts e').ept.addr
  /-- An endpoint in the table has an address its creation was asked for. -/
  asked : ∀ e addr, Asked evs e addr → s.Listed e → AddrFor addr (s.epts e).ept.addr.toNat
  /-- One whose creation returned `NULL` is not in the table. -/
  failed : ∀ e, (s.epts e).stage = .failed → ∀ k, s.endpoints k ≠ some e
  /-- The next step changes the table by binding a free address, by removing the entry of a
  destroyed endpoint, or not at all: so a creation that returns `NULL` has left it as it was. -/
  table : ∀ ev s', s.lifeStep ev = some s' → TableStep s s'

theorem LifeTable.addr_of_listed (h : LifeTable s) {k : ℕ} (hk : s.endpoints k = some e)
    (hne : ∀ t, s.pc t ≠ .createAddr e k) : (s.epts e).ept.addr.toNat = k :=
  h.addr e k ((h.paired e k).2 hk) hne

/-- **The endpoints of a remote processor keep their addresses apart**, for every sequence of
creations and destructions by any number of threads, in which each endpoint is destroyed once at
most, and after it was created, as `lifeStep` has it and the comment on `rpmsg_destroy_ept` asks. -/
theorem eptAddrs_of_run (evs : List LifeEvent) (s : LifeState)
    (h : run lifeStep .init evs = some s) : EptAddrs evs s := by
  have hinv := lifeInv_of_reachable (reachable_of_run h)
  have hasked := askedInv_run h
  have hbound : ∀ {k e}, s.endpoints k = some e → (s.epts e).bound = some k :=
    fun {k e} hk ↦ (hinv.tab.paired e k).2 hk
  have howned : ∀ {k e}, s.endpoints k = some e → (s.epts e).stage.owned = true :=
    fun {k e} hk ↦ hinv.tab.owned e (by rw [hbound hk]; simp)
  constructor
  · intro k e hk
    obtain ⟨hpos, -, hfreed⟩ := hinv.refs.live (i := none) (howned hk)
    exact ⟨howned hk, hpos, hfreed⟩
  · intro k e hk
    by_cases hne : ∀ t, s.pc t ≠ .createAddr e k
    · exact .inl (hinv.tab.addr_of_listed hk hne)
    · obtain ⟨t, ht⟩ := not_forall.1 hne
      rw [not_not] at ht
      have hin : (s.pc t).inTable = true := by rw [ht]; rfl
      exact .inr ⟨t, ht, (hinv.owners.table t).1 hin⟩
  · intro e he
    obtain ⟨k, hk⟩ := Option.ne_none_iff_exists'.1 (hinv.tab.created e he)
    refine ⟨k, (hinv.tab.paired e k).1 hk, fun t ht ↦ ?_⟩
    have hcr := hinv.owners.creating (show (s.pc t).creates = some e by rw [ht]; rfl)
    rw [he] at hcr
    cases hcr
  · rintro e e' ⟨k, hk, hpc⟩ ⟨k', hk', hpc'⟩ hne haddr
    have hkk : k = k' := by
      rw [← hinv.tab.addr_of_listed hk hpc, ← hinv.tab.addr_of_listed hk' hpc', haddr]
    subst hkk
    exact hne (Option.some.inj (hk.symm.trans hk'))
  · rintro e addr hask ⟨k, hk, hpc⟩
    rw [hinv.tab.addr_of_listed hk hpc]
    exact hasked.bound e addr k hask (hbound hk)
  · intro e he k hk
    have := howned hk
    rw [he] at this
    cases this
  · exact fun ev s' hstep ↦ tableStep_of_lifeStep hinv hstep

/-- The name service at its fixed address, a dynamic address next to it, and an explicit address
from `0x80000000` on refused. -/
theorem eptAddrs_threeCreations :
    ∃ s, run lifeStep .init
        [.create 0 ⟨none, some .rpmsgNsCb, .vrp 0, RPMSG_NS_ADDR⟩ (some 0), .next 0 false,
          .next 0 false, .next 0 false, .next 0 false,
          .create 1 ⟨some 0, some (.driver 0), .null, RPMSG_ADDR_ANY⟩ (some 1),
          .create 0 ⟨some 0, some (.driver 0), .null, 0x80000000⟩ (some 2), .next 0 false,
          .next 0 false, .next 0 false, .next 0 false, .next 1 false, .next 1 false,
          .next 1 false, .next 1 false] = some s ∧
      (s.endpoints 53, s.endpoints 1024, (s.epts 2).stage) = (some 0, some 1, .failed) ∧
      EptAddrs [.create 0 ⟨none, some .rpmsgNsCb, .vrp 0, RPMSG_NS_ADDR⟩ (some 0), .next 0 false,
        .next 0 false, .next 0 false, .next 0 false,
        .create 1 ⟨some 0, some (.driver 0), .null, RPMSG_ADDR_ANY⟩ (some 1),
        .create 0 ⟨some 0, some (.driver 0), .null, 0x80000000⟩ (some 2), .next 0 false,
        .next 0 false, .next 0 false, .next 0 false, .next 1 false, .next 1 false,
        .next 1 false, .next 1 false] s := by
  obtain ⟨s, hs, hread⟩ := Option.map_eq_some_iff.1 (show Option.map
    (fun s : LifeState ↦ (s.endpoints 53, s.endpoints 1024, (s.epts 2).stage)) (run lifeStep .init
      [.create 0 ⟨none, some .rpmsgNsCb, .vrp 0, RPMSG_NS_ADDR⟩ (some 0), .next 0 false,
        .next 0 false, .next 0 false, .next 0 false,
        .create 1 ⟨some 0, some (.driver 0), .null, RPMSG_ADDR_ANY⟩ (some 1),
        .create 0 ⟨some 0, some (.driver 0), .null, 0x80000000⟩ (some 2), .next 0 false,
        .next 0 false, .next 0 false, .next 0 false, .next 1 false, .next 1 false,
        .next 1 false, .next 1 false]) = some (some 0, some 1, .failed) by decide +kernel)
  exact ⟨s, hs, hread, eptAddrs_of_run _ s hs⟩

end LifeState
