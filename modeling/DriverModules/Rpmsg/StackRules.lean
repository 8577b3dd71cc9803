import DriverModules.Lib.Folds
import DriverModules.Rpmsg.Stack

/-!
# What an event does to the stack

Every state the stack goes through is made by a few moves: an endpoint is bound, an endpoint goes,
an object appears, an object goes. Here each event is taken apart into them, once, so that an
invariant looks at the moves and not at the functions.

## Moves, and three events that stay whole

`Routine` lists the moves that are sound whenever they are made, and an invariant of the stack is
one that each of them keeps. Three events do not come down to them, because whether the stack is
sound after them depends on when they are made, and `Outcome` names each: the load that registers a
device outside any remote processor, an open that succeeds, and the destroy ioctl. The conditions of
the results about whole runs are about these three. The fourth outcome is the oops, which ends the
run.

## Main results, and what each rests on

* `rpmsgCreateEptOn_eq_some` and `rpmsgCreateEptOn_eq_none`: what a creation has done when it
  returns. They rest on what `idr_alloc` promises (`Idr.alloc_eq_ok`) and on nothing about the
  state. `rpmsgDestroyEpt_eq_ok` is their counterpart, and says which accesses have been valid.
* `rpmsgRemove_routine`, `rpmsgNsCb_routine`, `rpmsgProbe_routine`: the long functions are sequences
  of moves. Their loops go over lists that were made before: what is carried along is that the
  endpoint devices still to come are registered (`routine_of_foldlM_eptdevDestroy`), and that the
  channels that were dealt with are gone.
* `step_outcome`: every event is one of the outcomes. It needs one fact about the state, that the
  ids of its devices are below `next`, for the list of `rpmsg_remove` to hold all channels.
-/

open Transition Relation

namespace Stack

variable {s s' : Stack} {v : VrpId} {vp : VirtprocInfo} {r : RpdevId} {e : EptId} {x : EptdevId}
  {d : RpmsgEptdev} {f : FileId} {env : EptEnv}

theorem vrpOf_eq_some :
    s.vrpOf r = some (v, vp) ↔
      ∃ rpdev, s.rpdevs r = some rpdev ∧ rpdev.container = .virtioRpmsgChannel v ∧
        s.vrps v = some vp := by
  rcases hr : s.rpdevs r with - | rpdev
  · simp [vrpOf, hr]
  · rcases hc : rpdev.container with w | -
    · simp only [vrpOf, hr, hc, Option.bind_some, Option.map_eq_some_iff, Prod.mk.injEq,
        Option.some.injEq, exists_eq_left', Container.virtioRpmsgChannel.injEq]
      constructor
      · rintro ⟨vp', hvp, rfl, rfl⟩
        exact ⟨rfl, hvp⟩
      · rintro ⟨rfl, hvp⟩
        exact ⟨vp, hvp, rfl, rfl⟩
    · simp [vrpOf, hr, hc]

/-! ### Binding and unbinding an endpoint -/

/-- The new endpoint `ept` is bound to `id`. -/
def bindEpt (s : Stack) (v : VrpId) (vp : VirtprocInfo) (id : ℕ) (ept : RpmsgEndpoint) : Stack :=
  { s with
    next := s.next + 1
    vrps := Function.update s.vrps v
      (some { vp with endpoints := Function.update vp.endpoints id (some s.next) })
    epts := Function.update s.epts s.next (some ept) }

/-- **When `__rpmsg_create_ept` succeeds**: memory is there, the start of the range is not negative,
and some address of the range is free. -/
structure CanCreate (vp : VirtprocInfo) (addr : UInt32) (env : EptEnv) : Prop where
  kzalloc : env.kzalloc = true
  mem : env.nomem = false
  start : 0 ≤ idMin addr
  free : ∃ id, (idMin addr).toNat ≤ id ∧ id ≤ Idr.maxId (idMax addr) ∧ vp.endpoints id = none

/-- What `__rpmsg_create_ept` has done when it returns an endpoint. -/
theorem rpmsgCreateEptOn_eq_some {rpdev : Option RpdevId} {cb : RxCb} {priv : Priv} {addr : UInt32}
    (h : s.rpmsgCreateEptOn v vp rpdev cb priv addr env = (s', some e)) :
    CanCreate vp addr env ∧ e = s.next ∧ ∃ id, vp.endpoints id = none ∧ id ≤ Idr.INT_MAX ∧
      (addr ≠ RPMSG_ADDR_ANY → id = addr.toNat) ∧
      s' = s.bindEpt v vp id
        { rpdev, refcount := 1, cb := some cb, addr := .ofNat id, priv } := by
  unfold rpmsgCreateEptOn at h
  split at h
  case isFalse => simp at h
  case isTrue hk =>
    split at h
    case h_1 => simp at h
    case h_2 id endpoints halloc =>
      obtain ⟨hstart, hfree, hmin, hmax, rfl⟩ := Idr.alloc_eq_ok halloc
      simp only [Prod.mk.injEq, Option.some.injEq] at h
      obtain ⟨rfl, rfl⟩ := h
      have hmem := (Idr.exists_alloc_eq_ok_iff.1 ⟨_, halloc⟩).1
      refine ⟨⟨hk, hmem, hstart, id, hmin, hmax, hfree⟩, rfl, id, hfree,
        hmax.trans (idMax_le addr), fun hne ↦ eq_of_mem_range hne hstart hmin hmax, rfl⟩

/-- A creation that fails leaves no trace. -/
theorem rpmsgCreateEptOn_eq_none {rpdev : Option RpdevId} {cb : RxCb} {priv : Priv} {addr : UInt32}
    (h : s.rpmsgCreateEptOn v vp rpdev cb priv addr env = (s', none)) : s' = s := by
  unfold rpmsgCreateEptOn at h
  split at h
  · split at h
    · exact (Prod.mk.inj h).1.symm
    · simp at h
  · exact (Prod.mk.inj h).1.symm

/-- What `rpmsg_destroy_ept` has done when it returns. -/
theorem rpmsgDestroyEpt_eq_ok (h : s.rpmsgDestroyEpt e = .ok s') :
    ∃ ept r v vp, s.epts e = some ept ∧ ept.rpdev = some r ∧ s.vrpOf r = some (v, vp) ∧
      s' = s.rpmsgDestroyEptOn v vp e ept := by
  unfold rpmsgDestroyEpt at h
  rcases he : s.epts e with - | ept
  · simp [he] at h
  · simp only [he] at h
    rcases hv : ept.rpdev.bind s.vrpOf with - | ⟨v, vp⟩
    · simp [hv] at h
    · simp only [hv, Except.ok.injEq] at h
      obtain ⟨r, hr, hvr⟩ := Option.bind_eq_some_iff.1 hv
      exact ⟨ept, r, v, vp, rfl, hr, hvr, h.symm⟩

/-- **An endpoint goes, or there was none.** -/
inductive Unbound (s : Stack) (d : RpmsgEptdev) : Stack → Prop
  | none : d.ept = none → Unbound s d s
  | some {e : EptId} {ept : RpmsgEndpoint} {r : RpdevId} {v : VrpId} {vp : VirtprocInfo} :
    d.ept = some e → s.epts e = some ept → ept.rpdev = some r → s.vrpOf r = some (v, vp) →
      Unbound s d (s.rpmsgDestroyEptOn v vp e ept)

theorem destroyCurrent_eq_ok (h : s.destroyCurrent d = .ok s') : Unbound s d s' := by
  unfold destroyCurrent at h
  rcases hd : d.ept with - | e
  · simp only [hd, Except.ok.injEq] at h
    exact h ▸ .none hd
  · simp only [hd] at h
    obtain ⟨ept, r, v, vp, he, hr, hv, rfl⟩ := rpmsgDestroyEpt_eq_ok h
    exact .some hd he hr hv

/-- What the destruction of the name service endpoint has done when it returns. -/
theorem destroyNsEpt_eq_ok (h : s.destroyNsEpt v vp = .ok s') :
    vp.nsEpt = none ∧ s' = s ∨
      ∃ e ept, vp.nsEpt = some e ∧ s.epts e = some ept ∧ s' = s.rpmsgDestroyEptOn v vp e ept := by
  unfold destroyNsEpt at h
  rcases hns : vp.nsEpt with - | e
  · simp only [hns, Except.ok.injEq] at h
    exact .inl ⟨rfl, h.symm⟩
  · rcases he : s.epts e with - | ept
    · simp [hns, he] at h
    · simp only [hns, he, Except.ok.injEq] at h
      exact .inr ⟨e, ept, rfl, he, h.symm⟩

/-! ### The moves -/

/-- The endpoint of an open file. -/
def fileEpt (x : EptdevId) (d : RpmsgEptdev) (id : ℕ) : RpmsgEndpoint where
  rpdev := some d.rpdev
  refcount := 1
  cb := some .rpmsgEptCb
  addr := .ofNat id
  priv := .eptdev x

/-- The endpoint of the name service. -/
def nsEndpoint (v : VrpId) (id : ℕ) : RpmsgEndpoint where
  rpdev := none
  refcount := 1
  cb := some .rpmsgNsCb
  addr := .ofNat id
  priv := .vrp v

/-- **The moves that are sound whenever they are made.** -/
inductive Routine (s : Stack) : Stack → Prop
  | newVrp (layout : BufLayout) :
    Routine s { s with
      next := s.next + 1
      vrps := Function.update s.vrps s.next (some { layout, endpoints := .empty, nsEpt := none }) }
  | bindNs {v : VrpId} {vp : VirtprocInfo} {id : ℕ} : s.vrps v = some vp → vp.nsEpt = none →
    vp.endpoints id = none → id ≤ Idr.INT_MAX →
      Routine s ((s.bindEpt v vp id (nsEndpoint v id)).setNsEpt v s.next)
  | newChannel {v : VrpId} {vp : VirtprocInfo} (chinfo : RpmsgChannelInfo) : s.vrps v = some vp →
    Routine s (s.addRpdev (rpmsgChannel v chinfo))
  | setRpdev {r : RpdevId} {rpdev rpdev' : RpmsgDevice} : s.rpdevs r = some rpdev →
    rpdev'.container = rpdev.container → rpdev'.parent = rpdev.parent →
      Routine s (s.setRpdev r (some rpdev'))
  | setCtrldev (n : ℕ) (c : CtrldevId) (ctrldev : RpmsgCtrldev) :
    Routine s { s with
      next := s.next + n
      ctrldevs := Function.update s.ctrldevs c (some ctrldev) }
  | newEptdev (c : CtrldevId) (ctrldev : RpmsgCtrldev) (eptinfo : RpmsgEndpointInfo) :
    Routine s (s.rpmsgEptdevCreate c ctrldev eptinfo)
  | drop {x : EptdevId} {d : RpmsgEptdev} {s₁ : Stack} : s.eptdevs x = some d → d.refs ≠ 0 →
    d.registered = true → Unbound s d s₁ →
      Routine s (s₁.setEptdev x { d with ept := none }.drop)
  | close {f : FileId} {file : EptFile} {d : RpmsgEptdev} {s₁ : Stack} : s.files f = some file →
    s.eptdevs file.eptdev = some d → d.refs ≠ 0 → Unbound s d s₁ →
      Routine s ((s₁.setEptdev file.eptdev { d with ept := none }.put).setFile f none)
  | freeRpdev (r : RpdevId) : Routine s (s.setRpdev r none)
  | freeVrp {v : VrpId} {vp : VirtprocInfo} {s₁ : Stack} : s.vrps v = some vp →
    (∀ r rpdev, s.rpdevs r = some rpdev → rpdev.parent ≠ some v) →
      s.destroyNsEpt v vp = .ok s₁ →
        Routine s { s₁ with vrps := Function.update s₁.vrps v none }

/-- The stack after an open that succeeds. -/
def opened (s : Stack) (x : EptdevId) (d : RpmsgEptdev) (f : FileId) (nonblock : Bool) (v : VrpId)
    (vp : VirtprocInfo) (id : ℕ) : Stack :=
  ((s.bindEpt v vp id (fileEpt x d id)).setEptdev x { d.get with ept := some s.next }).setFile f
    (some { eptdev := x, nonblock })

/-- **What one call into the stack can come to.** -/
inductive Outcome (s : Stack) : StackEvent → Stack → Prop
  | oops {ev : StackEvent} {fault : Fault} : s.exec ev = some (.error fault) →
    Outcome s ev { s with oops := some fault }
  | routine {ev : StackEvent} {s' : Stack} : ReflTransGen Routine s s' → Outcome s ev s'
  | load : Outcome s (.load true) (s.addRpdev rpmsgChrdev)
  | opened {x : EptdevId} {d : RpmsgEptdev} {f : FileId} {nonblock : Bool} {env : EptEnv}
    {v : VrpId} {vp : VirtprocInfo} {id : ℕ} : s.eptdevs x = some d → d.refs ≠ 0 →
    s.files f = none → s.vrpOf d.rpdev = some (v, vp) → CanCreate vp d.chinfo.src env →
    vp.endpoints id = none → id ≤ Idr.INT_MAX →
    (d.chinfo.src ≠ RPMSG_ADDR_ANY → id = d.chinfo.src.toNat) →
      Outcome s (.eptOpen x f nonblock env) (s.opened x d f nonblock v vp id)
  | destroyed {f : FileId} {file : EptFile} {d : RpmsgEptdev} {s₁ : Stack} :
    s.files f = some file → s.eptdevs file.eptdev = some d → d.refs ≠ 0 → Unbound s d s₁ →
      Outcome s (.destroyEpt f) (s₁.setEptdev file.eptdev { d with ept := none }.drop)

/-! ### Taking the functions apart -/

theorem rpmsgEptdevDestroy_eq_ok (h : s.rpmsgEptdevDestroy x = .ok s') :
    ∃ d s₁, s.eptdevs x = some d ∧ d.refs ≠ 0 ∧ Unbound s d s₁ ∧
      s' = s₁.setEptdev x { d with ept := none }.drop := by
  unfold rpmsgEptdevDestroy at h
  rcases hx : s.eptdevs x with - | d
  · simp [hx] at h
  · simp only [hx] at h
    split at h
    case isTrue => cases h
    case isFalse href =>
      obtain ⟨s₁, hs₁, hs'⟩ := Folds.bind_eq_ok.1 h
      cases hs'
      exact ⟨d, s₁, rfl, href, destroyCurrent_eq_ok hs₁, rfl⟩

theorem rpmsgEptdevRelease_eq_ok (h : s.rpmsgEptdevRelease x f = .ok s') :
    ∃ d s₁, s.eptdevs x = some d ∧ d.refs ≠ 0 ∧ Unbound s d s₁ ∧
      s' = (s₁.setEptdev x { d with ept := none }.put).setFile f none := by
  unfold rpmsgEptdevRelease at h
  rcases hx : s.eptdevs x with - | d
  · simp [hx] at h
  · simp only [hx] at h
    split at h
    case isTrue => cases h
    case isFalse href =>
      obtain ⟨s₁, hs₁, hs'⟩ := Folds.bind_eq_ok.1 h
      cases hs'
      exact ⟨d, s₁, rfl, href, destroyCurrent_eq_ok hs₁, rfl⟩

theorem vrpOf_setEptdev : (s.setEptdev x d).vrpOf r = s.vrpOf r := rfl

/-- **An open either succeeds with an endpoint of its own or leaves no trace.** -/
theorem rpmsgEptdevOpen_eq_ok {nonblock : Bool} (hx : s.eptdevs x = some d) (href : d.refs ≠ 0)
    (h : s.rpmsgEptdevOpen x d f nonblock env = .ok s') :
    s' = s ∨ ∃ v vp id, s.vrpOf d.rpdev = some (v, vp) ∧ CanCreate vp d.chinfo.src env ∧
      vp.endpoints id = none ∧ id ≤ Idr.INT_MAX ∧
      (d.chinfo.src ≠ RPMSG_ADDR_ANY → id = d.chinfo.src.toNat) ∧
      s' = s.opened x d f nonblock v vp id := by
  unfold rpmsgEptdevOpen at h
  obtain ⟨⟨s₁, e⟩, hcreate, h⟩ := Folds.bind_eq_ok.1 h
  unfold rpmsgCreateEpt at hcreate
  rw [vrpOf_setEptdev] at hcreate
  rcases hv : s.vrpOf d.rpdev with - | ⟨v, vp⟩
  · simp [hv] at hcreate
  · simp only [hv, Except.ok.injEq] at hcreate
    rcases e with - | e
    · left
      cases h
      rw [rpmsgCreateEptOn_eq_none hcreate]
      have hself : Function.update s.eptdevs x (some d) = s.eptdevs :=
        Function.update_eq_self_iff.2 hx.symm
      simp [setEptdev, RpmsgEptdev.put_get href, hself]
    · right
      obtain ⟨hcan, rfl, id, hfree, hmax, hid, rfl⟩ := rpmsgCreateEptOn_eq_some hcreate
      cases h
      refine ⟨v, vp, id, rfl, hcan, hfree, hmax, hid, ?_⟩
      simp [opened, setEptdev, setFile, bindEpt, fileEpt]

/-! ### The loops -/

theorem registered_of_mem_eptdevsOf {c : CtrldevId} (h : x ∈ s.eptdevsOf c) :
    ∃ d, s.eptdevs x = some d ∧ d.registered = true := by
  obtain ⟨-, hany⟩ := List.mem_filter.1 h
  obtain ⟨d, hd, hreg⟩ := (Option.any_eq_true _ _).1 hany
  exact ⟨d, hd, (Bool.and_eq_true_iff.1 hreg).1⟩

theorem nodup_eptdevsOf (c : CtrldevId) : (s.eptdevsOf c).Nodup :=
  List.Pairwise.filter _ List.nodup_range

namespace Unbound

theorem eptdevs (h : Unbound s d s') : s'.eptdevs = s.eptdevs := by
  cases h <;> rfl

theorem rpdevs (h : Unbound s d s') : s'.rpdevs = s.rpdevs := by
  cases h <;> rfl

theorem files (h : Unbound s d s') : s'.files = s.files := by
  cases h <;> rfl

theorem next (h : Unbound s d s') : s'.next = s.next := by
  cases h <;> rfl

end Unbound

/-- The parent's removal destroys only endpoint devices that are registered. -/
theorem routine_of_foldlM_eptdevDestroy {c : CtrldevId}
    (h : (s.eptdevsOf c).foldlM rpmsgEptdevDestroy s = .ok s') : ReflTransGen Routine s s' := by
  let I (l : List EptdevId) (s : Stack) : Prop :=
    l.Nodup ∧ ∀ x ∈ l, ∃ d, s.eptdevs x = some d ∧ d.registered = true
  refine Folds.reflTransGen_of_foldlM (I := I) ?_
    ⟨nodup_eptdevsOf c, fun x hx ↦ registered_of_mem_eptdevsOf hx⟩ h
  rintro x l s s' ⟨hnodup, hreg⟩ h
  obtain ⟨d, s₁, hx, href, hun, rfl⟩ := rpmsgEptdevDestroy_eq_ok h
  obtain ⟨d', hx', hd⟩ := hreg x (by simp)
  obtain rfl : d = d' := Option.some.inj (hx.symm.trans hx')
  refine ⟨.single (.drop hx href hd hun), (List.nodup_cons.1 hnodup).2, fun y hy ↦ ?_⟩
  have hne : y ≠ x := by
    rintro rfl
    exact (List.nodup_cons.1 hnodup).1 hy
  have hkeep : (s₁.setEptdev x { d with ept := none }.drop).eptdevs y = s.eptdevs y := by
    simp [setEptdev, hne, hun.eptdevs]
  rw [hkeep]
  exact hreg y (by simp [hy])

theorem rpdevs_of_foldlM_eptdevDestroy {l : List EptdevId}
    (h : l.foldlM rpmsgEptdevDestroy s = .ok s') : s'.rpdevs = s.rpdevs := by
  refine Folds.keep_of_foldlM (P := fun s' ↦ s'.rpdevs = s.rpdevs) ?_ h rfl
  intro s₁ x s₂ h hs₁
  obtain ⟨d, s₃, -, -, hun, rfl⟩ := rpmsgEptdevDestroy_eq_ok h
  exact hun.rpdevs.trans hs₁

theorem rpmsgChrdevRemove_eq_ok {c : CtrldevId} (h : s.rpmsgChrdevRemove r c = .ok s') :
    ReflTransGen Routine s s' ∧
      s'.rpdevs = Function.update s.rpdevs r
        ((s.rpdevs r).map fun rpdev ↦ { rpdev with driver := none }) := by
  obtain ⟨s₁, hfold, hs'⟩ := Folds.bind_eq_ok.1 h
  have hkeep := rpdevs_of_foldlM_eptdevDestroy hfold
  cases hs'
  refine ⟨?_, by rw [← hkeep]⟩
  refine (routine_of_foldlM_eptdevDestroy hfold).trans ?_
  refine .head (.setCtrldev 0 c { rpdev := r, registered := false }) (.single ?_)
  rcases hr : s₁.rpdevs r with - | rpdev
  · exact .freeRpdev r
  · exact .setRpdev hr rfl rfl

theorem rpmsgDevRemove_eq_ok (h : s.rpmsgDevRemove r = .ok s') :
    ReflTransGen Routine s s' ∧ ∀ q, q ≠ r → s'.rpdevs q = s.rpdevs q := by
  unfold rpmsgDevRemove at h
  split at h
  · cases h
    exact ⟨.refl, fun _ _ ↦ rfl⟩
  · obtain ⟨hmoves, hrpdevs⟩ := rpmsgChrdevRemove_eq_ok h
    exact ⟨hmoves, fun q hq ↦ by simp [hrpdevs, hq]⟩

/-- `device_unregister` frees the device, and leaves the others where they are. -/
theorem deviceUnregister_eq_ok (h : s.deviceUnregister r = .ok s') :
    ReflTransGen Routine s s' ∧ s'.rpdevs r = none ∧
      ∀ q rpdev', s'.rpdevs q = some rpdev' →
        ∃ rpdev, s.rpdevs q = some rpdev ∧ rpdev'.parent = rpdev.parent := by
  obtain ⟨s₁, hs₁, hs'⟩ := Folds.bind_eq_ok.1 h
  cases hs'
  obtain ⟨hmoves, hkeep⟩ := rpmsgDevRemove_eq_ok hs₁
  refine ⟨hmoves.tail (.freeRpdev r), by simp [setRpdev], fun q rpdev' hq ↦ ?_⟩
  rcases eq_or_ne q r with rfl | hne
  · simp [setRpdev] at hq
  · simp only [setRpdev, Function.update_of_ne hne, hkeep q hne] at hq
    exact ⟨rpdev', hq, rfl⟩

theorem rpmsgRemove_routine (hlt : ∀ r rpdev, s.rpdevs r = some rpdev → r < s.next)
    (h : s.rpmsgRemove v = .ok s') : ReflTransGen Routine s s' := by
  obtain ⟨s₁, hfold, h⟩ := Folds.bind_eq_ok.1 h
  have hmoves : ReflTransGen Routine s s₁ :=
    Folds.reflTransGen_of_foldlM (I := fun _ _ ↦ True)
      (fun r _ _ _ _ h ↦ ⟨(deviceUnregister_eq_ok h).1, trivial⟩) trivial hfold
  -- every channel of `v` was in the list, and stays unregistered
  let Gone (r : RpdevId) (s : Stack) : Prop :=
    ∀ rpdev, s.rpdevs r = some rpdev → rpdev.parent ≠ some v
  have hstay : ∀ q s r s', deviceUnregister s r = .ok s' → Gone q s → Gone q s' := by
    intro q s r s' h hgone rpdev' hq
    obtain ⟨rpdev, hrpdev, hparent⟩ := (deviceUnregister_eq_ok h).2.2 q rpdev' hq
    exact hparent ▸ hgone rpdev hrpdev
  have hself : ∀ s r s', deviceUnregister s r = .ok s' → Gone r s' := by
    intro s r s' h rpdev' hr
    rw [(deviceUnregister_eq_ok h).2.1] at hr
    cases hr
  have hgone : ∀ r, Gone r s₁ := by
    intro r
    by_cases hr : r ∈ s.channelsOf v
    · exact Folds.forall_of_foldlM hself hstay hfold r hr
    · refine Folds.keep_of_foldlM (hstay r) hfold fun rpdev hrpdev hparent ↦ hr ?_
      exact List.mem_filter.2 ⟨List.mem_range.2 (hlt r rpdev hrpdev), by simp [hrpdev, hparent]⟩
  rcases hv : s₁.vrps v with - | vp
  · simp [hv] at h
  · simp only [hv] at h
    obtain ⟨s₂, hs₂, hs'⟩ := Folds.bind_eq_ok.1 h
    cases hs'
    exact hmoves.tail (.freeVrp hv hgone hs₂)

theorem rpmsgNsCb_routine {msg : RpmsgNsMsg} {len : ℕ} {registered : Bool}
    (hv : s.vrps v = some vp) (h : s.rpmsgNsCb v msg len registered = .ok s') :
    ReflTransGen Routine s s' := by
  unfold rpmsgNsCb at h
  split at h
  · cases h
    exact .refl
  · split at h
    · unfold rpmsgUnregisterDevice at h
      split at h
      · cases h
        exact .refl
      · exact (deviceUnregister_eq_ok h).1
    · cases h
      unfold rpmsgCreateChannel
      split
      · exact .refl
      · split
        · exact .single (.newChannel _ hv)
        · exact .refl

theorem rpmsgProbe_routine (env : ProbeEnv) : ReflTransGen Routine s (s.rpmsgProbe env) := by
  unfold rpmsgProbe
  split
  case h_2 => exact .refl
  case h_1 va hva =>
    split
    case isFalse => exact .refl
    case isTrue =>
      let vp : VirtprocInfo :=
        { layout := .ofProbe env.vringSize va, endpoints := .empty, nsEpt := none }
      have hnew : Routine s { s with
          next := s.next + 1
          vrps := Function.update s.vrps s.next (some vp) } := .newVrp _
      dsimp only
      split
      case isFalse => exact .single hnew
      case isTrue =>
        split
        case h_1 => exact .refl
        case h_2 s₂ e hcreate =>
          obtain ⟨-, rfl, id, hfree, hmax, -, rfl⟩ := rpmsgCreateEptOn_eq_some hcreate
          exact .tail (.single hnew) (.bindNs (by simp [vp]) rfl hfree hmax)

/-! ### The events -/

/-- **One call into the stack, taken apart.** -/
theorem step_outcome {ev : StackEvent} (hlt : ∀ r rpdev, s.rpdevs r = some rpdev → r < s.next)
    (h : s.step ev = some s') : Outcome s ev s' := by
  unfold step at h
  split at h
  case isFalse => cases h
  case isTrue =>
    obtain ⟨result, hexec, hs'⟩ := Option.map_eq_some_iff.1 h
    rcases result with fault | s₁
    · obtain rfl : { s with oops := some fault } = s' := hs'
      exact .oops hexec
    · obtain rfl : s₁ = s' := hs'
      cases ev with
      | load registered =>
        rcases registered with - | -
        · cases hexec
          exact .routine .refl
        · cases hexec
          exact .load
      | probe env =>
        cases hexec
        exact .routine (rpmsgProbe_routine env)
      | remove v =>
        obtain ⟨vp, -, hremove⟩ := Option.map_eq_some_iff.1 hexec
        exact .routine (rpmsgRemove_routine hlt hremove)
      | nsMessage v msg len registered =>
        obtain ⟨e, hns, hcb⟩ := Option.map_eq_some_iff.1 hexec
        obtain ⟨vp, hv, -⟩ := Option.bind_eq_some_iff.1 hns
        exact .routine (rpmsgNsCb_routine hv hcb)
      | driverOverride r buf nomem =>
        obtain ⟨rpdev, hr, hstore⟩ := Option.map_eq_some_iff.1 hexec
        cases hstore
        split
        · exact .routine .refl
        · exact .routine (.single (.setRpdev hr rfl rfl))
      | bind r probed =>
        obtain ⟨rpdev, hr, hbind⟩ := Option.bind_eq_some_iff.1 hexec
        split at hbind
        case isFalse => cases hbind
        case isTrue =>
          cases hbind
          split
          · refine .routine (.head (.setCtrldev 1 s.next { rpdev := r, registered := true })
              (.single ?_))
            exact .setRpdev hr rfl rfl
          · exact .routine .refl
      | unbind r =>
        obtain ⟨c, -, hremove⟩ := Option.map_eq_some_iff.1 hexec
        exact .routine (rpmsgDevRemove_eq_ok hremove).1
      | createEpt c eptinfo created =>
        obtain ⟨ctrldev, hc, hcreate⟩ := Option.bind_eq_some_iff.1 hexec
        split at hcreate
        · split at hcreate
          · cases hcreate
            exact .routine (.single (.newEptdev c ctrldev eptinfo))
          · cases hcreate
        · cases hcreate
          exact .routine .refl
      | eptOpen x f nonblock env =>
        obtain ⟨d, hx, hopen⟩ := Option.bind_eq_some_iff.1 hexec
        split at hopen
        case isFalse => cases hopen
        case isTrue hcond =>
          obtain ⟨href, hf⟩ := hcond
          rcases rpmsgEptdevOpen_eq_ok hx href (Option.some.inj hopen) with
            rfl | ⟨v, vp, id, hv, hcan, hfree, hmax, hid, rfl⟩
          · exact .routine .refl
          · exact .opened hx href hf hv hcan hfree hmax hid
      | eptClose f =>
        obtain ⟨file, hf, hclose⟩ := Option.map_eq_some_iff.1 hexec
        obtain ⟨d, s₂, hx, href, hun, rfl⟩ := rpmsgEptdevRelease_eq_ok hclose
        exact .routine (.single (.close hf hx href hun))
      | destroyEpt f =>
        obtain ⟨file, hf, hdestroy⟩ := Option.map_eq_some_iff.1 hexec
        obtain ⟨d, s₂, hx, href, hun, rfl⟩ := rpmsgEptdevDestroy_eq_ok hdestroy
        exact .destroyed hf hx href hun

end Stack
