import DriverModules.Rpmsg.StackFiles

/-!
# Every device of the bus has a remote processor

Two constructors put devices on the bus, with different structs around them and one table of
operations. `virtio_rpmsg_create_ept` follows `to_virtio_rpmsg_channel(rpdev)->vrp`, which only the
channels have. So creating an endpoint is safe as long as the module's `create_rpmsg_chrdev` has
registered no device, and nobody opens an endpoint device whose rpmsg device is gone: an open file
keeps the endpoint device, and its character device, past the removal of the remote processor.

## The fault, and who can cause it

`Fault.createEpt` stands for the access to a `vrp` that is not there. The other functions of the
stack end in no fault of this kind, whatever the state (`CreatesNone`), so the fault needs an open
(`exec_eq_createEpt`): of an endpoint device whose rpmsg device is not a channel, or is gone.

## Main results, and what each rests on

* `busSound_of_reaches`: under `DevicesKept` every device has its remote processor and no such
  access was made. It rests on `AllChannels`, which only the load that registers a device can break,
  and on the tables for the remote processor behind a channel.
* `busSound_own_device`: the module's own device breaks it, with an open of an endpoint device that
  hangs on it.
-/

open Folds Transition Relation

namespace Stack

variable {s s' : Stack} {x : EptdevId} {r : RpdevId} {e : EptId} {d : RpmsgEptdev} {f : FileId}
  {ev : StackEvent}

/-! ### Only an open can create an endpoint without a remote processor -/

/-- What fails otherwise than in `virtio_rpmsg_create_ept`. -/
abbrev CreatesNone (result : Except Fault Stack) : Prop :=
  FailsOnly (· ≠ .createEpt) result

theorem createsNone_destroyCurrent : CreatesNone (s.destroyCurrent d) := by
  unfold destroyCurrent
  split
  · exact .ok _
  · unfold rpmsgDestroyEpt
    split
    · exact .error nofun
    · split
      · exact .error nofun
      · exact .ok _

theorem createsNone_rpmsgEptdevDestroy : CreatesNone (s.rpmsgEptdevDestroy x) := by
  unfold rpmsgEptdevDestroy
  split
  · exact .error nofun
  · split
    · exact .error nofun
    · exact .bind createsNone_destroyCurrent fun _ ↦ .ok _

theorem createsNone_rpmsgEptdevRelease : CreatesNone (s.rpmsgEptdevRelease x f) := by
  unfold rpmsgEptdevRelease
  split
  · exact .error nofun
  · split
    · exact .error nofun
    · exact .bind createsNone_destroyCurrent fun _ ↦ .ok _

theorem createsNone_rpmsgDevRemove : CreatesNone (s.rpmsgDevRemove r) := by
  unfold rpmsgDevRemove
  split
  · exact .ok _
  · exact .bind (.foldlM (fun _ _ ↦ createsNone_rpmsgEptdevDestroy) _ _) fun _ ↦ .ok _

theorem createsNone_deviceUnregister : CreatesNone (s.deviceUnregister r) :=
  .bind createsNone_rpmsgDevRemove fun _ ↦ .ok _

theorem createsNone_destroyNsEpt {v : VrpId} {vp : VirtprocInfo} :
    CreatesNone (s.destroyNsEpt v vp) := by
  unfold destroyNsEpt
  split
  · exact .ok _
  · split
    · exact .error nofun
    · exact .ok _

theorem createsNone_rpmsgRemove {v : VrpId} : CreatesNone (s.rpmsgRemove v) := by
  refine .bind (.foldlM (fun _ _ ↦ createsNone_deviceUnregister) _ _) fun s₁ ↦ ?_
  split
  · exact .error nofun
  · exact .bind createsNone_destroyNsEpt fun _ ↦ .ok _

theorem createsNone_rpmsgNsCb {v : VrpId} {msg : RpmsgNsMsg} {len : ℕ} {registered : Bool} :
    CreatesNone (s.rpmsgNsCb v msg len registered) := by
  unfold rpmsgNsCb
  split
  · exact .ok _
  · split
    · unfold rpmsgUnregisterDevice
      split
      · exact .ok _
      · exact createsNone_deviceUnregister
    · exact .ok _

/-- An open fails where there is no remote processor, if at all. -/
theorem failsOnly_rpmsgEptdevOpen {nonblock : Bool} {env : EptEnv} :
    FailsOnly (fun _ ↦ s.vrpOf d.rpdev = none) (s.rpmsgEptdevOpen x d f nonblock env) := by
  refine .bind ?_ fun ⟨s₁, e⟩ ↦ ?_
  · unfold rpmsgCreateEpt
    split
    case h_1 hv => exact .error hv
    case h_2 => exact .ok _
  · rcases e with - | e <;> exact .ok _

/-- **The fault needs an open** of an endpoint device behind which there is no remote processor. -/
theorem exec_eq_createEpt (h : s.exec ev = some (.error .createEpt)) :
    ∃ x d f nonblock env, ev = .eptOpen x f nonblock env ∧ s.eptdevs x = some d ∧
      s.vrpOf d.rpdev = none := by
  cases ev with
  | load registered => cases h
  | probe env => cases h
  | remove v =>
    obtain ⟨vp, -, h⟩ := Option.map_eq_some_iff.1 h
    exact absurd rfl (createsNone_rpmsgRemove _ h)
  | nsMessage v msg len registered =>
    obtain ⟨vp, -, h⟩ := Option.map_eq_some_iff.1 h
    exact absurd rfl (createsNone_rpmsgNsCb _ h)
  | driverOverride r buf nomem =>
    obtain ⟨rpdev, -, h⟩ := Option.map_eq_some_iff.1 h
    cases h
  | bind r probed =>
    obtain ⟨rpdev, -, h⟩ := Option.bind_eq_some_iff.1 h
    split at h <;> cases h
  | unbind r =>
    obtain ⟨c, -, h⟩ := Option.map_eq_some_iff.1 h
    exact absurd rfl (createsNone_rpmsgDevRemove _ h)
  | createEpt c eptinfo created =>
    obtain ⟨ctrldev, -, h⟩ := Option.bind_eq_some_iff.1 h
    split at h
    · split at h <;> cases h
    · cases h
  | eptOpen x f nonblock env =>
    obtain ⟨d, hx, h⟩ := Option.bind_eq_some_iff.1 h
    split at h
    case isFalse => cases h
    case isTrue =>
      exact ⟨x, d, f, nonblock, env, rfl, hx,
        failsOnly_rpmsgEptdevOpen _ (Option.some.inj h)⟩
  | eptClose f =>
    obtain ⟨file, -, h⟩ := Option.map_eq_some_iff.1 h
    exact absurd rfl (createsNone_rpmsgEptdevRelease _ h)
  | destroyEpt f =>
    obtain ⟨file, -, h⟩ := Option.map_eq_some_iff.1 h
    exact absurd rfl (createsNone_rpmsgEptdevDestroy _ h)

/-! ### The bus -/

/-- **The bus is sound**: every device is embedded in the channel of a probed remote processor, an
endpoint created on a device goes into the table of one, and none was ever created elsewhere. -/
structure BusSound (s : Stack) : Prop where
  embedded : ∀ r rpdev, s.rpdevs r = some rpdev →
    ∃ v vp, rpdev.container = .virtioRpmsgChannel v ∧ s.vrps v = some vp
  create : ∀ r rpdev cb priv chinfo env, s.rpdevs r = some rpdev →
    ∃ v vp, s.vrpOf r = some (v, vp) ∧
      s.rpmsgCreateEpt r cb priv chinfo env =
        .ok (s.rpmsgCreateEptOn v vp (some r) cb priv chinfo.src env)
  noFault : s.oops ≠ some .createEpt

/-- The module registers no device of its own, and an endpoint device is opened only while its rpmsg
device is there. -/
def DevicesKept (s : Stack) : StackEvent → Prop
  | .load registered => registered = false
  | .eptOpen x _ _ _ => ∀ d, s.eptdevs x = some d → ∃ rpdev, s.rpdevs d.rpdev = some rpdev
  | _ => True

instance (s : Stack) (ev : StackEvent) : Decidable (s.DevicesKept ev) :=
  match ev with
  | .load registered => inferInstanceAs (Decidable (registered = false))
  | .eptOpen x _ _ _ =>
    decidable_of_iff ((s.eptdevs x).all fun d ↦ (s.rpdevs d.rpdev).isSome) (by
      simp [DevicesKept, Option.all_eq_true, Option.isSome_iff_exists])
  | .probe _ | .remove _ | .nsMessage .. | .driverOverride .. | .bind .. | .unbind _
  | .createEpt .. | .eptClose _ | .destroyEpt _ => .isTrue trivial

/-- All devices are channels. -/
structure AllChannels (s : Stack) : Prop where
  container : ∀ {r rpdev}, s.rpdevs r = some rpdev → ∃ v, rpdev.container = .virtioRpmsgChannel v
  noFault : s.oops ≠ some .createEpt

theorem AllChannels.vrpOf (h : s.AllChannels) (hwf : s.Wf) {rpdev : RpmsgDevice}
    (hr : s.rpdevs r = some rpdev) :
    ∃ v vp, rpdev.container = .virtioRpmsgChannel v ∧ s.vrps v = some vp ∧
      s.vrpOf r = some (v, vp) := by
  obtain ⟨v, hc⟩ := h.container hr
  obtain ⟨vp, hv⟩ := (hwf.tables.channel hr hc).2
  exact ⟨v, vp, hc, hv, vrpOf_eq_some.2 ⟨rpdev, hr, hc, hv⟩⟩

theorem Unbound.oops (h : s.Unbound d s') : s'.oops = s.oops := by
  cases h <;> rfl

/-- A move adds no device but channels. -/
theorem Routine.allChannels (hmove : Routine s s') (h : s.AllChannels) : s'.AllChannels := by
  cases hmove with
  | newVrp | bindNs | setCtrldev | newEptdev => exact ⟨h.container, h.noFault⟩
  | @newChannel v vp chinfo hv =>
    refine ⟨fun hr ↦ ?_, h.noFault⟩
    rcases Maps.update_eq_some.1 hr with ⟨-, rfl⟩ | ⟨-, hr⟩
    · exact ⟨v, rfl⟩
    · exact h.container hr
  | setRpdev hr hcont =>
    refine ⟨fun hq ↦ ?_, h.noFault⟩
    rcases Maps.update_eq_some.1 hq with ⟨-, rfl⟩ | ⟨-, hq⟩
    · rw [hcont]
      exact h.container hr
    · exact h.container hq
  | drop _ _ _ hun =>
    exact ⟨fun hr ↦ h.container (hun.rpdevs ▸ hr), fun hoops ↦ h.noFault (hun.oops ▸ hoops)⟩
  | close _ _ _ hun =>
    exact ⟨fun hr ↦ h.container (hun.rpdevs ▸ hr), fun hoops ↦ h.noFault (hun.oops ▸ hoops)⟩
  | freeRpdev r => exact ⟨fun hq ↦ h.container (Maps.erase_eq_some.1 hq).2, h.noFault⟩
  | @freeVrp v vp s₁ hv hnone hns =>
    rcases destroyNsEpt_eq_ok hns with ⟨-, rfl⟩ | ⟨e, ept, -, -, rfl⟩
    · exact ⟨h.container, h.noFault⟩
    · exact ⟨h.container, h.noFault⟩

theorem allChannels_of_reaches (h : Reaches step DevicesKept init s) : s.AllChannels := by
  refine invariant_of_reaches (P := AllChannels) ⟨nofun, nofun⟩
    (fun _ h hmove ↦ hmove.allChannels h) ?_ h
  intro s s' ev hwf h hguard hout hmoves
  cases hout with
  | @oops _ fault hexec =>
    refine ⟨h.container, fun hfault ↦ ?_⟩
    obtain rfl := Option.some.inj hfault
    obtain ⟨x, d, f, nonblock, env, rfl, hx, hnone⟩ := exec_eq_createEpt hexec
    obtain ⟨rpdev, hr⟩ := hguard d hx
    obtain ⟨v, vp, -, -, hv⟩ := h.vrpOf hwf hr
    rw [hnone] at hv
    cases hv
  | routine h => exact hmoves h
  | load => cases hguard
  | opened => exact ⟨h.container, h.noFault⟩
  | destroyed _ _ _ hun =>
    exact ⟨fun hr ↦ h.container (hun.rpdevs ▸ hr), fun hoops ↦ h.noFault (hun.oops ▸ hoops)⟩

/-- **While the module registers no device of its own and no endpoint device is opened after its
rpmsg device went, the bus is sound.** -/
theorem busSound_of_reaches (h : Reaches step DevicesKept init s) : s.BusSound := by
  have hall := allChannels_of_reaches h
  have hwf := wf_of_reaches h
  refine ⟨fun r rpdev hr ↦ ?_, fun r rpdev cb priv chinfo env hr ↦ ?_, hall.noFault⟩
  · obtain ⟨v, vp, hc, hv, -⟩ := hall.vrpOf hwf hr
    exact ⟨v, vp, hc, hv⟩
  · obtain ⟨v, vp, -, -, hv⟩ := hall.vrpOf hwf hr
    exact ⟨v, vp, hv, by simp [rpmsgCreateEpt, hv]⟩

/-- The module registers its own device, `rpmsg_chrdev` takes it, a process creates an endpoint
device on it and opens that: `virtio_rpmsg_create_ept` reads a `vrp` behind the end of the
device. -/
theorem busSound_own_device : ¬ ∀ s, Reachable step init s → s.BusSound := by
  intro h
  obtain ⟨s, hrun, hoops⟩ := Option.map_eq_some_iff.1
    (show Option.map Stack.oops (run step init
      [.load true, .bind 0 true, .createEpt 1 { name := [], src := 1, dst := 2 } true,
        .eptOpen 2 0 false { kzalloc := true, nomem := false }]) = some (some .createEpt) by
      decide +kernel)
  exact (h s (reachable_of_run hrun)).noFault hoops

/-- A remote processor announces a service, and a process has an endpoint on it. -/
theorem busSound_announced_channel :
    ∃ s, Reaches step DevicesKept init s ∧ s.files 0 = some { eptdev := 4, nonblock := false } ∧
      s.BusSound := by
  obtain ⟨s, hrun, hfile⟩ := Option.map_eq_some_iff.1
    (show Option.map (fun s ↦ s.files 0) (runIf step (fun s ev ↦ decide (s.DevicesKept ev)) init
      (bringUp { name := [], src := RPMSG_ADDR_ANY, dst := 61 } ++
        [.eptOpen 4 0 false { kzalloc := true, nomem := false }])) =
        some (some { eptdev := 4, nonblock := false }) by decide +kernel)
  have hreaches : Reaches step DevicesKept init s :=
    reaches_of_runIf (fun _ _ ↦ of_decide_eq_true) hrun
  exact ⟨s, hreaches, hfile, busSound_of_reaches hreaches⟩

end Stack
