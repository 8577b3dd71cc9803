import DriverModules.Rpmsg.StackFiles

/-!
# The references of an endpoint device

One reference for the creator, one for each open file. Three functions put references, and
`rpmsg_eptdev_destroy` puts the creator's one whenever it runs: nothing records that it ran before.
A second `RPMSG_DESTROY_EPT_IOCTL` puts the reference of the file it came through.

The removal of the parent is no such case: it goes over the endpoint devices that are registered,
and `device_del` in `rpmsg_eptdev_destroy` takes them off that list.

## Main results, and what each rests on

* `refsSound_of_reaches`: under `DestroyedOnce` the endpoint device is released once, and exactly
  when its creator's reference is dropped and all files are closed. That the creator's reference is
  dropped at most once is all the guard is for (`dropsLeOne_of_reaches`); the rest is `Wf`, whose
  count is right as long as this holds (`Wf.refs_eq_zero_iff`).
* `refsSound_destroyed_twice`: two destroy ioctls through one file release the endpoint device while
  the file is open.
-/

open Transition Relation Counting

namespace Stack

variable {s s' : Stack} {x : EptdevId} {d : RpmsgEptdev}

/-- No open file belongs to `x`. -/
def AllClosed (s : Stack) (x : EptdevId) : Prop :=
  ∀ f file, s.files f = some file → file.eptdev ≠ x

/-- **The references are sound**: the creator's one is dropped at most once, and the endpoint device
is released exactly once, which is when that has happened and all its files are closed. -/
structure RefsSound (s : Stack) : Prop where
  dropped : ∀ x d, s.eptdevs x = some d → d.drops ≤ 1
  once : ∀ x d, s.eptdevs x = some d → d.releases ≤ 1
  released : ∀ x d, s.eptdevs x = some d → (d.releases = 1 ↔ d.drops = 1 ∧ s.AllClosed x)

/-- The destroy ioctl comes through a file of an endpoint device on which `rpmsg_eptdev_destroy` has
not run. -/
def DestroyedOnce (s : Stack) : StackEvent → Prop
  | .destroyEpt f => ∀ file d, s.files f = some file → s.eptdevs file.eptdev = some d → d.drops = 0
  | _ => True

instance (s : Stack) (ev : StackEvent) : Decidable (s.DestroyedOnce ev) :=
  match ev with
  | .destroyEpt f =>
    decidable_of_iff ((s.files f).all fun file ↦ (s.eptdevs file.eptdev).all (·.drops == 0)) (by
      simp only [DestroyedOnce, Option.all_eq_true, beq_iff_eq]
      exact ⟨fun h file d hf ↦ h file hf d, fun h file hf d ↦ h file d hf⟩)
  | .load _ | .probe _ | .remove _ | .nsMessage .. | .driverOverride .. | .bind .. | .unbind _
  | .createEpt .. | .eptOpen .. | .eptClose _ => .isTrue trivial

/-- `rpmsg_eptdev_destroy` ran at most once on each endpoint device. -/
def DropsLeOne (eptdevs : EptdevId → Option RpmsgEptdev) : Prop :=
  ∀ x d, eptdevs x = some d → d.drops ≤ 1

theorem DropsLeOne.update {eptdevs : EptdevId → Option RpmsgEptdev} (h : DropsLeOne eptdevs)
    (hd : d.drops ≤ 1) : DropsLeOne (Function.update eptdevs x (some d)) := by
  intro y d' hy
  rcases Maps.update_eq_some.1 hy with ⟨-, rfl⟩ | ⟨-, hy⟩
  · exact hd
  · exact h y d' hy

/-- The parent's removal destroys what is registered, so what was never destroyed. -/
theorem Routine.dropsLeOne (hmove : Routine s s') (hwf : s.Wf) (h : DropsLeOne s.eptdevs) :
    DropsLeOne s'.eptdevs := by
  cases hmove with
  | newVrp | bindNs | newChannel | setRpdev | setCtrldev | freeRpdev => exact h
  | newEptdev c ctrldev eptinfo => exact h.update (Nat.zero_le 1)
  | @drop x d s₁ hx href hreg hun =>
    have hzero : d.drops = 0 := (hwf.counted.registered hx).1 hreg
    rw [← hun.eptdevs] at h
    exact h.update (d := { d with ept := none }.drop)
      (by simp [RpmsgEptdev.drop, RpmsgEptdev.put, hzero])
  | @close f file d s₁ hf hx href hun =>
    have hd := h _ d hx
    rw [← hun.eptdevs] at h
    exact h.update (d := { d with ept := none }.put) hd
  | freeVrp hv hnone hns =>
    rcases destroyNsEpt_eq_ok hns with ⟨-, rfl⟩ | ⟨e, ept, -, -, rfl⟩ <;> exact h

theorem dropsLeOne_of_reaches (h : Reaches step DestroyedOnce init s) : DropsLeOne s.eptdevs := by
  refine invariant_of_reaches (P := fun s ↦ DropsLeOne s.eptdevs) (nofun)
    (fun hwf h hmove ↦ hmove.dropsLeOne hwf h) ?_ h
  intro s s' ev hwf h hguard hout hmoves
  cases hout with
  | oops | load => exact h
  | routine h => exact hmoves h
  | @opened x d f nonblock env v vp id hx =>
    exact h.update (d := { d.get with ept := some s.next }) (h x d hx)
  | @destroyed f file d s₁ hf hx href hun =>
    have hzero := hguard _ _ hf hx
    rw [← hun.eptdevs] at h
    exact h.update (d := { d with ept := none }.drop)
      (by simp [RpmsgEptdev.drop, RpmsgEptdev.put, hzero])

/-- An endpoint device nobody holds has no reference left, and the other way round. -/
theorem Wf.refs_eq_zero_iff (hwf : s.Wf) (hx : s.eptdevs x = some d) (hdrops : d.drops ≤ 1) :
    d.refs = 0 ↔ d.drops = 1 ∧ s.AllClosed x := by
  have hcounts := hwf.counted.refs hx hdrops
  constructor
  · intro hzero
    rw [hzero] at hcounts
    have hcreator : d.drops ≠ 0 := hcounts.not_of_zero none
    refine ⟨by omega, fun f file hf hfile ↦ hcounts.not_of_zero (some f) ⟨file, hf, hfile⟩⟩
  · rintro ⟨hone, hclosed⟩
    refine hcounts.unique (counts_zero fun holder ↦ ?_)
    rcases holder with - | f
    · simp [Holds, hone]
    · rintro ⟨file, hf, hfile⟩
      exact hclosed f file hf hfile

/-- **While no endpoint device is destroyed a second time by ioctl, the references are sound.** -/
theorem refsSound_of_reaches (h : Reaches step DestroyedOnce init s) : s.RefsSound := by
  have hdrops := dropsLeOne_of_reaches h
  have hwf := wf_of_reaches h
  refine ⟨hdrops, fun x d hx ↦ ?_, fun x d hx ↦ ?_⟩
  · rw [hwf.counted.releases hx]
    split <;> omega
  · rw [← hwf.refs_eq_zero_iff hx (hdrops x d hx), hwf.counted.releases hx]
    simp

/-- Two destroy ioctls on one file: the second puts the reference of the file, the endpoint device
is released, and the file is still open. -/
theorem refsSound_destroyed_twice : ¬ ∀ s, Reachable step init s → s.RefsSound := by
  intro h
  let view (s : Stack) := (s.eptdevs 4).map fun d ↦ (d.drops, d.releases, s.files 0)
  obtain ⟨s, hrun, hview⟩ := Option.map_eq_some_iff.1
    (show Option.map view (run step init
      (bringUp { name := [], src := RPMSG_ADDR_ANY, dst := 61 } ++
        [.eptOpen 4 0 false { kzalloc := true, nomem := false }, .destroyEpt 0, .destroyEpt 0])) =
        some (some (2, 1, some { eptdev := 4, nonblock := false })) by decide +kernel)
  obtain ⟨d, hx, hd⟩ := Option.map_eq_some_iff.1 hview
  have hdrops : d.drops = 2 := congrArg (·.1) hd
  have hle := (h s (reachable_of_run hrun)).dropped 4 d hx
  omega

/-- Two files, a destroy ioctl, and both are closed: one release. -/
theorem refsSound_destroyed_once :
    ∃ s, Reaches step DestroyedOnce init s ∧
      (s.eptdevs 4).map (fun d ↦ (d.drops, d.releases)) = some (1, 1) ∧ s.RefsSound := by
  let view (s : Stack) := (s.eptdevs 4).map fun d ↦ (d.drops, d.releases)
  obtain ⟨s, hrun, hview⟩ := Option.map_eq_some_iff.1
    (show Option.map view (runIf step (fun s ev ↦ decide (s.DestroyedOnce ev)) init
      (bringUp { name := [], src := RPMSG_ADDR_ANY, dst := 61 } ++
        [.eptOpen 4 0 false { kzalloc := true, nomem := false },
          .eptOpen 4 1 false { kzalloc := true, nomem := false },
          .destroyEpt 1, .eptClose 0, .eptClose 1])) = some (some (1, 1)) by decide +kernel)
  have hreaches : Reaches step DestroyedOnce init s :=
    reaches_of_runIf (fun _ _ ↦ of_decide_eq_true) hrun
  exact ⟨s, hreaches, hview, refsSound_of_reaches hreaches⟩

end Stack
