import DriverModules.Rpmsg.StackFiles

/-!
# The channels of a remote processor

What the events of the stack do to the channels: which remote processor a device belongs to, its
service name and its address at the remote end (`channelAt`). A channel keeps these from its
registration on, so an event adds a channel, takes some away or leaves them all
(`channelAt_of_exec`), and only an announcement and a removal of the remote processor do either.

`rpmsg_find_device` walks the children in the order they were registered in, and takes the first
that matches. `rpmsgFindDevice_eq_some` says so, and `NsOutcome` what an announcement comes to.

## What `channelAt` leaves out, and why `placeAt` is there

The driver of a device and its `driver_override` change during its life and are no part of its
identity. `placeAt` has beside the channels the devices without a remote processor: names are
compared over all devices of the bus, and service names only among the children of one remote
processor, so the two questions are asked of different maps. Of the state the lemmas take only that
its devices have ids below `next`.

## Main results, and what each rests on

* `placeAt_of_exec` and `channelAt_of_exec`: the three ways an event can go, from the functions of
  `Stack` and not from their moves, since it matters here which device goes.
* `nsOutcome`: the ways an announcement can go, by what `rpmsg_find_device` has found.
-/

open Transition

namespace Stack

variable {s s' : Stack} {v w : VrpId} {r q : RpdevId} {name : List UInt8} {dst : UInt32}

/-- What the device `r` keeps from its registration on: its remote processor, if it has one, its
name and its address at the remote end. -/
def placeAt (s : Stack) (r : RpdevId) : Option (Option VrpId × List UInt8 × UInt32) :=
  (s.rpdevs r).map fun rpdev ↦ (rpdev.parent, rpdev.name, rpdev.dst)

/-- The remote processor, the service name and the address of the channel `r`. -/
def channelAt (s : Stack) (r : RpdevId) : Option (VrpId × List UInt8 × UInt32) :=
  (s.placeAt r).bind fun place ↦ place.1.map fun v ↦ (v, place.2)

theorem channelAt_eq_some_iff_placeAt {k : List UInt8 × UInt32} :
    s.channelAt r = some (v, k) ↔ s.placeAt r = some (some v, k) := by
  rcases hr : s.placeAt r with - | ⟨- | w, k'⟩ <;> simp [channelAt, hr]

theorem channelAt_eq_some :
    s.channelAt r = some (v, name, dst) ↔
      ∃ rpdev, s.rpdevs r = some rpdev ∧ rpdev.parent = some v ∧ rpdev.name = name ∧
        rpdev.dst = dst := by
  rw [channelAt_eq_some_iff_placeAt]
  simp [placeAt]

theorem channelAt_congr (h : s'.placeAt = s.placeAt) : s'.channelAt = s.channelAt := by
  funext r
  rw [channelAt, channelAt, h]

/-! ### What the functions do to the devices -/

theorem placeAt_congr (h : s'.rpdevs = s.rpdevs) : s'.placeAt = s.placeAt := by
  funext r
  rw [placeAt, placeAt, h]

/-- A device that is changed keeps its place on the bus. -/
theorem placeAt_update {rpdev rpdev' : RpmsgDevice} (hr : s.rpdevs r = some rpdev)
    (h : s'.rpdevs = Function.update s.rpdevs r (some rpdev'))
    (hparent : rpdev'.parent = rpdev.parent) (hname : rpdev'.name = rpdev.name)
    (hdst : rpdev'.dst = rpdev.dst) : s'.placeAt = s.placeAt := by
  funext q
  rcases eq_or_ne q r with rfl | hne
  · simp [placeAt, h, hr, hparent, hname, hdst]
  · simp [placeAt, h, hne]

theorem placeAt_erase (h : s'.rpdevs = Function.update s.rpdevs r none) :
    s'.placeAt = Function.update s.placeAt r none := by
  funext q
  rcases eq_or_ne q r with rfl | hne
  · simp [placeAt, h]
  · simp [placeAt, h, hne]

theorem placeAt_addRpdev (rpdev : RpmsgDevice) :
    (s.addRpdev rpdev).placeAt =
      Function.update s.placeAt s.next (some (rpdev.parent, rpdev.name, rpdev.dst)) := by
  funext q
  rcases eq_or_ne q s.next with rfl | hne
  · simp [placeAt, addRpdev]
  · simp [placeAt, addRpdev, hne]

theorem channelAt_erase (h : s'.placeAt = Function.update s.placeAt r none) :
    s'.channelAt = Function.update s.channelAt r none := by
  funext q
  rcases eq_or_ne q r with rfl | hne
  · simp [channelAt, h]
  · simp [channelAt, h, hne]

theorem channelAt_addRpdev (v : VrpId) (chinfo : RpmsgChannelInfo) :
    (s.addRpdev (rpmsgChannel v chinfo)).channelAt =
      Function.update s.channelAt s.next
        (some (v, strn RPMSG_NAME_SIZE chinfo.name, chinfo.dst)) := by
  funext q
  rcases eq_or_ne q s.next with rfl | hne
  · simp [channelAt, placeAt_addRpdev, rpmsgChannel]
  · simp [channelAt, placeAt_addRpdev, hne]

/-- The device of the module itself belongs to no remote processor. -/
theorem channelAt_addRpdev_chrdev (hnew : s.rpdevs s.next = none) :
    (s.addRpdev rpmsgChrdev).channelAt = s.channelAt := by
  funext q
  rcases eq_or_ne q s.next with rfl | hne
  · have hnone : s.placeAt s.next = none := by rw [placeAt, hnew]; rfl
    simp [channelAt, placeAt_addRpdev, rpmsgChrdev, hnone]
  · simp [channelAt, placeAt_addRpdev, hne]

theorem rpmsgChrdevRemove_placeAt {c : CtrldevId} (h : s.rpmsgChrdevRemove r c = .ok s') :
    s'.placeAt = s.placeAt := by
  obtain ⟨-, hrpdevs⟩ := rpmsgChrdevRemove_eq_ok h
  rcases hr : s.rpdevs r with - | rpdev
  · refine placeAt_congr ?_
    rw [hrpdevs, hr, Option.map_none, ← hr, Function.update_eq_self]
  · rw [hr, Option.map_some] at hrpdevs
    exact placeAt_update hr hrpdevs rfl rfl rfl

/-- `device_unregister` takes one device away and leaves the others as they are. -/
theorem deviceUnregister_rpdevs (h : s.deviceUnregister r = .ok s') :
    s'.rpdevs = Function.update s.rpdevs r none := by
  obtain ⟨s₁, hs₁, hs'⟩ := Folds.bind_eq_ok.1 h
  cases hs'
  obtain ⟨-, hkeep⟩ := rpmsgDevRemove_eq_ok hs₁
  funext q
  rcases eq_or_ne q r with rfl | hne
  · simp [setRpdev]
  · simp [setRpdev, hne, hkeep q hne]

/-- The loop of `rpmsg_remove` takes away the devices of its list. -/
theorem placeAt_of_foldlM {l : List RpdevId} (h : l.foldlM deviceUnregister s = .ok s')
    (r : RpdevId) : s'.placeAt r = if r ∈ l then none else s.placeAt r := by
  induction l generalizing s with
  | nil =>
    rw [Folds.foldlM_nil_eq_ok h]
    simp
  | cons q l ih =>
    obtain ⟨s₁, hq, hl⟩ := Folds.foldlM_cons_eq_ok h
    rw [ih hl, placeAt_erase (deviceUnregister_rpdevs hq), Function.update_apply]
    by_cases hr : r = q <;> simp [hr]

/-- The devices of the list are the channels of `v`. -/
theorem mem_channelsOf (hlt : ∀ r rpdev, s.rpdevs r = some rpdev → r < s.next) :
    r ∈ s.channelsOf v ↔ ∃ k, s.placeAt r = some (some v, k) := by
  simp only [channelsOf, List.mem_filter, List.mem_range, Option.any_eq_true, beq_iff_eq, placeAt,
    Option.map_eq_some_iff, Prod.mk.injEq]
  constructor
  · rintro ⟨-, rpdev, hr, hparent⟩
    exact ⟨_, rpdev, hr, hparent, rfl⟩
  · rintro ⟨k, rpdev, hr, hparent, -⟩
    exact ⟨hlt r rpdev hr, rpdev, hr, hparent⟩

/-- `rpmsg_remove` takes the channels of its remote processor away, and no other device. -/
theorem rpmsgRemove_placeAt (hlt : ∀ r rpdev, s.rpdevs r = some rpdev → r < s.next)
    (h : s.rpmsgRemove v = .ok s') {parent : Option VrpId} {k : List UInt8 × UInt32} :
    s'.placeAt r = some (parent, k) ↔ parent ≠ some v ∧ s.placeAt r = some (parent, k) := by
  obtain ⟨s₁, hfold, hrest⟩ := Folds.bind_eq_ok.1 h
  have hsame : s'.rpdevs = s₁.rpdevs := by
    rcases hv : s₁.vrps v with - | vp
    · simp [hv] at hrest
    · simp only [hv] at hrest
      obtain ⟨s₂, hs₂, hs'⟩ := Folds.bind_eq_ok.1 hrest
      cases hs'
      rcases destroyNsEpt_eq_ok hs₂ with ⟨-, rfl⟩ | ⟨e, ept, -, -, rfl⟩ <;> rfl
  rw [placeAt_congr hsame, placeAt_of_foldlM hfold]
  by_cases hr : r ∈ s.channelsOf v
  · rw [if_pos hr]
    obtain ⟨k', hr'⟩ := (mem_channelsOf hlt).1 hr
    rw [hr']
    simp only [reduceCtorEq, Option.some.injEq, Prod.mk.injEq, false_iff, not_and]
    exact fun hne hv ↦ absurd hv.symm hne
  · rw [if_neg hr]
    refine (and_iff_right_of_imp fun hr' ↦ ?_).symm
    rintro rfl
    exact hr ((mem_channelsOf hlt).2 ⟨k, hr'⟩)

theorem rpmsgRemove_channelAt (hlt : ∀ r rpdev, s.rpdevs r = some rpdev → r < s.next)
    (h : s.rpmsgRemove v = .ok s') {k : List UInt8 × UInt32} :
    s'.channelAt r = some (w, k) ↔ w ≠ v ∧ s.channelAt r = some (w, k) := by
  rw [channelAt_eq_some_iff_placeAt, channelAt_eq_some_iff_placeAt, rpmsgRemove_placeAt hlt h,
    ne_eq, ne_eq, Option.some.injEq]

/-- **Only a load, an announcement and a removal change the devices' places.** -/
theorem placeAt_of_exec {ev : StackEvent} (h : s.exec ev = some (.ok s'))
    (hload : ∀ registered, ev ≠ .load registered)
    (hns : ∀ v msg len registered, ev ≠ .nsMessage v msg len registered)
    (hremove : ∀ v, ev ≠ .remove v) : s'.placeAt = s.placeAt := by
  cases ev with
  | load registered => exact absurd rfl (hload registered)
  | probe env =>
    cases h
    refine placeAt_congr ?_
    unfold rpmsgProbe
    split
    · dsimp only
      split
      · split
        · split
          · rfl
          · next hcreate =>
            obtain ⟨-, rfl, id, -, -, -, rfl⟩ := rpmsgCreateEptOn_eq_some hcreate
            rfl
        · rfl
      · rfl
    · rfl
  | remove v => exact absurd rfl (hremove v)
  | nsMessage v msg len registered => exact absurd rfl (hns v msg len registered)
  | driverOverride r buf nomem =>
    obtain ⟨rpdev, hr, hstore⟩ := Option.map_eq_some_iff.1 h
    cases hstore
    split
    · rfl
    · exact placeAt_update hr rfl rfl rfl rfl
  | bind r probed =>
    obtain ⟨rpdev, hr, hbind⟩ := Option.bind_eq_some_iff.1 h
    split at hbind <;> cases hbind
    split
    · exact placeAt_update hr rfl rfl rfl rfl
    · rfl
  | unbind r =>
    obtain ⟨c, hc, hremove⟩ := Option.map_eq_some_iff.1 h
    unfold rpmsgDevRemove at hremove
    rw [hc] at hremove
    exact rpmsgChrdevRemove_placeAt hremove
  | createEpt c eptinfo created =>
    obtain ⟨ctrldev, hc, hcreate⟩ := Option.bind_eq_some_iff.1 h
    split at hcreate
    · split at hcreate <;> cases hcreate
      rfl
    · cases hcreate
      rfl
  | eptOpen x f nonblock env =>
    obtain ⟨d, hx, hopen⟩ := Option.bind_eq_some_iff.1 h
    split at hopen
    case isFalse => cases hopen
    case isTrue hcond =>
      rcases rpmsgEptdevOpen_eq_ok hx hcond.1 (Option.some.inj hopen) with
        rfl | ⟨v, vp, id, -, -, -, -, -, rfl⟩ <;> rfl
  | eptClose f =>
    obtain ⟨file, -, hclose⟩ := Option.map_eq_some_iff.1 h
    obtain ⟨d, s₁, -, -, hun, rfl⟩ := rpmsgEptdevRelease_eq_ok hclose
    exact placeAt_congr hun.rpdevs
  | destroyEpt f =>
    obtain ⟨file, -, hdestroy⟩ := Option.map_eq_some_iff.1 h
    obtain ⟨d, s₁, -, -, hun, rfl⟩ := rpmsgEptdevDestroy_eq_ok hdestroy
    exact placeAt_congr hun.rpdevs

/-- **Only an announcement and a removal change the channels.** -/
theorem channelAt_of_exec {ev : StackEvent} (hnew : s.rpdevs s.next = none)
    (h : s.exec ev = some (.ok s')) (hns : ∀ v msg len registered,
      ev ≠ .nsMessage v msg len registered) (hremove : ∀ v, ev ≠ .remove v) :
    s'.channelAt = s.channelAt := by
  by_cases hload : ∃ registered, ev = .load registered
  · obtain ⟨registered, rfl⟩ := hload
    cases h
    split
    · exact channelAt_addRpdev_chrdev hnew
    · rfl
  · exact channelAt_congr (placeAt_of_exec h (fun b hb ↦ hload ⟨b, hb⟩) hns hremove)

/-! ### Looking a channel up -/

/-- `r` is a channel of `v` that matches. -/
def Matches (s : Stack) (v : VrpId) (chinfo : RpmsgChannelInfo) (r : RpdevId) : Prop :=
  ∃ rpdev, s.rpdevs r = some rpdev ∧ rpdev.parent = some v ∧ rpmsgDeviceMatch chinfo rpdev = true

theorem matches_iff (hlt : ∀ r rpdev, s.rpdevs r = some rpdev → r < s.next)
    {chinfo : RpmsgChannelInfo} :
    s.Matches v chinfo r ↔
      r < s.next ∧ (s.rpdevs r).any (fun rpdev ↦ rpdev.parent == some v) = true ∧
        (s.rpdevs r).any (rpmsgDeviceMatch chinfo) = true := by
  rcases hr : s.rpdevs r with - | rpdev
  · simp [Matches, hr]
  · simp [Matches, hr, hlt r rpdev hr]

/-- **`rpmsg_find_device` finds the first match**, in the order of registration. -/
theorem rpmsgFindDevice_eq_some (hlt : ∀ r rpdev, s.rpdevs r = some rpdev → r < s.next)
    {chinfo : RpmsgChannelInfo} :
    s.rpmsgFindDevice v chinfo = some r ↔
      s.Matches v chinfo r ∧ ∀ q < r, ¬ s.Matches v chinfo q := by
  rw [rpmsgFindDevice, channelsOf, List.find?_filter, List.find?_range_eq_some]
  simp only [matches_iff hlt, List.mem_range, decide_eq_true_eq, Bool.not_eq_true',
    decide_eq_false_iff_not]
  constructor
  · rintro ⟨hm, hr, hmin⟩
    exact ⟨⟨hr, hm⟩, fun q hq hq' ↦ hmin q hq hq'.2⟩
  · rintro ⟨⟨hr, hm⟩, hmin⟩
    exact ⟨hm, hr, fun q hq hm' ↦ hmin q hq ⟨hq.trans hr, hm'⟩⟩

theorem rpmsgFindDevice_eq_none (hlt : ∀ r rpdev, s.rpdevs r = some rpdev → r < s.next)
    {chinfo : RpmsgChannelInfo} :
    s.rpmsgFindDevice v chinfo = none ↔ ∀ r, ¬ s.Matches v chinfo r := by
  rw [rpmsgFindDevice, channelsOf, List.find?_filter, List.find?_eq_none]
  simp only [matches_iff hlt, List.mem_range, decide_eq_true_eq]
  exact ⟨fun h r hr ↦ h r hr.1 hr.2, fun h r hr hm ↦ h r ⟨hr, hm⟩⟩

/-! ### An announcement -/

/-- What an announcement comes to. -/
inductive NsOutcome (s : Stack) (v : VrpId) (msg : RpmsgNsMsg) (len : ℕ) (registered : Bool) :
    Stack → Prop
  | malformed : len ≠ RpmsgNsMsg.size → NsOutcome s v msg len registered s
  | known (r : RpdevId) : len = RpmsgNsMsg.size → msg.flags &&& RPMSG_NS_DESTROY = 0 →
    s.rpmsgFindDevice v (nsChinfo msg) = some r → NsOutcome s v msg len registered s
  | refused : len = RpmsgNsMsg.size → msg.flags &&& RPMSG_NS_DESTROY = 0 →
    s.rpmsgFindDevice v (nsChinfo msg) = none → registered = false →
      NsOutcome s v msg len registered s
  | created : len = RpmsgNsMsg.size → msg.flags &&& RPMSG_NS_DESTROY = 0 →
    s.rpmsgFindDevice v (nsChinfo msg) = none → registered = true →
      NsOutcome s v msg len registered (s.addRpdev (rpmsgChannel v (nsChinfo msg)))
  | absent : len = RpmsgNsMsg.size → msg.flags &&& RPMSG_NS_DESTROY ≠ 0 →
    s.rpmsgFindDevice v (nsChinfo msg) = none → NsOutcome s v msg len registered s
  | destroyed (r : RpdevId) (s' : Stack) : len = RpmsgNsMsg.size →
    msg.flags &&& RPMSG_NS_DESTROY ≠ 0 → s.rpmsgFindDevice v (nsChinfo msg) = some r →
    s'.rpdevs = Function.update s.rpdevs r none → NsOutcome s v msg len registered s'

theorem nsOutcome {msg : RpmsgNsMsg} {len : ℕ} {registered : Bool}
    (h : s.rpmsgNsCb v msg len registered = .ok s') : NsOutcome s v msg len registered s' := by
  unfold rpmsgNsCb at h
  split at h
  case isTrue hlen =>
    cases h
    exact .malformed hlen
  case isFalse hlen =>
    rw [not_not] at hlen
    split at h
    case isTrue hflags =>
      rcases hfind : s.rpmsgFindDevice v (nsChinfo msg) with - | r
      · simp only [rpmsgUnregisterDevice, hfind] at h
        cases h
        exact .absent hlen hflags hfind
      · simp only [rpmsgUnregisterDevice, hfind] at h
        exact .destroyed r s' hlen hflags hfind (deviceUnregister_rpdevs h)
    case isFalse hflags =>
      rw [not_not] at hflags
      cases h
      rcases hfind : s.rpmsgFindDevice v (nsChinfo msg) with - | r
      · cases registered
        · simpa [rpmsgCreateChannel, hfind] using .refused hlen hflags hfind rfl
        · simpa [rpmsgCreateChannel, hfind] using .created hlen hflags hfind rfl
      · simpa [rpmsgCreateChannel, hfind] using .known r hlen hflags hfind

end Stack
