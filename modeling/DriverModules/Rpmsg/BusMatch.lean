import DriverModules.Lib.FirstFit
import DriverModules.Lib.Transition
import DriverModules.Rpmsg.DriverOverride

/-!
# Which driver a device of the bus gets

`rpmsg_dev_match` lets the driver override decide if there is one, and the id table and the device
tree otherwise. The driver core asks it when a device or a driver is registered: a new device is
offered to the drivers in the order of their registration, until the probe of one succeeds, and a
new driver is offered every device without a driver. Nobody asks again when `driver_override` is
written or a driver goes away.

## Main results, and what each rests on

* `BusDriver.rpmsgDevMatch_iff`: which drivers a device is for (`BusDriver.IsFor`), without the loop
  and its way out at an empty name. The results below speak about these drivers, so it is here that
  they rest on what `rpmsg_dev_match` does.
* `settled_iff`: the runs that leave every device with the driver it should have, the first that is
  meant for it and whose probe has not failed. Whom the core asks, and in what order, is a matter of
  seats that are offered (`Seat.settled_offer`); that the drivers have different names keeps two of
  them apart.
* `driver_eq_find?`: in such a run it does not matter who came first, the device or the driver, as
  long as a probe always answers the same.
-/

open Transition

/-- The part of `struct rpmsg_driver` that `rpmsg_dev_match` reads. -/
structure BusDriver where
  /-- `drv.name`. -/
  name : List UInt8
  /-- The names in `id_table`, which may be `NULL`. -/
  idTable : Option (List (List UInt8))
  deriving DecidableEq, Repr

/-- `rpmsg_id_match`. -/
def rpmsgIdMatch (rpdev : RpmsgDevice) (id : List UInt8) : Bool :=
  decide (strn RPMSG_NAME_SIZE id = strn RPMSG_NAME_SIZE rpdev.name)

/-- The loop of `rpmsg_dev_match` over the id table, which ends at an empty name. -/
def idTableMatch (rpdev : RpmsgDevice) : List (List UInt8) → Bool
  | [] => false
  | id :: ids =>
    if id.headD 0 = 0 then false
    else if rpmsgIdMatch rpdev id then true
    else idTableMatch rpdev ids

/-- `rpmsg_dev_match`; `of` is what `of_driver_match_device` returns. -/
def BusDriver.rpmsgDevMatch (drv : BusDriver) (rpdev : RpmsgDevice) (of : Bool) : Bool :=
  match rpdev.driverOverride with
  | some text => decide (text = drv.name)
  | none =>
    match drv.idTable with
    | some ids => if idTableMatch rpdev ids then true else of
    | none => of

/-- The devices a driver is meant for. -/
structure BusDriver.IsFor (drv : BusDriver) (rpdev : RpmsgDevice) (of : Bool) : Prop where
  /-- A driver override names the driver. -/
  override : ∀ text ∈ rpdev.driverOverride, text = drv.name
  /-- Without one, the device tree does, or the service is in the id table before its end. -/
  service : rpdev.driverOverride = none → of = true ∨
    ∃ ids ∈ drv.idTable, ∃ id ∈ ids.takeWhile fun id ↦ id.headD 0 ≠ 0,
      strn RPMSG_NAME_SIZE id = strn RPMSG_NAME_SIZE rpdev.name

theorem idTableMatch_iff {rpdev : RpmsgDevice} (ids : List (List UInt8)) :
    idTableMatch rpdev ids = true ↔ ∃ id ∈ ids.takeWhile fun id ↦ id.headD 0 ≠ 0,
      strn RPMSG_NAME_SIZE id = strn RPMSG_NAME_SIZE rpdev.name := by
  induction ids with
  | nil => exact iff_of_false Bool.false_ne_true fun ⟨_, h, _⟩ ↦ absurd h List.not_mem_nil
  | cons id ids ih =>
    rw [idTableMatch, List.takeWhile_cons]
    by_cases hend : id.headD 0 = 0
    · rw [if_pos hend, if_neg (by simpa only [decide_eq_true_eq, not_not] using hend)]
      exact iff_of_false Bool.false_ne_true fun ⟨_, h, _⟩ ↦ absurd h List.not_mem_nil
    · rw [if_neg hend, if_pos (decide_eq_true hend), List.exists_mem_cons_iff, ← ih, rpmsgIdMatch]
      simp only [Bool.if_true_left, Bool.or_eq_true, decide_eq_true_eq]

/-- **`rpmsg_dev_match` finds the drivers that are meant for the device.** -/
theorem BusDriver.rpmsgDevMatch_iff {drv : BusDriver} {rpdev : RpmsgDevice} {of : Bool} :
    drv.rpmsgDevMatch rpdev of = true ↔ drv.IsFor rpdev of := by
  rcases hover : rpdev.driverOverride with - | text
  · have hservice : drv.rpmsgDevMatch rpdev of = true ↔
        of = true ∨ ∃ ids ∈ drv.idTable, idTableMatch rpdev ids = true := by
      rcases htable : drv.idTable with - | ids <;> simp [rpmsgDevMatch, hover, htable, or_comm]
    simp only [hservice, idTableMatch_iff]
    exact ⟨fun h ↦ ⟨fun text htext ↦ (by cases hover.symm.trans htext), fun _ ↦ h⟩,
      fun h ↦ h.service hover⟩
  · rw [rpmsgDevMatch, hover]
    refine ⟨fun h ↦ ⟨fun text' htext ↦ ?_, fun hnone ↦ nomatch hover.symm.trans hnone⟩,
      fun h ↦ decide_eq_true (h.override text hover)⟩
    obtain rfl := Option.some.inj (hover.symm.trans htext)
    exact of_decide_eq_true h

instance (drv : BusDriver) (rpdev : RpmsgDevice) (of : Bool) : Decidable (drv.IsFor rpdev of) :=
  decidable_of_iff _ drv.rpmsgDevMatch_iff

/-- `rpmsg_chrdev_driver`. -/
def rpmsgChrdevDriver : BusDriver := ⟨RPMSG_CHRDEV, none⟩

/-- The driver of `rpmsg_char.c` is matched as in the other modules, outside of a device tree. -/
theorem rpmsgChrdevDriver_match (rpdev : RpmsgDevice) :
    rpmsgChrdevDriver.rpmsgDevMatch rpdev false = rpmsgDevMatch rpdev := by
  rcases h : rpdev.driverOverride with - | text <;>
    simp only [BusDriver.rpmsgDevMatch, rpmsgDevMatch, rpmsgChrdevDriver, h]
  · rfl
  · exact decide_eq_decide.2 Option.some_inj.symm

/-- A device on the bus: `dev.driver`, and the drivers whose probe failed last. -/
structure OnBus where
  rpdev : RpmsgDevice
  seat : Seat BusDriver

structure BusState where
  /-- In the order of their registration. -/
  drivers : List BusDriver
  rpdevs : RpdevId → Option OnBus

inductive BusEvent
  /-- `rpmsg_register_device`, with the answers of the probes. -/
  | registerDevice (r : RpdevId) (rpdev : RpmsgDevice) (probe : BusDriver → Bool)
  /-- `device_unregister`. -/
  | unregisterDevice (r : RpdevId)
  /-- `__register_rpmsg_driver`, with the answers of its probe. -/
  | registerDriver (drv : BusDriver) (probe : RpdevId → Bool)
  /-- `unregister_rpmsg_driver`. -/
  | unregisterDriver (drv : BusDriver)
  /-- A write to the `driver_override` of the device. -/
  | store (r : RpdevId) (ev : StoreEvent)
  /-- A write to the `bind` file of the driver, and to its `unbind` file. -/
  | bind (r : RpdevId) (drv : BusDriver) (probe : Bool)
  | unbind (r : RpdevId)

/-- The probes of this step answer as `accepts` says. -/
def BusEvent.Answers (accepts : RpdevId → BusDriver → Bool) : BusEvent → Prop
  | .registerDevice r _ probe => ∀ drv, probe drv = accepts r drv
  | .registerDriver drv probe => ∀ r, probe r = accepts r drv
  | .bind r drv probe => probe = accepts r drv
  | _ => True

namespace BusState

def init : BusState := ⟨[], fun _ ↦ none⟩

section Step

variable (of : RpdevId → BusDriver → Bool)

/-- Whether a driver matches the device `r`; `of` is the device tree. -/
def fits (r : RpdevId) (d : OnBus) (drv : BusDriver) : Bool :=
  drv.rpmsgDevMatch d.rpdev (of r drv)

def setDev (s : BusState) (r : RpdevId) (d : Option OnBus) : BusState :=
  { s with rpdevs := Function.update s.rpdevs r d }

/-- The driver core offers the device to drivers, as long as it has none. -/
def attach (r : RpdevId) (probe : BusDriver → Bool) (drvs : List BusDriver) (d : OnBus) : OnBus :=
  if d.seat.holder.isNone then { d with seat := Seat.offer (fits of r d) probe drvs d.seat } else d

/-- `driver_register`, which does not take two drivers of one name. -/
def driverRegister (s : BusState) (drv : BusDriver) (probe : RpdevId → Bool) : BusState :=
  if drv.name ∈ s.drivers.map BusDriver.name then s
  else
    { drivers := s.drivers ++ [drv]
      rpdevs := fun r ↦ (s.rpdevs r).map (attach of r (fun _ ↦ probe r) [drv]) }

/-- `driver_unregister`: the driver leaves its devices. -/
def driverUnregister (s : BusState) (drv : BusDriver) : BusState where
  drivers := s.drivers.filter (· ≠ drv)
  rpdevs r := (s.rpdevs r).map fun d ↦ { d with seat := d.seat.forget drv }

/-- What happens to one device that is there. -/
def update (s : BusState) (r : RpdevId) (f : OnBus → OnBus) : BusState :=
  s.setDev r ((s.rpdevs r).map f)

/-- One step; an id stands for one object at a time. -/
def step (s : BusState) : BusEvent → Option BusState
  | .registerDevice r rpdev probe =>
    if (s.rpdevs r).isSome then some s
    else some (s.setDev r (some (attach of r probe s.drivers ⟨rpdev, .empty⟩)))
  | .unregisterDevice r => some (s.setDev r none)
  | .registerDriver drv probe => some (s.driverRegister of drv probe)
  | .unregisterDriver drv => some (s.driverUnregister drv)
  | .store r ev => some (s.update r fun d ↦ { d with rpdev := d.rpdev.afterStore ev })
  | .bind r drv probe =>
    if drv ∈ s.drivers then some (s.update r (attach of r (fun _ ↦ probe) [drv])) else some s
  | .unbind r => some (s.update r fun d ↦ { d with seat := d.seat.vacate })

/-- Whether a driver is meant for the device `r`. -/
def selects (r : RpdevId) (d : OnBus) (drv : BusDriver) : Bool :=
  decide (drv.IsFor d.rpdev (of r drv))

/-- Every device has the first driver that is meant for it and whose probe has not failed. -/
def Settled (s : BusState) : Prop :=
  ∀ r d, s.rpdevs r = some d → d.seat.Settled (selects of r d) s.drivers

/-- What the driver core does not make up for: a text that takes its driver from a device, or names
one that was not asked; a driver that leaves a device while another one is meant for it; an
unbinding. -/
def Undisturbed (s : BusState) : BusEvent → Prop
  | .store r ev => ∀ d, s.rpdevs r = some d →
      let d' : OnBus := { d with rpdev := d.rpdev.afterStore ev }
      (∀ drv, d.seat.holder = some drv → selects of r d' drv = true) ∧
        ∀ drv ∈ d.seat.ahead s.drivers, selects of r d' drv = true → drv ∈ d.seat.refusals
  | .unregisterDriver drv => ∀ r d, s.rpdevs r = some d → d.seat.holder = some drv →
      ∀ drv' ∈ s.drivers, drv' ≠ drv → selects of r d drv' = true → drv' ∈ d.seat.refusals
  | .unbind r => ∀ d, s.rpdevs r = some d → d.seat.holder = none
  | _ => True

end Step

variable {of : RpdevId → BusDriver → Bool} {s s' : BusState} {r : RpdevId}

theorem exists_run (s : BusState) (evs : List BusEvent) : ∃ s', run (step of) s evs = some s' := by
  induction evs generalizing s with
  | nil => exact ⟨s, rfl⟩
  | cons ev evs ih =>
    obtain ⟨s₁, hs₁⟩ : ∃ s₁, step of s ev = some s₁ := by
      cases ev <;> simp only [step] <;> try split
      all_goals exact ⟨_, rfl⟩
    obtain ⟨s', hs'⟩ := ih s₁
    exact ⟨s', by rw [run_cons, hs₁]; exact hs'⟩

/-! ### One device -/

section Device

variable {d : OnBus} {probe : BusDriver → Bool} {drvs drvs' : List BusDriver} {drv : BusDriver}

@[simp] theorem rpdev_attach : (attach of r probe drvs d).rpdev = d.rpdev := by
  rw [attach]
  split <;> rfl

theorem selects_congr {d' : OnBus} (h : d'.rpdev = d.rpdev) : selects of r d' = selects of r d := by
  funext drv
  rw [selects, selects, h]

theorem fits_eq_selects : fits of r d = selects of r d :=
  funext fun drv ↦ Bool.eq_iff_iff.2 (drv.rpmsgDevMatch_iff.trans decide_eq_true_iff.symm)

/-- New drivers are asked about a device without a driver, and do not disturb one that has one. -/
theorem settled_attach (h : d.seat.Settled (selects of r d) drvs) (hnodup : (drvs ++ drvs').Nodup) :
    (attach of r probe drvs' d).seat.Settled (selects of r (attach of r probe drvs' d))
      (drvs ++ drvs') := by
  rw [selects_congr rpdev_attach, attach, fits_eq_selects]
  rcases hholder : d.seat.holder with - | drv
  · exact Seat.settled_offer h hholder hnodup
  · exact Seat.settled_append h hholder

theorem settled_attach_mem (h : d.seat.Settled (selects of r d) drvs) (hmem : drv ∈ drvs) :
    (attach of r probe [drv] d).seat.Settled (selects of r (attach of r probe [drv] d)) drvs := by
  rw [selects_congr rpdev_attach, attach, fits_eq_selects]
  rcases hholder : d.seat.holder with - | drv'
  · exact Seat.settled_offer_mem h hholder hmem
  · exact h

end Device

/-- Only the device `r` is another one. -/
theorem rpdevs_setDev {d : Option OnBus} {r' : RpdevId} {d' : OnBus}
    (h : (s.setDev r d).rpdevs r' = some d') :
    r' = r ∧ d = some d' ∨ s.rpdevs r' = some d' := by
  change Function.update s.rpdevs r d r' = some d' at h
  by_cases hr : r' = r
  · subst hr
    exact .inl ⟨rfl, by rwa [Function.update_self] at h⟩
  · exact .inr (by rwa [Function.update_of_ne hr] at h)

/-- One device changes. -/
theorem settled_update_iff {f : OnBus → OnBus} (h : s.Settled of) :
    (s.update r f).Settled of ↔
      ∀ d, s.rpdevs r = some d → (f d).seat.Settled (selects of r (f d)) s.drivers := by
  constructor
  · intro hf d hd
    refine hf r (f d) ?_
    simp only [update, setDev, Function.update_self, hd, Option.map_some]
  · intro hf r' d' hd'
    rcases rpdevs_setDev hd' with ⟨rfl, hmap⟩ | hd'
    · obtain ⟨d, hd, rfl⟩ := Option.map_eq_some_iff.1 hmap
      exact hf d hd
    · exact h r' d' hd'

/-! ### The steps -/

/-- The names of the drivers are distinct. -/
def DistinctNames (s : BusState) : Prop :=
  (s.drivers.map BusDriver.name).Nodup

theorem DistinctNames.step {ev : BusEvent} (h : s.DistinctNames) (hs : s.step of ev = some s') :
    s'.DistinctNames := by
  have hsame (s' : BusState) (heq : s'.drivers = s.drivers) : s'.DistinctNames := by
    rwa [DistinctNames, heq]
  cases ev with
  | registerDriver drv probe =>
    obtain rfl := Option.some.inj hs
    by_cases hname : drv.name ∈ s.drivers.map BusDriver.name
    · rwa [driverRegister, if_pos hname]
    · rw [driverRegister, if_neg hname, DistinctNames, List.map_append]
      exact h.append (List.nodup_singleton _) (List.disjoint_singleton.2 hname)
  | unregisterDriver drv =>
    obtain rfl := Option.some.inj hs
    exact h.sublist (List.filter_sublist.map _)
  | registerDevice r rpdev probe =>
    rw [BusState.step] at hs
    split at hs <;> obtain rfl := Option.some.inj hs
    · exact h
    · exact hsame _ rfl
  | bind r drv probe =>
    rw [BusState.step] at hs
    split at hs <;> obtain rfl := Option.some.inj hs
    · exact hsame _ rfl
    · exact h
  | unregisterDevice r => exact (Option.some.inj hs) ▸ hsame _ rfl
  | store r ev => exact (Option.some.inj hs) ▸ hsame _ rfl
  | unbind r => exact (Option.some.inj hs) ▸ hsame _ rfl

/-- A new device is offered to everybody. -/
theorem settled_registerDevice {rpdev : RpmsgDevice} {probe : BusDriver → Bool}
    (h : s.Settled of) (hnames : s.DistinctNames) :
    (s.setDev r (some (attach of r probe s.drivers ⟨rpdev, .empty⟩))).Settled of := by
  intro r' d' hd'
  rcases rpdevs_setDev hd' with ⟨rfl, hnew⟩ | hd'
  · obtain rfl := Option.some.inj hnew
    have hnodup : ([] ++ s.drivers).Nodup := List.Nodup.of_map _ hnames
    exact settled_attach Seat.settled_empty hnodup
  · exact h r' d' hd'

theorem settled_unregisterDevice (h : s.Settled of) : (s.setDev r none).Settled of := by
  intro r' d' hd'
  rcases rpdevs_setDev hd' with ⟨-, hnone⟩ | hd'
  · cases hnone
  · exact h r' d' hd'

/-- A new driver is offered every device without one. -/
theorem settled_driverRegister {drv : BusDriver} {probe : RpdevId → Bool} (h : s.Settled of)
    (hnames : s.DistinctNames) : (s.driverRegister of drv probe).Settled of := by
  by_cases hname : drv.name ∈ s.drivers.map BusDriver.name
  · rwa [driverRegister, if_pos hname]
  · rw [driverRegister, if_neg hname]
    intro r d' hd'
    obtain ⟨d, hd, rfl⟩ := Option.map_eq_some_iff.1 hd'
    refine settled_attach (h r d hd) ?_
    have hnot : drv ∉ s.drivers := fun hmem ↦ hname (List.mem_map_of_mem hmem)
    exact (List.Nodup.of_map _ hnames).append (List.nodup_singleton _)
      (List.disjoint_singleton.2 hnot)

/-- A driver goes. -/
theorem settled_driverUnregister_iff {drv : BusDriver} (h : s.Settled of) :
    (s.driverUnregister drv).Settled of ↔ s.Undisturbed of (.unregisterDriver drv) := by
  constructor
  · intro hf r d hd hholder
    have hdev := hf r { d with seat := d.seat.forget drv } (by simp only [driverUnregister, hd,
      Option.map_some])
    exact (Seat.settled_forget_holder_iff hholder).1 hdev
  · intro hgood r d' hd'
    obtain ⟨d, hd, rfl⟩ := Option.map_eq_some_iff.1 hd'
    by_cases hholder : d.seat.holder = some drv
    · exact (Seat.settled_forget_holder_iff hholder).2 (hgood r d hd hholder)
    · exact Seat.settled_forget (h r d hd) hholder

/-- **One step keeps the bus settled exactly when it is an undisturbed one.** -/
theorem settled_step_iff {ev : BusEvent} (h : s.Settled of) (hnames : s.DistinctNames)
    (hs : s.step of ev = some s') : s'.Settled of ↔ s.Undisturbed of ev := by
  cases ev with
  | registerDevice r rpdev probe =>
    rw [step] at hs
    split at hs <;> obtain rfl := Option.some.inj hs
    · exact iff_of_true h trivial
    · exact iff_of_true (settled_registerDevice h hnames) trivial
  | unregisterDevice r =>
    obtain rfl := Option.some.inj hs
    exact iff_of_true (settled_unregisterDevice h) trivial
  | registerDriver drv probe =>
    obtain rfl := Option.some.inj hs
    exact iff_of_true (settled_driverRegister h hnames) trivial
  | unregisterDriver drv =>
    obtain rfl := Option.some.inj hs
    exact settled_driverUnregister_iff h
  | store r ev =>
    obtain rfl := Option.some.inj hs
    rw [settled_update_iff h]
    -- the driver it has stays registered, so only the matching is in question
    refine forall₂_congr fun d hd ↦ ⟨fun hf ↦ ?_, fun hgood ↦ ?_⟩
    · exact ⟨fun drv hdrv ↦ (hf.holder drv hdrv).2, hf.passed⟩
    · exact ⟨fun drv hdrv ↦ ⟨((h r d hd).holder drv hdrv).1, hgood.1 drv hdrv⟩, hgood.2⟩
  | bind r drv probe =>
    rw [step] at hs
    split at hs <;> obtain rfl := Option.some.inj hs
    · next hmem =>
      refine iff_of_true ((settled_update_iff h).2 fun d hd ↦ ?_) trivial
      exact settled_attach_mem (h r d hd) hmem
    · exact iff_of_true h trivial
  | unbind r =>
    obtain rfl := Option.some.inj hs
    rw [settled_update_iff h]
    refine forall₂_congr fun d hd ↦ ⟨fun hf ↦ ?_, fun hnone ↦ ?_⟩
    · rcases hholder : d.seat.holder with - | drv
      · rfl
      · exact absurd hf (Seat.not_settled_vacate (h r d hd) hholder)
    · rw [Seat.vacate_of_none hnone]
      exact h r d hd

theorem settled_init : init.Settled of := fun _ _ hd ↦ by cases hd

/-- **Every device has the driver it should have, throughout a run, exactly when every step of it is
an undisturbed one.** -/
theorem settled_iff (of : RpdevId → BusDriver → Bool) (evs : List BusEvent) :
    Throughout (step of) (fun _ s ↦ s.Settled of) init evs ↔
      Meets (step of) (Undisturbed of) init evs := by
  obtain ⟨s, hs⟩ := @exists_run of init evs
  refine throughout_iff_meets_of_inv (I := fun _ s ↦ s.Settled of ∧ s.DistinctNames)
    ⟨settled_init, List.nodup_nil⟩ (fun h ↦ h.1) (fun h hstep hgood ↦ ?_)
    (fun h hstep hsettled ↦ (settled_step_iff h.1 h.2 hstep).1 hsettled) hs
  exact ⟨(settled_step_iff h.1 h.2 hstep).2 hgood, h.2.step hstep⟩

/-- An undisturbed run leaves the bus settled. -/
theorem settled_of_run {evs : List BusEvent} (hgood : Meets (step of) (Undisturbed of) init evs)
    (hrun : run (step of) init evs = some s) : s.Settled of := by
  have hreach := reaches_iff_exists_run.2 ⟨evs, hrun, hgood⟩
  refine (hreach.invariant (P := fun s ↦ s.Settled of ∧ s.DistinctNames)
    ⟨settled_init, List.nodup_nil⟩ fun _ h hgood hstep ↦ ?_).1
  exact ⟨(settled_step_iff h.1 h.2 hstep).2 hgood, h.2.step hstep⟩

/-! ### The order of registrations -/

variable {accepts : RpdevId → BusDriver → Bool}

/-- What the devices were answered is what `accepts` says. -/
def Answered (accepts : RpdevId → BusDriver → Bool) (s : BusState) : Prop :=
  ∀ r d, s.rpdevs r = some d → d.seat.Answered (accepts r)

theorem answered_attach {d : OnBus} {probe : BusDriver → Bool} {drvs : List BusDriver}
    (h : d.seat.Answered (accepts r)) (hprobe : ∀ drv ∈ drvs, probe drv = accepts r drv) :
    (attach of r probe drvs d).seat.Answered (accepts r) := by
  rw [attach]
  split
  · rw [Seat.offer_congr hprobe]
    exact Seat.answered_offer h drvs
  · exact h

theorem answered_update {f : OnBus → OnBus} (h : s.Answered accepts)
    (hf : ∀ d, s.rpdevs r = some d → (f d).seat.Answered (accepts r)) :
    (s.update r f).Answered accepts := by
  intro r' d' hd'
  rcases rpdevs_setDev hd' with ⟨rfl, hmap⟩ | hd'
  · obtain ⟨d, hd, rfl⟩ := Option.map_eq_some_iff.1 hmap
    exact hf d hd
  · exact h r' d' hd'

theorem Answered.step {ev : BusEvent} (h : s.Answered accepts) (hev : ev.Answers accepts)
    (hs : s.step of ev = some s') : s'.Answered accepts := by
  cases ev with
  | registerDevice r rpdev probe =>
    rw [BusState.step] at hs
    split at hs <;> obtain rfl := Option.some.inj hs
    · exact h
    · intro r' d' hd'
      rcases rpdevs_setDev hd' with ⟨rfl, hnew⟩ | hd'
      · exact (Option.some.inj hnew) ▸ answered_attach Seat.answered_empty fun drv _ ↦ hev drv
      · exact h r' d' hd'
  | unregisterDevice r =>
    obtain rfl := Option.some.inj hs
    intro r' d' hd'
    rcases rpdevs_setDev hd' with ⟨-, hnone⟩ | hd'
    · cases hnone
    · exact h r' d' hd'
  | registerDriver drv probe =>
    obtain rfl := Option.some.inj hs
    rw [driverRegister]
    split
    · exact h
    · intro r d' hd'
      obtain ⟨d, hd, rfl⟩ := Option.map_eq_some_iff.1 hd'
      exact answered_attach (h r d hd) fun drv' hmem ↦ (List.mem_singleton.1 hmem) ▸ hev r
  | unregisterDriver drv =>
    obtain rfl := Option.some.inj hs
    intro r d' hd'
    obtain ⟨d, hd, rfl⟩ := Option.map_eq_some_iff.1 hd'
    exact Seat.answered_forget (h r d hd) drv
  | store r ev =>
    obtain rfl := Option.some.inj hs
    exact answered_update h fun d hd ↦ h r d hd
  | bind r drv probe =>
    rw [BusState.step] at hs
    split at hs <;> obtain rfl := Option.some.inj hs
    · exact answered_update h fun d hd ↦
        answered_attach (h r d hd) fun drv' hmem ↦ (List.mem_singleton.1 hmem) ▸ hev
    · exact h
  | unbind r =>
    obtain rfl := Option.some.inj hs
    exact answered_update h fun d hd ↦ Seat.answered_vacate (h r d hd)

theorem answered_of_run {evs : List BusEvent} (hev : ∀ ev ∈ evs, ev.Answers accepts)
    (hrun : run (step of) init evs = some s) : s.Answered accepts := by
  induction evs using List.reverseRecOn generalizing s with
  | nil =>
    obtain rfl := Option.some.inj hrun
    exact fun _ _ hd ↦ by cases hd
  | append_singleton evs ev ih =>
    obtain ⟨s₁, hs₁, hstep⟩ := run_concat hrun
    obtain ⟨hevs, hlast⟩ := List.forall_mem_append.1 hev
    exact (ih hevs hs₁).step (hlast ev (List.mem_singleton_self _)) hstep

/-- **A device has the first registered driver that is meant for it and whose probe succeeds**, in
whatever order the devices and the drivers were registered. -/
theorem driver_eq_find? (accepts : RpdevId → BusDriver → Bool) {evs : List BusEvent}
    (hgood : Meets (step of) (Undisturbed of) init evs) (hev : ∀ ev ∈ evs, ev.Answers accepts)
    (hrun : run (step of) init evs = some s) {d : OnBus} (hd : s.rpdevs r = some d) :
    d.seat.holder = s.drivers.find? fun drv ↦ selects of r d drv && accepts r drv :=
  Seat.holder_eq_find? (settled_of_run hgood hrun r d hd) (answered_of_run hev hrun r d hd)

/-- A driver of the service `x`. -/
def xDriver : BusDriver := ⟨[115], some [[120]]⟩

/-- The device of the module before the drivers, a channel of the service after them. -/
def bothOrders : List BusEvent :=
  [.registerDevice 0 rpmsgChrdev fun _ ↦ true, .registerDriver xDriver fun _ ↦ true,
    .registerDriver rpmsgChrdevDriver fun _ ↦ true,
    .registerDevice 1 (rpmsgChannel 0 ⟨[120], 1024, 53⟩) fun _ ↦ true]

/-- Each of the two has its driver. -/
theorem driver_bothOrders : ∃ s d d', run (step fun _ _ ↦ false) init bothOrders = some s ∧
    s.rpdevs 0 = some d ∧ d.seat.holder = some rpmsgChrdevDriver ∧
    s.rpdevs 1 = some d' ∧ d'.seat.holder = some xDriver := by
  obtain ⟨s, hs, hparts⟩ := Option.map_eq_some_iff.1
    (show (run (step fun _ _ ↦ false) init bothOrders).map
      (fun s ↦ (s.drivers, (s.rpdevs 0).map OnBus.rpdev, (s.rpdevs 1).map OnBus.rpdev)) =
        some ([xDriver, rpmsgChrdevDriver], some rpmsgChrdev,
          some (rpmsgChannel 0 ⟨[120], 1024, 53⟩)) by decide +kernel)
  simp only [Prod.mk.injEq, Option.map_eq_some_iff] at hparts
  obtain ⟨hdrivers, ⟨d, hd, hrpdev⟩, d', hd', hrpdev'⟩ := hparts
  have hgood : Meets (step fun _ _ ↦ false) (Undisturbed fun _ _ ↦ false) init bothOrders :=
    ⟨trivial, fun _ _ ↦ ⟨trivial, fun _ _ ↦ ⟨trivial, fun _ _ ↦ ⟨trivial, fun _ _ ↦ trivial⟩⟩⟩⟩
  have hev : ∀ ev ∈ bothOrders, ev.Answers fun _ _ ↦ true := by
    simp [bothOrders, BusEvent.Answers]
  have hfirst := driver_eq_find? (fun _ _ ↦ true) hgood hev hs hd
  have hsecond := driver_eq_find? (fun _ _ ↦ true) hgood hev hs hd'
  simp only [selects, hdrivers, hrpdev, hrpdev'] at hfirst hsecond
  exact ⟨s, d, d', hs, hd, hfirst.trans (by decide +kernel), hd',
    hsecond.trans (by decide +kernel)⟩

end BusState
