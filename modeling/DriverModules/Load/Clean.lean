import DriverModules.Load.Modules

/-!
# What the modules leave behind

For each module, the answers under which a load of it is clean, and whether its exit is
(`Loadable.Handling`). Three of the four can never be unloaded cleanly: `hello_exit` of
moduleIrqRegist keeps the pins and the buffers and frees interrupts that were never requested,
`hello_exit` of moduleUbuntuTest writes into `myDev` after it freed it, and `rpmsg_fini` leaves the
rpmsg device registered. Where an init is refused something half-way it goes on, or returns without
giving back what it has.

`clean_iff` puts this together for all runs of loads and unloads.

## Main results, and what each rests on

* `cleanInit_devicesInit_iff`: moduleIrqRegist begins with a region, a table and a loop over the
  minors, and so do the modules of `CharModules`, which share the lemmas about these
  (`deviceLoop_spec` for the loop). What the loop has built is not undone when it stops half-way.
* `handling`, one for each module: the answers under which its init is clean, and what its exit
  does. For the exits that are never clean, one resource that no statement gives back is enough,
  or one access to what was freed.
* `clean_iff`: all runs, by `Loadable.Handling.throughout_clean_iff`, which knows nothing of the
  modules. A run is clean exactly when each of its loads and exits is.
-/

open Transition Loadable

/-! ### mem_map -/

namespace MemMapModule

/-- What a loaded module holds, and that `mem_map_dev` says so. -/
def Holds (dev : MemMapDev) (held : Finset Res) : Prop :=
  0 < dev.major ∧ dev = ⟨true, true, dev.major, 1⟩ ∧
    held = {.device dev.major 1, .cls, .chrdev dev.major}

/-- Every request is granted. -/
def Fine (a : Answers) : Prop := a.register ≠ none ∧ a.classCreate = true ∧ a.device = true

theorem memMapInit_of_fine {a : Answers} (h : Fine a) :
    ∃ major, 0 < major ∧ memMapInit a .empty =
      (.ok ⟨true, true, major, 1⟩, ⟨{.device major 1, .cls, .chrdev major}, false, false⟩) := by
  obtain ⟨hreg, hclass, hdev⟩ := h
  obtain ⟨major, hmajor⟩ := Option.ne_none_iff_exists'.1 hreg
  refine ⟨major, major.2, ?_⟩
  simp only [memMapInit, chrDevInit, hmajor, hclass, hdev, if_true]
  rw [Ledger.touch_of_mem (Finset.mem_insert_self _ _)]
  rfl

theorem cleanInit_iff (a : Answers) : CleanInit (memMapInit a .empty) ↔ Fine a := by
  rcases a with ⟨_ | major, _ | _, _ | _⟩ <;>
    simp [CleanInit, memMapInit, chrDevInit, Fine, Ledger.touch_of_mem, Ledger.empty]

theorem release_of_holds {dev : MemMapDev} {l : Ledger Res} (h : Holds dev l.held)
    (hfault : l.faulted = false) : (releaseMemMapResource dev l).held = ∅ ∧
      (releaseMemMapResource dev l).faulted = false := by
  obtain ⟨hmajor, hdev, hheld⟩ := h
  rw [hdev]
  generalize dev.major = major at hmajor hheld
  obtain ⟨held, faulted, refused⟩ := l
  simp only at hheld hfault
  subst hheld hfault
  simp [releaseMemMapResource, Ledger.touch_of_mem, Ledger.release_of_mem, Nat.ne_of_gt hmajor]

def handling : loadable.Handling Fine True where
  Holds := Holds
  fine_iff := cleanInit_iff
  holds a vars l hfine hinit := by
    obtain ⟨major, hmajor, heq⟩ := memMapInit_of_fine hfine
    obtain ⟨hvars, hl⟩ := Prod.mk.inj (heq.symm.trans hinit)
    obtain rfl := InitEnd.ok.inj hvars
    exact ⟨hmajor, rfl, congrArg Ledger.held hl.symm⟩
  exit_iff _ _ hholds hfault := iff_of_true (release_of_holds hholds hfault) trivial

end MemMapModule

/-! ### The loops over the devices -/

namespace IrqRegist

/-- Every request for the devices is granted. -/
def DevicesGranted (a : Answers) (is : List ℕ) : Prop :=
  ∀ i ∈ is, a.data i = true ∧ a.cdev i = true ∧ a.device i = true

variable {nodes : Bool} {a : Answers} {l : Ledger Res}

/-- One turn of the loop, once the buffer is there. -/
theorem turn_spec {i : ℕ} (h : Res.my_devices ∈ l.held) :
    let l₀ := regInitCdev a i ((l.acquire (.data i)).touch .my_devices)
    let l' := if nodes then deviceCreate a i l₀ else l₀
    (l.acquire (.data i)).held ⊆ l'.held ∧ l'.faulted = l.faulted ∧
      l'.refused = (l.refused || !a.cdev i || nodes && !(a.classCreate && a.device i)) := by
  have hmem : Res.my_devices ∈ (l.acquire (.data i)).held := Finset.mem_insert_of_mem h
  simp only [deviceCreate, regInitCdev, Ledger.touch_of_mem hmem]
  rcases nodes with - | -
  · exact ⟨Ledger.subset_ask, by simp, by simp⟩
  · refine ⟨?_, by simp, by simp⟩
    calc (l.acquire (.data i)).held
        ⊆ ((l.acquire (.data i)).ask (a.cdev i) (.cdev i)).held := Ledger.subset_ask
      _ ⊆ _ := Ledger.subset_ask

/-- **The loop over the devices** gives nothing back, and goes through without a refusal exactly
when every request for the devices is granted. -/
theorem deviceLoop_spec (is : List ℕ) :
    ∀ l : Ledger Res, Res.my_devices ∈ l.held →
      l.held ⊆ (deviceLoop nodes a is l).2.held ∧
        (deviceLoop nodes a is l).2.faulted = l.faulted ∧
        ((deviceLoop nodes a is l).1 = true ∧ (deviceLoop nodes a is l).2.refused = false ↔
          l.refused = false ∧ ∀ i ∈ is, a.data i = true ∧ a.cdev i = true ∧
            (nodes = true → (a.classCreate && a.device i) = true)) := by
  induction is with
  | nil =>
    intro l _
    exact ⟨Finset.Subset.refl _, rfl, by simp [deviceLoop]⟩
  | cons i is ih =>
    intro l hmem
    rw [deviceLoop]
    by_cases hdata : a.data i = true
    · rw [if_pos hdata]
      obtain ⟨hsub, hfault, href⟩ := @turn_spec nodes a l i hmem
      have hsub₀ := (Finset.subset_insert (Res.data i) l.held).trans hsub
      obtain ⟨hsub', hfault', hiff⟩ := ih _ (hsub₀ hmem)
      refine ⟨hsub₀.trans hsub', hfault'.trans hfault, hiff.trans ?_⟩
      have hnode : (nodes && !(a.classCreate && a.device i)) = false ↔
          (nodes = true → (a.classCreate && a.device i) = true) := by
        rcases nodes with - | - <;> simp
      simp only [href, List.forall_mem_cons, hdata, true_and, Bool.or_eq_false_iff,
        Bool.not_eq_false', hnode, and_assoc]
    · rw [if_neg hdata]
      refine ⟨Finset.Subset.refl _, rfl, iff_of_false (fun h ↦ by cases h.1) fun h ↦ ?_⟩
      exact hdata (h.2 i List.mem_cons_self).1

/-- The loop leaves a buffer for every device. -/
theorem data_mem_deviceLoop {i : ℕ} (is : List ℕ) :
    ∀ l : Ledger Res, Res.my_devices ∈ l.held → (deviceLoop nodes a is l).1 = true → i ∈ is →
      Res.data i ∈ (deviceLoop nodes a is l).2.held := by
  induction is with
  | nil => exact fun _ _ _ hi ↦ absurd hi List.not_mem_nil
  | cons i₀ is ih =>
    intro l hmem halive hi
    rw [deviceLoop] at halive ⊢
    split at halive
    · next hdata =>
      rw [if_pos hdata]
      have hsub := (@turn_spec nodes a l i₀ hmem).1
      have hmem' := hsub (Finset.mem_insert_of_mem hmem)
      rcases List.mem_cons.1 hi with rfl | hi
      · exact (deviceLoop_spec is _ hmem').1 (hsub (Finset.mem_insert_self _ _))
      · exact ih _ hmem' halive hi
    · cases halive

/-- What is held when the loop over the devices begins. -/
def loopLedger (nodes : Bool) (a : Answers) : Ledger Res :=
  (if nodes then (Ledger.empty.acquire .region).ask a.classCreate .cls
    else Ledger.empty.acquire .region).acquire .my_devices

theorem mem_loopLedger : Res.my_devices ∈ (loopLedger nodes a).held := Finset.mem_insert_self _ _

variable {rest : Ledger Res → InitEnd Unit × Ledger Res}

theorem devicesInit_of_table (hregion : a.region = true) (htable : a.my_devices = true) :
    devicesInit nodes a rest .empty =
      let out := deviceLoop nodes a (List.range DEVICE_MINOR_NUM) (loopLedger nodes a)
      if out.1 then rest out.2 else (.oops, out.2) := by
  simp only [devicesInit, hregion, htable, if_true]
  rfl

/-- Without the device table the device numbers are given back, the class is not. -/
theorem cleanInit_iff_of_noTable (hregion : a.region = true) (htable : a.my_devices = false) :
    CleanInit (devicesInit nodes a rest .empty) ↔ (nodes = true → a.classCreate = false) := by
  simp only [devicesInit, hregion, htable, if_true, Bool.false_eq_true, if_false]
  rcases nodes with - | -
  · exact iff_of_true ⟨rfl, rfl⟩ fun h ↦ by cases h
  · rcases a.classCreate with - | -
    · exact iff_of_true ⟨by decide, by decide⟩ fun _ ↦ rfl
    · exact iff_of_false (fun h ↦ absurd h.1 (by decide)) fun h ↦ by cases h rfl

theorem cleanInit_iff_of_table {Q : Prop} (hregion : a.region = true) (htable : a.my_devices = true)
    (hrest : ∀ l : Ledger Res, Res.region ∈ l.held → l.faulted = false →
      (CleanInit (rest l) ↔ l.refused = false ∧ Q)) :
    CleanInit (devicesInit nodes a rest .empty) ↔ ((loopLedger nodes a).refused = false ∧
      ∀ i ∈ List.range DEVICE_MINOR_NUM, a.data i = true ∧ a.cdev i = true ∧
        (nodes = true → (a.classCreate && a.device i) = true)) ∧ Q := by
  obtain ⟨hregion₀, hfault₀⟩ : Res.region ∈ (loopLedger nodes a).held ∧
      (loopLedger nodes a).faulted = false := by
    rcases nodes with - | -
    · exact ⟨Finset.mem_insert_of_mem (Finset.mem_insert_self _ _), rfl⟩
    · exact ⟨Finset.mem_insert_of_mem (Ledger.subset_ask (Finset.mem_insert_self _ _)),
        by simp [loopLedger, Ledger.empty]⟩
  obtain ⟨hsub, hfault, hiff⟩ :=
    @deviceLoop_spec nodes a (List.range DEVICE_MINOR_NUM) (loopLedger nodes a) mem_loopLedger
  rw [← hiff, devicesInit_of_table hregion htable]
  have hheld := hsub hregion₀
  replace hfault := hfault.trans hfault₀
  generalize deviceLoop nodes a (List.range DEVICE_MINOR_NUM) (loopLedger nodes a) = out
    at hheld hfault
  obtain ⟨alive, l⟩ := out
  rcases alive with - | -
  · exact iff_of_false id fun h ↦ by cases h.1.1
  · exact (hrest l hheld hfault).trans (by simp)

/-- **Which inits are clean**, up to what comes behind the loop. -/
theorem cleanInit_devicesInit_iff {Q : Prop}
    (hrest : ∀ l : Ledger Res, Res.region ∈ l.held → l.faulted = false →
      (CleanInit (rest l) ↔ l.refused = false ∧ Q)) :
    CleanInit (devicesInit nodes a rest .empty) ↔
      a.region = false ∨
        a.region = true ∧ a.my_devices = false ∧ (nodes = true → a.classCreate = false) ∨
        (a.region = true ∧ a.my_devices = true ∧ (nodes = true → a.classCreate = true)) ∧
          (∀ i ∈ List.range DEVICE_MINOR_NUM, a.data i = true ∧ a.cdev i = true ∧
            (nodes = true → a.device i = true)) ∧ Q := by
  rcases hregion : a.region with - | -
  · simp [devicesInit, hregion, CleanInit, Ledger.empty]
  rcases htable : a.my_devices with - | -
  · rw [cleanInit_iff_of_noTable hregion htable]
    simp
  · rw [cleanInit_iff_of_table hregion htable hrest]
    rcases nodes with - | - <;> rcases hclass : a.classCreate with - | - <;>
      simp [loopLedger, hclass, Ledger.empty]

/-- Nothing comes behind the loop. -/
theorem cleanInit_ok_iff (hfault : l.faulted = false) :
    CleanInit ((.ok (), l) : InitEnd Unit × Ledger Res) ↔ l.refused = false ∧ True :=
  and_congr_right fun _ ↦ iff_true_intro hfault

/-- A loaded module has come through the loop, and so it has a buffer. -/
theorem devicesInit_eq_ok {vars : Unit} (h : devicesInit nodes a rest .empty = (.ok vars, l)) :
    ∃ l' : Ledger Res, Res.my_devices ∈ l'.held ∧ Res.data 0 ∈ l'.held ∧
      rest l' = (.ok vars, l) := by
  have hzero : 0 ∈ List.range DEVICE_MINOR_NUM := by decide
  rcases hregion : a.region with - | -
  · simp [devicesInit, hregion] at h
  rcases htable : a.my_devices with - | -
  · simp [devicesInit, hregion, htable] at h
  rw [devicesInit_of_table hregion htable] at h
  have hsub := (@deviceLoop_spec nodes a (List.range DEVICE_MINOR_NUM) (loopLedger nodes a)
    mem_loopLedger).1
  have hdata := @data_mem_deviceLoop nodes a 0 (List.range DEVICE_MINOR_NUM) (loopLedger nodes a)
    mem_loopLedger
  generalize deviceLoop nodes a (List.range DEVICE_MINOR_NUM) (loopLedger nodes a) = out
    at h hsub hdata
  obtain ⟨alive, l'⟩ := out
  dsimp only at h hsub hdata
  split at h
  · next halive => exact ⟨l', hsub mem_loopLedger, hdata halive hzero, h⟩
  · cases h

/-- What belongs to no device stays through the loop of the exit. -/
theorem mem_exitLoop {r : Res} (hcdev : ∀ i, r ≠ .cdev i) (hdevice : ∀ i, r ≠ .device i)
    (is : List ℕ) : ∀ l : Ledger Res, r ∈ l.held → r ∈ (exitLoop nodes is l).held := by
  induction is with
  | nil => exact fun _ hl ↦ hl
  | cons i is ih =>
    intro l hl
    rw [exitLoop]
    have hrest : r ∈ ((l.touch .my_devices).release (.cdev i)).held :=
      Ledger.mem_release_of_ne (by rwa [Ledger.held_touch]) (hcdev i)
    refine ih _ ?_
    split
    · exact Ledger.mem_release_of_ne hrest (hdevice i)
    · exact hrest

/-! ### moduleIrqRegist -/

/-- The device numbers are refused; or the class and then the device table are; or nothing is. -/
def Fine (a : Answers) : Prop :=
  a.region = false ∨ a.region = true ∧ a.classCreate = false ∧ a.my_devices = false ∨
    (a.region = true ∧ a.classCreate = true ∧ a.my_devices = true) ∧
      DevicesGranted a (List.range DEVICE_MINOR_NUM) ∧ a.gpio 1 = true ∧ a.gpio 2 = true

/-- An error with the device numbers still held is not clean. -/
theorem not_cleanInit_error (h : Res.region ∈ l.held) :
    ¬ CleanInit ((.error, l) : InitEnd Unit × Ledger Res) := fun hclean ↦ by
  rw [hclean.1] at h
  exact Finset.notMem_empty _ h

theorem cleanInit_requestPins_iff (hregion : Res.region ∈ l.held) (hfault : l.faulted = false) :
    CleanInit (requestPins a l) ↔ l.refused = false ∧ a.gpio 1 = true ∧ a.gpio 2 = true := by
  unfold requestPins
  rcases a.gpio 1 with - | -
  · exact iff_of_false (not_cleanInit_error hregion) fun h ↦ by cases h.2.1
  rcases a.gpio 2 with - | -
  · exact iff_of_false (not_cleanInit_error (Finset.mem_insert_of_mem hregion)) fun h ↦ by
      cases h.2.2
  · exact ⟨fun h ↦ ⟨h.1, rfl, rfl⟩, fun h ↦ ⟨h.1, hfault⟩⟩

theorem cleanInit_iff (a : Answers) : CleanInit (helloInit a .empty) ↔ Fine a := by
  rw [helloInit, cleanInit_devicesInit_iff fun _ ↦ cleanInit_requestPins_iff]
  simp only [Fine, DevicesGranted, forall_const]
  tauto

/-- The pins stay requested. -/
theorem held_exit_ne_empty (h : Res.gpio 1 ∈ l.held) : (helloExit () l).held ≠ ∅ := by
  have htail : helloExit () l = [.cls, .my_devices, .irq 9, .irq 10, .region].foldl Ledger.release
      (exitLoop true (List.range DEVICE_MINOR_NUM) l) := by
    simp only [helloExit, List.foldl_cons, List.foldl_nil]
  rw [htail]
  generalize List.range DEVICE_MINOR_NUM = is
  exact Ledger.held_foldl_release_ne_empty (mem_exitLoop (by simp) (by simp) is l h) (by simp)

/-- A loaded module holds the pins. -/
theorem gpio_mem_init {vars : Unit} (h : helloInit a .empty = (.ok vars, l)) :
    Res.gpio 1 ∈ l.held := by
  obtain ⟨l', -, -, h⟩ := devicesInit_eq_ok h
  unfold requestPins at h
  split at h
  · split at h
    · rw [← (Prod.mk.inj h).2]
      exact Finset.mem_insert_of_mem (Finset.mem_insert_self _ _)
    · cases h
  · cases h

def handling : loadable.Handling Fine False where
  Holds _ held := Res.gpio 1 ∈ held
  fine_iff := cleanInit_iff
  holds _ _ _ _ hinit := gpio_mem_init hinit
  exit_iff _ _ hholds _ := iff_of_false (fun h ↦ held_exit_ne_empty hholds h.1) id

end IrqRegist

/-! ### moduleUbuntuTest -/

namespace UbuntuTest

/-- Every request is granted. -/
def Fine (a : Answers) : Prop :=
  a.myDev = true ∧ a.pOutputData = true ∧ a.pInputData = true ∧ a.region = true ∧
    a.classCreate = true ∧ a.cdev = true ∧ a.device = true

/-- `InitMyDev`, when it gets as far as the buffers. -/
theorem initMyDev_spec {a : Answers} (h : a.myDev = true) :
    let r := initMyDev a .empty
    r.1.myDev = true ∧ Res.myDev ∈ r.2.held ∧ r.2.faulted = false ∧
      (r.2.refused = false ↔ a.pOutputData = true ∧ a.pInputData = true) := by
  rcases hout : a.pOutputData with - | - <;> rcases hin : a.pInputData with - | - <;>
    simp [initMyDev, h, hout, hin, Ledger.empty]

theorem cleanInit_iff (a : Answers) : CleanInit (helloInit a .empty) ↔ Fine a := by
  rcases hmyDev : a.myDev with - | -
  · simp [CleanInit, helloInit, initMyDev, Fine, hmyDev]
  obtain ⟨hset, hmem, hfault, href⟩ := initMyDev_spec hmyDev
  rw [helloInit]
  generalize initMyDev a .empty = out at hset hmem hfault href
  obtain ⟨myDev, l⟩ := out
  simp only at hset hmem hfault href
  have hasked : Res.myDev ∈ ((l.ask a.region .region).ask a.classCreate .cls).held :=
    Ledger.subset_ask (Ledger.subset_ask hmem)
  simp only [hset, if_true]
  rcases hcdev : a.cdev with - | -
  · -- the error leaves `myDev` behind, if nothing else
    refine iff_of_false (fun h ↦ ?_) fun h ↦ ?_
    · exact Finset.ne_empty_of_mem hasked h.1
    · exact Bool.false_ne_true (hcdev.symm.trans h.2.2.2.2.2.1)
  · simp only [if_true, CleanInit, Ledger.touch_of_mem hasked, Ledger.refused_ask,
      Ledger.refused_acquire, Ledger.faulted_ask, Ledger.faulted_acquire, hfault, and_true,
      Bool.or_eq_false_iff, Bool.not_eq_false', Bool.and_eq_true, href, Fine, hmyDev, hcdev]
    tauto

/-- The pointers of `myDev` are cleared after it is freed. -/
theorem faulted_exit (myDev : MyDev) (l : Ledger Res) : (helloExit myDev l).faulted = true :=
  Ledger.faulted_touch_of_faulted (Ledger.faulted_touch_of_not_mem Ledger.not_mem_release)

def handling : loadable.Handling Fine False where
  Holds _ _ := True
  fine_iff := cleanInit_iff
  holds _ _ _ _ _ := trivial
  exit_iff vars l _ _ := iff_of_false
    (fun h ↦ Bool.false_ne_true (h.2.symm.trans (faulted_exit vars l))) id

end UbuntuTest

/-! ### virtio_rpmsg_bus -/

namespace RpmsgBusModule

/-- The driver and the rpmsg device are both there, or neither is. -/
def Fine (a : Answers) : Prop :=
  if a.driver then a.kzalloc = true ∧ a.device = true else ¬ (a.kzalloc = true ∧ a.device = true)

theorem cleanInit_iff (a : Answers) : CleanInit (rpmsgInit a .empty) ↔ Fine a := by
  rcases a with ⟨_ | _, _ | _, _ | _⟩ <;>
    simp [CleanInit, rpmsgInit, createRpmsgChrdev, Fine, Ledger.empty, Ledger.release]

/-- A loaded module holds the rpmsg device. -/
theorem device_mem_init {a : Answers} {vars : Unit} {l : Ledger Res} (h : Fine a)
    (hinit : rpmsgInit a .empty = (.ok vars, l)) : Res.device ∈ l.held := by
  rcases hdriver : a.driver with - | -
  · simp [rpmsgInit, hdriver] at hinit
  · rw [Fine, if_pos hdriver] at h
    simp only [rpmsgInit, createRpmsgChrdev, hdriver, h.1, h.2, if_true] at hinit
    rw [← (Prod.mk.inj hinit).2]
    exact Finset.mem_insert_self _ _

/-- Unregistering the driver leaves the rpmsg device registered. -/
theorem held_fini_ne_empty {l : Ledger Res} (h : Res.device ∈ l.held) :
    (rpmsgFini () l).held ≠ ∅ :=
  Finset.ne_empty_of_mem (Ledger.mem_release_of_ne h (by simp))

def handling : loadable.Handling Fine False where
  Holds _ held := Res.device ∈ held
  fine_iff := cleanInit_iff
  holds _ _ _ hfine hinit := device_mem_init hfine hinit
  exit_iff _ _ hholds _ := iff_of_false (fun h ↦ held_fini_ne_empty hholds h.1) id

end RpmsgBusModule

/-! ### All runs -/
