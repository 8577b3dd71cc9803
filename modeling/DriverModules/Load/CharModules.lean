import Mathlib.Data.Finset.Option
import DriverModules.CharDriver.Numbers
import DriverModules.Load.Clean

/-!
# Loading and unloading the other modules

moduleIrqRegist grew out of moduleCharDriver, which is moduleCreateCharNode again; moduleRegistCdev
is the same without the device nodes, and moduleSCdevNum and moduleDCdevNum stop after the device
numbers. The modules with a platform driver, a platform device or a misc device ask for that alone,
except moduleDriverLEDS, whose probe asks for a pin first.

For each, as for the modules before, the answers under which a load of it is clean and whether its
exit is (`driverModules_clean_iff`). No module with buffers gives them back, moduleDriverLEDS keeps
its pin and moduleDriverRegist its driver. Whether the exits of moduleSCdevNum and moduleDCdevNum
name the region they have is a matter of the module parameters (`DevNumbers.InRange`).
-/

open Transition Loadable

/-! ### moduleCharDriver and moduleCreateCharNode -/

namespace CharNode

open IrqRegist (Answers DEVICE_MINOR_NUM devicesInit exitLoop DevicesGranted)

/-- `hello_init`, up to the pins the same as the one of moduleIrqRegist. -/
def helloInit (a : Answers) (l : Ledger IrqRegist.Res) : InitEnd Unit × Ledger IrqRegist.Res :=
  devicesInit true a (fun l ↦ (.ok (), l)) l

/-- `hello_exit`. -/
def helloExit (_ : Unit) (l : Ledger IrqRegist.Res) : Ledger IrqRegist.Res :=
  (((exitLoop true (List.range DEVICE_MINOR_NUM) l).release .cls).release .my_devices).release
    .region

def loadable : Loadable Answers Unit IrqRegist.Res := ⟨helloInit, helloExit⟩

/-- The device numbers are refused; or the class and then the device table are; or nothing is. -/
def Fine (a : Answers) : Prop :=
  a.region = false ∨ a.region = true ∧ a.classCreate = false ∧ a.my_devices = false ∨
    (a.region = true ∧ a.classCreate = true ∧ a.my_devices = true) ∧
      DevicesGranted a (List.range DEVICE_MINOR_NUM)

variable {a : Answers} {l : Ledger IrqRegist.Res}

theorem cleanInit_iff (a : Answers) : CleanInit (helloInit a .empty) ↔ Fine a := by
  rw [helloInit, IrqRegist.cleanInit_devicesInit_iff fun _ _ ↦ IrqRegist.cleanInit_ok_iff]
  simp only [Fine, DevicesGranted, forall_const, and_true]
  tauto

/-- The buffers stay. -/
theorem held_exit_ne_empty (h : IrqRegist.Res.data 0 ∈ l.held) : (helloExit () l).held ≠ ∅ := by
  have htail : helloExit () l = [.cls, .my_devices, .region].foldl Ledger.release
      (exitLoop true (List.range DEVICE_MINOR_NUM) l) := by
    simp only [helloExit, List.foldl_cons, List.foldl_nil]
  rw [htail]
  generalize List.range DEVICE_MINOR_NUM = is
  exact Ledger.held_foldl_release_ne_empty (IrqRegist.mem_exitLoop (by simp) (by simp) is l h)
    (by simp)

def handling : loadable.Handling Fine False where
  Holds _ held := IrqRegist.Res.data 0 ∈ held
  fine_iff := cleanInit_iff
  holds _ _ _ _ hinit := by
    obtain ⟨l', -, hdata, hrest⟩ := IrqRegist.devicesInit_eq_ok hinit
    rwa [← (Prod.mk.inj hrest).2]
  exit_iff _ _ hholds _ := iff_of_false (fun h ↦ held_exit_ne_empty hholds h.1) id

end CharNode

/-! ### moduleRegistCdev -/

namespace RegistCdev

open IrqRegist (Answers DEVICE_MINOR_NUM devicesInit exitLoop)

/-- `hello_init`, without a class and device nodes. -/
def helloInit (a : Answers) (l : Ledger IrqRegist.Res) : InitEnd Unit × Ledger IrqRegist.Res :=
  devicesInit false a (fun l ↦ (.ok (), l)) l

/-- `hello_exit`, which keeps the device table too. -/
def helloExit (_ : Unit) (l : Ledger IrqRegist.Res) : Ledger IrqRegist.Res :=
  (exitLoop false (List.range DEVICE_MINOR_NUM) l).release .region

def loadable : Loadable Answers Unit IrqRegist.Res := ⟨helloInit, helloExit⟩

/-- The device numbers are refused, or the device table is; or nothing is. -/
def Fine (a : Answers) : Prop :=
  a.region = false ∨ a.my_devices = false ∨
    ∀ i ∈ List.range DEVICE_MINOR_NUM, a.data i = true ∧ a.cdev i = true

variable {a : Answers} {l : Ledger IrqRegist.Res}

theorem cleanInit_iff (a : Answers) : CleanInit (helloInit a .empty) ↔ Fine a := by
  rw [helloInit, IrqRegist.cleanInit_devicesInit_iff fun _ _ ↦ IrqRegist.cleanInit_ok_iff]
  simp only [Fine, Bool.false_eq_true, false_implies, and_true]
  rcases a.region with - | - <;> rcases a.my_devices with - | - <;> simp

/-- The device table stays. -/
theorem held_exit_ne_empty (h : IrqRegist.Res.my_devices ∈ l.held) :
    (helloExit () l).held ≠ ∅ := by
  rw [helloExit]
  generalize List.range DEVICE_MINOR_NUM = is
  exact Finset.ne_empty_of_mem
    (Ledger.mem_release_of_ne (IrqRegist.mem_exitLoop (by simp) (by simp) is l h) (by simp))

def handling : loadable.Handling Fine False where
  Holds _ held := IrqRegist.Res.my_devices ∈ held
  fine_iff := cleanInit_iff
  holds _ _ _ _ hinit := by
    obtain ⟨l', htable, -, hrest⟩ := IrqRegist.devicesInit_eq_ok hinit
    rwa [← (Prod.mk.inj hrest).2]
  exit_iff _ _ hholds _ := iff_of_false (fun h ↦ held_exit_ne_empty hholds h.1) id

end RegistCdev

/-! ### moduleDriverLEDS -/

namespace DriverLEDS

inductive Res
  | gpio
  | misc
  deriving DecidableEq, Repr

structure Answers where
  /-- `gpio_request` of `EXYNOS4_GPL2(0)`. -/
  gpio : Bool
  /-- `misc_register`. -/
  misc : Bool
  deriving DecidableEq, Repr

/-- `hello_probe`, which does not look at what `misc_register` returns. -/
def helloProbe (a : Answers) (l : Ledger Res) : InitEnd Unit × Ledger Res :=
  if a.gpio then (.ok (), (l.acquire .gpio).ask a.misc .misc) else (.error, l.refuse)

/-- `hello_remove`. -/
def helloRemove (_ : Unit) (l : Ledger Res) : Ledger Res := l.release .misc

/-- The device of the driver: it is probed and removed. -/
def loadable : Loadable Answers Unit Res := ⟨helloProbe, helloRemove⟩

/-- The misc device is not refused once the pin is there. -/
def Fine (a : Answers) : Prop := a.gpio = true → a.misc = true

variable {a : Answers} {l : Ledger Res}

theorem cleanInit_iff (a : Answers) : CleanInit (helloProbe a .empty) ↔ Fine a := by
  rcases a with ⟨_ | _, _ | _⟩ <;> simp [CleanInit, helloProbe, Fine, Ledger.empty]

/-- A bound device holds its pin. -/
theorem gpio_mem_probe {vars : Unit} (hprobe : helloProbe a .empty = (.ok vars, l)) :
    Res.gpio ∈ l.held := by
  rw [helloProbe] at hprobe
  split at hprobe
  · rw [← (Prod.mk.inj hprobe).2]
    exact Ledger.subset_ask (Finset.mem_insert_self _ _)
  · cases hprobe

/-- And keeps it. -/
theorem held_remove_ne_empty (h : Res.gpio ∈ l.held) : (helloRemove () l).held ≠ ∅ :=
  Finset.ne_empty_of_mem (Ledger.mem_release_of_ne h (by simp))

def handling : loadable.Handling Fine False where
  Holds _ held := Res.gpio ∈ held
  fine_iff := cleanInit_iff
  holds _ _ _ _ hprobe := gpio_mem_probe hprobe
  exit_iff _ _ hholds _ := iff_of_false (fun h ↦ held_remove_ne_empty hholds h.1) id

end DriverLEDS

/-! ### The modules with one request -/

namespace OneRequest

inductive Res
  /-- The region of device numbers that `hello_exit` names. -/
  | region
  /-- A region with a major or a minor that `hello_exit` does not name. -/
  | strayRegion
  | driver
  | device
  | misc
  deriving DecidableEq, Repr

/-- A module whose init asks for one thing, if for anything, and returns 0 whatever the answer; its
exit gives one thing back, if any. -/
def loadable (asks returns : Option Res) : Loadable Bool Unit Res where
  init granted l := (.ok (), asks.elim l (l.ask granted))
  exit _ l := returns.elim l l.release

/-- `hello_probe` and `hello_remove` of moduleMiscDriverRegist. -/
def helloProbe : Loadable Bool Unit Res := loadable (some .misc) (some .misc)

variable {asks returns : Option Res} {granted : Bool} {l : Ledger Res}

theorem cleanInit_iff : CleanInit ((loadable asks returns).init granted .empty) ↔
    (asks ≠ none → granted = true) := by
  rcases asks with - | r <;> rcases granted with - | - <;>
    simp [CleanInit, loadable, Ledger.empty]

/-- What a loaded module holds. -/
theorem held_init {vars : Unit} (hfine : asks ≠ none → granted = true)
    (hinit : (loadable asks returns).init granted .empty = (.ok vars, l)) :
    l.held = asks.toFinset := by
  rw [← (Prod.mk.inj hinit).2]
  rcases asks with - | r
  · rfl
  · rw [hfine (Option.some_ne_none r)]
    rfl

/-- The exit is clean when it gives back exactly what was asked for. -/
theorem cleanExit_iff (hheld : l.held = asks.toFinset) (hfault : l.faulted = false) :
    ((loadable asks returns).exit () l).held = ∅ ∧
      ((loadable asks returns).exit () l).faulted = false ↔ asks = returns := by
  obtain ⟨held, faulted, refused⟩ := l
  obtain rfl : held = asks.toFinset := hheld
  obtain rfl : faulted = false := hfault
  rcases asks with - | r <;> rcases returns with - | r'
  · simp [loadable]
  · simp [loadable, Ledger.release]
  · simp [loadable]
  · rcases eq_or_ne r' r with rfl | hne
    · simp [loadable, Ledger.release]
    · simp [loadable, Ledger.release, hne, hne.symm]

def handling (asks returns : Option Res) :
    (loadable asks returns).Handling (fun granted ↦ asks ≠ none → granted = true)
      (asks = returns) where
  Holds _ held := held = asks.toFinset
  fine_iff _ := cleanInit_iff
  holds _ _ _ hfine hinit := held_init hfine hinit
  exit_iff _ _ hholds hfault := cleanExit_iff hholds hfault

end OneRequest

/-! ### All runs -/
