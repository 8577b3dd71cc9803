import DriverModules.Lib.Lifecycle

/-!
# Loading and unloading the modules

The init and exit functions of four modules, on a ledger of what each holds in the kernel. Every
request they make has its answer in the structure of answers; what a function does not check it does
not ask about again here either. A store through a null pointer ends an init in an oops.

moduleIrqRegist grew out of moduleRegistCdev and moduleCharDriver. What their functions have in
common, up to the end of the loop over the devices, has a definition of its own (`devicesInit`).

What a module remembers of its init are its static variables. They start out zero each time it is
loaded.
-/

/-! ### mem_map -/

namespace MemMapModule

inductive Res
  | chrdev (major : ℕ)
  | cls
  | device (major minor : ℕ)
  deriving DecidableEq, Repr

structure Answers where
  /-- The major `register_chrdev` hands out; a dynamic one is positive. -/
  register : Option { major : ℕ // 0 < major }
  classCreate : Bool
  device : Bool
  deriving DecidableEq

/-- `mem_map_dev`: which of the pointers are set, and the numbers. -/
structure MemMapDev where
  dev : Bool
  mem_map_dev_class : Bool
  major : ℕ
  minor : ℕ
  deriving DecidableEq, Repr

/-- `mem_map_dev` before anything is stored in it. -/
def MemMapDev.zero : MemMapDev := ⟨false, false, 0, 0⟩

/-- `chr_dev_init`: what it returns, and `mem_map_dev`, which is filled in at the very end. -/
def chrDevInit (a : Answers) (l : Ledger Res) : Bool × MemMapDev × Ledger Res :=
  let minor := 1
  match a.register with
  | none => (false, .zero, l.refuse)
  | some major =>
    let l := l.acquire (.chrdev major)
    if a.classCreate then
      let l := l.acquire .cls
      if a.device then
        let l := (l.touch .cls).acquire (.device major minor)
        (true, ⟨true, true, major, minor⟩, l)
      else (false, .zero, l.refuse)
    else (false, .zero, l.refuse)

/-- `mem_map_init`, which does not look at what `chr_dev_init` returns. -/
def memMapInit (a : Answers) (l : Ledger Res) : InitEnd MemMapDev × Ledger Res :=
  let (_, dev, l) := chrDevInit a l
  (.ok dev, l)

/-- `release_mem_map_resource`. -/
def releaseMemMapResource (mem_map_dev : MemMapDev) (l : Ledger Res) : Ledger Res :=
  let l := if mem_map_dev.dev then
      (l.touch .cls).release (.device mem_map_dev.major mem_map_dev.minor)
    else l
  let l := if mem_map_dev.mem_map_dev_class then l.release .cls else l
  if mem_map_dev.major ≠ 0 then l.release (.chrdev mem_map_dev.major) else l

def loadable : Loadable Answers MemMapDev Res := ⟨memMapInit, releaseMemMapResource⟩

end MemMapModule

/-! ### moduleIrqRegist -/

namespace IrqRegist

def DEVICE_MINOR_NUM : ℕ := 2

inductive Res
  | region
  | cls
  | my_devices
  | data (i : ℕ)
  | cdev (i : ℕ)
  | device (i : ℕ)
  | gpio (n : ℕ)
  | irq (n : ℕ)
  deriving DecidableEq, Repr

structure Answers where
  /-- `register_chrdev_region` or `alloc_chrdev_region`. -/
  region : Bool
  classCreate : Bool
  my_devices : Bool
  data : ℕ → Bool
  cdev : ℕ → Bool
  device : ℕ → Bool
  gpio : ℕ → Bool

/-- `reg_init_cdev`, whose result nobody looks at. -/
def regInitCdev (a : Answers) (i : ℕ) (l : Ledger Res) : Ledger Res :=
  (l.touch .my_devices).ask (a.cdev i) (.cdev i)

/-- `device_create`, which gives an error back when it is given one for the class. -/
def deviceCreate (a : Answers) (i : ℕ) (l : Ledger Res) : Ledger Res :=
  l.ask (a.classCreate && a.device i) (.device i)

/-- The loop of `hello_init` over the devices; `nodes` is whether it creates device nodes. It ends
in an oops when a buffer is not allocated, since it is cleared without a look at the pointer. -/
def deviceLoop (nodes : Bool) (a : Answers) : List ℕ → Ledger Res → Bool × Ledger Res
  | [], l => (true, l)
  | i :: is, l =>
    if a.data i then
      let l := regInitCdev a i ((l.acquire (.data i)).touch .my_devices)
      deviceLoop nodes a is (if nodes then deviceCreate a i l else l)
    else (false, l.refuse)

/-- A `hello_init` up to the end of the loop; `rest` is what it does behind it. -/
def devicesInit (nodes : Bool) (a : Answers) (rest : Ledger Res → InitEnd Unit × Ledger Res)
    (l : Ledger Res) : InitEnd Unit × Ledger Res :=
  if a.region then
    let l := l.acquire .region
    -- whether the class is there is not asked
    let l := if nodes then l.ask a.classCreate .cls else l
    if a.my_devices then
      let (alive, l) := deviceLoop nodes a (List.range DEVICE_MINOR_NUM) (l.acquire .my_devices)
      if alive then rest l else (.oops, l)
    else (.error, (l.refuse).release .region)
  else (.error, l.refuse)

/-- The pins, which moduleIrqRegist asks for at the end. -/
def requestPins (a : Answers) (l : Ledger Res) : InitEnd Unit × Ledger Res :=
  if a.gpio 1 then
    let l := l.acquire (.gpio 1)
    if a.gpio 2 then (.ok (), l.acquire (.gpio 2))
    else (.error, l.refuse)
  else (.error, l.refuse)

/-- `hello_init`. -/
def helloInit (a : Answers) (l : Ledger Res) : InitEnd Unit × Ledger Res :=
  devicesInit true a (requestPins a) l

/-- The loop of `hello_exit` over the devices. -/
def exitLoop (nodes : Bool) : List ℕ → Ledger Res → Ledger Res
  | [], l => l
  | i :: is, l =>
    let l := (l.touch .my_devices).release (.cdev i)
    exitLoop nodes is (if nodes then l.release (.device i) else l)

/-- `hello_exit`; the `request_irq` calls that would belong to its `free_irq` are commented out. -/
def helloExit (_ : Unit) (l : Ledger Res) : Ledger Res :=
  (((((exitLoop true (List.range DEVICE_MINOR_NUM) l).release .cls).release .my_devices).release
    (.irq 9)).release (.irq 10)).release .region

def loadable : Loadable Answers Unit Res := ⟨helloInit, helloExit⟩

end IrqRegist

/-! ### moduleUbuntuTest -/

namespace UbuntuTest

inductive Res
  | myDev
  | pOutputData
  | pInputData
  | region
  | cls
  | cdev
  | device
  deriving DecidableEq, Repr

structure Answers where
  myDev : Bool
  pOutputData : Bool
  pInputData : Bool
  region : Bool
  classCreate : Bool
  cdev : Bool
  device : Bool
  deriving DecidableEq, Repr

/-- `myDev`: which of the pointers are set. -/
structure MyDev where
  myDev : Bool
  pOutputData : Bool
  pInputData : Bool
  deriving DecidableEq, Repr

/-- `InitMyDev`, which returns nothing. -/
def initMyDev (a : Answers) (l : Ledger Res) : MyDev × Ledger Res :=
  if a.myDev then
    let l := l.acquire .myDev
    if a.pOutputData then
      let l := l.acquire .pOutputData
      if a.pInputData then (⟨true, true, true⟩, l.acquire .pInputData)
      else (⟨true, true, false⟩, l.refuse)
    else (⟨true, false, false⟩, l.refuse)
  else (⟨false, false, false⟩, l.refuse)

/-- `hello_init`. -/
def helloInit (a : Answers) (l : Ledger Res) : InitEnd MyDev × Ledger Res :=
  let (myDev, l) := initMyDev a l
  let l := l.ask a.region .region
  let l := l.ask a.classCreate .cls
  -- the class is stored in `myDev` without a look at the pointer
  if myDev.myDev then
    if a.cdev then
      let l := (l.touch .myDev).acquire .cdev
      (.ok myDev, l.ask (a.classCreate && a.device) .device)
    else (.error, l.refuse)
  else (.oops, l)

/-- `hello_exit`. -/
def helloExit (myDev : MyDev) (l : Ledger Res) : Ledger Res :=
  let l := (l.touch .myDev).release .cdev
  let l := (l.touch .myDev).release .device
  let l := (l.touch .myDev).release .cls
  let l := (l.touch .myDev).release .region
  let l := if myDev.pOutputData then (l.touch .myDev).release .pOutputData else l
  let l := if myDev.pInputData then (l.touch .myDev).release .pInputData else l
  let l := l.release .myDev
  -- `myDev->pOutputData = NULL; myDev->pInputData = NULL`
  (l.touch .myDev).touch .myDev

def loadable : Loadable Answers MyDev Res := ⟨helloInit, helloExit⟩

end UbuntuTest

/-! ### virtio_rpmsg_bus -/

namespace RpmsgBusModule

inductive Res
  | driver
  | vir_rp_dev
  | device
  deriving DecidableEq, Repr

structure Answers where
  /-- `register_virtio_driver`. -/
  driver : Bool
  /-- `kzalloc` of the rpmsg device. -/
  kzalloc : Bool
  /-- `device_register` in `rpmsg_register_device`. -/
  device : Bool
  deriving DecidableEq, Repr

/-- `create_rpmsg_chrdev`. -/
def createRpmsgChrdev (a : Answers) (l : Ledger Res) : Ledger Res :=
  if a.kzalloc then
    let l := l.acquire .vir_rp_dev
    if a.device then l.acquire .device
    else
      -- `put_device`, and with it `virtio_rpmsg_release_dev`
      l.refuse.release .vir_rp_dev
  else l.refuse

/-- `rpmsg_init`, which returns what `register_virtio_driver` returned. -/
def rpmsgInit (a : Answers) (l : Ledger Res) : InitEnd Unit × Ledger Res :=
  let l := createRpmsgChrdev a (l.ask a.driver .driver)
  if a.driver then (.ok (), l) else (.error, l)

/-- `rpmsg_fini`. -/
def rpmsgFini (_ : Unit) (l : Ledger Res) : Ledger Res := l.release .driver

def loadable : Loadable Answers Unit Res := ⟨rpmsgInit, rpmsgFini⟩

end RpmsgBusModule
