import DriverModules.Lib.LockOrder
import DriverModules.Rpmsg.Endpoint
import Mathlib.Data.Fintype.EquivFin
import Mathlib.Order.Fin.Basic

/-!
# The lock order of the rpmsg modules

Every call into the modules takes its locks one inside the other: a delivery holds the `cb_lock` of
an endpoint while the callback runs, the callback of the name service registers and unregisters
devices under their `device_lock`, a device that goes takes its endpoint devices with it, and there
`ept_lock` is held while an endpoint is destroyed. What a call may do on the way, by the answers it
gets, is its path; the operations on the locks are read off the source for each path.

## Main results

* `RpmsgCall.ordered`: `RpmsgLock.rank` orders the locks so that each is only ever taken inside
  smaller ones.
* `rpmsgCall_finishes`: so there is no cycle of calls that wait for each other's locks, and every
  lock somebody waits for can be freed. It rests on `LockOrder.exists_finish`.

## What is left out

Sleeping is no operation on a lock. A path is that of a call whose sleeps have ended, after as many
turns as it says: of a reader that has got its message, or of a writer that has got its buffer or
has run into the timeout. Neither has to come. A reader of an empty queue sleeps for as long as
nothing arrives, and holds no lock. A writer with a signal pending can go round the wait loop
without end (`run_interruptedTurns`) and holds `ept_lock` all the while; what then waits for that
lock is not a matter of the lock order.
-/

open LockOrder Transition

inductive RpmsgLock
  /-- The lock the driver core holds around `rpmsg_probe` and `rpmsg_remove`. -/
  | vdev (v : VrpId)
  /-- `cb_lock` of the name service endpoint. -/
  | nsCb (v : VrpId)
  /-- `device_lock` of an rpmsg device, which the driver core holds around `rpmsg_dev_probe` and
  `rpmsg_dev_remove`. -/
  | rpdev (r : RpdevId)
  | eptLock (x : EptdevId)
  /-- `cb_lock` of any other endpoint. -/
  | cbLock (e : EptId)
  | endpointsLock (v : VrpId)
  | txLock (v : VrpId)
  | queueLock (x : EptdevId)
  deriving DecidableEq, Repr

def RpmsgLock.rank : RpmsgLock → Fin 6
  | vdev _ => 0
  | nsCb _ => 1
  | rpdev _ => 2
  | eptLock _ => 3
  | cbLock _ => 4
  | endpointsLock _ | txLock _ | queueLock _ => 5

abbrev LockProg := List (LockOp RpmsgLock)

/-! ### Endpoints and sends -/

/-- `__rpmsg_create_ept`. -/
def rpmsgCreateEptLocks (v : VrpId) (kzalloc : Bool) : LockProg :=
  if kzalloc then within (.endpointsLock v) [] else []

/-- `__rpmsg_destroy_ept`; `cbLock` is that of the endpoint. -/
def rpmsgDestroyEptLocks (v : VrpId) (cbLock : RpmsgLock) : LockProg :=
  within (.endpointsLock v) [] ++ within cbLock []

/-- `get_a_tx_buf`, `rpmsg_upref_sleepers`, `rpmsg_downref_sleepers` and the end of a send have one
section each. -/
def txSection (v : VrpId) : LockProg := within (.txLock v) []

/-- A way through `rpmsg_send_offchannel_raw` that comes to its end. -/
inductive SendPath
  /-- The arguments do not pass. -/
  | refused
  /-- There is no buffer, and the caller does not wait. -/
  | noBuffer
  /-- There is a buffer, if need be after some turns of the loop; in each turn the condition of the
  sleep is looked at a number of times. -/
  | added (turns : List ℕ)
  /-- The last turn ends by its timeout. -/
  | timedOut (turns : List ℕ)
  deriving DecidableEq, Repr

/-- A turn of the loop. -/
def sendTurnLocks (v : VrpId) (looks : ℕ) : LockProg :=
  txSection v ++ (List.range looks).flatMap (fun _ ↦ txSection v) ++ txSection v

/-- `rpmsg_send_offchannel_raw`. -/
def rpmsgSendLocks (v : VrpId) : SendPath → LockProg
  | .refused => []
  | .noBuffer => txSection v
  | .added turns => txSection v ++ turns.flatMap (sendTurnLocks v) ++ txSection v
  | .timedOut turns => txSection v ++ turns.flatMap (sendTurnLocks v)

/-! ### Endpoint devices -/

/-- `rpmsg_ept_cb`. -/
def rpmsgEptCbLocks (x : EptdevId) (allocSkb : Bool) : LockProg :=
  if allocSkb then within (.queueLock x) [] else []

/-- `rpmsg_eptdev_destroy`, and `rpmsg_eptdev_release`; `ept` is the endpoint it finds. -/
def rpmsgEptdevDestroyLocks (v : VrpId) (x : EptdevId) (ept : Option EptId) : LockProg :=
  within (.eptLock x) (ept.elim [] fun e ↦ rpmsgDestroyEptLocks v (.cbLock e))

/-- A way through `rpmsg_eptdev_write_iter`. -/
inductive WritePath
  /-- There is no memory, the data cannot be read, or the wait for `ept_lock` is interrupted. -/
  | early
  | noEpt
  | send (path : SendPath)
  deriving DecidableEq, Repr

/-- `rpmsg_eptdev_write_iter`. -/
def rpmsgEptdevWriteIterLocks (v : VrpId) (x : EptdevId) : WritePath → LockProg
  | .early => []
  | .noEpt => within (.eptLock x) []
  | .send path => within (.eptLock x) (rpmsgSendLocks v path)

/-- A way through `rpmsg_eptdev_read_iter` that comes to its end. -/
inductive ReadPath
  | noEpt
  /-- Nothing is there, and the reader does not wait, or is interrupted, or loses the endpoint. -/
  | nothing
  /-- There is a message at once, or after the sleep. -/
  | taken (slept : Bool)
  deriving DecidableEq, Repr

/-- `rpmsg_eptdev_read_iter`. -/
def rpmsgEptdevReadIterLocks (x : EptdevId) : ReadPath → LockProg
  | .noEpt => []
  | .nothing | .taken false => within (.queueLock x) []
  | .taken true => within (.queueLock x) [] ++ within (.queueLock x) []

/-! ### Devices and their drivers -/

/-- What a driver does in its own functions. -/
inductive DriverCall
  | createEpt (kzalloc : Bool)
  | send (path : SendPath)
  deriving DecidableEq, Repr

def driverLocks (v : VrpId) : DriverCall → LockProg
  | .createEpt kzalloc => rpmsgCreateEptLocks v kzalloc
  | .send path => rpmsgSendLocks v path

/-- A way through `rpmsg_dev_probe`; `own` is what the driver's own `probe` does. -/
inductive DevProbePath
  /-- `dev_pm_domain_attach` fails. -/
  | noDomain
  | noCallback (own : List DriverCall)
  | noEpt (kzalloc : Bool)
  /-- The driver's `probe` fails, and its endpoint `e` is destroyed again. -/
  | failed (own : List DriverCall) (e : EptId)
  | probed (own : List DriverCall) (announce : Option SendPath)

/-- `rpmsg_dev_probe`. -/
def rpmsgDevProbeLocks (v : VrpId) : DevProbePath → LockProg
  | .noDomain => []
  | .noCallback own => own.flatMap (driverLocks v)
  | .noEpt kzalloc => rpmsgCreateEptLocks v kzalloc
  | .failed own e =>
    rpmsgCreateEptLocks v true ++ own.flatMap (driverLocks v) ++ rpmsgDestroyEptLocks v (.cbLock e)
  | .probed own announce =>
    rpmsgCreateEptLocks v true ++ own.flatMap (driverLocks v) ++
      announce.elim [] (rpmsgSendLocks v)

/-- The `remove` of a driver. -/
inductive DriverRemove
  /-- `rpmsg_chrdev_remove`, with the endpoint devices it finds. -/
  | chrdev (children : List (EptdevId × Option EptId))
  /-- That of another driver, with the endpoints it destroys. -/
  | own (calls : List DriverCall) (epts : List EptId)

def driverRemoveLocks (v : VrpId) : DriverRemove → LockProg
  | .chrdev children => children.flatMap fun child ↦ rpmsgEptdevDestroyLocks v child.1 child.2
  | .own calls epts =>
    calls.flatMap (driverLocks v) ++ epts.flatMap fun e ↦ rpmsgDestroyEptLocks v (.cbLock e)

/-- A way through `rpmsg_dev_remove`. -/
structure DevRemovePath where
  announce : Option SendPath
  remove : DriverRemove
  ept : Option EptId

/-- `rpmsg_dev_remove`. -/
def rpmsgDevRemoveLocks (v : VrpId) (path : DevRemovePath) : LockProg :=
  path.announce.elim [] (rpmsgSendLocks v) ++ driverRemoveLocks v path.remove ++
    path.ept.elim [] fun e ↦ rpmsgDestroyEptLocks v (.cbLock e)

/-- `device_register`: the drivers that match are tried under the lock of the device. -/
def deviceRegisterLocks (v : VrpId) (r : RpdevId) (probes : List DevProbePath) : LockProg :=
  within (.rpdev r) (probes.flatMap (rpmsgDevProbeLocks v))

/-- `device_unregister`, of a device that may be bound. -/
def deviceUnregisterLocks (v : VrpId) (r : RpdevId) (bound : Option DevRemovePath) : LockProg :=
  within (.rpdev r) (bound.elim [] (rpmsgDevRemoveLocks v))

/-! ### Deliveries -/

/-- A way through `rpmsg_ns_cb`. -/
inductive NsPath
  /-- The message is malformed, or the channel is there already, or not there. -/
  | nothing
  | created (r : RpdevId) (probes : List DevProbePath)
  | destroyed (r : RpdevId) (bound : Option DevRemovePath)

/-- `rpmsg_ns_cb`. -/
def rpmsgNsCbLocks (v : VrpId) : NsPath → LockProg
  | .nothing => []
  | .created r probes => deviceRegisterLocks v r probes
  | .destroyed r bound => deviceUnregisterLocks v r bound

/-- A way through `rpmsg_recv_single`. -/
inductive RecvPath
  | tooBig
  | noRecipient
  | ns (path : NsPath)
  | eptdev (e : EptId) (x : EptdevId) (allocSkb : Bool)
  /-- The callback of another driver, or none. -/
  | driver (e : EptId) (calls : List DriverCall)

/-- `rpmsg_recv_single`. -/
def rpmsgRecvSingleLocks (v : VrpId) : RecvPath → LockProg
  | .tooBig => []
  | .noRecipient => within (.endpointsLock v) []
  | .ns path => within (.endpointsLock v) [] ++ within (.nsCb v) (rpmsgNsCbLocks v path)
  | .eptdev e x allocSkb =>
    within (.endpointsLock v) [] ++ within (.cbLock e) (rpmsgEptCbLocks x allocSkb)
  | .driver e calls =>
    within (.endpointsLock v) [] ++ within (.cbLock e) (calls.flatMap (driverLocks v))

/-! ### Calls -/

/-- A call into the modules, and its path. -/
inductive RpmsgCall
  /-- `rpmsg_recv_done`. -/
  | recvDone (v : VrpId) (msgs : List RecvPath)
  /-- `rpmsg_probe`; `ns` is the `kzalloc` of the name service endpoint, if there is to be one. -/
  | probe (v : VrpId) (ns : Option Bool)
  /-- `rpmsg_remove`. -/
  | remove (v : VrpId) (children : List (RpdevId × Option DevRemovePath)) (ns : Bool)
  /-- `register_rpmsg_driver`: the devices that match are tried. -/
  | registerDriver (devs : List (VrpId × RpdevId × DevProbePath))
  /-- `unregister_rpmsg_driver`. -/
  | unregisterDriver (devs : List (VrpId × RpdevId × DevRemovePath))
  /-- `driver_override_store`; `kstrndup` is whether it finds memory. -/
  | driverOverrideStore (r : RpdevId) (kstrndup : Bool)
  /-- `rpmsg_eptdev_open`. -/
  | eptdevOpen (v : VrpId) (kzalloc : Bool)
  /-- `rpmsg_eptdev_release`, or `RPMSG_DESTROY_EPT_IOCTL`. -/
  | eptdevDestroy (v : VrpId) (x : EptdevId) (ept : Option EptId)
  | eptdevRead (x : EptdevId) (path : ReadPath)
  | eptdevWrite (v : VrpId) (x : EptdevId) (path : WritePath)
  /-- Something a driver does outside of its callbacks. -/
  | driver (v : VrpId) (call : DriverCall)
  | driverDestroyEpt (v : VrpId) (e : EptId)

/-- The operations on the locks that a call makes on its path. -/
def RpmsgCall.locks : RpmsgCall → LockProg
  | recvDone v msgs => msgs.flatMap (rpmsgRecvSingleLocks v)
  | probe v ns => within (.vdev v) (ns.elim [] (rpmsgCreateEptLocks v))
  | remove v children ns =>
    within (.vdev v) (children.flatMap (fun child ↦ deviceUnregisterLocks v child.1 child.2) ++
      if ns then rpmsgDestroyEptLocks v (.nsCb v) else [])
  | registerDriver devs => devs.flatMap fun dev ↦ deviceRegisterLocks dev.1 dev.2.1 [dev.2.2]
  | unregisterDriver devs =>
    devs.flatMap fun dev ↦ deviceUnregisterLocks dev.1 dev.2.1 (some dev.2.2)
  | driverOverrideStore r kstrndup => if kstrndup then within (.rpdev r) [] else []
  | eptdevOpen v kzalloc => rpmsgCreateEptLocks v kzalloc
  | eptdevDestroy v x ept => rpmsgEptdevDestroyLocks v x ept
  | eptdevRead x path => rpmsgEptdevReadIterLocks x path
  | eptdevWrite v x path => rpmsgEptdevWriteIterLocks v x path
  | driver v call => driverLocks v call
  | driverDestroyEpt v e => rpmsgDestroyEptLocks v (.cbLock e)

/-! ### The order -/

section Order

variable {p : LockProg} (v : VrpId)

theorem above_endpointsLock : Above RpmsgLock.rank 5 (within (.endpointsLock v) []) :=
  .section le_rfl

theorem above_txSection : Above RpmsgLock.rank 5 (txSection v) := .section le_rfl

theorem above_queueLock (x : EptdevId) : Above RpmsgLock.rank 5 (within (.queueLock x) []) :=
  .section le_rfl

theorem above_cbLock (e : EptId) (h : Above RpmsgLock.rank 5 p) :
    Above RpmsgLock.rank 4 (within (.cbLock e) p) :=
  h.within le_rfl (show (4 : Fin 6) < 5 by decide)

theorem above_eptLock (x : EptdevId) (h : Above RpmsgLock.rank 4 p) :
    Above RpmsgLock.rank 3 (within (.eptLock x) p) :=
  h.within le_rfl (show (3 : Fin 6) < 4 by decide)

theorem above_rpdev (r : RpdevId) (h : Above RpmsgLock.rank 3 p) :
    Above RpmsgLock.rank 2 (within (.rpdev r) p) :=
  h.within le_rfl (show (2 : Fin 6) < 3 by decide)

theorem above_nsCb (h : Above RpmsgLock.rank 2 p) :
    Above RpmsgLock.rank 1 (within (.nsCb v) p) :=
  h.within le_rfl (show (1 : Fin 6) < 2 by decide)

theorem above_vdev (h : Above RpmsgLock.rank 1 p) :
    Above RpmsgLock.rank 0 (within (.vdev v) p) :=
  h.within le_rfl (show (0 : Fin 6) < 1 by decide)

theorem above_elim {α : Type*} {r : Fin 6} {f : α → LockProg}
    (h : ∀ a, Above RpmsgLock.rank r (f a)) (o : Option α) :
    Above RpmsgLock.rank r (o.elim [] f) := by
  rcases o with - | a
  · exact .nil
  · exact h a

theorem above_createEpt (kzalloc : Bool) :
    Above RpmsgLock.rank 5 (rpmsgCreateEptLocks v kzalloc) := by
  rcases kzalloc with - | -
  · exact .nil
  · exact above_endpointsLock v

theorem above_destroyEpt (e : EptId) :
    Above RpmsgLock.rank 4 (rpmsgDestroyEptLocks v (.cbLock e)) :=
  ((above_endpointsLock v).mono (Fin.le_last _)).append (above_cbLock e .nil)

theorem above_send (path : SendPath) : Above RpmsgLock.rank 5 (rpmsgSendLocks v path) := by
  have hturns : ∀ turns : List ℕ, Above RpmsgLock.rank 5
      (txSection v ++ turns.flatMap (sendTurnLocks v)) := fun turns ↦
    (above_txSection v).append (.flatMap (fun _ ↦ ((above_txSection v).append
      (.flatMap (fun _ ↦ above_txSection v) _)).append (above_txSection v)) turns)
  cases path with
  | refused => exact .nil
  | noBuffer => exact above_txSection v
  | added turns => exact (hturns turns).append (above_txSection v)
  | timedOut turns => exact hturns turns

theorem above_driver (call : DriverCall) : Above RpmsgLock.rank 5 (driverLocks v call) := by
  cases call with
  | createEpt kzalloc => exact above_createEpt v kzalloc
  | send path => exact above_send v path

theorem above_calls (calls : List DriverCall) :
    Above RpmsgLock.rank 5 (calls.flatMap (driverLocks v)) :=
  .flatMap (above_driver v) calls

theorem above_eptdevDestroy (x : EptdevId) (ept : Option EptId) :
    Above RpmsgLock.rank 3 (rpmsgEptdevDestroyLocks v x ept) :=
  above_eptLock x (above_elim (above_destroyEpt v) ept)

theorem above_devProbe (path : DevProbePath) :
    Above RpmsgLock.rank 4 (rpmsgDevProbeLocks v path) := by
  have hcalls : ∀ calls : List DriverCall, Above RpmsgLock.rank 4
      (rpmsgCreateEptLocks v true ++ calls.flatMap (driverLocks v)) := fun calls ↦
    ((above_createEpt v true).append (above_calls v calls)).mono (Fin.le_last _)
  cases path with
  | noDomain => exact .nil
  | noCallback own => exact (above_calls v own).mono (Fin.le_last _)
  | noEpt kzalloc => exact (above_createEpt v kzalloc).mono (Fin.le_last _)
  | failed own e => exact (hcalls own).append (above_destroyEpt v e)
  | probed own announce =>
    exact (hcalls own).append ((above_elim (above_send v) announce).mono (Fin.le_last _))

theorem above_driverRemove (remove : DriverRemove) :
    Above RpmsgLock.rank 3 (driverRemoveLocks v remove) := by
  cases remove with
  | chrdev children => exact .flatMap (fun child ↦ above_eptdevDestroy v child.1 child.2) children
  | own calls epts =>
    have hepts : Above RpmsgLock.rank 4
        (epts.flatMap fun e ↦ rpmsgDestroyEptLocks v (.cbLock e)) :=
      .flatMap (above_destroyEpt v) epts
    exact ((above_calls v calls).mono (Fin.le_last _)).append (hepts.mono (by decide))

theorem above_devRemove (path : DevRemovePath) :
    Above RpmsgLock.rank 3 (rpmsgDevRemoveLocks v path) := by
  have hept : Above RpmsgLock.rank 4
      (path.ept.elim [] fun e ↦ rpmsgDestroyEptLocks v (.cbLock e)) :=
    above_elim (above_destroyEpt v) path.ept
  exact (((above_elim (above_send v) path.announce).mono (Fin.le_last _)).append
    (above_driverRemove v path.remove)).append (hept.mono (by decide))

theorem above_deviceRegister (r : RpdevId) (probes : List DevProbePath) :
    Above RpmsgLock.rank 2 (deviceRegisterLocks v r probes) := by
  have hprobes : Above RpmsgLock.rank 4 (probes.flatMap (rpmsgDevProbeLocks v)) :=
    .flatMap (above_devProbe v) probes
  exact above_rpdev r (hprobes.mono (by decide))

theorem above_deviceUnregister (r : RpdevId) (bound : Option DevRemovePath) :
    Above RpmsgLock.rank 2 (deviceUnregisterLocks v r bound) :=
  above_rpdev r (above_elim (above_devRemove v) bound)

/-- **The callback of the name service** runs above its own `cb_lock`. -/
theorem above_rpmsgNsCb (path : NsPath) : Above RpmsgLock.rank 2 (rpmsgNsCbLocks v path) := by
  cases path with
  | nothing => exact .nil
  | created r probes => exact above_deviceRegister v r probes
  | destroyed r bound => exact above_deviceUnregister v r bound

theorem above_eptCb (x : EptdevId) (allocSkb : Bool) :
    Above RpmsgLock.rank 5 (rpmsgEptCbLocks x allocSkb) := by
  rcases allocSkb with - | -
  · exact .nil
  · exact above_queueLock x

theorem above_recvSingle (path : RecvPath) :
    Above RpmsgLock.rank 1 (rpmsgRecvSingleLocks v path) := by
  have hfind : Above RpmsgLock.rank 1 (within (.endpointsLock v) []) :=
    (above_endpointsLock v).mono (Fin.le_last _)
  cases path with
  | tooBig => exact .nil
  | noRecipient => exact hfind
  | ns path => exact hfind.append (above_nsCb v (above_rpmsgNsCb v path))
  | eptdev e x allocSkb =>
    exact hfind.append ((above_cbLock e (above_eptCb x allocSkb)).mono (by decide))
  | driver e calls =>
    exact hfind.append ((above_cbLock e (above_calls v calls)).mono (by decide))

/-- `rpmsg_remove`: the name service endpoint goes after the devices. -/
theorem above_remove (children : List (RpdevId × Option DevRemovePath)) (ns : Bool) :
    Above RpmsgLock.rank 0 (RpmsgCall.remove v children ns).locks := by
  have hchildren : Above RpmsgLock.rank 2
      (children.flatMap fun child ↦ deviceUnregisterLocks v child.1 child.2) :=
    .flatMap (fun child ↦ above_deviceUnregister v child.1 child.2) children
  refine above_vdev v ((hchildren.mono (by decide)).append ?_)
  rcases ns with - | -
  · exact .nil
  · exact ((above_endpointsLock v).mono (Fin.le_last _)).append (above_nsCb v .nil)

end Order

/-- **Every call takes its locks in order.** -/
theorem RpmsgCall.ordered (call : RpmsgCall) : Ordered RpmsgLock.rank [] call.locks := by
  have hlow : ∀ {r : Fin 6} {p : LockProg}, Above RpmsgLock.rank r p →
      Above RpmsgLock.rank 0 p := fun h ↦ h.mono (Fin.zero_le _)
  refine Above.ordered (r := (0 : Fin 6)) ?_
  cases call with
  | recvDone v msgs => exact hlow (Above.flatMap (above_recvSingle v) msgs)
  | probe v ns => exact above_vdev v ((above_elim (above_createEpt v) ns).mono (Fin.le_last _))
  | remove v children ns => exact above_remove v children ns
  | registerDriver devs =>
    exact hlow (Above.flatMap (fun dev ↦ above_deviceRegister dev.1 dev.2.1 [dev.2.2]) devs)
  | unregisterDriver devs =>
    exact hlow (Above.flatMap
      (fun dev ↦ above_deviceUnregister dev.1 dev.2.1 (some dev.2.2)) devs)
  | driverOverrideStore r kstrndup =>
    rcases kstrndup with - | -
    · exact .nil
    · exact hlow (above_rpdev r .nil)
  | eptdevOpen v kzalloc => exact hlow (above_createEpt v kzalloc)
  | eptdevDestroy v x ept => exact hlow (above_eptdevDestroy v x ept)
  | eptdevRead x path =>
    rcases path with - | - | - | -
    · exact .nil
    · exact hlow (above_queueLock x)
    · exact hlow (above_queueLock x)
    · exact hlow ((above_queueLock x).append (above_queueLock x))
  | eptdevWrite v x path =>
    rcases path with - | - | path
    · exact .nil
    · exact hlow (above_eptLock x .nil)
    · exact hlow (above_eptLock x ((above_send v path).mono (Fin.le_last _)))
  | driver v call => exact hlow (above_driver v call)
  | driverDestroyEpt v e => exact hlow (above_destroyEpt v e)

/-! ### Runs -/

/-- What a thread begins is a call into the modules. -/
def Calling (_ : Threads ℕ RpmsgLock) : ThreadEvent ℕ RpmsgLock → Prop
  | .start _ p => ∃ call : RpmsgCall, p = call.locks
  | .next _ => True

/-- **The lock order excludes deadlock**: whatever paths any number of threads are on, and whatever
locks they hold or wait for, each of them can be brought through all lock operations of its path by
such operations of the threads under way alone. -/
theorem rpmsgCall_finishes (s : Threads ℕ RpmsgLock) (h : Reaches Threads.step Calling .idle s)
    (i : ℕ) : ∃ s', Drives s s' ∧ s'.prog i = [] := by
  have horderly : Reaches Threads.step (Orderly RpmsgLock.rank) .idle s := by
    refine h.mono fun {s ev} hc ↦ ?_
    rcases ev with ⟨i, p⟩ | i
    · obtain ⟨call, rfl⟩ := hc
      exact call.ordered
    · trivial
  have hwf : WellFoundedGT (Fin 6) := Finite.to_wellFoundedGT
  exact exists_finish s (holds_of_reaches horderly) i

/-- The name service takes a device away while somebody writes to its endpoint device, with a buffer
at hand: it waits for `ept_lock`, gets it when the write is through, and comes to its end. -/
theorem rpmsgCall_finishes_blocked :
    ∃ s, run Threads.step .idle
        [.start 1 (RpmsgCall.eptdevWrite 0 2 (.send (.added []))).locks, .next 1,
          .start 0 (RpmsgCall.recvDone 0
            [.ns (.destroyed 1 (some ⟨none, .chrdev [(2, some 5)], none⟩))]).locks,
          .next 0, .next 0, .next 0, .next 0] = some s ∧
      (s.step (.next 0)).isNone = true ∧ ∃ s', Drives s s' ∧ s'.prog 0 = [] := by
  obtain ⟨s, hs, hblocked⟩ := Option.map_eq_some_iff.1 (show Option.map
    (fun s : Threads ℕ RpmsgLock ↦ (s.step (.next 0)).isNone) (run Threads.step .idle
      [.start 1 (RpmsgCall.eptdevWrite 0 2 (.send (.added []))).locks, .next 1,
        .start 0 (RpmsgCall.recvDone 0
          [.ns (.destroyed 1 (some ⟨none, .chrdev [(2, some 5)], none⟩))]).locks,
        .next 0, .next 0, .next 0, .next 0]) = some true by decide +kernel)
  refine ⟨s, hs, hblocked, rpmsgCall_finishes s (reaches_iff_exists_run.2 ⟨_, hs, ?_⟩) 0⟩
  exact ⟨⟨_, rfl⟩, fun _ _ ↦ ⟨trivial, fun _ _ ↦ ⟨⟨_, rfl⟩, fun _ _ ↦ ⟨trivial, fun _ _ ↦
    ⟨trivial, fun _ _ ↦ ⟨trivial, fun _ _ ↦ ⟨trivial, fun _ _ ↦ trivial⟩⟩⟩⟩⟩⟩⟩
