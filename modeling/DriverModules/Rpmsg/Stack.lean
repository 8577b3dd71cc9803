import DriverModules.Lib.Transition
import DriverModules.Rpmsg.Device

/-!
# The rpmsg stack

Everything a process, a remote processor or the module loader can make `virtio_rpmsg_bus`,
`rpmsg_core` and `rpmsg_char` do to the objects of `DriverModules.Rpmsg.Device`, one call after the
other. An event carries what the rest of the kernel answers: allocations, registrations.

Memory is what the functions must not get wrong here, so a freed object is gone and every use of a
pointer looks the object up. A use of a freed object, or of a field the object does not have, is a
`Fault`; it stops the stack (`oops`), as it would the kernel. Ids are never used twice, so a pointer
to freed memory can never be mistaken for a pointer to what was allocated there later.
-/

open Transition

/-- The uses of memory that is not there. -/
inductive Fault
  /-- `virtio_rpmsg_create_ept` follows a `vrp` that is none. -/
  | createEpt
  /-- `virtio_rpmsg_destroy_ept` follows a `vrp` that is none, or is given a freed endpoint. -/
  | destroyEpt
  /-- A file operation on a freed endpoint device. -/
  | eptdev
  /-- A send through a freed endpoint or rpmsg device. -/
  | send
  deriving DecidableEq, Repr

structure Stack where
  /-- The id of the next object. -/
  next : ℕ
  vrps : VrpId → Option VirtprocInfo
  rpdevs : RpdevId → Option RpmsgDevice
  epts : EptId → Option RpmsgEndpoint
  ctrldevs : CtrldevId → Option RpmsgCtrldev
  eptdevs : EptdevId → Option RpmsgEptdev
  files : FileId → Option EptFile
  oops : Option Fault

/-- What the allocators answer to `__rpmsg_create_ept`. -/
structure EptEnv where
  kzalloc : Bool
  /-- `idr_alloc` finds no memory for the table. -/
  nomem : Bool
  deriving DecidableEq, Repr

/-- What the rest of the kernel answers to `rpmsg_probe`. -/
structure ProbeEnv where
  kzalloc : Bool
  findVqs : Bool
  vringSize : ℕ
  /-- What `dma_alloc_coherent` returns. -/
  bufsVa : Option ℕ
  /-- `virtio_has_feature(vdev, VIRTIO_RPMSG_F_NS)`. -/
  featureNs : Bool
  ept : EptEnv

/-- `struct rpmsg_ns_msg`. -/
structure RpmsgNsMsg where
  name : List UInt8
  addr : UInt32
  flags : UInt32
  deriving DecidableEq, Repr

/-- `sizeof(struct rpmsg_ns_msg)`. -/
def RpmsgNsMsg.size : ℕ := RPMSG_NAME_SIZE + 4 + 4

def RPMSG_NS_DESTROY : UInt32 := 1

namespace Stack

/-- Nothing is loaded. -/
def init : Stack where
  next := 0
  vrps _ := none
  rpdevs _ := none
  epts _ := none
  ctrldevs _ := none
  eptdevs _ := none
  files _ := none
  oops := none

def setRpdev (s : Stack) (r : RpdevId) (rpdev : Option RpmsgDevice) : Stack :=
  { s with rpdevs := Function.update s.rpdevs r rpdev }

def setEptdev (s : Stack) (x : EptdevId) (d : RpmsgEptdev) : Stack :=
  { s with eptdevs := Function.update s.eptdevs x (some d) }

def setFile (s : Stack) (f : FileId) (file : Option EptFile) : Stack :=
  { s with files := Function.update s.files f file }

/-! ### Endpoints -/

/-- `to_virtio_rpmsg_channel(rpdev)->vrp`. There is none when the device was freed, when it is not
embedded in a `struct virtio_rpmsg_channel`, and when the remote processor was freed. -/
def vrpOf (s : Stack) (r : RpdevId) : Option (VrpId × VirtprocInfo) :=
  (s.rpdevs r).bind fun rpdev ↦
    match rpdev.container with
    | .virtioRpmsgChannel v => (s.vrps v).map fun vp ↦ (v, vp)
    | .virtioRpmsgDevice => none

/-- `__rpmsg_create_ept`. -/
def rpmsgCreateEptOn (s : Stack) (v : VrpId) (vp : VirtprocInfo) (rpdev : Option RpdevId)
    (cb : RxCb) (priv : Priv) (addr : UInt32) (env : EptEnv) : Stack × Option EptId :=
  if env.kzalloc then
    match vp.endpoints.alloc s.next (idMin addr) (idMax addr) env.nomem with
    | .error _ => (s, none)
    | .ok (id, endpoints) =>
      let ept := { rpdev, refcount := 1, cb := some cb, addr := .ofNat id, priv }
      ({ s with
         next := s.next + 1
         vrps := Function.update s.vrps v (some { vp with endpoints })
         epts := Function.update s.epts s.next (some ept) }, some s.next)
  else (s, none)

/-- `rpmsg_create_ept`, by way of `virtio_rpmsg_create_ept`. -/
def rpmsgCreateEpt (s : Stack) (rpdev : RpdevId) (cb : RxCb) (priv : Priv)
    (chinfo : RpmsgChannelInfo) (env : EptEnv) : Except Fault (Stack × Option EptId) :=
  match s.vrpOf rpdev with
  | none => .error .createEpt
  | some (v, vp) => .ok (s.rpmsgCreateEptOn v vp (some rpdev) cb priv chinfo.src env)

/-- `__rpmsg_destroy_ept`. No delivery is under way, so the reference it puts is the last one. -/
def rpmsgDestroyEptOn (s : Stack) (v : VrpId) (vp : VirtprocInfo) (e : EptId)
    (ept : RpmsgEndpoint) : Stack :=
  { s with
    vrps := Function.update s.vrps v
      (some { vp with endpoints := vp.endpoints.remove ept.addr.toNat })
    epts := Function.update s.epts e none }

/-- `rpmsg_destroy_ept`, by way of `virtio_rpmsg_destroy_ept`. -/
def rpmsgDestroyEpt (s : Stack) (e : EptId) : Except Fault Stack :=
  match s.epts e with
  | none => .error .destroyEpt
  | some ept =>
    match ept.rpdev.bind s.vrpOf with
    | none => .error .destroyEpt
    | some (v, vp) => .ok (s.rpmsgDestroyEptOn v vp e ept)

/-! ### Endpoint devices -/

/-- `if (eptdev->ept) rpmsg_destroy_ept(eptdev->ept)`. -/
def destroyCurrent (s : Stack) (d : RpmsgEptdev) : Except Fault Stack :=
  match d.ept with
  | none => .ok s
  | some e => s.rpmsgDestroyEpt e

/-- `rpmsg_eptdev_destroy`. -/
def rpmsgEptdevDestroy (s : Stack) (x : EptdevId) : Except Fault Stack :=
  match s.eptdevs x with
  | none => .error .eptdev
  | some d =>
    if d.refs = 0 then .error .eptdev
    else do
      let s ← s.destroyCurrent d
      return s.setEptdev x { d with ept := none }.drop

/-- `rpmsg_eptdev_open` of the endpoint device `x`, which is `d`, for the new file `f`. -/
def rpmsgEptdevOpen (s : Stack) (x : EptdevId) (d : RpmsgEptdev) (f : FileId) (nonblock : Bool)
    (env : EptEnv) : Except Fault Stack := do
  let s := s.setEptdev x d.get
  match ← s.rpmsgCreateEpt d.rpdev .rpmsgEptCb (.eptdev x) d.chinfo env with
  | (s, none) => return s.setEptdev x d.get.put
  | (s, some e) =>
    return (s.setEptdev x { d.get with ept := some e }).setFile f (some { eptdev := x, nonblock })

/-- `rpmsg_eptdev_release` of the file `f` of the endpoint device `x`. -/
def rpmsgEptdevRelease (s : Stack) (x : EptdevId) (f : FileId) : Except Fault Stack :=
  match s.eptdevs x with
  | none => .error .eptdev
  | some d =>
    if d.refs = 0 then .error .eptdev
    else do
      let s ← s.destroyCurrent d
      return (s.setEptdev x { d with ept := none }.put).setFile f none

/-- The endpoint devices `device_for_each_child` finds below a control device. -/
def eptdevsOf (s : Stack) (c : CtrldevId) : List EptdevId :=
  (List.range s.next).filter fun x ↦ (s.eptdevs x).any fun d ↦ d.registered && d.ctrldev == c

/-- `rpmsg_ctrldev_ioctl` with `RPMSG_CREATE_EPT_IOCTL` on a file of `c`, when every allocation of
`rpmsg_eptdev_create` and its `device_add` succeed. -/
def rpmsgEptdevCreate (s : Stack) (c : CtrldevId) (ctrldev : RpmsgCtrldev)
    (eptinfo : RpmsgEndpointInfo) : Stack :=
  { s with
    next := s.next + 1
    eptdevs := Function.update s.eptdevs s.next (some (rpmsgEptdev c ctrldev.rpdev eptinfo)) }

/-! ### Rpmsg devices -/

/-- `rpmsg_dev_probe` with `rpmsg_chrdev_probe`, when every allocation and its `device_add`
succeed. -/
def rpmsgChrdevProbe (s : Stack) (r : RpdevId) (rpdev : RpmsgDevice) : Stack :=
  { s with
    next := s.next + 1
    ctrldevs := Function.update s.ctrldevs s.next (some { rpdev := r, registered := true })
    rpdevs := Function.update s.rpdevs r (some { rpdev with driver := some s.next }) }

/-- `rpmsg_chrdev_remove`. -/
def rpmsgChrdevRemove (s : Stack) (r : RpdevId) (c : CtrldevId) : Except Fault Stack := do
  let s ← (s.eptdevsOf c).foldlM rpmsgEptdevDestroy s
  return { s with
    ctrldevs := Function.update s.ctrldevs c (some { rpdev := r, registered := false })
    rpdevs := Function.update s.rpdevs r
      ((s.rpdevs r).map fun rpdev ↦ { rpdev with driver := none }) }

/-- `rpmsg_dev_remove`, where a driver is bound. -/
def rpmsgDevRemove (s : Stack) (r : RpdevId) : Except Fault Stack :=
  match (s.rpdevs r).bind (·.driver) with
  | none => .ok s
  | some c => s.rpmsgChrdevRemove r c

/-- `device_unregister`: the driver is removed, and the last reference frees the device. -/
def deviceUnregister (s : Stack) (r : RpdevId) : Except Fault Stack := do
  let s ← s.rpmsgDevRemove r
  return s.setRpdev r none

/-- The rpmsg devices below a virtio device. -/
def channelsOf (s : Stack) (v : VrpId) : List RpdevId :=
  (List.range s.next).filter fun r ↦ (s.rpdevs r).any fun rpdev ↦ rpdev.parent == some v

/-- `rpmsg_find_device`. -/
def rpmsgFindDevice (s : Stack) (v : VrpId) (chinfo : RpmsgChannelInfo) : Option RpdevId :=
  (s.channelsOf v).find? fun r ↦ (s.rpdevs r).any (rpmsgDeviceMatch chinfo)

/-- A new rpmsg device. -/
def addRpdev (s : Stack) (rpdev : RpmsgDevice) : Stack :=
  { s with
    next := s.next + 1
    rpdevs := Function.update s.rpdevs s.next (some rpdev) }

/-- `rpmsg_create_channel`; `registered` says whether `kzalloc` and `rpmsg_register_device`
succeed. -/
def rpmsgCreateChannel (s : Stack) (v : VrpId) (chinfo : RpmsgChannelInfo) (registered : Bool) :
    Stack :=
  if (s.rpmsgFindDevice v chinfo).isSome then s
  else if registered then s.addRpdev (rpmsgChannel v chinfo)
  else s

/-- `rpmsg_unregister_device`. -/
def rpmsgUnregisterDevice (s : Stack) (v : VrpId) (chinfo : RpmsgChannelInfo) :
    Except Fault Stack :=
  match s.rpmsgFindDevice v chinfo with
  | none => .ok s
  | some r => s.deviceUnregister r

/-- The channel info `rpmsg_ns_cb` makes of an announcement. -/
def nsChinfo (msg : RpmsgNsMsg) : RpmsgChannelInfo where
  name := strn RPMSG_NAME_SIZE (msg.name.take (RPMSG_NAME_SIZE - 1) ++ [0])
  src := RPMSG_ADDR_ANY
  dst := msg.addr

/-- `rpmsg_ns_cb`. The name service endpoint has no rpmsg device, so the test for one passes. -/
def rpmsgNsCb (s : Stack) (v : VrpId) (msg : RpmsgNsMsg) (len : ℕ) (registered : Bool) :
    Except Fault Stack :=
  if len ≠ RpmsgNsMsg.size then .ok s
  else if msg.flags &&& RPMSG_NS_DESTROY ≠ 0 then s.rpmsgUnregisterDevice v (nsChinfo msg)
  else .ok (s.rpmsgCreateChannel v (nsChinfo msg) registered)

/-! ### Remote processors -/

/-- `vrp->ns_ept = ept`. -/
def setNsEpt (s : Stack) (v : VrpId) (e : EptId) : Stack :=
  { s with
    vrps := Function.update s.vrps v ((s.vrps v).map fun vp ↦ { vp with nsEpt := some e }) }

/-- `rpmsg_probe`. A failure gives everything back. -/
def rpmsgProbe (s : Stack) (env : ProbeEnv) : Stack :=
  match env.bufsVa with
  | some va =>
    if env.kzalloc && env.findVqs then
      let v := s.next
      let vp := { layout := .ofProbe env.vringSize va, endpoints := .empty, nsEpt := none }
      let s₁ := { s with next := s.next + 1, vrps := Function.update s.vrps v (some vp) }
      if env.featureNs then
        match s₁.rpmsgCreateEptOn v vp none .rpmsgNsCb (.vrp v) RPMSG_NS_ADDR env.ept with
        | (_, none) => s
        | (s₂, some e) => s₂.setNsEpt v e
      else s₁
    else s
  | none => s

/-- `if (vrp->ns_ept) __rpmsg_destroy_ept(vrp, vrp->ns_ept)`. -/
def destroyNsEpt (s : Stack) (v : VrpId) (vp : VirtprocInfo) : Except Fault Stack :=
  match vp.nsEpt with
  | none => .ok s
  | some e =>
    match s.epts e with
    | none => .error .destroyEpt
    | some ept => .ok (s.rpmsgDestroyEptOn v vp e ept)

/-- `rpmsg_remove`. -/
def rpmsgRemove (s : Stack) (v : VrpId) : Except Fault Stack := do
  let s ← (s.channelsOf v).foldlM deviceUnregister s
  match s.vrps v with
  | none => .error .destroyEpt
  | some vp =>
    let s ← s.destroyNsEpt v vp
    return { s with vrps := Function.update s.vrps v none }

end Stack

/-! ### The events -/

inductive StackEvent
  /-- `virtio_rpmsg_bus` is loaded; `registered` says whether the `kzalloc` of
  `create_rpmsg_chrdev` and its `rpmsg_chrdev_register_device` succeed. -/
  | load (registered : Bool)
  | probe (env : ProbeEnv)
  | remove (v : VrpId)
  /-- A message of `len` bytes reaches the name service of `v`. -/
  | nsMessage (v : VrpId) (msg : RpmsgNsMsg) (len : ℕ) (registered : Bool)
  /-- A text is written to `driver_override`. -/
  | driverOverride (r : RpdevId) (buf : List UInt8) (nomem : Bool)
  /-- The driver core finds `rpmsg_chrdev` for `r`; `probed` says whether its probe succeeds. -/
  | bind (r : RpdevId) (probed : Bool)
  | unbind (r : RpdevId)
  /-- `RPMSG_CREATE_EPT_IOCTL` on a file of `c`; `created` says whether the allocations and the
  `device_add` succeed. -/
  | createEpt (c : CtrldevId) (eptinfo : RpmsgEndpointInfo) (created : Bool)
  | eptOpen (x : EptdevId) (f : FileId) (nonblock : Bool) (env : EptEnv)
  | eptClose (f : FileId)
  /-- `RPMSG_DESTROY_EPT_IOCTL`. -/
  | destroyEpt (f : FileId)

namespace Stack

/-- What an event does, where it is possible. An endpoint device can be opened as long as its
character device is there, which `rpmsg_eptdev_release_device` takes away; a control device that is
no longer registered cannot get a child. -/
def exec (s : Stack) : StackEvent → Option (Except Fault Stack)
  | .load registered => some (.ok (if registered then s.addRpdev rpmsgChrdev else s))
  | .probe env => some (.ok (s.rpmsgProbe env))
  | .remove v => (s.vrps v).map fun _ ↦ s.rpmsgRemove v
  | .nsMessage v msg len registered =>
    ((s.vrps v).bind (·.nsEpt)).map fun _ ↦ s.rpmsgNsCb v msg len registered
  | .driverOverride r buf nomem =>
    (s.rpdevs r).map fun rpdev ↦
      .ok (if nomem then s else s.setRpdev r (some (driverOverrideStore buf rpdev)))
  | .bind r probed =>
    (s.rpdevs r).bind fun rpdev ↦
      if rpmsgDevMatch rpdev ∧ rpdev.driver = none then
        some (.ok (if probed then s.rpmsgChrdevProbe r rpdev else s))
      else none
  | .unbind r => ((s.rpdevs r).bind (·.driver)).map fun _ ↦ s.rpmsgDevRemove r
  | .createEpt c eptinfo created =>
    (s.ctrldevs c).bind fun ctrldev ↦
      if created then
        if ctrldev.registered then some (.ok (s.rpmsgEptdevCreate c ctrldev eptinfo)) else none
      else some (.ok s)
  | .eptOpen x f nonblock env =>
    (s.eptdevs x).bind fun d ↦
      if d.refs ≠ 0 ∧ s.files f = none then some (s.rpmsgEptdevOpen x d f nonblock env) else none
  | .eptClose f => (s.files f).map fun file ↦ s.rpmsgEptdevRelease file.eptdev f
  | .destroyEpt f => (s.files f).map fun file ↦ s.rpmsgEptdevDestroy file.eptdev

/-- One call into the stack. After a fault there is no next one. -/
def step (s : Stack) (ev : StackEvent) : Option Stack :=
  if s.oops = none then
    (s.exec ev).map fun
      | .error fault => { s with oops := some fault }
      | .ok s' => s'
  else none

/-- The way to an endpoint device: a remote processor (`0`, name service endpoint `1`) announces a
service at address 61, its channel `2` is bound to `rpmsg_chrdev`, and an endpoint device `4` is
created through the control device `3`. -/
def bringUp (eptinfo : RpmsgEndpointInfo) : List StackEvent :=
  [.load false,
    .probe { kzalloc := true, findVqs := true, vringSize := 256, bufsVa := some 4096,
             featureNs := true, ept := { kzalloc := true, nomem := false } },
    .nsMessage 0 { name := [97], addr := 61, flags := 0 } 40 true,
    .driverOverride 2 (RPMSG_CHRDEV ++ [10]) false,
    .bind 2 true,
    .createEpt 3 eptinfo true]

end Stack
