import DriverModules.Rpmsg.Endpoint

/-!
# Devices of the rpmsg bus

The objects behind the bus and behind the character devices of `rpmsg_char.c`: remote processors,
rpmsg devices, control devices, endpoint devices, open files. Pointers between them are ids, and an
object that was freed is gone from the map of its kind, so a pointer that outlives its target is
seen.

`struct rpmsg_device` is always embedded in a larger struct. `rpmsg_create_channel` embeds it in a
`struct virtio_rpmsg_channel`, next to the remote processor the channel belongs to, and
`create_rpmsg_chrdev` in a `struct virtio_rpmsg_device`, which has no other field. Both give it
`virtio_rpmsg_ops`.
-/

abbrev CtrldevId := ℕ

abbrev FileId := ℕ

/-- The string `strncpy` leaves in an array of `n` bytes, and the part of one `strncmp` looks at:
the bytes before the first `NUL`, at most `n`. -/
def strn (n : ℕ) (bytes : List UInt8) : List UInt8 :=
  (bytes.take n).takeWhile (· ≠ 0)

/-- `"rpmsg_chrdev"`. -/
def RPMSG_CHRDEV : List UInt8 :=
  [114, 112, 109, 115, 103, 95, 99, 104, 114, 100, 101, 118]

/-- The part of `struct virtproc_info` the endpoints and the senders use. -/
structure VirtprocInfo where
  layout : BufLayout
  endpoints : Idr EptId
  nsEpt : Option EptId

/-- The struct an rpmsg device is embedded in. -/
inductive Container
  /-- `struct virtio_rpmsg_channel`, with its field `vrp`. -/
  | virtioRpmsgChannel (vrp : VrpId)
  /-- `struct virtio_rpmsg_device`. -/
  | virtioRpmsgDevice
  deriving DecidableEq, Repr

/-- `struct rpmsg_device`. No driver of this repository has an rx callback, so `rpmsg_dev_probe`
leaves `ept` at `NULL` and the two announcements send nothing. -/
structure RpmsgDevice where
  container : Container
  /-- `id.name`. -/
  name : List UInt8
  src : UInt32
  dst : UInt32
  driverOverride : Option (List UInt8)
  /-- `dev.parent`: the virtio device, which stands for its remote processor. -/
  parent : Option VrpId
  /-- The control device in the `drvdata` while `rpmsg_chrdev` is bound. -/
  driver : Option CtrldevId
  deriving DecidableEq, Repr

/-- `struct rpmsg_ctrldev`. -/
structure RpmsgCtrldev where
  rpdev : RpdevId
  /-- Between `device_add` and `device_del`. -/
  registered : Bool
  deriving DecidableEq, Repr

/-- `struct rpmsg_endpoint_info`, what a process passes to `RPMSG_CREATE_EPT_IOCTL`. -/
structure RpmsgEndpointInfo where
  name : List UInt8
  src : UInt32
  dst : UInt32
  deriving DecidableEq, Repr

/-- `struct rpmsg_eptdev`. The last four fields are the state of its `struct device`, with a record
of what happened to it. -/
structure RpmsgEptdev where
  rpdev : RpdevId
  /-- `dev.parent`. -/
  ctrldev : CtrldevId
  /-- What was requested. -/
  eptinfo : RpmsgEndpointInfo
  chinfo : RpmsgChannelInfo
  ept : Option EptId
  refs : ℕ
  /-- Between `device_add` and the first `device_del`. -/
  registered : Bool
  /-- How often `rpmsg_eptdev_destroy` ran on it. -/
  drops : ℕ
  /-- How often `rpmsg_eptdev_release_device` ran on it. -/
  releases : ℕ
  deriving DecidableEq, Repr

/-- An open file of an endpoint device. -/
structure EptFile where
  eptdev : EptdevId
  /-- `O_NONBLOCK`. -/
  nonblock : Bool
  deriving DecidableEq, Repr

/-! ### Matching -/

/-- `rpmsg_device_match`. -/
def rpmsgDeviceMatch (chinfo : RpmsgChannelInfo) (rpdev : RpmsgDevice) : Bool :=
  if chinfo.src ≠ RPMSG_ADDR_ANY ∧ chinfo.src ≠ rpdev.src then false
  else if chinfo.dst ≠ RPMSG_ADDR_ANY ∧ chinfo.dst ≠ rpdev.dst then false
  else decide (strn RPMSG_NAME_SIZE chinfo.name = strn RPMSG_NAME_SIZE rpdev.name)

/-- `rpmsg_dev_match` with `rpmsg_chrdev_driver`: it has no id table and no `of` table, so only the
override can select it. -/
def rpmsgDevMatch (rpdev : RpmsgDevice) : Bool :=
  decide (rpdev.driverOverride = some RPMSG_CHRDEV)

/-- `driver_override_store`, when `kstrndup` succeeds: up to the first newline, and an empty text
takes the override away. -/
def driverOverrideStore (buf : List UInt8) (rpdev : RpmsgDevice) : RpmsgDevice :=
  let text := (strn buf.length buf).takeWhile (· ≠ 10)
  { rpdev with driverOverride := if text = [] then none else some text }

/-! ### Constructors -/

/-- The rpmsg device `rpmsg_create_channel` registers. -/
def rpmsgChannel (vrp : VrpId) (chinfo : RpmsgChannelInfo) : RpmsgDevice where
  container := .virtioRpmsgChannel vrp
  name := strn RPMSG_NAME_SIZE chinfo.name
  src := chinfo.src
  dst := chinfo.dst
  driverOverride := none
  parent := some vrp
  driver := none

/-- The rpmsg device `create_rpmsg_chrdev` registers. -/
def rpmsgChrdev : RpmsgDevice where
  container := .virtioRpmsgDevice
  name := RPMSG_CHRDEV
  src := RPMSG_ADDR_ANY
  dst := RPMSG_ADDR_ANY
  driverOverride := some RPMSG_CHRDEV
  parent := none
  driver := none

/-- The channel info `rpmsg_ctrldev_ioctl` makes of what it copied from the process. -/
def ctrldevChinfo (eptinfo : RpmsgEndpointInfo) : RpmsgChannelInfo where
  name := eptinfo.name.take (RPMSG_NAME_SIZE - 1) ++ [0]
  src := eptinfo.src
  dst := eptinfo.dst

/-- The endpoint device `rpmsg_eptdev_create` adds. -/
def rpmsgEptdev (ctrldev : CtrldevId) (rpdev : RpdevId) (eptinfo : RpmsgEndpointInfo) :
    RpmsgEptdev where
  rpdev := rpdev
  ctrldev := ctrldev
  eptinfo := eptinfo
  chinfo := ctrldevChinfo eptinfo
  ept := none
  refs := 1
  registered := true
  drops := 0
  releases := 0

namespace RpmsgEptdev

/-- `get_device`. -/
def get (d : RpmsgEptdev) : RpmsgEptdev :=
  { d with refs := d.refs + 1 }

/-- `put_device`: with the last reference `rpmsg_eptdev_release_device` runs and frees the endpoint
device. -/
def put (d : RpmsgEptdev) : RpmsgEptdev :=
  { d with
    refs := d.refs - 1
    releases := if d.refs - 1 = 0 then d.releases + 1 else d.releases }

/-- `device_del` and `put_device` of `rpmsg_eptdev_destroy`. -/
def drop (d : RpmsgEptdev) : RpmsgEptdev :=
  { d with registered := false, drops := d.drops + 1 }.put

theorem put_get {d : RpmsgEptdev} (h : d.refs ≠ 0) : d.get.put = d := by
  simp [get, put, h]

end RpmsgEptdev
