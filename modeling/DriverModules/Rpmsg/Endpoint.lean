import DriverModules.Kernel.Idr
import DriverModules.Rpmsg.Types

/-!
# Endpoints

`struct rpmsg_endpoint`, and the range of addresses `__rpmsg_create_ept` asks `idr_alloc` for. The
range is computed in `int`, so an explicit address from `0x80000000` on is a negative start.
-/

abbrev EptId := ℕ

abbrev RpdevId := ℕ

abbrev VrpId := ℕ

abbrev EptdevId := ℕ

/-- The receive callbacks an endpoint can carry. -/
inductive RxCb
  | rpmsgNsCb
  | rpmsgEptCb
  /-- The callback of some rpmsg driver. -/
  | driver (n : ℕ)
  deriving DecidableEq, Repr

/-- The `priv` pointer of an endpoint. -/
inductive Priv
  | null
  | vrp (v : VrpId)
  | eptdev (e : EptdevId)
  deriving DecidableEq, Repr

/-- `struct rpmsg_endpoint`. Its `ops` are `virtio_endpoint_ops` in every constructor of this
bus. -/
structure RpmsgEndpoint where
  /-- The device the endpoint belongs to; none for the name service. -/
  rpdev : Option RpdevId
  refcount : ℕ
  /-- The callback, none once the endpoint is destroyed. -/
  cb : Option RxCb
  addr : UInt32
  priv : Priv
  deriving DecidableEq, Repr

/-- `id_min` of `__rpmsg_create_ept`. -/
def idMin (addr : UInt32) : ℤ :=
  if addr = RPMSG_ADDR_ANY then RPMSG_RESERVED_ADDRESSES else addr.toInt32.toInt

/-- `id_max` of `__rpmsg_create_ept`. -/
def idMax (addr : UInt32) : ℤ :=
  if addr = RPMSG_ADDR_ANY then 0 else (addr + 1).toInt32.toInt

theorem idMax_le (addr : UInt32) : Idr.maxId (idMax addr) ≤ Idr.INT_MAX := by
  have hlt := (addr + 1).toInt32.toInt_lt
  have hmax : idMax addr ≤ 2147483647 := by
    unfold idMax
    split <;> omega
  unfold Idr.maxId Idr.INT_MAX
  split <;> omega

/-- A `u32` address read as an `int`. -/
theorem toInt_toInt32 (addr : UInt32) :
    addr.toInt32.toInt =
      if addr.toNat < 2147483648 then (addr.toNat : ℤ) else (addr.toNat : ℤ) - 4294967296 := by
  have h : addr.toInt32.toInt = addr.toBitVec.toInt := rfl
  rw [h, BitVec.toInt_eq_toNat_cond]
  simp only [UInt32.toNat_toBitVec]
  split <;> split <;> omega

/-- The range of an explicit address holds that address alone. -/
theorem eq_of_mem_range {addr : UInt32} {id : ℕ} (hne : addr ≠ RPMSG_ADDR_ANY)
    (hstart : 0 ≤ idMin addr) (hmin : (idMin addr).toNat ≤ id)
    (hmax : id ≤ Idr.maxId (idMax addr)) : id = addr.toNat := by
  have hlt := addr.toNat_lt
  simp only [idMin, hne, if_false, toInt_toInt32] at hstart hmin
  simp only [idMax, hne, if_false, Idr.maxId, Idr.INT_MAX, toInt_toInt32, UInt32.toNat_add] at hmax
  simp only [UInt32.toNat_one] at hmax
  split at hmin <;> split at hmax <;> split at hmax <;> omega
