import DriverModules.Kernel.Errno
import Mathlib.Algebra.Order.Group.Nat

/-!
# The rpmsg bus: constants, message header, buffer layout

The part of `virtio_rpmsg_bus.c` that fixes the format of a message and where the buffers of a
remote processor lie. `BufLayout.ofProbe` is what `rpmsg_probe` computes before it hands the RX
buffers to the remote: how many buffers there are, how large each is, and where the two halves of
the coherent area start.
-/

/-- "Any address": as a source, let the bus choose; never a valid address in a message. -/
def RPMSG_ADDR_ANY : UInt32 := 0xFFFFFFFF

def RPMSG_NAME_SIZE : ℕ := 32

def MAX_RPMSG_NUM_BUFS : ℕ := 512

def MAX_RPMSG_BUF_SIZE : ℕ := 512

/-- Addresses below this one are not assigned dynamically. -/
def RPMSG_RESERVED_ADDRESSES : ℕ := 1024

/-- The address of the name service. -/
def RPMSG_NS_ADDR : UInt32 := 53

/-- `struct rpmsg_hdr` without its payload. -/
structure RpmsgHdr where
  src : UInt32
  dst : UInt32
  reserved : UInt32
  len : UInt16
  flags : UInt16
  deriving DecidableEq, Repr

/-- `sizeof(struct rpmsg_hdr)`: three words and two half words, packed. -/
def RpmsgHdr.size : ℕ := 4 + 4 + 4 + 2 + 2

/-- A message as it lies in a buffer: the header and the bytes after it. -/
structure RpmsgMsg where
  hdr : RpmsgHdr
  data : List UInt8
  deriving DecidableEq, Repr

/-- `struct rpmsg_channel_info`. -/
structure RpmsgChannelInfo where
  name : List UInt8
  src : UInt32
  dst : UInt32
  deriving DecidableEq, Repr

/-! ### The buffers of a remote processor -/

/-- The fields of `struct virtproc_info` that describe the buffers: written by `rpmsg_probe`, never
changed afterwards. -/
structure BufLayout where
  /-- First RX buffer; also the start of the coherent area. -/
  rbufs : ℕ
  /-- First TX buffer. -/
  sbufs : ℕ
  numBufs : ℕ
  bufSize : ℕ
  deriving DecidableEq, Repr

namespace BufLayout

/-- The layout `rpmsg_probe` sets up, from the size of the RX vring and the address
`dma_alloc_coherent` returned. -/
def ofProbe (vringSize bufsVa : ℕ) : BufLayout :=
  let numBufs :=
    if vringSize < MAX_RPMSG_NUM_BUFS / 2 then vringSize * 2 else MAX_RPMSG_NUM_BUFS
  let bufSize := MAX_RPMSG_BUF_SIZE
  let totalBufSpace := numBufs * bufSize
  -- half of the buffers is dedicated for RX, and half for TX
  { rbufs := bufsVa, sbufs := bufsVa + totalBufSpace / 2, numBufs, bufSize }

/-- The size of the coherent area. -/
def totalBufSpace (L : BufLayout) : ℕ := L.numBufs * L.bufSize

/-- The `i`-th RX buffer, `vrp->rbufs + i * vrp->buf_size`. -/
def rxBuf (L : BufLayout) (i : ℕ) : ℕ := L.rbufs + i * L.bufSize

/-- The `k`-th TX buffer, `vrp->sbufs + vrp->buf_size * k`. -/
def txBuf (L : BufLayout) (k : ℕ) : ℕ := L.sbufs + L.bufSize * k

variable (n va : ℕ)

@[simp] theorem ofProbe_bufSize : (ofProbe n va).bufSize = 512 := rfl

@[simp] theorem ofProbe_rbufs : (ofProbe n va).rbufs = va := rfl

theorem ofProbe_numBufs : (ofProbe n va).numBufs = min n 256 * 2 := by
  show (if n < 256 then n * 2 else 512) = _
  split <;> omega

/-- **The TX half starts where the RX half ends.** -/
theorem ofProbe_sbufs :
    (ofProbe n va).sbufs = va + (ofProbe n va).numBufs / 2 * (ofProbe n va).bufSize := by
  have hnum := ofProbe_numBufs n va
  have hs : (ofProbe n va).sbufs = va + (ofProbe n va).numBufs * 512 / 2 := rfl
  rw [hs, ofProbe_bufSize]
  omega

/-- A TX buffer lies in the coherent area. -/
theorem txBuf_mem_area {k : ℕ} (hk : k < (ofProbe n va).numBufs / 2) :
    va ≤ (ofProbe n va).txBuf k ∧
      (ofProbe n va).txBuf k + (ofProbe n va).bufSize ≤ va + (ofProbe n va).totalBufSpace := by
  have hs := ofProbe_sbufs n va
  have hnum := ofProbe_numBufs n va
  simp only [txBuf, totalBufSpace, ofProbe_bufSize] at hs ⊢
  omega

/-- A TX buffer starts behind every RX buffer. -/
theorem rxBuf_add_le_txBuf {i : ℕ} (hi : i < (ofProbe n va).numBufs / 2) (k : ℕ) :
    (ofProbe n va).rxBuf i + (ofProbe n va).bufSize ≤ (ofProbe n va).txBuf k := by
  have hs := ofProbe_sbufs n va
  simp only [txBuf, rxBuf, ofProbe_bufSize, ofProbe_rbufs] at hs ⊢
  omega

/-- Different indices are different TX buffers. -/
theorem txBuf_injective : Function.Injective (ofProbe n va).txBuf := by
  intro j k h
  simp only [txBuf, ofProbe_bufSize] at h
  omega

end BufLayout
