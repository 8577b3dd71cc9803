import DriverModules.Kernel.Errno
import DriverModules.Kernel.Paging
import DriverModules.Lib.Bytes
import Mathlib.Data.Int.Notation

/-!
# The mem_map driver

The file operations of the `mem_map` device, through which user space reads all of physical memory:
`mem_map_lseek`, `mem_map_read` with its loop over the pages, and `mem_map_mmap`. Physical memory is
a function on addresses. What the kernel answers in each turn of the loop is a `ChunkEnv`: where
`memremap` put the page, whether the read through the pointer faulted, how much of the copy to user
space was left.

Positions are signed 64-bit (`loff_t`), physical addresses unsigned.
-/

open Bytes

/-- `SEEK_SET`, `SEEK_CUR`. -/
def SEEK_SET : ℕ := 0

def SEEK_CUR : ℕ := 1

def MAX_ERRNO : ℕ := 4095

/-- What the kernel answers in one turn of the loop. -/
structure ChunkEnv where
  /-- What `memremap` returns, zero for a failure. -/
  vaddr : ℕ
  /-- The access through the mapped pointer faults. -/
  probe : Bool
  /-- The bytes the copy to or from user space left. -/
  remaining : ℕ
  deriving DecidableEq, Repr

/-- The calls of the driver that take or give back something, or touch memory. -/
inductive KCall
  | kmalloc
  | kfree
  | memremap (start vaddr : ℕ)
  | memunmap (addr : ℕ)
  | probeKernelRead (ptr sz : ℕ)
  deriving DecidableEq, Repr

namespace Paging

variable (pg : Paging)

/-- `size_inside_page`: how much of the access lies in its first page. -/
def sizeInsidePage (start size : ℕ) : ℕ :=
  let sz := pg.PAGE_SIZE - (start &&& (pg.PAGE_SIZE - 1))
  min sz size

/-- `my_xlate_dev_mem_ptr`, when `memremap` returns `vaddr`. -/
def myXlateDevMemPtr (phys vaddr : ℕ) : ℕ :=
  let offset := phys &&& (pg.PAGE_SIZE - 1)
  -- only add the offset on success
  if vaddr ≠ 0 then vaddr + offset else vaddr

theorem sizeInsidePage_eq (start size : ℕ) :
    pg.sizeInsidePage start size = min (pg.PAGE_SIZE - start % pg.PAGE_SIZE) size := by
  rw [sizeInsidePage, pg.and_PAGE_SIZE_sub_one]

/-- Every turn of the loop gets on. -/
theorem sizeInsidePage_pos {size : ℕ} (start : ℕ) (h : 0 < size) :
    0 < pg.sizeInsidePage start size := by
  have := Nat.mod_lt start pg.PAGE_SIZE_pos
  rw [sizeInsidePage_eq]
  omega

theorem sizeInsidePage_le (start size : ℕ) : pg.sizeInsidePage start size ≤ size := by
  rw [sizeInsidePage_eq]
  exact Nat.min_le_right _ _

end Paging

/-! ### `mem_map_read` -/

/-- What the loop of `mem_map_read` has done when it is left: the error, if it failed, the bytes it
put into the user buffer, and its calls. -/
structure ReadLoop where
  err : Option Errno
  user : List UInt8
  calls : List KCall
  deriving DecidableEq, Repr

/-- The loop of `mem_map_read`, from its `i`-th turn on. -/
def memMapReadLoop (pg : Paging) (mem : ℕ → UInt8) (env : ℕ → ChunkEnv) (i p count : ℕ) :
    ReadLoop :=
  if _h : 0 < count then
    let sz := pg.sizeInsidePage p count
    let e := env i
    let start := p &&& pg.PAGE_MASK
    let ptr := pg.myXlateDevMemPtr p e.vaddr
    if ptr = 0 then ⟨some .EFAULT, [], [.memremap start e.vaddr]⟩
    else
      let calls := [.memremap start e.vaddr, .probeKernelRead ptr sz,
        .memunmap (ptr &&& pg.PAGE_MASK)]
      if e.probe then ⟨some .EFAULT, [], calls⟩
      else
        let bounce := readBytes mem (start + (ptr - e.vaddr)) sz
        if e.remaining ≠ 0 then ⟨some .EFAULT, bounce.take (sz - e.remaining), calls⟩
        else
          let rest := memMapReadLoop pg mem env (i + 1) ((p + sz) % 2 ^ 64) (count - sz)
          ⟨rest.err, bounce ++ rest.user, calls ++ rest.calls⟩
  else ⟨none, [], []⟩
termination_by count
decreasing_by
  have := pg.sizeInsidePage_pos p _h
  omega

/-- What one call of `mem_map_read` did: its return value, the new position, the bytes in the user
buffer, its calls. -/
structure ReadOut where
  ret : Except Errno ℕ
  pos : Int64
  user : List UInt8
  calls : List KCall

/-- `mem_map_read`; `nomem` says that `kmalloc` fails. The test `p != *ppos` is never true, since
`phys_addr_t` is as wide as `loff_t`. -/
def memMapRead (pg : Paging) (mem : ℕ → UInt8) (env : ℕ → ChunkEnv) (nomem : Bool) (count : ℕ)
    (ppos : Int64) : ReadOut :=
  let p := ppos.toUInt64.toNat
  if nomem then ⟨.error .ENOMEM, ppos, [], []⟩
  else
    let loop := memMapReadLoop pg mem env 0 p count
    match loop.err with
    | some e => ⟨.error e, ppos, loop.user, .kmalloc :: loop.calls ++ [.kfree]⟩
    | none => ⟨.ok count, ppos + .ofNat count, loop.user, .kmalloc :: loop.calls ++ [.kfree]⟩

/-! ### `mem_map_lseek` -/

/-- `mem_map_lseek`: the return value and the position afterwards. -/
def memMapLseek (fpos offset : Int64) (orig : ℕ) : Except Errno Int64 × Int64 :=
  if orig = SEEK_CUR ∨ orig = SEEK_SET then
    let offset := if orig = SEEK_CUR then offset + fpos else offset
    -- to avoid userland mistaking f_pos=-9 as -EBADF=-9
    if 2 ^ 64 - MAX_ERRNO ≤ offset.toUInt64.toNat then (.error .EOVERFLOW, fpos)
    else (.ok offset, offset)
  else (.error .EINVAL, fpos)

/-! ### `mem_map_mmap` -/

/-- `struct vm_area_struct`, as far as the driver reads it. -/
structure VmArea where
  vmStart : ℕ
  vmEnd : ℕ
  vmPgoff : ℕ
  deriving DecidableEq, Repr

/-- A mapping of user addresses to physical ones: `len` bytes from `start` on, onto `phys`. -/
structure UserMap where
  start : ℕ
  len : ℕ
  phys : ℕ
  deriving DecidableEq, Repr

/-- `mem_map_mmap`; `remapFails` is the answer of `remap_pfn_range`, which maps consecutive frames
from the given one. -/
def memMapMmap (pg : Paging) (vma : VmArea) (remapFails : Bool) : Except Errno UserMap :=
  let size := vma.vmEnd - vma.vmStart
  let offset := (vma.vmPgoff <<< pg.PAGE_SHIFT) % 2 ^ 64
  -- does it even fit in phys_addr_t?
  if offset >>> pg.PAGE_SHIFT ≠ vma.vmPgoff then .error .EINVAL
  -- it's illegal to wrap around the end of the physical address space
  else if (offset + size + 2 ^ 64 - 1) % 2 ^ 64 < offset then .error .EINVAL
  else if remapFails then .error .EAGAIN
  else .ok ⟨vma.vmStart, size, vma.vmPgoff * pg.PAGE_SIZE⟩
