import DriverModules.CharDriver.Isolation
import DriverModules.Lib.IntLoop

/-!
# The copy loops of moduleCharDriver

`hello_read` and `hello_write` copy as many bytes as they are asked for, between the process and the
buffer of `REG_DEV_SIZE` bytes that `hello_init` allocated, without a look at the length kept beside
it, and return the 0 their `ret` was declared with.

Here the memory behind the two pointers does not end where the buffers end, the size is any
`size_t`, and the counter is an `int` that wraps around, as the kernel is compiled.
`copyRight_iff` says when a call keeps to the buffer and reports what it has moved, and
`inBounds_copy_iff` when it keeps to the buffer. For sizes within the buffer the loops are the
functions of the other module (`helloRead_holds`, `helloWrite_holds`).
-/

open IntLoop

namespace CopyLoops

open CharDriver (REG_DEV_SIZE)

/-- The bytes around a pointer, by their distance to it. -/
abbrev Mem := ℤ → UInt8

/-- What a call has done. -/
structure CopyOut where
  /-- The memory it copied to. -/
  mem : Mem
  /-- The indices of `my_devices->data` it used, in order. -/
  indices : List ℤ
  ret : BitVec 64

/-- The loop of both functions, from one memory to another. -/
def copy (src dst : Mem) (size : BitVec 64) : CopyOut :=
  let ret := 0
  let (mem, indices) :=
    loop size (fun i (m, l) ↦ (Function.update m i (src i), l ++ [i])) 0 (dst, [])
  { mem, indices, ret }

/-- `hello_read`. -/
def helloRead (data user : Mem) (size : BitVec 64) : CopyOut := copy data user size

/-- `hello_write`. -/
def helloWrite (data user : Mem) (size : BitVec 64) : CopyOut := copy user data size

/-- A call ends, keeps to the buffer, and returns how many bytes it has moved. -/
structure CopyRight (out : CopyOut) : Prop where
  ends : out.indices.length < 2 ^ 32
  inBounds : ∀ i ∈ out.indices, 0 ≤ i ∧ i < REG_DEV_SIZE
  moved : out.ret.toNat = out.indices.length

variable {src dst data user : Mem} {size : BitVec 64}

/-! ### What is copied -/

/-- Assignments one after the other. -/
theorem foldl_update (src : Mem) (is : List ℤ) (m : Mem) (l : List ℤ) :
    is.foldl (fun (s : Mem × List ℤ) i ↦ (Function.update s.1 i (src i), s.2 ++ [i])) (m, l) =
      (fun j ↦ if j ∈ is then src j else m j, l ++ is) := by
  induction is generalizing m l with
  | nil => simp
  | cons i is ih =>
    rw [List.foldl_cons, ih, List.append_assoc]
    refine Prod.ext (funext fun j ↦ ?_) rfl
    by_cases hj : j ∈ is
    · simp [hj]
    · rcases eq_or_ne j i with rfl | hne
      · simp [hj]
      · simp [hj, hne]

/-- **The memory after the loop**, and the indices it used. -/
theorem copy_eq (src dst : Mem) (size : BitVec 64) :
    copy src dst size =
      ⟨fun j ↦ if j ∈ indices size then src j else dst j, indices size, 0⟩ := by
  have hloop : loop size (fun i (s : Mem × List ℤ) ↦ (Function.update s.1 i (src i), s.2 ++ [i]))
      0 (dst, []) = (fun j ↦ if j ∈ indices size then src j else dst j, indices size) :=
    (loop_eq_foldl ..).trans (foldl_update src (indices size) dst [])
  simp only [copy, hloop]

/-! ### What is reported -/

/-- The loop keeps to the buffer as long as the size does. -/
theorem inBounds_copy_iff : (∀ i ∈ (copy src dst size).indices, 0 ≤ i ∧ i < REG_DEV_SIZE) ↔
    size.toNat ≤ REG_DEV_SIZE := by
  rw [copy_eq]
  exact indices_lt_iff (by decide)

theorem copyRight_copy_iff : CopyRight (copy src dst size) ↔ size = 0 := by
  have hlength : (copy src dst size).indices.length = turns size := by
    rw [copy_eq, IntLoop.indices, List.length_map, List.length_range]
  constructor
  · intro h
    have hmoved := h.moved
    rw [hlength, copy_eq] at hmoved
    exact turns_eq_zero_iff.1 hmoved.symm
  · rintro rfl
    refine ⟨hlength.trans_lt (turns_lt _), inBounds_copy_iff.2 (Nat.zero_le _), ?_⟩
    rw [hlength, copy_eq]
    exact (turns_eq_zero_iff.2 rfl).symm

/-- **A call of `hello_read` or `hello_write` does what it should exactly when it is asked for
nothing.** -/
theorem copyRight_iff (data user : Mem) (size : BitVec 64) :
    (CopyRight (helloRead data user size) ↔ size = 0) ∧
      (CopyRight (helloWrite data user size) ↔ size = 0) :=
  ⟨copyRight_copy_iff, copyRight_copy_iff⟩

/-- The bytes the application writes. -/
def writeBuff : Mem := fun i ↦ .ofNat i.toNat

/-- It writes 128 of them into a buffer of zeros. All arrive, and it is told of none. -/
theorem copyRight_write_128 :
    (∀ n : ℕ, n < 128 → (helloWrite (fun _ ↦ 0) writeBuff 128).mem n = .ofNat n) ∧
      (helloWrite (fun _ ↦ 0) writeBuff 128).ret = 0 ∧
        ¬ CopyRight (helloWrite (fun _ ↦ 0) writeBuff 128) := by
  refine ⟨fun n hn ↦ ?_, rfl, fun h ↦ absurd (copyRight_copy_iff.1 h) (by decide)⟩
  have hmem : (n : ℤ) ∈ indices 128 := (natCast_mem_indices (by decide)).2 hn
  rw [helloWrite, copy_eq]
  exact if_pos hmem

/-- How far a process has got that repeats a call for the rest of its `size` bytes `n` times. -/
def transferred (call : BitVec 64 → CopyOut) (size : BitVec 64) : ℕ → BitVec 64
  | 0 => 0
  | n + 1 => transferred call size n + (call (size - transferred call size n)).ret

/-- It gets nowhere. -/
theorem transferred_eq_zero (src dst : Mem) (size : BitVec 64) (n : ℕ) :
    transferred (copy src dst) size n = 0 := by
  induction n with
  | zero => rfl
  | succ n ih =>
    rw [transferred, ih, copy_eq]
    rfl

/-! ### The functions of the other module -/

/-- The memory begins with these bytes. -/
def Holds (m : Mem) (bytes : List UInt8) : Prop :=
  ∀ (i : ℕ) (b : UInt8), bytes[i]? = some b → m i = b

variable {my_devices : List CharDriver.RegDev}

theorem helloRead_holds (hdata : Holds data (CharDriver.data my_devices))
    (hlen : (CharDriver.data my_devices).length = REG_DEV_SIZE)
    (hsize : size.toNat ≤ REG_DEV_SIZE) :
    Holds (helloRead data user size).mem (CharDriver.helloRead my_devices size.toNat) := by
  have hfits : size.toNat ≤ 2 ^ 31 := hsize.trans (by decide)
  intro i b hb
  rw [CharDriver.helloRead_eq (by rwa [hlen]), List.getElem?_take] at hb
  obtain ⟨hi, hb⟩ := Option.ite_none_right_eq_some.1 hb
  rw [helloRead, copy_eq]
  exact (if_pos ((natCast_mem_indices hfits).2 hi)).trans (hdata i b hb)

theorem helloWrite_holds {bytes : List UInt8} (hdata : Holds data (CharDriver.data my_devices))
    (huser : Holds user bytes) (hlen : (CharDriver.data my_devices).length = REG_DEV_SIZE)
    (hbytes : bytes.length = size.toNat) (hsize : size.toNat ≤ REG_DEV_SIZE) :
    Holds (helloWrite data user size).mem
      (CharDriver.data (CharDriver.helloWrite my_devices bytes bytes.length)) := by
  have hfits : size.toNat ≤ 2 ^ 31 := hsize.trans (by decide)
  intro i b hb
  rw [CharDriver.data_helloWrite (by rwa [hlen, hbytes]), Overlay.getElem?_overlay, hbytes] at hb
  rw [helloWrite, copy_eq]
  simp only [natCast_mem_indices hfits]
  split at hb
  · next hi => rw [if_pos hi, huser i b hb]
  · next hi => rw [if_neg hi, hdata i b hb]

end CopyLoops
