import Mathlib.Algebra.Group.Nat.Defs
import Mathlib.Data.List.Range
import Mathlib.Order.Basic

/-!
# Device numbers

A `dev_t` has 20 bits for the minor and 12 for the major. `MKDEV` shifts the major and masks
nothing: the bits of a minor that is too large end up in the major, those of a major that is too
large are lost, and a range of numbers does not stop at the end of a major either.

## Regions

The kernel keeps a region as a major, a first minor and a count (`ChrdevNum` is one number of a
region). A caller of `register_chrdev_region` has to include a major: where the major of a number is
0, one of the kernel's choice is taken instead, as `alloc_chrdev_region` does it, and the caller is
not told which. `registered_iff` says for which first numbers a region of two is the one that was
meant. The minor that `alloc_chrdev_region` is given is kept as it is, also when no `dev_t` has it
(`allocated_iff`). A kernel that looks at the range refuses such a major or minor, and then there is
no region at all; the lemmas are about requests that were granted.
-/

/-- `dev_t`. -/
abbrev DevT := BitVec 32

namespace DevT

def MINORBITS : ℕ := 20

def MINORMASK : DevT := (1#32 <<< MINORBITS) - 1#32

/-- `MKDEV`. -/
def mkdev (ma mi : BitVec 32) : DevT := ma <<< MINORBITS ||| mi

/-- `MAJOR`. -/
def major (dev : DevT) : BitVec 32 := dev >>> MINORBITS

/-- `MINOR`. -/
def minor (dev : DevT) : BitVec 32 := dev &&& MINORMASK

section

variable {ma mi dev : BitVec 32}

theorem toNat_major (dev : DevT) : (major dev).toNat = dev.toNat / 2 ^ 20 := by
  rw [major, BitVec.toNat_ushiftRight, MINORBITS, Nat.shiftRight_eq_div_pow]

theorem toNat_minor (dev : DevT) : (minor dev).toNat = dev.toNat % 2 ^ 20 := by
  rw [minor, BitVec.toNat_and, show MINORMASK.toNat = 2 ^ 20 - 1 by decide,
    Nat.and_two_pow_sub_one_eq_mod]

/-- With a minor in range, a number is its major and its minor side by side. -/
theorem toNat_mkdev (ma : BitVec 32) (hmi : mi.toNat < 2 ^ 20) :
    (mkdev ma mi).toNat = ma.toNat % 2 ^ 12 * 2 ^ 20 + mi.toNat := by
  have hshift : (ma <<< MINORBITS).toNat = (ma.toNat % 2 ^ 12) <<< 20 := by
    rw [BitVec.toNat_shiftLeft, MINORBITS, Nat.shiftLeft_eq, Nat.shiftLeft_eq]
    omega
  rw [mkdev, BitVec.toNat_or, hshift, ← Nat.shiftLeft_add_eq_or_of_lt hmi, Nat.shiftLeft_eq]

/-- The first number of a major. -/
@[simp] theorem minor_mkdev_zero (ma : BitVec 32) : minor (mkdev ma 0#32) = 0#32 := by
  refine BitVec.eq_of_toNat_eq ?_
  rw [toNat_minor, toNat_mkdev ma (by decide)]
  exact (Nat.mul_add_mod' ..).trans (Nat.zero_mod _)

/-- The second follows it. -/
theorem mkdev_one (ma : BitVec 32) : mkdev ma 1#32 = mkdev ma 0#32 + 1#32 := by
  refine BitVec.eq_of_toNat_eq ?_
  rw [BitVec.toNat_add, toNat_mkdev ma (by decide), toNat_mkdev ma (by decide)]
  simp only [BitVec.toNat_ofNat]
  omega

/-- A major and a minor in range are found again. -/
theorem major_mkdev (hma : ma.toNat < 2 ^ 12) (hmi : mi.toNat < 2 ^ 20) :
    major (mkdev ma mi) = ma := by
  refine BitVec.eq_of_toNat_eq ?_
  rw [toNat_major, toNat_mkdev ma hmi]
  omega

/-- The bits of the minor can only add to the major. -/
theorem major_mkdev_zero (h : major (mkdev ma mi) = 0#32) : major (mkdev ma 0#32) = 0#32 := by
  rw [major, mkdev, BitVec.ushiftRight_or_distrib, BitVec.or_eq_zero_iff] at h
  rw [major, mkdev, BitVec.or_zero]
  exact h.1

end

/-- The `count` numbers from `first` on. -/
def numbers (first : DevT) (count : ℕ) : List DevT :=
  (List.range count).map fun i ↦ first + .ofNat 32 i

theorem numbers_one (dev : DevT) : numbers dev 1 = [dev] := by
  simp [numbers, List.range_succ]

theorem numbers_two (first : DevT) : numbers first 2 = [first, first + 1#32] := by
  simp [numbers, List.range_succ]

/-! ### Regions -/

/-- A number of a region. -/
structure ChrdevNum where
  major : BitVec 32
  minor : BitVec 32
  deriving DecidableEq, Repr

/-- A number that is known by a `dev_t`. -/
def num (dev : DevT) : ChrdevNum := ⟨major dev, minor dev⟩

/-- A major the kernel chooses. -/
abbrev DynamicMajor := { ma : BitVec 32 // 0 < ma.toNat ∧ ma.toNat < 2 ^ 12 }

/-- The number `register_chrdev_region` reserves for `n`; `ma` is the major it takes for a number
without one. -/
def registered (ma : DynamicMajor) (n : DevT) : ChrdevNum :=
  if major n = 0#32 then ⟨ma, minor n⟩ else num n

/-- The numbers `alloc_chrdev_region` reserves. -/
def allocated (ma : DynamicMajor) (baseminor : BitVec 32) (count : ℕ) : List ChrdevNum :=
  (List.range count).map fun i ↦ ⟨ma, baseminor + .ofNat 32 i⟩

section

variable {ma : DynamicMajor} {first dev n : DevT} {mi : BitVec 32}

theorem num_injective : Function.Injective num := by
  intro dev dev' h
  have hmajor := congrArg (fun n ↦ n.major.toNat) h
  have hminor := congrArg (fun n ↦ n.minor.toNat) h
  simp only [num, toNat_major, toNat_minor] at hmajor hminor
  exact BitVec.eq_of_toNat_eq (by omega)

theorem num_eq {M : BitVec 32} (h : n.toNat = M.toNat * 2 ^ 20 + mi.toNat)
    (hmi : mi.toNat < 2 ^ 20) : num n = ⟨M, mi⟩ := by
  have hmajor : major n = M := BitVec.eq_of_toNat_eq (by rw [toNat_major]; omega)
  have hminor : minor n = mi := BitVec.eq_of_toNat_eq (by rw [toNat_minor]; omega)
  rw [num, hmajor, hminor]

theorem registered_of_ne (h : major n ≠ 0#32) : registered ma n = num n := if_neg h

@[simp] theorem registered_minor : (registered ma n).minor = minor n := by
  rw [registered]
  split <;> rfl

/-- Nothing is ever reserved under the major 0. -/
theorem registered_major_ne : (registered ma n).major ≠ 0#32 := by
  rw [registered]
  split
  · intro h
    have hma : ma.1 = 0#32 := h
    exact absurd ma.2.1 (by rw [hma]; decide)
  · next h => exact h

/-- The number behind the first of a major has the same major. -/
theorem major_add_one (h : minor dev = 0#32) : major (dev + 1#32) = major dev := by
  have hminor : dev.toNat % 2 ^ 20 = 0 := by rw [← toNat_minor, h]; rfl
  refine BitVec.eq_of_toNat_eq ?_
  rw [toNat_major, toNat_major, BitVec.toNat_add]
  simp only [BitVec.toNat_ofNat]
  omega

/-- **A region of two that is registered** is `dev` and the number behind it, the first two of a
major, exactly when it was asked for by its own first number, and that includes the major. -/
theorem registered_iff (hminor : minor dev = 0#32)
    (hmajor : major first = 0#32 → major dev = 0#32) :
    (∀ n, n ∈ (numbers dev 2).map num ↔ n ∈ (numbers first 2).map (registered ma)) ↔
      major first ≠ 0#32 ∧ first = dev := by
  simp only [numbers_two, List.map_cons, List.map_nil, List.mem_cons, List.not_mem_nil, or_false]
  constructor
  · intro h
    have hdev := (h (num dev)).1 (.inl rfl)
    have hne : major first ≠ 0#32 := by
      intro hzero
      have hnum : (num dev).major = 0#32 := hmajor hzero
      rcases hdev with hdev | hdev <;> rw [hdev] at hnum <;> exact registered_major_ne hnum
    refine ⟨hne, ?_⟩
    rcases (h (registered ma first)).2 (.inl rfl) with heq | heq <;>
      rw [registered_of_ne hne] at heq <;> obtain rfl := num_injective heq
    · rfl
    · -- the region begins one number later, and so it leaves `dev` out
      have hmod : dev.toNat % 2 ^ 20 = 0 := by rw [← toNat_minor, hminor]; rfl
      rcases hdev with hdev | hdev <;>
        have hdev := congrArg (fun n ↦ n.minor.toNat) hdev <;>
        simp only [registered_minor, num, toNat_minor, BitVec.toNat_add, BitVec.toNat_ofNat]
          at hdev <;> omega
  · rintro ⟨hne, rfl⟩ n
    rw [registered_of_ne hne, registered_of_ne (by rwa [major_add_one hminor])]

/-- **A region of two that is allocated** is the first two numbers of the major in the `dev_t` the
caller gets, exactly when it was asked for from the minor 0 on. -/
theorem allocated_iff :
    (∀ n, n ∈ (numbers (mkdev (major (mkdev ma mi)) 0#32) 2).map num ↔ n ∈ allocated ma mi 2) ↔
      mi = 0#32 := by
  have hzero : minor (mkdev (major (mkdev ma mi)) 0#32) = 0#32 := minor_mkdev_zero _
  generalize hdev : mkdev (major (mkdev ma mi)) 0#32 = dev at hzero
  have hmod : dev.toNat % 2 ^ 20 = 0 := by rw [← toNat_minor, hzero]; rfl
  have hone : minor (dev + 1#32) = 1#32 := by
    refine BitVec.eq_of_toNat_eq ?_
    rw [toNat_minor, BitVec.toNat_add]
    simp only [BitVec.toNat_ofNat]
    omega
  have hlist : allocated ma mi 2 = [⟨ma, mi⟩, ⟨ma, mi + 1#32⟩] := by
    simp [allocated, List.range_succ]
  simp only [numbers_two, hlist, List.map_cons, List.map_nil, List.mem_cons, List.not_mem_nil,
    or_false]
  constructor
  · intro h
    rcases (h (num dev)).1 (.inl rfl) with hfirst | hfirst <;>
      have hfirst := congrArg ChrdevNum.minor hfirst <;> rw [num, hzero] at hfirst
    · exact hfirst.symm
    · -- a region from the last `unsigned int` on would have the minor 0, but not 1
      rcases (h (num (dev + 1#32))).1 (.inr rfl) with hsecond | hsecond <;>
        have hsecond := congrArg ChrdevNum.minor hsecond <;> rw [num, hone] at hsecond
      · bv_omega
      · bv_omega
  · rintro rfl n
    have hma : major dev = ma := by
      rw [← hdev, major_mkdev ma.2.2 (by decide), major_mkdev ma.2.2 (by decide)]
    rw [num, num, hzero, hone, major_add_one hzero, hma, BitVec.zero_add]

/-- A region of two that is registered is known by its first number when both include a major. -/
theorem given_back_registered_iff :
    (∀ n, n ∈ (numbers first 2).map num ↔ n ∈ (numbers first 2).map (registered ma)) ↔
      ∀ n ∈ numbers first 2, major n ≠ 0#32 := by
  constructor
  · intro h n hn hzero
    obtain ⟨n', -, heq⟩ := List.mem_map.1 ((h (num n)).1 (List.mem_map_of_mem hn))
    have hmajor : (registered ma n').major = 0#32 := by rw [heq]; exact hzero
    exact registered_major_ne hmajor
  · intro h n
    rw [List.map_congr_left fun n hn ↦ registered_of_ne (h n hn)]

/-- A region of two that is allocated is known by the major in the `dev_t` the caller gets when its
minors are in range. -/
theorem given_back_allocated_iff :
    (∀ n, n ∈ (numbers (mkdev (major (mkdev ma mi)) mi) 2).map num ↔ n ∈ allocated ma mi 2) ↔
      mi.toNat + 1 < 2 ^ 20 := by
  have hlist : allocated ma mi 2 = [⟨ma, mi⟩, ⟨ma, mi + 1#32⟩] := by
    simp [allocated, List.range_succ]
  constructor
  · intro h
    have hlt : ∀ mi', ⟨ma, mi'⟩ ∈ allocated ma mi 2 → mi'.toNat < 2 ^ 20 := by
      intro mi' hmi'
      obtain ⟨n, -, heq⟩ := List.mem_map.1 ((h _).2 hmi')
      have hminor : minor n = mi' := congrArg ChrdevNum.minor heq
      rw [← hminor, toNat_minor]
      exact Nat.mod_lt _ (Nat.two_pow_pos 20)
    have hfirst := hlt mi (by simp [hlist])
    have hsecond := hlt (mi + 1#32) (by simp [hlist])
    rw [BitVec.toNat_add] at hsecond
    simp only [BitVec.toNat_ofNat] at hsecond
    omega
  · intro h n
    have hma := ma.2.2
    have hmi : mi.toNat < 2 ^ 20 := Nat.lt_of_succ_lt h
    have hnum : (mkdev ma mi).toNat = ma.1.toNat * 2 ^ 20 + mi.toNat := by
      rw [toNat_mkdev ma hmi, Nat.mod_eq_of_lt hma]
    have hnext : (mi + 1#32).toNat = mi.toNat + 1 := by
      rw [BitVec.toNat_add]
      simp only [BitVec.toNat_ofNat]
      omega
    have hadd : (mkdev ma mi + 1#32).toNat = ma.1.toNat * 2 ^ 20 + (mi + 1#32).toNat := by
      rw [BitVec.toNat_add, hnum, hnext]
      simp only [BitVec.toNat_ofNat]
      omega
    rw [major_mkdev hma hmi, numbers_two, hlist, List.map_cons, List.map_cons, List.map_nil,
      num_eq hnum hmi, num_eq hadd (by rwa [hnext])]

end

end DevT
