import Mathlib.Data.Nat.Bitwise
import Mathlib.Data.Nat.Notation

/-!
# Pages

The page size of the machine and the two masks the kernel builds from it. Addresses are numbers
below `2 ^ 64`; `PAGE_MASK` is the 64-bit word with the bits from `PAGE_SHIFT` on set.
-/

/-- The paging of a 64-bit machine. A page holds at least a 32-bit word and its size is an `int`. -/
structure Paging where
  PAGE_SHIFT : ℕ
  two_le : 2 ≤ PAGE_SHIFT
  lt_int : PAGE_SHIFT < 31

namespace Paging

variable (pg : Paging)

def PAGE_SIZE : ℕ := 2 ^ pg.PAGE_SHIFT

/-- `~(PAGE_SIZE - 1)`. -/
def PAGE_MASK : ℕ := 2 ^ 64 - pg.PAGE_SIZE

theorem PAGE_SIZE_pos : 0 < pg.PAGE_SIZE := Nat.two_pow_pos _

theorem four_le_PAGE_SIZE : 4 ≤ pg.PAGE_SIZE :=
  show 2 ^ 2 ≤ 2 ^ pg.PAGE_SHIFT from Nat.pow_le_pow_right (by decide) pg.two_le

theorem PAGE_SIZE_dvd : pg.PAGE_SIZE ∣ 2 ^ 64 :=
  Nat.pow_dvd_pow 2 (by have := pg.lt_int; omega)

theorem PAGE_SIZE_le : pg.PAGE_SIZE ≤ 2 ^ 30 :=
  Nat.pow_le_pow_right (by decide) (Nat.le_of_lt_succ pg.lt_int)

/-- `p & ~PAGE_MASK` is the offset in the page. -/
theorem and_PAGE_SIZE_sub_one (p : ℕ) : p &&& (pg.PAGE_SIZE - 1) = p % pg.PAGE_SIZE :=
  Nat.and_two_pow_sub_one_eq_mod p pg.PAGE_SHIFT

/-- `p & PAGE_MASK` is the start of the page. -/
theorem and_PAGE_MASK {p : ℕ} (hp : p < 2 ^ 64) :
    p &&& pg.PAGE_MASK = pg.PAGE_SIZE * (p / pg.PAGE_SIZE) := by
  have hpos := pg.PAGE_SIZE_pos
  have hlt := pg.PAGE_SIZE_le
  have hmask : pg.PAGE_MASK = 2 ^ 64 - ((pg.PAGE_SIZE - 1) + 1) := by
    rw [PAGE_MASK, Nat.sub_add_cancel hpos]
  refine Nat.eq_of_testBit_eq fun i ↦ ?_
  rw [Nat.testBit_and, hmask, Nat.testBit_two_pow_sub_succ (by omega)]
  rw [PAGE_SIZE, Nat.testBit_two_pow_sub_one, Nat.testBit_two_pow_mul, Nat.testBit_div_two_pow]
  by_cases hi : i < pg.PAGE_SHIFT
  · simp [hi, Nat.not_le.2 hi]
  · have hle : pg.PAGE_SHIFT ≤ i := Nat.le_of_not_lt hi
    by_cases h64 : i < 64
    · simp [hi, hle, h64]
    · have hbig : p.testBit i = false :=
        Nat.testBit_lt_two_pow (lt_of_lt_of_le hp (Nat.pow_le_pow_right (by decide) (by omega)))
      simp [hle, hbig]

/-- The two parts of an address. -/
theorem and_PAGE_MASK_add {p : ℕ} (hp : p < 2 ^ 64) :
    (p &&& pg.PAGE_MASK) + (p &&& (pg.PAGE_SIZE - 1)) = p := by
  rw [pg.and_PAGE_MASK hp, pg.and_PAGE_SIZE_sub_one]
  exact Nat.div_add_mod p pg.PAGE_SIZE

/-- A page that starts below the end of the address space ends there at the latest. -/
theorem page_add_PAGE_SIZE_le {q : ℕ} (hq : pg.PAGE_SIZE * q < 2 ^ 64) :
    pg.PAGE_SIZE * q + pg.PAGE_SIZE ≤ 2 ^ 64 := by
  obtain ⟨k, hk⟩ := pg.PAGE_SIZE_dvd
  rw [hk] at hq ⊢
  have hqk : q < k := Nat.lt_of_mul_lt_mul_left hq
  calc pg.PAGE_SIZE * q + pg.PAGE_SIZE = pg.PAGE_SIZE * (q + 1) := by rw [Nat.mul_succ]
    _ ≤ pg.PAGE_SIZE * k := Nat.mul_le_mul_left _ hqk

/-- What lies inside one page lies inside the address space. -/
theorem add_le_of_inPage {p n : ℕ} (hp : p < 2 ^ 64) (hin : p % pg.PAGE_SIZE + n ≤ pg.PAGE_SIZE) :
    p + n ≤ 2 ^ 64 := by
  have hsplit := Nat.div_add_mod p pg.PAGE_SIZE
  have hend := pg.page_add_PAGE_SIZE_le (show pg.PAGE_SIZE * (p / pg.PAGE_SIZE) < 2 ^ 64 by omega)
  omega

end Paging
