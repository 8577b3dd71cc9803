import Mathlib.Algebra.Ring.Int.Defs

/-!
# What the file layer checks before a read or a write

The checks the kernel makes on the position and the count of a `read` or `write` before it calls the
driver, for a file that does not ask for unsigned offsets.
-/

def LLONG_MAX : ℤ := 2 ^ 63 - 1

/-- `rw_verify_area`: the position is not negative, and neither the count nor the end of the range
overflows `loff_t`. -/
def rwVerifyArea (pos : Int64) (count : ℕ) : Bool :=
  decide (0 ≤ pos.toInt) && decide (pos.toInt + count ≤ LLONG_MAX)

theorem rwVerifyArea_eq_true {pos : Int64} {count : ℕ} :
    rwVerifyArea pos count = true ↔ 0 ≤ pos.toInt ∧ pos.toInt + count ≤ LLONG_MAX := by
  simp [rwVerifyArea]
