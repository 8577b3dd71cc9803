import Mathlib.Algebra.Group.Nat.Defs
import Mathlib.Data.List.Range
import Mathlib.Data.Nat.Basic

/-!
# Loops with an `int` counter and a `size_t` bound

In `for (i = 0; i < size; i++)` with an `int i` and a `size_t size` the counter is converted to the
type of the bound before each comparison, and a negative `int` becomes one of the largest `size_t`s.
The counter wraps around after `INT_MAX`.

So the loop always ends: no bound is above the `-1` that comes last. It takes as many turns as the
bound says as long as the counter does not wrap (`turns_of_le`), and its indices stay below a limit
exactly as long as the bound does (`indices_lt_iff`).
-/

namespace IntLoop

variable {σ : Type*}

/-- An `int` in a comparison with a `size_t`. -/
def toSizeT (i : BitVec 32) : BitVec 64 := i.signExtend 64

theorem toNat_toSizeT (i : BitVec 32) : (toSizeT i).toNat =
    if i.toNat < 2 ^ 31 then i.toNat else i.toNat + (2 ^ 64 - 2 ^ 32) := by
  have hlt := i.isLt
  rw [toSizeT, BitVec.toNat_signExtend, BitVec.toNat_setWidth, BitVec.msb_eq_decide]
  by_cases h : i.toNat < 2 ^ 31
  · rw [if_pos h, decide_eq_false (by simpa using h)]
    simp only [Bool.false_eq_true, if_false, Nat.add_zero]
    omega
  · rw [if_neg h, decide_eq_true (by simpa using h)]
    simp only [if_true]
    omega

/-- The counter that passes the test is not the last one. -/
theorem toNat_add_one_of_lt {size : BitVec 64} {i : BitVec 32} (h : toSizeT i < size) :
    (i + 1).toNat = i.toNat + 1 := by
  have hlt := i.isLt
  have hsize := size.isLt
  rw [BitVec.lt_def, toNat_toSizeT] at h
  rw [BitVec.toNat_add]
  change (i.toNat + 1) % 2 ^ 32 = i.toNat + 1
  split at h <;> omega

/-- `for (; i < size; i++) body`, from the counter `i` on. -/
def loop (size : BitVec 64) (body : ℤ → σ → σ) (i : BitVec 32) (s : σ) : σ :=
  if toSizeT i < size then loop size body (i + 1) (body i.toInt s) else s
termination_by 2 ^ 32 - i.toNat
decreasing_by
  have hlt := i.isLt
  rw [toNat_add_one_of_lt ‹_›]
  omega

/-- How many turns it takes from 0 on. -/
def turns (size : BitVec 64) : ℕ :=
  if size.toNat ≤ 2 ^ 31 then size.toNat
  else if size.toNat ≤ 2 ^ 64 - 2 ^ 31 then 2 ^ 31
  else size.toNat - (2 ^ 64 - 2 ^ 32)

/-- The indices of these turns. -/
def indices (size : BitVec 64) : List ℤ :=
  (List.range (turns size)).map fun n ↦ (BitVec.ofNat 32 n).toInt

theorem turns_lt (size : BitVec 64) : turns size < 2 ^ 32 := by
  have hsize := size.isLt
  unfold turns
  split
  · omega
  · split <;> omega

/-- The test, by the turn. -/
theorem toSizeT_lt_iff {size : BitVec 64} {n : ℕ} (hn : n < 2 ^ 32) :
    toSizeT (.ofNat 32 n) < size ↔ n < turns size := by
  have hsize := size.isLt
  rw [BitVec.lt_def, toNat_toSizeT, BitVec.toNat_ofNat, Nat.mod_eq_of_lt hn, turns]
  split_ifs <;> omega

/-- **The loop runs through its indices** and ends. -/
theorem loop_eq_foldl (size : BitVec 64) (body : ℤ → σ → σ) (s : σ) :
    loop size body 0 s = (indices size).foldl (fun s i ↦ body i s) s := by
  have hlt := turns_lt size
  -- by induction on the turns that are left
  suffices hfrom : ∀ k n s, n + k = turns size → loop size body (.ofNat 32 n) s =
      ((List.range' n k).map fun n ↦ (BitVec.ofNat 32 n).toInt).foldl (fun s i ↦ body i s) s by
    rw [indices, List.range_eq_range']
    exact hfrom (turns size) 0 s (Nat.zero_add _)
  intro k
  induction k with
  | zero =>
    intro n s hn
    rw [loop, if_neg]
    · rfl
    · rw [toSizeT_lt_iff (by omega)]
      omega
  | succ k ih =>
    intro n s hn
    rw [loop, if_pos ((toSizeT_lt_iff (by omega)).2 (by omega))]
    have hnext : BitVec.ofNat 32 n + 1 = .ofNat 32 (n + 1) := by
      rw [BitVec.ofNat_add]
      rfl
    rw [hnext, ih (n + 1) _ (by omega)]
    rfl

/-- Without a wrap. -/
theorem turns_of_le {size : BitVec 64} (h : size.toNat ≤ 2 ^ 31) : turns size = size.toNat :=
  if_pos h

theorem turns_eq_zero_iff {size : BitVec 64} : turns size = 0 ↔ size = 0 := by
  have hsize := size.isLt
  rw [turns, ← BitVec.toNat_inj]
  change _ ↔ size.toNat = 0
  split_ifs
  · exact Iff.rfl
  · exact iff_of_false (by decide) (by omega)
  · omega

theorem toInt_ofNat_of_lt {n : ℕ} (hn : n < 2 ^ 31) : (BitVec.ofNat 32 n).toInt = n := by
  rw [BitVec.toInt_eq_toNat_of_lt] <;> rw [BitVec.toNat_ofNat] <;> omega

/-- The indices of a loop whose counter does not wrap. -/
theorem natCast_mem_indices {size : BitVec 64} (h : size.toNat ≤ 2 ^ 31) {n : ℕ} :
    (n : ℤ) ∈ indices size ↔ n < size.toNat := by
  rw [indices, turns_of_le h, List.mem_map]
  constructor
  · rintro ⟨k, hk, hkn⟩
    rw [List.mem_range] at hk
    rw [toInt_ofNat_of_lt (by omega)] at hkn
    omega
  · exact fun hn ↦ ⟨n, List.mem_range.2 hn, toInt_ofNat_of_lt (by omega)⟩

/-- **The indices stay below a limit as long as the bound does.** -/
theorem indices_lt_iff {size : BitVec 64} {n : ℕ} (hn : n < 2 ^ 31) :
    (∀ i ∈ indices size, 0 ≤ i ∧ i < n) ↔ size.toNat ≤ n := by
  constructor
  · intro h
    by_contra hlt
    have hturn : n < turns size := by
      unfold turns
      split_ifs <;> omega
    have hmem : (n : ℤ) ∈ indices size :=
      List.mem_map.2 ⟨n, List.mem_range.2 hturn, toInt_ofNat_of_lt hn⟩
    exact absurd (h n hmem).2 (Int.lt_irrefl _)
  · intro hle i hi
    obtain ⟨k, hk, rfl⟩ := List.mem_map.1 hi
    rw [List.mem_range, turns_of_le (by omega)] at hk
    rw [toInt_ofNat_of_lt (by omega)]
    omega

end IntLoop
