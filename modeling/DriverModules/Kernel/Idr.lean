import DriverModules.Kernel.Errno
import Mathlib.Data.Int.Notation
import Mathlib.Logic.Function.Basic

/-!
# An id-to-pointer table

The kernel's `idr`: a table from ids to pointers in which `idr_alloc` chooses the id. The choice is
the smallest free id of the range asked for. A negative start is refused, and an end that is not
positive stands for "no limit below `INT_MAX`".
-/

/-- An id table: the pointer stored under each id. -/
abbrev Idr (α : Type*) := ℕ → Option α

namespace Idr

variable {α : Type*}

/-- `idr_init`. -/
def empty : Idr α := fun _ ↦ none

/-- `idr_remove`. -/
def remove (t : Idr α) (id : ℕ) : Idr α := Function.update t id none

def INT_MAX : ℕ := 2147483647

/-- The first free id among the `n` ids from `i` on. -/
def firstFree (t : Idr α) : ℕ → ℕ → Option ℕ
  | _, 0 => none
  | i, n + 1 =>
    match t i with
    | none => some i
    | some _ => firstFree t (i + 1) n

theorem firstFree_eq_some {t : Idr α} {i n id : ℕ} (h : t.firstFree i n = some id) :
    t id = none ∧ i ≤ id ∧ id < i + n := by
  induction n generalizing i with
  | zero => simp [firstFree] at h
  | succ n ih =>
    rcases hi : t i with - | x
    · simp only [firstFree, hi, Option.some.injEq] at h
      subst h
      exact ⟨hi, Nat.le_refl _, by omega⟩
    · simp only [firstFree, hi] at h
      obtain ⟨hfree, hle, hlt⟩ := ih h
      exact ⟨hfree, by omega, by omega⟩

theorem firstFree_eq_none {t : Idr α} {i n : ℕ} (h : t.firstFree i n = none) {id : ℕ}
    (hle : i ≤ id) (hlt : id < i + n) : t id ≠ none := by
  induction n generalizing i with
  | zero => omega
  | succ n ih =>
    rcases hi : t i with - | x
    · simp [firstFree, hi] at h
    · simp only [firstFree, hi] at h
      rcases Nat.eq_or_lt_of_le hle with rfl | hlt'
      · simp [hi]
      · exact ih h (by omega) (by omega)

/-- The largest id `idr_alloc` may return for the end it was given. -/
def maxId (stop : ℤ) : ℕ := if 0 < stop then (stop - 1).toNat else INT_MAX

/-- `idr_alloc`: bind `x` to the smallest free id in `[start, stop)`. `nomem` is the outcome of the
table's own allocation. -/
def alloc (t : Idr α) (x : α) (start stop : ℤ) (nomem : Bool) : Except Errno (ℕ × Idr α) :=
  if start < 0 then .error .EINVAL
  else if nomem then .error .ENOMEM
  else
    match t.firstFree start.toNat (maxId stop + 1 - start.toNat) with
    | none => .error .ENOSPC
    | some id => .ok (id, Function.update t id (some x))

/-- **What an allocation says**: the id was free, lies in the range, and is the only entry that
changes. -/
theorem alloc_eq_ok {t t' : Idr α} {x : α} {start stop : ℤ} {nomem : Bool} {id : ℕ}
    (h : t.alloc x start stop nomem = .ok (id, t')) :
    0 ≤ start ∧ t id = none ∧ start.toNat ≤ id ∧ id ≤ maxId stop ∧
      t' = Function.update t id (some x) := by
  unfold alloc at h
  split at h
  · cases h
  · split at h
    · cases h
    · rcases hf : t.firstFree start.toNat (maxId stop + 1 - start.toNat) with - | id'
      · simp [hf] at h
      · simp only [hf, Except.ok.injEq, Prod.mk.injEq] at h
        obtain ⟨rfl, rfl⟩ := h
        obtain ⟨hfree, hle, hlt⟩ := firstFree_eq_some hf
        exact ⟨by omega, hfree, hle, by omega, rfl⟩

/-- **When an allocation succeeds.** -/
theorem exists_alloc_eq_ok_iff {t : Idr α} {x : α} {start stop : ℤ} {nomem : Bool} :
    (∃ p, t.alloc x start stop nomem = .ok p) ↔
      nomem = false ∧ 0 ≤ start ∧
        ∃ id, start.toNat ≤ id ∧ id ≤ maxId stop ∧ t id = none := by
  constructor
  · rintro ⟨⟨id, t'⟩, h⟩
    obtain ⟨hstart, hfree, hmin, hmax, -⟩ := alloc_eq_ok h
    refine ⟨?_, hstart, id, hmin, hmax, hfree⟩
    rcases nomem with - | -
    · rfl
    · unfold alloc at h
      split at h <;> cases h
  · rintro ⟨rfl, hstart, id, hmin, hmax, hfree⟩
    rcases hf : t.firstFree start.toNat (maxId stop + 1 - start.toNat) with - | id'
    · exact absurd hfree (firstFree_eq_none hf hmin (by omega))
    · exact ⟨(id', Function.update t id' (some x)), by simp [alloc, hf, hstart]⟩

end Idr
