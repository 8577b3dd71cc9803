import Mathlib.Data.Set.Card

/-!
# Counting the holders of a reference

A reference counter is right when it equals the number of parties that hold a reference. The parties
here are indices of an arbitrary type (threads, open files), the index type may be infinite, and
"the number of indices with `p`" is the cardinal of a set, so nothing has to be assumed about how
many parties there are.

`Counts p n` says that exactly `n` indices have `p`. The three moves are the ones a counter makes:
one index joins (`Counts.insert`), one leaves (`Counts.erase`), nobody changes (`Counts.congr`).
-/

namespace Counting

variable {ι : Type*} {p q : ι → Prop} {i : ι} {m n : ℕ}

/-- Exactly `n` indices have `p`. -/
def Counts (p : ι → Prop) (n : ℕ) : Prop :=
  {i | p i}.encard = n

theorem counts_zero (h : ∀ i, ¬ p i) : Counts p 0 := by
  have hempty : {i | p i} = ∅ := Set.eq_empty_iff_forall_notMem.2 h
  simp [Counts, hempty]

theorem Counts.congr (h : Counts p n) (hq : ∀ i, q i ↔ p i) : Counts q n := by
  have hset : {i | q i} = {i | p i} := Set.ext hq
  rw [Counts, hset]
  exact h

/-- One index joins. -/
theorem Counts.insert (h : Counts p n) (hi : ¬ p i) (hq : ∀ j, q j ↔ j = i ∨ p j) :
    Counts q (n + 1) := by
  have hset : {j | q j} = Insert.insert i {j | p j} := by
    ext j
    simpa using hq j
  have hcard := Set.encard_insert_of_notMem (a := i) (s := {j | p j}) hi
  rw [h] at hcard
  rw [Counts, hset, hcard]
  norm_cast

/-- One index leaves. -/
theorem Counts.erase (h : Counts p n) (hi : p i) (hq : ∀ j, q j ↔ p j ∧ j ≠ i) :
    Counts q (n - 1) := by
  have hset : {j | q j} = {j | p j} \ {i} := by
    ext j
    simpa using hq j
  have hcard := Set.encard_sdiff_singleton_of_mem (a := i) (s := {j | p j}) hi
  rw [h] at hcard
  rw [Counts, hset, hcard]
  norm_cast

/-- A counter with a holder is not zero. -/
theorem Counts.pos (h : Counts p n) (hi : p i) : 0 < n := by
  have hne : {j | p j}.encard ≠ 0 := Set.encard_ne_zero_of_mem (a := i) hi
  rw [h] at hne
  exact Nat.pos_of_ne_zero fun hn ↦ hne (by rw [hn]; rfl)

theorem Counts.not_of_zero (h : Counts p 0) (i : ι) : ¬ p i :=
  fun hi ↦ absurd (h.pos hi) (lt_irrefl 0)

/-- The number of holders is determined. -/
theorem Counts.unique (h : Counts p m) (h' : Counts p n) : m = n := by
  rw [Counts] at h h'
  rw [h] at h'
  exact_mod_cast h'

end Counting
