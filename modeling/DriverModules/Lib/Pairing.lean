import Mathlib.Logic.Basic

/-!
# Two tables that point at each other

A pointer and the pointer back: which lock a thread holds and who holds a lock, which object a
thread works on and who works on an object, where an entry is bound and what is bound there. Each
side is a partial function, and `Paired f g` says they describe one relation, `f i = k` exactly when
`g k = i`. So an `i` has at most one `k` and a `k` at most one `i` (`Paired.unique`).

A step changes the two tables at one `i` and one `k`, and it is correct when it keeps both entries,
sets two empty ones or clears two full ones (`Move`). `Paired.move` is the only rule.
-/

namespace Pairing

variable {ι κ : Type*} {f f' : ι → Option κ} {g g' : κ → Option ι} {i j : ι} {k l : κ}

/-- The two tables describe one relation. -/
def Paired (f : ι → Option κ) (g : κ → Option ι) : Prop :=
  ∀ i k, f i = some k ↔ g k = some i

/-- What a step may do to the entries of `i` and `k`. -/
inductive Move (i : ι) (k : κ) : Option κ → Option ι → Option κ → Option ι → Prop
  | keep (x : Option κ) (y : Option ι) : Move i k x y x y
  | join : Move i k none none (some k) (some i)
  | part (y : Option ι) : Move i k (some k) y none none

theorem paired_none (hf : ∀ i, f i = none) (hg : ∀ k, g k = none) : Paired f g :=
  fun i k ↦ by simp [hf i, hg k]

/-- **An entry belongs to one party.** -/
theorem Paired.unique (h : Paired f g) (hi : f i = some k) (hj : f j = some k) : i = j :=
  Option.some.inj (((h i k).1 hi).symm.trans ((h j k).1 hj))

theorem Paired.congr (h : Paired f g) (hf : ∀ i, f' i = f i) (hg : ∀ k, g' k = g k) :
    Paired f' g' :=
  fun i k ↦ by rw [hf i, hg k]; exact h i k

/-- **The rule of a step.** -/
theorem Paired.move (h : Paired f g) (hm : Move i k (f i) (g k) (f' i) (g' k))
    (hf : ∀ j, j ≠ i → f' j = f j) (hg : ∀ l, l ≠ k → g' l = g l) : Paired f' g' := by
  generalize hfi : f i = x₀ at hm
  generalize hgk : g k = y₀ at hm
  generalize hfi' : f' i = x₁ at hm
  generalize hgk' : g' k = y₁ at hm
  intro j l
  cases hm with
  | keep =>
    have hj : f' j = f j := by
      by_cases hji : j = i
      · rw [hji, hfi, hfi']
      · exact hf j hji
    have hl : g' l = g l := by
      by_cases hlk : l = k
      · rw [hlk, hgk, hgk']
      · exact hg l hlk
    rw [hj, hl]
    exact h j l
  | join =>
    by_cases hj : j = i <;> by_cases hl : l = k
    · simp [hj, hl, hfi', hgk']
    · -- nothing pointed at `i` before
      have hne : g l ≠ some i := fun hgl ↦ by simp [(h i l).2 hgl] at hfi
      simp [hj, hg l hl, hfi', hne, Ne.symm hl]
    · have hne : f j ≠ some k := fun hfj ↦ by simp [(h j k).1 hfj] at hgk
      simp [hf j hj, hl, hgk', hne, Ne.symm hj]
    · rw [hf j hj, hg l hl]
      exact h j l
  | part =>
    have hback := (h i k).1 hfi
    by_cases hj : j = i <;> by_cases hl : l = k
    · simp [hj, hl, hfi', hgk']
    · have hne : g l ≠ some i := fun hgl ↦ by
        rw [(h i l).2 hgl] at hfi
        exact hl (Option.some.inj hfi)
      simp [hj, hg l hl, hfi', hne]
    · have hne : f j ≠ some k := fun hfj ↦ by
        rw [(h j k).1 hfj] at hback
        exact hj (Option.some.inj hback)
      simp [hf j hj, hl, hgk', hne]
    · rw [hf j hj, hg l hl]
      exact h j l

end Pairing
