import Mathlib.Logic.Basic

/-!
# A mutex and the code it guards

A mutex is the name of its holder, if it has one. `Guards lock inside` says that the code marked by
`inside` runs under it: a party is inside exactly when it is the holder. The rule has one lemma for
taking the lock, one for giving it back, one for a step that does neither, and mutual exclusion is
`Guards.unique`.
-/

namespace Mutex

variable {ι : Type*} {lock : Option ι} {inside inside' : ι → Prop} {i j : ι}

/-- A party is inside exactly when it holds the lock. -/
def Guards (lock : Option ι) (inside : ι → Prop) : Prop :=
  ∀ i, inside i ↔ lock = some i

theorem guards_none (h : ∀ i, ¬ inside i) : Guards none inside :=
  fun i ↦ ⟨fun hi ↦ absurd hi (h i), fun hi ↦ absurd hi (by simp)⟩

/-- **Mutual exclusion.** -/
theorem Guards.unique (h : Guards lock inside) (hi : inside i) (hj : inside j) : i = j :=
  Option.some.inj (((h i).1 hi).symm.trans ((h j).1 hj))

theorem Guards.congr (h : Guards lock inside) (hq : ∀ j, inside' j ↔ inside j) :
    Guards lock inside' :=
  fun j ↦ (hq j).trans (h j)

/-- `i` takes the free lock and goes inside. -/
theorem Guards.acquire (h : Guards none inside) (hi : inside' i)
    (hq : ∀ j, j ≠ i → (inside' j ↔ inside j)) : Guards (some i) inside' := by
  intro j
  by_cases hj : j = i
  · subst hj
    exact ⟨fun _ ↦ rfl, fun _ ↦ hi⟩
  · rw [hq j hj, h j]
    simp [Ne.symm hj]

/-- `i`, inside, leaves and gives the lock back. -/
theorem Guards.release (h : Guards lock inside) (hi : inside i) (hi' : ¬ inside' i)
    (hq : ∀ j, j ≠ i → (inside' j ↔ inside j)) : Guards none inside' := by
  refine guards_none fun j hj ↦ ?_
  by_cases hji : j = i
  · exact hi' (hji ▸ hj)
  · exact hji (h.unique ((hq j hji).1 hj) hi)

end Mutex
