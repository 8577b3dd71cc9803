import Mathlib.Logic.Function.Basic

/-!
# Maps of objects

A kind of objects is a map from ids to the objects that exist, `ι → Option α`. These are the three
ways to read such a map after one object appeared, changed or went.
-/

namespace Maps

variable {ι α : Type*} [DecidableEq ι] {m : ι → Option α} {i j : ι} {a b : α}

theorem update_eq_some :
    Function.update m i (some a) j = some b ↔ j = i ∧ a = b ∨ j ≠ i ∧ m j = some b := by
  rcases eq_or_ne j i with rfl | hne
  · simp
  · simp [hne]

theorem erase_eq_some : Function.update m i none j = some b ↔ j ≠ i ∧ m j = some b := by
  rcases eq_or_ne j i with rfl | hne
  · simp
  · simp [hne]

/-- An object that changes stays, and so do the others. -/
theorem exists_update (a : α) (h : ∃ b, m j = some b) :
    ∃ b, Function.update m i (some a) j = some b := by
  rcases eq_or_ne j i with rfl | hne
  · exact ⟨a, by simp⟩
  · obtain ⟨b, hb⟩ := h
    exact ⟨b, by simp [hne, hb]⟩

end Maps
