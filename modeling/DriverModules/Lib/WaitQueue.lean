import Mathlib.Logic.Basic

/-!
# Wait queues and lost wake-ups

A context that waits for a condition queues itself, tests the condition, and sleeps if it does not
hold. From the test on it has *missed* whatever makes the condition hold, unless a wake-up takes it
off the queue again. No wake-up is lost as long as somebody who has missed the condition can count
on one that is still *coming* (`Heeds`).

A step of such a system keeps this in one of three ways: somebody misses the condition, which does
not hold then; a wake-up is on its way; or nothing changes but to the better (`Heeds.mono`).
-/

namespace WaitQueue

variable {ι : Type*} {ready ready' coming coming' : Prop} {missed missed' : ι → Prop}

/-- If the condition holds, a wake-up is coming or nobody needs one. -/
def Heeds (ready coming : Prop) (missed : ι → Prop) : Prop :=
  ready → coming ∨ ∀ i, ¬ missed i

theorem heeds_of_not (h : ¬ ready) : Heeds ready coming missed :=
  fun hready ↦ absurd hready h

theorem heeds_of_coming (h : coming) : Heeds ready coming missed :=
  fun _ ↦ .inl h

theorem heeds_of_none (h : ∀ i, ¬ missed i) : Heeds ready coming missed :=
  fun _ ↦ .inr h

theorem Heeds.mono (h : Heeds ready coming missed) (hready : ready' → ready)
    (hcoming : coming → coming') (hmissed : ∀ i, missed' i → missed i) :
    Heeds ready' coming' missed' := by
  intro hr
  rcases h (hready hr) with hc | hnone
  · exact .inl (hcoming hc)
  · exact .inr fun i hi ↦ hnone i (hmissed i hi)

/-- **Who has missed the condition gets a wake-up, or the condition does not hold.** -/
theorem Heeds.coming_of_missed (h : Heeds ready coming missed) {i : ι} (hi : missed i)
    (hready : ready) : coming :=
  (h hready).resolve_right fun hnone ↦ hnone i hi

end WaitQueue
