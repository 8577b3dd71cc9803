import Mathlib.Data.List.Induction

/-!
# A buffer written from its start

Writes of different lengths that all begin at the start of one buffer. After any number of them an
element of the buffer comes from the last write long enough to reach it, or from the buffer as it
was (`getElem?_overlayAll`). So two writes of different lengths can both show in the result.
-/

namespace Overlay

variable {α β : Type*}

/-- The buffer with `bs` written over its start. -/
def overlay (buf bs : List β) : List β := bs ++ buf.drop bs.length

theorem length_overlay {buf bs : List β} (h : bs.length ≤ buf.length) :
    (overlay buf bs).length = buf.length := by
  rw [overlay, List.length_append, List.length_drop, Nat.add_sub_cancel' h]

theorem getElem?_overlay (buf bs : List β) (i : ℕ) :
    (overlay buf bs)[i]? = if i < bs.length then bs[i]? else buf[i]? := by
  rw [overlay]
  split
  · next h => exact List.getElem?_append_left h
  · next h =>
    have hle : bs.length ≤ i := Nat.le_of_not_lt h
    rw [List.getElem?_append_right hle, List.getElem?_drop, Nat.add_sub_cancel' hle]

variable (bytes : α → List β)

/-- The buffer after all the writes `xs`. -/
def overlayAll (buf : List β) (xs : List α) : List β :=
  xs.foldl (fun b x ↦ overlay b (bytes x)) buf

/-- The last of the writes `xs` that reaches element `i`. -/
def lastOver (i : ℕ) (xs : List α) : Option α :=
  xs.reverse.find? fun x ↦ i < (bytes x).length

variable {bytes}

theorem overlayAll_concat (buf : List β) (xs : List α) (x : α) :
    overlayAll bytes buf (xs ++ [x]) = overlay (overlayAll bytes buf xs) (bytes x) := by
  rw [overlayAll, List.foldl_append]
  rfl

theorem length_overlayAll {buf : List β} {xs : List α}
    (h : ∀ x ∈ xs, (bytes x).length ≤ buf.length) :
    (overlayAll bytes buf xs).length = buf.length := by
  induction xs using List.reverseRecOn with
  | nil => rfl
  | append_singleton xs x ih =>
    have hxs := ih fun y hy ↦ h y (List.mem_append_left _ hy)
    rw [overlayAll_concat, length_overlay, hxs]
    rw [hxs]
    exact h x (List.mem_append_right _ (List.mem_singleton_self x))

theorem lastOver_concat (i : ℕ) (xs : List α) (x : α) :
    lastOver bytes i (xs ++ [x]) =
      if i < (bytes x).length then some x else lastOver bytes i xs := by
  rw [lastOver, List.reverse_append, List.reverse_singleton, List.singleton_append,
    List.find?_cons]
  split
  · next h => rw [if_pos (of_decide_eq_true h)]
  · next h => rw [if_neg (of_decide_eq_false h)]; rfl

/-- **Each element comes from the last write that reaches it.** -/
theorem getElem?_overlayAll (buf : List β) (xs : List α) (i : ℕ) :
    (overlayAll bytes buf xs)[i]? = ((lastOver bytes i xs).elim buf bytes)[i]? := by
  induction xs using List.reverseRecOn with
  | nil => rfl
  | append_singleton xs x ih =>
    rw [overlayAll_concat, getElem?_overlay, lastOver_concat]
    split
    · rfl
    · exact ih

/-- A write that reaches the element hides the writes before it. -/
theorem lastOver_append_cons {i : ℕ} {x : α} (h : i < (bytes x).length) (xs ys : List α) :
    lastOver bytes i (xs ++ x :: ys) = lastOver bytes i (x :: ys) := by
  induction ys using List.reverseRecOn with
  | nil =>
    rw [lastOver_concat, if_pos h, ← List.nil_append [x], lastOver_concat, if_pos h]
  | append_singleton ys y ih =>
    rw [← List.cons_append, ← List.append_assoc, lastOver_concat, lastOver_concat, ih]

/-- Leaving out other writes does not change the last one. -/
theorem lastOver_filter {i : ℕ} {x : α} {xs : List α} {p : α → Bool}
    (h : lastOver bytes i xs = some x) (hp : p x = true) :
    lastOver bytes i (xs.filter p) = some x := by
  induction xs using List.reverseRecOn with
  | nil => cases h
  | append_singleton xs y ih =>
    rw [lastOver_concat] at h
    rw [List.filter_append]
    split at h
    · next hy =>
      obtain rfl := Option.some.inj h
      rw [List.filter_cons_of_pos hp, List.filter_nil, lastOver_concat, if_pos hy]
    · next hy =>
      by_cases hpy : p y = true
      · rw [List.filter_cons_of_pos hpy, List.filter_nil, lastOver_concat, if_neg hy]
        exact ih h
      · rw [List.filter_cons_of_neg hpy, List.filter_nil, List.append_nil]
        exact ih h

theorem lastOver_eq_none {i : ℕ} {xs : List α} :
    lastOver bytes i xs = none ↔ ∀ x ∈ xs, (bytes x).length ≤ i := by
  simp only [lastOver, List.find?_eq_none, List.mem_reverse, decide_eq_true_eq, Nat.not_lt]

theorem lastOver_cons_ne_none {i : ℕ} {x : α} (h : i < (bytes x).length) (ys : List α) :
    lastOver bytes i (x :: ys) ≠ none := by
  intro hnone
  rw [lastOver, List.find?_eq_none] at hnone
  exact hnone x (by simp) (decide_eq_true h)

theorem mem_of_lastOver {i : ℕ} {x : α} {xs : List α} (h : lastOver bytes i xs = some x) :
    x ∈ xs ∧ i < (bytes x).length := by
  have hreach := List.find?_some h
  exact ⟨List.mem_reverse.1 (List.mem_of_find?_eq_some h), of_decide_eq_true hreach⟩

end Overlay
