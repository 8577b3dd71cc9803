import Mathlib.Data.List.Nodup

/-!
# A queue and its history

A queue whose entries are added at the back and taken from the front, by anybody. Beside the queue
stand the entries ever accepted, in order, and the entries taken, in order, each with who took it.
One equation ties the three together (`Account`), and it is all a step has to keep: `Account.accept`
and `Account.take` are the two ways to.

From the equation alone: what some of the takers have taken is a subsequence of what was accepted
(`Account.takenBy_sublist`), and whatever was accepted before a taken entry was taken before it, by
somebody (`Account.taken_before`).
-/

namespace Fifo

variable {α τ : Type*} {accepted queue : List α} {taken : List (α × τ)} {a b : α} {t : τ}

/-- What was accepted is what was taken and what is queued. -/
def Account (accepted : List α) (taken : List (α × τ)) (queue : List α) : Prop :=
  taken.map Prod.fst ++ queue = accepted

theorem account_empty : Account ([] : List α) ([] : List (α × τ)) [] := rfl

theorem Account.accept (h : Account accepted taken queue) (a : α) :
    Account (accepted ++ [a]) taken (queue ++ [a]) := by
  rw [Account, ← List.append_assoc, h]

theorem Account.take (h : Account accepted taken (a :: queue)) (t : τ) :
    Account accepted (taken ++ [(a, t)]) queue := by
  rw [Account, List.map_append, List.append_assoc]
  exact h

/-- The entries taken by those with `p`, in order. -/
def takenBy (p : τ → Bool) (taken : List (α × τ)) : List α :=
  (taken.filter fun x ↦ p x.2).map Prod.fst

/-- **Order**: what some have taken is a subsequence of what was accepted. -/
theorem Account.takenBy_sublist (h : Account accepted taken queue) (p : τ → Bool) :
    List.Sublist (takenBy p taken) accepted := by
  have hsub : List.Sublist (takenBy p taken) (taken.map Prod.fst) :=
    List.filter_sublist.map Prod.fst
  rw [← h]
  exact hsub.trans (List.sublist_append_left _ _)

/-- **Nothing is taken twice.** -/
theorem Account.taker_unique (h : Account accepted taken queue) (hnodup : accepted.Nodup) {t' : τ}
    (ht : (a, t) ∈ taken) (ht' : (a, t') ∈ taken) : t = t' := by
  have htaken : (taken.map Prod.fst).Nodup := by
    rw [← h] at hnodup
    exact hnodup.of_append_left
  exact congrArg Prod.snd (List.inj_on_of_nodup_map htaken ht ht' rfl)

/-- In a list without repetition, what is before an entry is left of it. -/
theorem mem_of_pair_sublist {l r : List α} (h : List.Sublist [b, a] (l ++ a :: r))
    (hnodup : (l ++ a :: r).Nodup) : b ∈ l := by
  obtain ⟨x, y, hxy, hx, hy⟩ := List.sublist_append_iff.1 h
  have hl : a ∉ l := fun ha ↦ List.disjoint_of_nodup_append hnodup ha List.mem_cons_self
  have hr : a ∉ r := (List.nodup_cons.1 hnodup.of_append_right).1
  rcases x with - | ⟨c, x⟩
  · -- both would be in `a :: r`
    obtain rfl : [b, a] = y := by simpa using hxy
    rcases List.sublist_cons_iff.1 hy with hy | ⟨z, hz, hy⟩
    · exact absurd (hy.subset (by simp)) hr
    · obtain ⟨-, rfl⟩ := List.cons.inj hz
      exact absurd (hy.subset (by simp)) hr
  · obtain ⟨rfl, -⟩ := List.cons.inj hxy
    exact hx.subset List.mem_cons_self

/-- **No skipping**: what was accepted before a taken entry was taken before it. -/
theorem Account.taken_before (h : Account accepted taken queue) (hnodup : accepted.Nodup)
    {first rest : List (α × τ)} (htaken : taken = first ++ (a, t) :: rest)
    (hbefore : List.Sublist [b, a] accepted) : ∃ t', (b, t') ∈ first := by
  have hsplit : accepted = first.map Prod.fst ++ a :: (rest.map Prod.fst ++ queue) := by
    rw [← h, htaken]
    simp
  rw [hsplit] at hbefore hnodup
  obtain ⟨⟨b', t'⟩, hmem, rfl⟩ := List.mem_map.1 (mem_of_pair_sublist hbefore hnodup)
  exact ⟨t', hmem⟩

end Fifo
