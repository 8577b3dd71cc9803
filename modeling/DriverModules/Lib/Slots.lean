import Mathlib.Data.Finset.Card
import Mathlib.Data.List.Perm.Subperm

/-!
# A pool of slots with one owner each

What a buffer allocator is for: a fixed number of slots, each of which is, at every moment, in one
place. A slot starts fresh, is taken by a party, posted to a queue, recycled out of the queue by a
party again, or dropped by its holder and never seen again.

The pool is a *function* from slots to places, so a slot with two holders cannot even be written
down. An implementation is shown free of double use by exhibiting, for every state it reaches, the
pool that state refines: `Refines` relates a pool to what an implementation has, a bump index, the
slot each party holds and a queue. Each move of the pool has its rule (`Refines.take`, `recycle`,
`post`, `drop`), and what an implementation is after follows from the relation alone
(`Refines.held_inj`, `Refines.not_queued`, `Refines.length_queue_le`).
-/

namespace Slots

/-- Where a slot is. -/
inductive Place (ι : Type*)
  | fresh
  | held (i : ι)
  | queued
  | lost
  deriving DecidableEq

/-- A pool: the place of every slot. -/
abbrev Pool (ι : Type*) := ℕ → Place ι

variable {ι β : Type*}

/-- The moves a slot can make. -/
inductive Move : Place ι → Place ι → Prop
  | take (i : ι) : Move .fresh (.held i)
  | post (i : ι) : Move (.held i) .queued
  | recycle (i : ι) : Move .queued (.held i)
  | drop (i : ι) : Move (.held i) .lost

/-- One step of the pool: nothing, or one slot moves. -/
inductive Step (o : Pool ι) : Pool ι → Prop
  | stay : Step o o
  | move (k : ℕ) {x : Place ι} : Move (o k) x → Step o (Function.update o k x)

/-- An implementation with `n` slots refines the pool `o`. The implementation calls slot `k` by the
name `name k` (an address), has handed out the slots below `last`, knows the slot each party holds
and has a queue. -/
structure Refines (n : ℕ) (name : ℕ → β) (last : ℕ) (held : ι → Option β) (queue : List β)
    (o : Pool ι) : Prop where
  last_le : last ≤ n
  fresh : ∀ k, o k = .fresh ↔ last ≤ k
  held : ∀ i b, held i = some b ↔ ∃ k, name k = b ∧ o k = .held i
  queued : ∀ b, b ∈ queue ↔ ∃ k, name k = b ∧ o k = .queued
  nodup : queue.Nodup

namespace Refines

variable {n : ℕ} {name : ℕ → β} {last : ℕ} {held held' : ι → Option β} {queue queue' : List β}
  {o : Pool ι} {i j : ι} {b : β} {k : ℕ}

/-- Before anything is handed out every slot is fresh. -/
theorem start (hheld : ∀ i, held i = none) : Refines n name 0 held [] fun _ ↦ .fresh where
  last_le := Nat.zero_le n
  fresh _ := by simp
  held _ _ := by simp [hheld]
  queued _ := by simp
  nodup := List.nodup_nil

/-! ### What the relation gives -/

/-- A slot that has left the fresh ones is one of the `n`. -/
theorem lt_of_ne_fresh (h : Refines n name last held queue o) (hk : o k ≠ .fresh) : k < n := by
  have hlt : ¬ last ≤ k := fun hle ↦ hk ((h.fresh k).2 hle)
  have := h.last_le
  omega

theorem exists_name_of_held (h : Refines n name last held queue o) (hb : held i = some b) :
    ∃ k < n, name k = b := by
  obtain ⟨k, hk, hplace⟩ := (h.held i b).1 hb
  exact ⟨k, h.lt_of_ne_fresh (by simp [hplace]), hk⟩

/-- **No two parties hold one slot.** -/
theorem held_inj (hname : Function.Injective name) (h : Refines n name last held queue o)
    (hi : held i = some b) (hj : held j = some b) : i = j := by
  obtain ⟨k, hk, hplace⟩ := (h.held i b).1 hi
  obtain ⟨k', hk', hplace'⟩ := (h.held j b).1 hj
  obtain rfl := hname (hk.trans hk'.symm)
  rw [hplace] at hplace'
  exact Place.held.inj hplace'

/-- **A slot somebody holds is not in the queue.** -/
theorem not_queued (hname : Function.Injective name) (h : Refines n name last held queue o)
    (hi : held i = some b) : b ∉ queue := by
  intro hb
  obtain ⟨k, hk, hplace⟩ := (h.held i b).1 hi
  obtain ⟨k', hk', hplace'⟩ := (h.queued b).1 hb
  obtain rfl := hname (hk.trans hk'.symm)
  rw [hplace] at hplace'
  cases hplace'

/-- A list without duplicates of names of slots has at most `n` entries. -/
theorem length_le_of_named {l : List β} (hnd : l.Nodup) (hl : ∀ b ∈ l, ∃ k < n, name k = b) :
    l.length ≤ n := by
  classical
  have hsub : l.toFinset ⊆ (Finset.range n).image name := by
    intro b hb
    obtain ⟨k, hk, hkb⟩ := hl b (List.mem_toFinset.1 hb)
    exact Finset.mem_image.2 ⟨k, Finset.mem_range.2 hk, hkb⟩
  calc l.length = l.toFinset.card := (List.toFinset_card_of_nodup hnd).symm
    _ ≤ ((Finset.range n).image name).card := Finset.card_le_card hsub
    _ ≤ (Finset.range n).card := Finset.card_image_le
    _ = n := Finset.card_range n

theorem exists_name_of_mem (h : Refines n name last held queue o) (hb : b ∈ queue) :
    ∃ k < n, name k = b := by
  obtain ⟨k, hk, hplace⟩ := (h.queued b).1 hb
  exact ⟨k, h.lt_of_ne_fresh (by simp [hplace]), hk⟩

/-- **The queue never holds more than the slots there are.** -/
theorem length_queue_le (h : Refines n name last held queue o) : queue.length ≤ n :=
  length_le_of_named h.nodup fun _ hb ↦ h.exists_name_of_mem hb

/-- **And fewer while a party holds one of them.** -/
theorem length_queue_lt (hname : Function.Injective name)
    (h : Refines n name last held queue o) (hi : held i = some b) : queue.length < n := by
  have hnamed : ∀ c ∈ b :: queue, ∃ k < n, name k = c := by
    intro c hc
    rcases List.mem_cons.1 hc with rfl | hc
    · exact h.exists_name_of_held hi
    · exact h.exists_name_of_mem hc
  have hlen : (b :: queue).length ≤ n :=
    length_le_of_named (List.nodup_cons.2 ⟨h.not_queued hname hi, h.nodup⟩) hnamed
  exact hlen

/-! ### The moves -/

/-- Nothing the pool sees has changed. -/
theorem congr (h : Refines n name last held queue o) (hheld : ∀ j, held' j = held j)
    (hqueue : queue'.Perm queue) : Refines n name last held' queue' o where
  last_le := h.last_le
  fresh := h.fresh
  held i b := by rw [hheld i]; exact h.held i b
  queued b := by rw [hqueue.mem_iff]; exact h.queued b
  nodup := hqueue.nodup_iff.2 h.nodup

/-- What the parties hold after `i`, who held nothing, got slot `k`. -/
private theorem held_gain (h : Refines n name last held queue o) (hi : held i = none)
    (hi' : held' i = some (name k)) (hne : ∀ j, j ≠ i → held' j = held j)
    (hk : ∀ j, o k ≠ .held j) (j : ι) (b : β) :
    held' j = some b ↔ ∃ k', name k' = b ∧ Function.update o k (.held i) k' = .held j := by
  by_cases hj : j = i
  · subst hj
    rw [hi']
    constructor
    · rintro ⟨⟩
      exact ⟨k, rfl, by simp⟩
    · rintro ⟨k', hk', hplace⟩
      by_cases hkk : k' = k
      · rw [← hk', hkk]
      · rw [Function.update_of_ne hkk] at hplace
        exact absurd ((h.held j b).2 ⟨k', hk', hplace⟩) (by simp [hi])
  · rw [hne j hj, h.held j b]
    refine exists_congr fun k' ↦ and_congr_right fun _ ↦ ?_
    by_cases hkk : k' = k
    · subst hkk
      simpa [Ne.symm hj] using hk j
    · rw [Function.update_of_ne hkk]

/-- What the parties hold after `i` let go of slot `k`. -/
private theorem held_lose {x : Place ι} (hname : Function.Injective name)
    (h : Refines n name last held queue o) (hi : held i = some (name k)) (hi' : held' i = none)
    (hne : ∀ j, j ≠ i → held' j = held j) (hx : ∀ j, x ≠ .held j) (j : ι) (b : β) :
    held' j = some b ↔ ∃ k', name k' = b ∧ Function.update o k x k' = .held j := by
  have hk : o k = .held i := by
    obtain ⟨k', hk', hplace⟩ := (h.held i _).1 hi
    rwa [hname hk'] at hplace
  by_cases hj : j = i
  · subst hj
    rw [hi']
    refine ⟨by simp, ?_⟩
    rintro ⟨k', hk', hplace⟩
    by_cases hkk : k' = k
    · subst hkk
      simp [hx j] at hplace
    · rw [Function.update_of_ne hkk] at hplace
      -- `i` holds one slot at a time
      have hsome := (h.held j b).2 ⟨k', hk', hplace⟩
      rw [hi] at hsome
      exact absurd (hname (hk'.trans (Option.some.inj hsome).symm)) hkk
  · rw [hne j hj, h.held j b]
    refine exists_congr fun k' ↦ and_congr_right fun _ ↦ ?_
    by_cases hkk : k' = k
    · subst hkk
      simp [hk, Ne.symm hj, hx j]
    · rw [Function.update_of_ne hkk]

/-- A queue that does not change while a slot outside it moves to another place outside it. -/
private theorem queued_same {x : Place ι} (h : Refines n name last held queue o)
    (hk : o k ≠ .queued) (hx : x ≠ .queued) (b : β) :
    b ∈ queue ↔ ∃ k', name k' = b ∧ Function.update o k x k' = .queued := by
  rw [h.queued b]
  refine exists_congr fun k' ↦ and_congr_right fun _ ↦ ?_
  by_cases hkk : k' = k
  · subst hkk
    simp [hk, hx]
  · rw [Function.update_of_ne hkk]

/-- The fresh slots do not change while a slot that is not fresh moves. -/
private theorem fresh_same {x : Place ι} (h : Refines n name last held queue o)
    (hk : o k ≠ .fresh) (hx : x ≠ .fresh) (k' : ℕ) :
    Function.update o k x k' = .fresh ↔ last ≤ k' := by
  rw [← h.fresh k']
  by_cases hkk : k' = k
  · subst hkk
    simp [hk, hx]
  · rw [Function.update_of_ne hkk]

/-- `i` takes the next fresh slot. -/
theorem take (h : Refines n name last held queue o) (hlast : last < n) (hi : held i = none)
    (hi' : held' i = some (name last)) (hne : ∀ j, j ≠ i → held' j = held j) :
    Refines n name (last + 1) held' queue (Function.update o last (.held i)) := by
  have hk : o last = .fresh := (h.fresh last).2 le_rfl
  refine ⟨hlast, fun k' ↦ ?_, h.held_gain hi hi' hne (by simp [hk]),
    h.queued_same (by simp [hk]) (by simp), h.nodup⟩
  by_cases hkk : k' = last
  · subst hkk
    simp
  · rw [Function.update_of_ne hkk, h.fresh k']
    omega

/-- `i` recycles a slot out of the queue. -/
theorem recycle (hname : Function.Injective name) (h : Refines n name last held queue o)
    (hqueue : queue.Perm (b :: queue')) (hi : held i = none) (hi' : held' i = some b)
    (hne : ∀ j, j ≠ i → held' j = held j) :
    ∃ k, o k = .queued ∧
      Refines n name last held' queue' (Function.update o k (.held i)) := by
  obtain ⟨k, rfl, hk⟩ := (h.queued b).1 (hqueue.mem_iff.2 List.mem_cons_self)
  have hnd : (name k :: queue').Nodup := hqueue.nodup_iff.1 h.nodup
  refine ⟨k, hk, h.last_le, h.fresh_same (by simp [hk]) (by simp),
    h.held_gain hi hi' hne (by simp [hk]), fun b ↦ ?_, (List.nodup_cons.1 hnd).2⟩
  constructor
  · intro hb
    obtain ⟨k', hk', hplace⟩ := (h.queued b).1 (hqueue.mem_iff.2 (List.mem_cons_of_mem _ hb))
    have hkk : k' ≠ k := by
      rintro rfl
      exact (List.nodup_cons.1 hnd).1 (hk' ▸ hb)
    exact ⟨k', hk', by rwa [Function.update_of_ne hkk]⟩
  · rintro ⟨k', hk', hplace⟩
    by_cases hkk : k' = k
    · subst hkk
      simp at hplace
    · rw [Function.update_of_ne hkk] at hplace
      have hb := hqueue.mem_iff.1 ((h.queued b).2 ⟨k', hk', hplace⟩)
      rcases List.mem_cons.1 hb with hbk | hb
      · exact absurd (hname (hk'.trans hbk)) hkk
      · exact hb

/-- `i` posts the slot it holds to the queue. -/
theorem post (hname : Function.Injective name) (h : Refines n name last held queue o)
    (hqueue : queue'.Perm (b :: queue)) (hi : held i = some b) (hi' : held' i = none)
    (hne : ∀ j, j ≠ i → held' j = held j) :
    ∃ k, o k = .held i ∧ Refines n name last held' queue' (Function.update o k .queued) := by
  have hnot := h.not_queued hname hi
  obtain ⟨k, rfl, hk⟩ := (h.held i b).1 hi
  refine ⟨k, hk, h.last_le, h.fresh_same (by simp [hk]) (by simp),
    h.held_lose hname hi hi' hne (by simp), fun b ↦ ?_,
    hqueue.nodup_iff.2 (List.nodup_cons.2 ⟨hnot, h.nodup⟩)⟩
  rw [hqueue.mem_iff, List.mem_cons, h.queued b]
  constructor
  · rintro (rfl | ⟨k', hk', hplace⟩)
    · exact ⟨k, rfl, by simp⟩
    · have hkk : k' ≠ k := by
        rintro rfl
        simp [hk] at hplace
      exact ⟨k', hk', by rwa [Function.update_of_ne hkk]⟩
  · rintro ⟨k', hk', hplace⟩
    by_cases hkk : k' = k
    · exact .inl (by rw [← hk', hkk])
    · rw [Function.update_of_ne hkk] at hplace
      exact .inr ⟨k', hk', hplace⟩

/-- `i` drops the slot it holds. -/
theorem drop (hname : Function.Injective name) (h : Refines n name last held queue o)
    (hi : held i = some b) (hi' : held' i = none) (hne : ∀ j, j ≠ i → held' j = held j) :
    ∃ k, o k = .held i ∧ Refines n name last held' queue (Function.update o k .lost) := by
  obtain ⟨k, rfl, hk⟩ := (h.held i b).1 hi
  exact ⟨k, hk, h.last_le, h.fresh_same (by simp [hk]) (by simp),
    h.held_lose hname hi hi' hne (by simp), h.queued_same (by simp [hk]) (by simp), h.nodup⟩

end Refines

end Slots
