import DriverModules.Lib.Virtqueue

/-!
# What a ring carries

Beside a virtqueue stand what the driver has posted on it so far and what the device has read from
it so far, each in order. What is on its way is what the available buffers contain, so a buffer must
keep its contents while it is available (`Carries.congr`); then the three go together, whatever
order the device consumes in (`Carries`), and as sequences when it takes the oldest buffer first
(`CarriesInOrder`).
-/

namespace Virtqueue

variable {β υ γ : Type*} {q q' : Virtqueue β υ} {content content' : β → γ} {posted read : List γ}
  {b : β} {r : υ}

/-- What was posted is what has been read and what is on its way. -/
def Carries (q : Virtqueue β υ) (content : β → γ) (posted read : List γ) : Prop :=
  (read ++ q.avail.map content).Perm posted

/-- The same in the order of posting. -/
def CarriesInOrder (q : Virtqueue β υ) (content : β → γ) (posted read : List γ) : Prop :=
  read ++ q.avail.map content = posted

theorem carriesInOrder_empty : (empty : Virtqueue β υ).CarriesInOrder content [] [] := rfl

theorem carries_empty : (empty : Virtqueue β υ).Carries content [] [] := .refl _

/-- Buffers that are not available may change. -/
theorem map_avail_congr (havail : q'.avail = q.avail)
    (hcontent : ∀ b ∈ q.avail, content' b = content b) :
    q'.avail.map content' = q.avail.map content := by
  rw [havail]
  exact List.map_congr_left hcontent

theorem Carries.congr (h : q.Carries content posted read) (havail : q'.avail = q.avail)
    (hcontent : ∀ b ∈ q.avail, content' b = content b) : q'.Carries content' posted read := by
  rw [Carries, map_avail_congr havail hcontent]
  exact h

theorem CarriesInOrder.congr (h : q.CarriesInOrder content posted read)
    (havail : q'.avail = q.avail) (hcontent : ∀ b ∈ q.avail, content' b = content b) :
    q'.CarriesInOrder content' posted read := by
  rw [CarriesInOrder, map_avail_congr havail hcontent]
  exact h

theorem Carries.add (h : q.Carries content posted read) (b : β) :
    (q.add b).Carries content (posted ++ [content b]) read := by
  rw [Carries, Virtqueue.add, List.map_append, ← List.append_assoc]
  exact h.append_right [content b]

theorem CarriesInOrder.add (h : q.CarriesInOrder content posted read) (b : β) :
    (q.add b).CarriesInOrder content (posted ++ [content b]) read := by
  rw [CarriesInOrder, Virtqueue.add, List.map_append, ← List.append_assoc, h]
  rfl

/-- **Reading a buffer**, whichever it is. -/
theorem Carries.consume [DecidableEq β] (h : q.Carries content posted read)
    (hc : q.consume b r = some q') : q'.Carries content posted (read ++ [content b]) := by
  obtain ⟨hb, havail, -⟩ := consume_eq_some.1 hc
  have hsplit : (q.avail.map content).Perm (content b :: q'.avail.map content) := by
    rw [havail]
    exact (List.perm_cons_erase hb).map content
  rw [Carries, List.append_assoc]
  exact (hsplit.symm.append_left read).trans h

/-- **Reading the oldest.** -/
theorem CarriesInOrder.consume [DecidableEq β] (h : q.CarriesInOrder content posted read)
    (hc : q.consume b r = some q') (hhead : q.avail.head? = some b) :
    q'.CarriesInOrder content posted (read ++ [content b]) := by
  obtain ⟨-, havail, -⟩ := consume_eq_some.1 hc
  obtain ⟨rest, hrest⟩ := List.head?_eq_some_iff.1 hhead
  rw [hrest, List.erase_cons_head] at havail
  rw [CarriesInOrder, hrest] at h
  rw [CarriesInOrder, havail, List.append_assoc]
  exact h

end Virtqueue
