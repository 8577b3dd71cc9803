import Mathlib.Data.List.Perm.Basic
import Mathlib.Data.List.Perm.Subperm

/-!
# A virtqueue

The split ring a driver shares with a device, as the driver's side sees it. The driver *adds* a
buffer, the device *consumes* it (in any order) and reports it back with some data, the driver
*gets* used buffers in the order they were reported. A buffer occupies one descriptor from the add
to the get, so the number of buffers on the ring never exceeds the number of descriptors.

`β` is what the driver passes with a buffer and gets back for it, `υ` is what the device reports
with a used one.
-/

/-- A virtqueue: the buffers the device may still consume and the ones it has reported back. -/
structure Virtqueue (β υ : Type*) where
  /-- Added and not consumed yet. -/
  avail : List β
  /-- Consumed and not got back yet, oldest first. -/
  used : List (β × υ)
  deriving Repr

namespace Virtqueue

variable {β υ : Type*}

/-- The empty ring. -/
def empty : Virtqueue β υ := ⟨[], []⟩

/-- Every buffer that occupies a descriptor. -/
def bufs (q : Virtqueue β υ) : List β :=
  q.avail ++ q.used.map Prod.fst

@[simp] theorem bufs_empty : (empty : Virtqueue β υ).bufs = [] := rfl

/-- `virtqueue_add_inbuf`, `virtqueue_add_outbuf`: one more buffer for the device. -/
def add (q : Virtqueue β υ) (b : β) : Virtqueue β υ :=
  { q with avail := q.avail ++ [b] }

theorem bufs_add (q : Virtqueue β υ) (b : β) : (q.add b).bufs.Perm (b :: q.bufs) := by
  simp only [bufs, add, List.append_assoc, List.singleton_append]
  exact List.perm_middle

@[simp] theorem used_add (q : Virtqueue β υ) (b : β) : (q.add b).used = q.used := rfl

/-- `virtqueue_get_buf`: the oldest used buffer, or nothing. -/
def getBuf (q : Virtqueue β υ) : Option ((β × υ) × Virtqueue β υ) :=
  match q.used with
  | [] => none
  | u :: us => some (u, { q with used := us })

theorem getBuf_eq_none {q : Virtqueue β υ} : q.getBuf = none ↔ q.used = [] := by
  rcases h : q.used with - | ⟨u, us⟩ <;> simp [getBuf, h]

theorem getBuf_eq_some {q q' : Virtqueue β υ} {u : β × υ} :
    q.getBuf = some (u, q') ↔ q.used = u :: q'.used ∧ q'.avail = q.avail := by
  rcases q with ⟨a, us⟩
  rcases q' with ⟨a', us'⟩
  rcases us with - | ⟨u₀, us₀⟩
  · simp [getBuf]
  · simp only [getBuf, Option.some.injEq, Prod.mk.injEq, mk.injEq, List.cons.injEq]
    constructor
    · rintro ⟨rfl, rfl, rfl⟩; exact ⟨⟨rfl, rfl⟩, rfl⟩
    · rintro ⟨⟨rfl, rfl⟩, rfl⟩; exact ⟨rfl, rfl, rfl⟩

theorem bufs_getBuf {q q' : Virtqueue β υ} {u : β × υ} (h : q.getBuf = some (u, q')) :
    q.bufs.Perm (u.1 :: q'.bufs) := by
  obtain ⟨hused, havail⟩ := getBuf_eq_some.1 h
  simp only [bufs, hused, havail, List.map_cons]
  exact List.perm_middle

/-- The device consumes an available buffer and reports it back. -/
def consume [DecidableEq β] (q : Virtqueue β υ) (b : β) (r : υ) : Option (Virtqueue β υ) :=
  if b ∈ q.avail then some ⟨q.avail.erase b, q.used ++ [(b, r)]⟩ else none

theorem consume_eq_some [DecidableEq β] {q q' : Virtqueue β υ} {b : β} {r : υ} :
    q.consume b r = some q' ↔
      b ∈ q.avail ∧ q'.avail = q.avail.erase b ∧ q'.used = q.used ++ [(b, r)] := by
  rcases q' with ⟨a', us'⟩
  by_cases hb : b ∈ q.avail
  · simp only [consume, hb, if_true, Option.some.injEq, mk.injEq, true_and]
    constructor <;> rintro ⟨h₁, h₂⟩ <;> exact ⟨h₁.symm, h₂.symm⟩
  · simp [consume, hb]

/-- Consuming moves a buffer inside the ring and takes nothing from it. -/
theorem bufs_consume [DecidableEq β] {q q' : Virtqueue β υ} {b : β} {r : υ}
    (h : q.consume b r = some q') : q'.bufs.Perm q.bufs := by
  obtain ⟨hb, havail, hused⟩ := consume_eq_some.1 h
  simp only [bufs, havail, hused, List.map_append, List.map_cons, List.map_nil]
  have hlast : (q.avail.erase b ++ (q.used.map Prod.fst ++ [b])).Perm
      (b :: (q.avail.erase b ++ q.used.map Prod.fst)) := by
    rw [← List.append_assoc]
    exact List.perm_append_singleton _ _
  have hback : (b :: (q.avail.erase b ++ q.used.map Prod.fst)).Perm
      (q.avail ++ q.used.map Prod.fst) := by
    rw [← List.cons_append]
    exact (List.perm_cons_erase hb).symm.append_right _
  exact hlast.trans hback

end Virtqueue
