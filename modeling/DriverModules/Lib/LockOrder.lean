import DriverModules.Lib.Transition
import Mathlib.Data.List.Nodup
import Mathlib.Order.WellFounded

/-!
# Locks taken in order

Threads run programs that acquire and release locks. The locks have ranks, and whoever acquires one
holds only locks of smaller rank. Then nobody is stuck for good: from any state in which the threads
can be, any one of them can be brought to the end of its program by steps of threads that are under
way, without a new program being begun (`exists_finish`).

A lock somebody waits for is freed by driving its owner on. The owner may wait in turn, but only for
a lock of greater rank, and a thread that holds only smaller ones is not moved on the way
(`exists_free`).
-/

open Transition

namespace LockOrder

inductive LockOp (L : Type*)
  | acquire (l : L)
  | release (l : L)
  deriving DecidableEq, Repr

variable {ι L ρ : Type*}

/-- What each thread has still ahead, and who holds a lock. -/
structure Threads (ι L : Type*) where
  prog : ι → List (LockOp L)
  owner : L → Option ι

inductive ThreadEvent (ι L : Type*)
  /-- Thread `i` begins the program `p`. -/
  | start (i : ι) (p : List (LockOp L))
  /-- Its next operation. -/
  | next (i : ι)

namespace Threads

/-- Nobody runs. -/
def idle : Threads ι L := ⟨fun _ ↦ [], fun _ ↦ none⟩

def step [DecidableEq ι] [DecidableEq L] (s : Threads ι L) : ThreadEvent ι L → Option (Threads ι L)
  | .start i p =>
    match s.prog i with
    | [] => some { s with prog := Function.update s.prog i p }
    | _ :: _ => none
  | .next i =>
    match s.prog i with
    | [] => none
    | .acquire l :: p =>
      match s.owner l with
      | none => some ⟨Function.update s.prog i p, Function.update s.owner l (some i)⟩
      | some _ => none
    | .release l :: p =>
      if s.owner l = some i then
        some ⟨Function.update s.prog i p, Function.update s.owner l none⟩
      else none

end Threads

variable [Preorder ρ] {rank : L → ρ} {held : List L} {l l' : L} {p q : List (LockOp L)}
  {s s' : Threads ι L} {i j : ι}

/-- Thread `i` has not moved, and holds what it held. -/
def Unmoved (s s' : Threads ι L) (i : ι) : Prop :=
  s'.prog i = s.prog i ∧ ∀ l, s'.owner l = some i ↔ s.owner l = some i

/-- `i` holds locks below `l` only. -/
def HoldsBelow (rank : L → ρ) (s : Threads ι L) (i : ι) (l : L) : Prop :=
  ∀ l', s.owner l' = some i → rank l' < rank l

theorem Unmoved.trans {s'' : Threads ι L} (h : Unmoved s s' i) (h' : Unmoved s' s'' i) :
    Unmoved s s'' i :=
  ⟨h'.1.trans h.1, fun l ↦ (h'.2 l).trans (h.2 l)⟩

theorem Unmoved.holdsBelow (h : Unmoved s s' i) (hbelow : HoldsBelow rank s i l) :
    HoldsBelow rank s' i l :=
  fun l' hl' ↦ hbelow l' ((h.2 l').1 hl')

variable [DecidableEq L]

/-- A program run by a thread that holds the locks `held`: it acquires them in order, releases what
it holds, and holds nothing in the end. -/
def Ordered (rank : L → ρ) : List L → List (LockOp L) → Prop
  | held, [] => held = []
  | held, .acquire l :: p => (∀ h ∈ held, rank h < rank l) ∧ Ordered rank (l :: held) p
  | held, .release l :: p => l ∈ held ∧ Ordered rank (held.erase l) p

/-! ### Programs in order -/

/-- A program that acquires no lock below `r`, and gives back what it takes: it can be put in front
of any other where only locks below `r` are held. -/
def Above (rank : L → ρ) (r : ρ) (p : List (LockOp L)) : Prop :=
  ∀ held q, (∀ h ∈ held, rank h < r) → Ordered rank held q → Ordered rank held (p ++ q)

/-- The program `p` with the lock `l` held. -/
def within (l : L) (p : List (LockOp L)) : List (LockOp L) :=
  .acquire l :: (p ++ [.release l])

variable {r r' : ρ}

theorem Above.nil : Above rank r [] := fun _ _ _ hq ↦ hq

theorem Above.append (hp : Above rank r p) (hq : Above rank r q) : Above rank r (p ++ q) := by
  intro held q' hheld hq'
  rw [List.append_assoc]
  exact hp held _ hheld (hq held q' hheld hq')

theorem Above.flatMap {α : Type*} {f : α → List (LockOp L)} (hf : ∀ a, Above rank r (f a))
    (as : List α) : Above rank r (as.flatMap f) := by
  induction as with
  | nil => exact .nil
  | cons a as ih => exact (hf a).append ih

theorem Above.mono (h : Above rank r' p) (hle : r ≤ r') : Above rank r p :=
  fun held q hheld hq ↦ h held q (fun l hl ↦ (hheld l hl).trans_le hle) hq

/-- **Nesting**: what runs with `l` held is above `l`. -/
theorem Above.within (hp : Above rank r' p) (hr : r ≤ rank l) (hlt : rank l < r') :
    Above rank r (within l p) := by
  intro held q hheld hq
  have hlow : ∀ h ∈ held, rank h < rank l := fun h hh ↦ (hheld h hh).trans_le hr
  refine ⟨hlow, ?_⟩
  show Ordered rank (l :: held) ((p ++ [.release l]) ++ q)
  rw [List.append_assoc]
  refine hp (l :: held) _ (fun h hh ↦ ?_) ⟨List.mem_cons_self, ?_⟩
  · rcases List.mem_cons.1 hh with rfl | hh
    · exact hlt
    · exact (hlow h hh).trans hlt
  · rw [List.erase_cons_head]
    exact hq

/-- A critical section in which no lock is taken. -/
theorem Above.section (hr : r ≤ rank l) : Above rank r (LockOrder.within l []) := by
  intro held q hheld hq
  refine ⟨fun h hh ↦ (hheld h hh).trans_le hr, List.mem_cons_self, ?_⟩
  rw [List.erase_cons_head]
  exact hq

theorem Above.ordered (h : Above rank r p) : Ordered rank [] p := by
  have := h [] [] nofun rfl
  rwa [List.append_nil] at this

/-! ### What the threads hold -/

/-- A program that is begun acquires its locks in order. -/
def Orderly (rank : L → ρ) (_ : Threads ι L) : ThreadEvent ι L → Prop
  | .start _ p => Ordered rank [] p
  | .next _ => True

/-- Each thread holds the locks that are its own, and has a program for them ahead. -/
structure Holds (rank : L → ρ) (s : Threads ι L) (held : ι → List L) : Prop where
  ordered : ∀ i, Ordered rank (held i) (s.prog i)
  nodup : ∀ i, (held i).Nodup
  owner : ∀ i l, l ∈ held i ↔ s.owner l = some i

theorem holds_idle : Holds rank (Threads.idle : Threads ι L) fun _ ↦ [] where
  ordered _ := rfl
  nodup _ := List.nodup_nil
  owner _ _ := iff_of_false List.not_mem_nil nofun

/-- Who is to acquire a lock holds only locks below it. -/
theorem Holds.below {H : ι → List L} (h : Holds rank s H) (hprog : s.prog i = .acquire l :: p) :
    HoldsBelow rank s i l := by
  have hord := h.ordered i
  rw [hprog] at hord
  exact fun k hk ↦ hord.1 k ((h.owner i k).2 hk)

variable [DecidableEq ι]

/-- Thread `i` goes on to `p`, holding `own`. -/
theorem Holds.update {H : ι → List L} (h : Holds rank s H) {own : List L}
    {owner : L → Option ι} (hp : Ordered rank own p) (hnodup : own.Nodup)
    (hown : ∀ l, l ∈ own ↔ owner l = some i)
    (hothers : ∀ j, j ≠ i → ∀ l, owner l = some j ↔ s.owner l = some j) :
    Holds rank ⟨Function.update s.prog i p, owner⟩ (Function.update H i own) := by
  refine ⟨fun j ↦ ?_, fun j ↦ ?_, fun j l ↦ ?_⟩ <;> rcases eq_or_ne j i with rfl | hne
  · simpa using hp
  · simpa [hne] using h.ordered j
  · simpa using hnodup
  · simpa [hne] using h.nodup j
  · simpa using hown l
  · rw [Function.update_of_ne hne, h.owner j l]
    exact (hothers j hne l).symm

/-- **An acquisition** of a free lock. -/
theorem Holds.acquire {H : ι → List L} (h : Holds rank s H) (hprog : s.prog i = .acquire l :: p)
    (hfree : s.owner l = none) :
    Holds rank ⟨Function.update s.prog i p, Function.update s.owner l (some i)⟩
      (Function.update H i (l :: H i)) := by
  have hord := h.ordered i
  rw [hprog] at hord
  have hnot : ∀ j, l ∉ H j := fun j hj ↦ nomatch hfree.symm.trans ((h.owner j l).1 hj)
  refine h.update hord.2 (List.nodup_cons.2 ⟨hnot i, h.nodup i⟩) (fun l' ↦ ?_)
    fun j hne l' ↦ ?_ <;> rcases eq_or_ne l' l with rfl | hl
  · simp
  · simp [hl, h.owner i l']
  · simp [hfree, Ne.symm hne]
  · simp [hl]

/-- **A release** of a lock that is held. -/
theorem Holds.release {H : ι → List L} (h : Holds rank s H) (hprog : s.prog i = .release l :: p) :
    s.owner l = some i ∧
      Holds rank ⟨Function.update s.prog i p, Function.update s.owner l none⟩
        (Function.update H i ((H i).erase l)) := by
  have hord := h.ordered i
  rw [hprog] at hord
  have hown := (h.owner i l).1 hord.1
  refine ⟨hown, h.update hord.2 ((h.nodup i).erase l) (fun l' ↦ ?_) fun j hne l' ↦ ?_⟩ <;>
    rcases eq_or_ne l' l with rfl | hl
  · simp [(h.nodup i).not_mem_erase]
  · simp [hl, List.mem_erase_of_ne hl, h.owner i l']
  · simp [hown, Ne.symm hne]
  · simp [hl]

theorem Threads.step_next_acquire (hprog : s.prog i = .acquire l :: p) (hfree : s.owner l = none) :
    s.step (.next i) = some ⟨Function.update s.prog i p, Function.update s.owner l (some i)⟩ := by
  simp [Threads.step, hprog, hfree]

theorem Threads.step_next_release (hprog : s.prog i = .release l :: p)
    (hown : s.owner l = some i) :
    s.step (.next i) = some ⟨Function.update s.prog i p, Function.update s.owner l none⟩ := by
  simp [Threads.step, hprog, hown]

/-- **Every step** leaves the threads with what they hold. -/
theorem Holds.step {H : ι → List L} (h : Holds rank s H) {ev : ThreadEvent ι L}
    (hev : Orderly rank s ev) (hs : s.step ev = some s') : ∃ H', Holds rank s' H' := by
  rcases ev with ⟨i, p⟩ | i
  · rcases hprog : s.prog i with - | ⟨op, q⟩ <;> simp only [Threads.step, hprog] at hs
    · obtain rfl := Option.some.inj hs
      have hnil : H i = [] := by simpa [Ordered, hprog] using h.ordered i
      refine ⟨_, h.update hev List.nodup_nil (fun l ↦ ?_) fun _ _ _ ↦ Iff.rfl⟩
      rw [← h.owner i l, hnil]
    · cases hs
  · rcases hprog : s.prog i with - | ⟨l | l, p⟩
    · simp only [Threads.step, hprog] at hs
      cases hs
    · rcases hfree : s.owner l with - | j
      · rw [Threads.step_next_acquire hprog hfree] at hs
        obtain rfl := Option.some.inj hs
        exact ⟨_, h.acquire hprog hfree⟩
      · simp only [Threads.step, hprog, hfree] at hs
        cases hs
    · obtain ⟨hown, hholds⟩ := h.release hprog
      rw [Threads.step_next_release hprog hown] at hs
      obtain rfl := Option.some.inj hs
      exact ⟨_, hholds⟩

theorem holds_of_reaches (h : Reaches Threads.step (Orderly rank) Threads.idle s) :
    ∃ H, Holds rank s H :=
  h.invariant (P := fun s ↦ ∃ H, Holds rank s H) ⟨_, holds_idle⟩
    fun _ ⟨_, hH⟩ hev hs ↦ hH.step hev hs

/-! ### Bringing a thread to its end -/

/-- Steps of the threads under way lead from `s` to `s'`. -/
def Drives (s s' : Threads ι L) : Prop :=
  ∃ is : List ι, run Threads.step s (is.map .next) = some s'

theorem Drives.refl : Drives s s := ⟨[], rfl⟩

theorem Drives.trans {s'' : Threads ι L} (h : Drives s s') (h' : Drives s' s'') : Drives s s'' := by
  obtain ⟨is, hs⟩ := h
  obtain ⟨js, hs'⟩ := h'
  exact ⟨is ++ js, by rw [List.map_append, run_append, hs]; exact hs'⟩

theorem Drives.next (h : s.step (.next i) = some s') : Drives s s' :=
  ⟨[i], by rw [List.map_singleton, run_cons, h]; rfl⟩

/-- The step of one thread does not move another. -/
theorem unmoved_next (h : s.step (.next i) = some s') (hne : j ≠ i) : Unmoved s s' j := by
  rcases hprog : s.prog i with - | ⟨l | l, p⟩
  · simp only [Threads.step, hprog] at h
    cases h
  · rcases hfree : s.owner l with - | k
    · rw [Threads.step_next_acquire hprog hfree] at h
      obtain rfl := Option.some.inj h
      refine ⟨Function.update_of_ne hne .., fun l' ↦ ?_⟩
      rcases eq_or_ne l' l with rfl | hl
      · simp [hfree, Ne.symm hne]
      · simp [hl]
    · simp only [Threads.step, hprog, hfree] at h
      cases h
  · by_cases hown : s.owner l = some i
    · rw [Threads.step_next_release hprog hown] at h
      obtain rfl := Option.some.inj h
      refine ⟨Function.update_of_ne hne .., fun l' ↦ ?_⟩
      rcases eq_or_ne l' l with rfl | hl
      · simp [hown, Ne.symm hne]
      · simp [hl]
    · simp only [Threads.step, hprog, if_neg hown] at h
      cases h

/-- **Every lock can be freed** without moving a thread that holds only locks below it: its owner is
driven on until it releases it, and where it waits for another lock, that one is freed first. -/
theorem exists_free [WellFoundedGT ρ] (l : L) (s : Threads ι L) (h : ∃ H, Holds rank s H) :
    ∃ s', Drives s s' ∧ (∃ H, Holds rank s' H) ∧ s'.owner l = none ∧
      ∀ i, HoldsBelow rank s i l → Unmoved s s' i := by
  induction hr : rank l using WellFoundedGT.induction generalizing l s with
  | _ r ih =>
    subst hr
    rcases hown : s.owner l with - | j
    · exact ⟨s, .refl, h, hown, fun _ _ ↦ ⟨rfl, fun _ ↦ Iff.rfl⟩⟩
    -- the owner is driven on, by induction on what it has ahead
    induction hprog : s.prog j generalizing s with
    | nil =>
      obtain ⟨H, hH⟩ := h
      have hnil : H j = [] := by simpa [Ordered, hprog] using hH.ordered j
      have hmem := (hH.owner j l).2 hown
      rw [hnil] at hmem
      cases hmem
    | cons op p ihp =>
      obtain ⟨H, hH⟩ := h
      have hother : ∀ i, HoldsBelow rank s i l → i ≠ j := by
        rintro i hi rfl
        exact lt_irrefl _ (hi l hown)
      rcases op with l' | l'
      · have hbelow := hH.below hprog
        have hlt : rank l < rank l' := hbelow l hown
        obtain ⟨s₁, hdrive, ⟨H₁, hH₁⟩, hfree, hunmoved⟩ := ih (rank l') hlt l' s ⟨H, hH⟩ rfl
        obtain ⟨hprog₁, hown₁⟩ := hunmoved j hbelow
        rw [hprog] at hprog₁
        have hstep := Threads.step_next_acquire hprog₁ hfree
        have hne : l ≠ l' := by
          rintro rfl
          exact lt_irrefl _ hlt
        obtain ⟨s₂, hdrive₂, hH₂, hfree₂, hunmoved₂⟩ := ihp _ ⟨_, hH₁.acquire hprog₁ hfree⟩
          ((Function.update_of_ne hne ..).trans ((hown₁ l).2 hown)) (Function.update_self ..)
        refine ⟨s₂, hdrive.trans ((Drives.next hstep).trans hdrive₂), hH₂, hfree₂, fun i hi ↦ ?_⟩
        have h₁ := hunmoved i fun k hk ↦ (hi k hk).trans hlt
        have h₂ := h₁.trans (unmoved_next hstep (hother i hi))
        exact h₂.trans (hunmoved₂ i (h₂.holdsBelow hi))
      · obtain ⟨hown', hrelease⟩ := hH.release hprog
        have hstep := Threads.step_next_release hprog hown'
        rcases eq_or_ne l l' with rfl | hne
        · exact ⟨_, .next hstep, ⟨_, hrelease⟩, Function.update_self ..,
            fun i hi ↦ unmoved_next hstep (hother i hi)⟩
        · obtain ⟨s₂, hdrive₂, hH₂, hfree₂, hunmoved₂⟩ := ihp _ ⟨_, hrelease⟩
            ((Function.update_of_ne hne ..).trans hown) (Function.update_self ..)
          refine ⟨s₂, (Drives.next hstep).trans hdrive₂, hH₂, hfree₂, fun i hi ↦ ?_⟩
          have h₁ := unmoved_next hstep (hother i hi)
          exact h₁.trans (hunmoved₂ i (h₁.holdsBelow hi))

/-- **No thread is stuck**: each can be brought to the end of its program. -/
theorem exists_finish [WellFoundedGT ρ] (s : Threads ι L) (h : ∃ H, Holds rank s H) (i : ι) :
    ∃ s', Drives s s' ∧ s'.prog i = [] := by
  induction hprog : s.prog i generalizing s with
  | nil => exact ⟨s, .refl, hprog⟩
  | cons op p ih =>
    obtain ⟨H, hH⟩ := h
    rcases op with l | l
    · obtain ⟨s₁, hdrive, ⟨H₁, hH₁⟩, hfree, hunmoved⟩ := exists_free l s ⟨H, hH⟩
      have hprog₁ := (hunmoved i (hH.below hprog)).1.trans hprog
      obtain ⟨s₂, hdrive₂, hend⟩ := ih _ ⟨_, hH₁.acquire hprog₁ hfree⟩ (Function.update_self ..)
      exact ⟨s₂, hdrive.trans ((Drives.next (Threads.step_next_acquire hprog₁ hfree)).trans
        hdrive₂), hend⟩
    · obtain ⟨hown, hrelease⟩ := hH.release hprog
      obtain ⟨s₂, hdrive₂, hend⟩ := ih _ ⟨_, hrelease⟩ (Function.update_self ..)
      exact ⟨s₂, (Drives.next (Threads.step_next_release hprog hown)).trans hdrive₂, hend⟩

end LockOrder
