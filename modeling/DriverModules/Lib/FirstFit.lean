import Mathlib.Data.List.Nodup
import Mathlib.Data.List.TakeWhile

/-!
# Seats taken by the first that fits

A seat is offered to candidates one after the other. One that does not fit is passed over; one that
fits is asked, and takes the seat or refuses it. Candidates come and go while the seat is taken or
empty, and nobody who refused is asked again.

`Settled` says that this is how the seat came to be where it is: whoever fits and comes before the
holder, or fits at all while there is no holder, has refused. Offering the empty seat to newcomers
keeps it settled; for the other changes the lemmas say exactly when they do.
-/

/-- Who has the seat, and who was asked last and refused it. -/
@[ext]
structure Seat (κ : Type*) where
  holder : Option κ
  refusals : List κ
  not_refused : ∀ k, holder = some k → k ∉ refusals

namespace Seat

variable {κ : Type*}

/-- The empty seat nobody was asked about. -/
def empty : Seat κ := ⟨none, [], fun _ h ↦ by cases h⟩

/-- The holder leaves the seat. -/
def vacate (s : Seat κ) : Seat κ := ⟨none, s.refusals, fun _ h ↦ by cases h⟩

@[simp] theorem holder_vacate (s : Seat κ) : s.vacate.holder = none := rfl

@[simp] theorem refusals_vacate (s : Seat κ) : s.vacate.refusals = s.refusals := rfl

theorem vacate_of_none {s : Seat κ} (h : s.holder = none) : s.vacate = s :=
  Seat.ext h.symm rfl

variable [DecidableEq κ]

/-- The candidate `k` takes the seat. -/
def take (s : Seat κ) (k : κ) : Seat κ where
  holder := some k
  refusals := s.refusals.filter (· ≠ k)
  not_refused := by
    rintro _ ⟨rfl⟩ hmem
    exact absurd (List.mem_filter.1 hmem).2 (by simp)

/-- The candidate `k` refuses the seat while nobody has it. -/
def refuse (s : Seat κ) (k : κ) : Seat κ := ⟨none, k :: s.refusals, fun _ h ↦ by cases h⟩

/-- The candidates `ks` in their order, until one takes the seat. -/
def offer (fits accepts : κ → Bool) : List κ → Seat κ → Seat κ
  | [], s => s
  | k :: ks, s =>
    if fits k then
      if accepts k then s.take k else offer fits accepts ks (s.refuse k)
    else offer fits accepts ks s

/-- Only the answers of those who are asked matter. -/
theorem offer_congr {fits accepts accepts' : κ → Bool} {ks : List κ}
    (h : ∀ k ∈ ks, accepts k = accepts' k) (s : Seat κ) :
    offer fits accepts ks s = offer fits accepts' ks s := by
  induction ks generalizing s with
  | nil => rfl
  | cons k ks ih =>
    obtain ⟨hk, hks⟩ := List.forall_mem_cons.1 h
    simp only [offer, hk, ih hks]

/-- The candidate `k` is gone. -/
def forget (s : Seat κ) (k : κ) : Seat κ where
  holder := if s.holder = some k then none else s.holder
  refusals := s.refusals.filter (· ≠ k)
  not_refused k' h hmem := by
    split at h
    · cases h
    · exact s.not_refused k' h (List.mem_filter.1 hmem).1

/-- The candidates that come before the holder; all of them while the seat is empty. -/
def ahead (s : Seat κ) (ks : List κ) : List κ :=
  match s.holder with
  | none => ks
  | some k => ks.takeWhile (· ≠ k)

/-- The holder is a candidate that fits, and whoever fits and comes before it has refused. -/
structure Settled (fits : κ → Bool) (ks : List κ) (s : Seat κ) : Prop where
  holder : ∀ k, s.holder = some k → k ∈ ks ∧ fits k = true
  passed : ∀ k ∈ s.ahead ks, fits k = true → k ∈ s.refusals

variable {fits accepts : κ → Bool} {ks ks' : List κ} {s : Seat κ} {k : κ}

theorem settled_empty : (empty : Seat κ).Settled fits [] :=
  ⟨fun _ h ↦ (by cases h), fun _ h ↦ absurd h List.not_mem_nil⟩

theorem holder_forget_self (h : s.holder = some k) : (s.forget k).holder = none := if_pos h

theorem holder_forget_of_ne (h : s.holder ≠ some k) : (s.forget k).holder = s.holder := if_neg h

theorem ahead_of_none (h : s.holder = none) (ks : List κ) : s.ahead ks = ks := by
  rw [ahead, h]

theorem ahead_of_some (h : s.holder = some k) (ks : List κ) :
    s.ahead ks = ks.takeWhile (· ≠ k) := by
  rw [ahead, h]

/-- An empty seat is settled when everybody who fits has refused it. -/
theorem settled_of_none (h : s.holder = none) :
    s.Settled fits ks ↔ ∀ k ∈ ks, fits k = true → k ∈ s.refusals := by
  constructor
  · intro hs
    rw [← ahead_of_none h ks]
    exact hs.passed
  · intro hall
    refine ⟨fun k hk ↦ ?_, ?_⟩
    · rw [h] at hk
      cases hk
    · rwa [ahead_of_none h]

/-- Newcomers do not come before one who is there. -/
theorem takeWhile_append_of_mem (h : k ∈ ks) :
    (ks ++ ks').takeWhile (· ≠ k) = ks.takeWhile (· ≠ k) := by
  induction ks with
  | nil => exact absurd h List.not_mem_nil
  | cons k₀ ks ih =>
    rw [List.cons_append, List.takeWhile_cons, List.takeWhile_cons]
    by_cases hk : k₀ = k
    · simp only [hk, ne_eq, not_true_eq_false, decide_false, Bool.false_eq_true, if_false]
    · rw [ih ((List.mem_cons.1 h).resolve_left (Ne.symm hk))]

theorem takeWhile_append_self (h : k ∉ ks) : (ks ++ k :: ks').takeWhile (· ≠ k) = ks := by
  have hall : ∀ k' ∈ ks, decide (k' ≠ k) = true := fun k' hk' ↦
    decide_eq_true (ne_of_mem_of_not_mem hk' h)
  rw [List.takeWhile_append_of_pos hall, List.takeWhile_cons]
  simp only [ne_eq, not_true_eq_false, decide_false, Bool.false_eq_true, if_false, List.append_nil]

/-- One that goes takes nobody else along. -/
theorem takeWhile_filter_of_ne {k' : κ} (h : k ≠ k') (ks : List κ) :
    (ks.filter (· ≠ k)).takeWhile (· ≠ k') = (ks.takeWhile (· ≠ k')).filter (· ≠ k) := by
  rw [List.takeWhile_filter]
  refine congrArg (List.filter _) (congrArg (fun p ↦ List.takeWhile p ks) (funext fun a ↦ ?_))
  by_cases ha : a = k
  · simp [ha, h]
  · simp [ha]

/-! ### Offers -/

/-- The first that accepts, after everybody before it has refused. -/
theorem settled_take (h : s.Settled fits ks) (hnone : s.holder = none) (hfits : fits k = true)
    (hnot : k ∉ ks) : (s.take k).Settled fits (ks ++ k :: ks') := by
  refine ⟨fun k' hk' ↦ ?_, fun k' hk' hfits' ↦ ?_⟩
  · cases hk'
    exact ⟨List.mem_append_right _ List.mem_cons_self, hfits⟩
  · rw [ahead_of_some (s := s.take k) rfl, takeWhile_append_self hnot] at hk'
    have hpassed := (settled_of_none hnone).1 h k' hk' hfits'
    exact List.mem_filter.2 ⟨hpassed, decide_eq_true (ne_of_mem_of_not_mem hk' hnot)⟩

/-- One more that was asked and refused. -/
theorem settled_refuse (h : s.Settled fits ks) (hnone : s.holder = none) :
    (s.refuse k).Settled fits (ks ++ [k]) := by
  refine (settled_of_none rfl).2 fun k' hk' hfits' ↦ ?_
  rcases List.mem_append.1 hk' with hk' | hk'
  · exact List.mem_cons_of_mem _ ((settled_of_none hnone).1 h k' hk' hfits')
  · exact (List.mem_singleton.1 hk') ▸ List.mem_cons_self

/-- One more that does not fit. -/
theorem settled_pass (h : s.Settled fits ks) (hnone : s.holder = none) (hfits : ¬ fits k = true) :
    s.Settled fits (ks ++ [k]) := by
  refine (settled_of_none hnone).2 fun k' hk' hfits' ↦ ?_
  rcases List.mem_append.1 hk' with hk' | hk'
  · exact (settled_of_none hnone).1 h k' hk' hfits'
  · exact absurd ((List.mem_singleton.1 hk') ▸ hfits') hfits

/-- **Offering the seat to newcomers.** -/
theorem settled_offer (h : s.Settled fits ks) (hnone : s.holder = none)
    (hnodup : (ks ++ ks').Nodup) : (offer fits accepts ks' s).Settled fits (ks ++ ks') := by
  induction ks' generalizing ks s with
  | nil => rwa [List.append_nil]
  | cons k ks' ih =>
    have hnext : (ks ++ [k]) ++ ks' = ks ++ k :: ks' := (List.append_cons ks k ks').symm
    rw [offer]
    split
    · next hfits =>
      split
      · have hnot : k ∉ ks := fun hk ↦ List.disjoint_of_nodup_append hnodup hk List.mem_cons_self
        exact settled_take h hnone hfits hnot
      · rw [← hnext]
        exact ih (settled_refuse h hnone) rfl (hnext ▸ hnodup)
    · next hfits =>
      rw [← hnext]
      exact ih (settled_pass h hnone hfits) hnone (hnext ▸ hnodup)

/-- Newcomers do not disturb a holder. -/
theorem settled_append (h : s.Settled fits ks) (hk : s.holder = some k) :
    s.Settled fits (ks ++ ks') := by
  have hmem := (h.holder k hk).1
  refine ⟨fun k' hk' ↦ ⟨List.mem_append_left _ (h.holder k' hk').1, (h.holder k' hk').2⟩, ?_⟩
  rw [ahead_of_some hk, takeWhile_append_of_mem hmem, ← ahead_of_some hk]
  exact h.passed

/-- **Offering the empty seat to one who was there already.** -/
theorem settled_offer_mem (h : s.Settled fits ks) (hnone : s.holder = none) (hk : k ∈ ks) :
    (offer fits accepts [k] s).Settled fits ks := by
  have hall := (settled_of_none hnone).1 h
  simp only [offer]
  split
  · next hfits =>
    split
    · refine ⟨fun k' hk' ↦ ?_, fun k' hk' hfits' ↦ ?_⟩
      · cases hk'
        exact ⟨hk, hfits⟩
      · rw [ahead_of_some (s := s.take k) rfl] at hk'
        have hne := List.mem_takeWhile_imp hk'
        exact List.mem_filter.2 ⟨hall k' (List.takeWhile_subset _ hk') hfits', hne⟩
    · refine (settled_of_none rfl).2 fun k' hk' hfits' ↦ ?_
      exact List.mem_cons_of_mem _ (hall k' hk' hfits')
  · exact h

/-! ### Leaving -/

/-- **A holder that leaves but stays a candidate** was not asked again. -/
theorem not_settled_vacate (h : s.Settled fits ks) (hk : s.holder = some k) :
    ¬ s.vacate.Settled fits ks := fun hv ↦ by
  obtain ⟨hmem, hfits⟩ := h.holder k hk
  exact s.not_refused k hk ((settled_of_none rfl).1 hv k hmem hfits)

/-- **A candidate that goes and does not have the seat.** -/
theorem settled_forget (h : s.Settled fits ks) (hk : s.holder ≠ some k) :
    (s.forget k).Settled fits (ks.filter (· ≠ k)) := by
  have hsame := holder_forget_of_ne hk
  refine ⟨fun k' hk' ↦ ?_, fun k' hk' hfits ↦ List.mem_filter.2 ?_⟩
  · rw [hsame] at hk'
    have hne : k' ≠ k := fun heq ↦ hk (heq ▸ hk')
    exact ⟨List.mem_filter.2 ⟨(h.holder k' hk').1, decide_eq_true hne⟩, (h.holder k' hk').2⟩
  rcases hholder : s.holder with - | k₀
  · rw [ahead_of_none (hsame.trans hholder)] at hk'
    obtain ⟨hmem, hne⟩ := List.mem_filter.1 hk'
    exact ⟨h.passed k' (by rwa [ahead_of_none hholder]) hfits, hne⟩
  · have hne₀ : k ≠ k₀ := fun heq ↦ hk (heq ▸ hholder)
    rw [ahead_of_some (hsame.trans hholder), takeWhile_filter_of_ne hne₀] at hk'
    obtain ⟨hmem, hne⟩ := List.mem_filter.1 hk'
    exact ⟨h.passed k' (by rwa [ahead_of_some hholder]) hfits, hne⟩

/-- **A holder that goes for good** leaves the seat settled exactly when the others that fit have
all refused. -/
theorem settled_forget_holder_iff (hk : s.holder = some k) :
    (s.forget k).Settled fits (ks.filter (· ≠ k)) ↔
      ∀ k' ∈ ks, k' ≠ k → fits k' = true → k' ∈ s.refusals := by
  rw [settled_of_none (holder_forget_self hk)]
  refine ⟨fun hf k' hk' hne hfits ↦ ?_, fun hall k' hk' hfits ↦ ?_⟩
  · exact (List.mem_filter.1 (hf k' (List.mem_filter.2 ⟨hk', decide_eq_true hne⟩) hfits)).1
  · obtain ⟨hmem, hne⟩ := List.mem_filter.1 hk'
    exact List.mem_filter.2 ⟨hall k' hmem (of_decide_eq_true hne) hfits, hne⟩

/-! ### Candidates that always give the same answer -/

/-- The holder accepts and those that refused do not: what was answered is what `accepts` says. -/
structure Answered (accepts : κ → Bool) (s : Seat κ) : Prop where
  holder : ∀ k, s.holder = some k → accepts k = true
  refusals : ∀ k ∈ s.refusals, accepts k = false

omit [DecidableEq κ] in
theorem answered_empty : (empty : Seat κ).Answered accepts :=
  ⟨fun _ h ↦ (by cases h), fun _ h ↦ absurd h List.not_mem_nil⟩

theorem answered_offer (h : s.Answered accepts) (ks : List κ) :
    (offer fits accepts ks s).Answered accepts := by
  induction ks generalizing s with
  | nil => exact h
  | cons k ks ih =>
    rw [offer]
    split
    · split
      · next hyes =>
        refine ⟨fun k' hk' ↦ ?_, fun k' hk' ↦ h.refusals k' (List.mem_filter.1 hk').1⟩
        cases hk'
        exact hyes
      · next hno =>
        refine ih ⟨fun _ hk' ↦ (by cases hk'), fun k' hk' ↦ ?_⟩
        rcases List.mem_cons.1 hk' with rfl | hk'
        · exact Bool.of_not_eq_true hno
        · exact h.refusals k' hk'
    · exact ih h

omit [DecidableEq κ] in
theorem answered_vacate (h : s.Answered accepts) : s.vacate.Answered accepts :=
  ⟨fun _ hk ↦ (by cases hk), h.refusals⟩

theorem answered_forget (h : s.Answered accepts) (k : κ) : (s.forget k).Answered accepts := by
  refine ⟨fun k' hk' ↦ ?_, fun k' hk' ↦ h.refusals k' (List.mem_filter.1 hk').1⟩
  by_cases hk : s.holder = some k
  · rw [holder_forget_self hk] at hk'
    cases hk'
  · rw [holder_forget_of_ne hk] at hk'
    exact h.holder k' hk'

/-- Nobody before `k` will do. -/
theorem find?_eq_some_of_takeWhile {p : κ → Bool} (hk : k ∈ ks) (hp : p k = true)
    (hbefore : ∀ k' ∈ ks.takeWhile (· ≠ k), p k' = false) : ks.find? p = some k := by
  induction ks with
  | nil => exact absurd hk List.not_mem_nil
  | cons k₀ ks ih =>
    by_cases heq : k₀ = k
    · rw [heq, List.find?_cons_of_pos hp]
    · rw [List.takeWhile_cons, if_pos (decide_eq_true heq)] at hbefore
      obtain ⟨hfirst, hrest⟩ := List.forall_mem_cons.1 hbefore
      rw [List.find?_cons_of_neg (Bool.eq_false_iff.1 hfirst)]
      exact ih ((List.mem_cons.1 hk).resolve_left (Ne.symm heq)) hrest

/-- **A settled seat has the first candidate that fits and accepts**, whenever everybody came. -/
theorem holder_eq_find? (h : s.Settled fits ks) (ha : s.Answered accepts) :
    s.holder = ks.find? fun k ↦ fits k && accepts k := by
  have hpassed : ∀ k ∈ s.ahead ks, (fits k && accepts k) = false := fun k hk ↦ by
    rcases hfits : fits k with - | -
    · rfl
    · exact ha.refusals k (h.passed k hk hfits)
  rcases hholder : s.holder with - | k
  · rw [ahead_of_none hholder] at hpassed
    exact (List.find?_eq_none.2 fun k hk ↦ Bool.eq_false_iff.1 (hpassed k hk)).symm
  · obtain ⟨hmem, hfits⟩ := h.holder k hholder
    rw [ahead_of_some hholder] at hpassed
    refine (find?_eq_some_of_takeWhile hmem ?_ hpassed).symm
    rw [hfits, ha.holder k hholder]
    rfl

end Seat
